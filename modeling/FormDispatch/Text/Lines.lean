/-
# Lines

A text is cut into lines at every character that Unicode counts as a line or paragraph break: line
feed, vertical tab, form feed, carriage return (alone or before a line feed), the information
separators U+001C to U+001E, next line, line separator and paragraph separator. A break at the very
end begins no further line.
-/

namespace FormDispatch
namespace Text

/-- A character that ends a line. -/
def isLineBreak (c : Char) : Bool :=
  let n := c.toNat
  (10 ≤ n && n ≤ 13) || (0x1C ≤ n && n ≤ 0x1E) || n == 0x85 || n == 0x2028 || n == 0x2029

/-- The lines of a text, after the reversed start of the first one. -/
def linesFrom : (started : List Char) → List Char → List (List Char)
  | [], [] => []
  | started, [] => [started.reverse]
  | started, '\r' :: '\n' :: r => started.reverse :: linesFrom [] r
  | started, c :: r =>
    if isLineBreak c then started.reverse :: linesFrom [] r else linesFrom (c :: started) r

/-- The lines of a text, without their breaks. -/
def lines (s : List Char) : List (List Char) :=
  linesFrom [] s

/-- How many breaks a text holds. -/
def breaks : List Char → Nat
  | '\r' :: '\n' :: r => breaks r + 1
  | c :: r => breaks r + if isLineBreak c then 1 else 0
  | [] => 0

/-- Carriage returns, alone or before a line feed, become line feeds. -/
def unifiedBreaks : List Char → List Char
  | '\r' :: '\n' :: r => '\n' :: unifiedBreaks r
  | '\r' :: r => '\n' :: unifiedBreaks r
  | c :: r => c :: unifiedBreaks r
  | [] => []

/-- A text cut at every occurrence of one character; as many cuts, one piece more. -/
def splitAt (cut : Char) : List Char → List (List Char)
  | [] => [[]]
  | c :: r =>
    match splitAt cut r with
    | [] => [[c]]
    | first :: rest => if c == cut then [] :: first :: rest else (c :: first) :: rest

/-- A text stands somewhere in another. -/
def occurs (part : List Char) : List Char → Bool
  | [] => part.isEmpty
  | c :: r => part.isPrefixOf (c :: r) || occurs part r

example : lines ['a', '\r', '\n', 'b', '\n'] = [['a'], ['b']] := rfl

example : breaks ['a', '\r', '\n', 'b', '\n'] = 2 := rfl

example : splitAt '.' ['a', '.', '.'] = [['a'], [], []] := rfl

end Text
end FormDispatch
