/-
# Pieces of a text with bindings

A text may hold bindings: an expression between two opening and two closing braces. Bindings are
found from left to right, each opened by the first two braces after the one before and closed by the
first two closing braces after that; two opening braces that are never closed are plain text.
`pieces` cuts a text into its plain characters and its bindings, and `written` puts it together
again.

`written_pieces` says that cutting loses nothing.

Specification, section E9.
-/

import FormDispatch.Text.Blank

namespace FormDispatch
namespace Substitution

/-- A plain character of a text, or the expression of a binding in it. -/
inductive Piece where
  | plain (c : Char)
  | binding (expression : List Char)
deriving DecidableEq

/-- The pieces of what is left of a text. Inside a binding that has been opened, `opened` holds its
expression so far, reversed. -/
def piecesFrom : (opened : Option (List Char)) → List Char → List Piece
  | none, [] => []
  | none, '\x7b' :: '\x7b' :: r => piecesFrom (some []) r
  | none, c :: r => .plain c :: piecesFrom none r
  | some held, [] => ('\x7b' :: '\x7b' :: held.reverse).map .plain
  | some held, '\x7d' :: '\x7d' :: r => .binding held.reverse :: piecesFrom none r
  | some held, c :: r => piecesFrom (some (c :: held)) r

/-- The pieces of a text. -/
def pieces (s : List Char) : List Piece :=
  piecesFrom none s

/-- The characters of a piece. -/
def Piece.chars : Piece → List Char
  | plain c => [c]
  | binding expression => '\x7b' :: '\x7b' :: (expression ++ ['\x7d', '\x7d'])

/-- The text of pieces. -/
def written (l : List Piece) : List Char :=
  l.flatMap Piece.chars

/-- The trimmed expression of a piece that is a binding. -/
def Piece.name? : Piece → Option String
  | plain _ => none
  | binding expression => some (String.ofList (Text.trim expression))

/-- The trimmed expressions of all bindings in a text, from left to right. -/
def bindings (s : List Char) : List String :=
  (pieces s).filterMap Piece.name?

/-- What stands in a text for a binding until its value is put there. -/
def marker : List Char := "#_formbridge_placeholder#".toList

/-- A text with a marker for each of its bindings. -/
def marked (s : List Char) : List Char :=
  (pieces s).flatMap fun
    | .plain c => [c]
    | .binding _ => marker

private theorem written_plain (s : List Char) : written (s.map .plain) = s := by
  induction s with
  | nil => rfl
  | cons c r ih => simpa [written, Piece.chars] using ih

/-- Cutting a text into pieces loses nothing. -/
theorem written_piecesFrom (opened : Option (List Char)) (s : List Char) :
    written (piecesFrom opened s) =
      (match opened with
        | none => []
        | some held => '\x7b' :: '\x7b' :: held.reverse) ++ s := by
  fun_induction piecesFrom opened s with
  | case1 => rfl
  | case2 r ih => simpa using ih
  | case3 c r _ ih => simpa [written, Piece.chars] using ih
  | case4 held => simpa using written_plain ('\x7b' :: '\x7b' :: held.reverse)
  | case5 held r ih => simpa [written, Piece.chars] using ih
  | case6 held c r _ ih => simpa using ih

/-- The pieces of a text make up the text. -/
theorem written_pieces (s : List Char) : written (pieces s) = s := by
  simpa [pieces] using written_piecesFrom none s

example : bindings "a\x7b\x7b x \x7d\x7d\x7b\x7by\x7d\x7d\x7b\x7b".toList = ["x", "y"] := by
  decide

end Substitution
end FormDispatch
