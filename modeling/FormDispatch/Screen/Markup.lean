/-
# Marked texts

Texts to be shown may hold tags in square brackets that say how parts of them look. A screen without
colours shows the text alone. A backslash keeps a bracket from opening a tag. A tag with a slash
closes one that is open; one that closes nothing is a defect.
-/

import FormDispatch.Problem

namespace FormDispatch
namespace Screen

/-- A tag at the front of a text: how many backslashes stand before it, what is inside, and the
rest. -/
structure TagAt where
  backslashes : Nat
  inside : List Char
  rest : List Char

/-- A character that a tag may begin with. -/
def beginsTag (c : Char) : Bool :=
  ('a' ≤ c && c ≤ 'z') || c == '#' || c == '/' || c == '@'

/-- The tag at the front of a text. -/
def tagAt? (s : List Char) : Option TagAt :=
  let backslashes := s.takeWhile (· == '\\')
  match s.drop backslashes.length with
  | '[' :: c :: more =>
    if beginsTag c then
      let inside := more.takeWhile fun c => c != '[' && c != ']'
      match more.drop inside.length with
      | ']' :: rest => some ⟨backslashes.length, c :: inside, rest⟩
      | _ => none
    else none
  | _ => none

/-- A piece of a marked text. -/
inductive MarkedPiece where
  | plain (text : List Char)
  /-- a tag with what is inside, and where it stands -/
  | tag (inside : List Char) (position : Nat)

/-- The pieces of a marked text, from a position on, after reversed plain characters. -/
def markedPieces (position : Nat) (before s : List Char) : List MarkedPiece :=
  match s with
  | [] => if before.isEmpty then [] else [.plain before.reverse]
  | c :: following =>
    match tagAt? (c :: following) with
    | none => markedPieces (position + 1) (c :: before) following
    | some t =>
      let plain : List MarkedPiece := if before.isEmpty then [] else [.plain before.reverse]
      let halves : List MarkedPiece :=
        if t.backslashes < 2 then [] else [.plain (List.replicate (t.backslashes / 2) '\\')]
      let tag : MarkedPiece :=
        if t.backslashes % 2 = 1 then .plain ('[' :: t.inside ++ [']'])
        else .tag t.inside (position + t.backslashes)
      let next := position + t.backslashes + t.inside.length + 2
      plain ++ halves ++ tag ::
        if t.rest.length ≤ following.length then markedPieces next [] t.rest else []
termination_by s.length

/-- A bracket that a backslash kept from opening a tag. -/
def withoutEscapes : List Char → List Char
  | '\\' :: '[' :: rest => '[' :: withoutEscapes rest
  | c :: rest => c :: withoutEscapes rest
  | [] => []

/-- A control character that is never shown. -/
def isHidden (c : Char) : Bool :=
  c == '\x07' || c == '\x08' || c == '\x0b' || c == '\x0c' || c == '\r'

/-- The name of a tag: what stands before an equals sign, without regard to case. -/
def tagName (inside : List Char) : List Char :=
  (Text.trim (inside.takeWhile (· != '='))).map Char.toLower

/-- The text shown so far, and the names of the tags that are open, the latest first. -/
structure Shown where
  text : List Char := []
  opened : List (List Char) := []

/-- The defect of a tag that closes none of the open ones. -/
def closesNone (inside : List Char) (position : Nat) : Defect :=
  .badMarkup ("closing tag '[" ++ String.ofList inside ++ "]' at position " ++
    Numeral.text position ++ " doesn't match any open tag")

/-- The defect of a tag that closes whatever is open when nothing is. -/
def closesNothing (position : Nat) : Defect :=
  .badMarkup ("closing tag '[/]' at position " ++ Numeral.text position ++
    " has nothing to close")

/-- The next piece is shown. -/
def showPiece (s : Shown) : MarkedPiece → Except Defect Shown
  | .plain text => .ok { s with text := s.text ++ withoutEscapes text }
  | .tag ('/' :: inside) position =>
    let name := tagName inside
    if name.isEmpty then
      match s.opened with
      | [] => .error (closesNothing position)
      | _ :: rest => .ok { s with opened := rest }
    else if s.opened.contains name then .ok { s with opened := s.opened.erase name }
    else .error (closesNone ('/' :: inside) position)
  | .tag inside _ => .ok { s with opened := tagName inside :: s.opened }

/-- A marked text as it is shown without colours. -/
def unmarked (s : String) : Except Defect (List Char) := do
  let shown ← (markedPieces 0 [] s.toList).foldlM showPiece {}
  return shown.text.filter (!isHidden ·)

example : (unmarked "[red]a:[/red] \\[b] [1] [x").toOption = some "a: [b] [1] [x".toList := by
  decide +kernel

end Screen
end FormDispatch
