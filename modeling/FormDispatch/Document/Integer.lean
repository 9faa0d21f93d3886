/-
# Documents as integers

The integer that a value amounts to, more freely than a form field allows: what is absent is zero,
true is one, a floating-point number loses its fraction, and a text is a numeral with blanks around
it and underscores between digits. Anything else is a defect.
-/

import FormDispatch.Problem

namespace FormDispatch
namespace Document

/-- Digits with single underscores between them, without the underscores; `after` is set when the
last character was a digit. -/
def spacedDigits? : (after : Bool) → List Char → Option (List Char)
  | after, [] => if after then some [] else none
  | after, c :: r =>
    if c = '_' then (if after then spacedDigits? false r else none)
    else if Text.isDecimalDigit c then (spacedDigits? true r).map (c :: ·)
    else none

/-- The sign and digits of a numeral with underscores. -/
def spacedNumeral? (s : List Char) : Option (Bool × List Char) :=
  match s with
  | '-' :: r => (spacedDigits? false r).map (true, ·)
  | '+' :: r => (spacedDigits? false r).map (false, ·)
  | r => (spacedDigits? false r).map (false, ·)

/-- How much of a text that is no numeral a message shows. -/
def shownNumeral : Nat := 200

/-- The integer that a text amounts to. -/
def integerOfText (s : String) : Except Defect Int :=
  match spacedNumeral? (Text.trimOf Text.isWhiteSpace s.toList) with
  | none => .error (.notInteger (String.ofList ((Text.quotedChars s.toList).take shownNumeral)))
  | some numeral =>
    match Numeral.readSigned numeral with
    | .ok n => .ok n
    | .error digits => .error (.numeralTooLong digits)

/-- The integer that a value amounts to. -/
def toInteger (d : Document) : Except Defect Int :=
  if d.isAbsent then .ok 0
  else
    match d with
    | int n => .ok n
    | bool _ => .ok 1
    | float .nan => .error .notANumber
    | float (.infinite _) => .error .infinite
    | float x => .ok (x.truncated?.getD 0)
    | str s => integerOfText s
    | d => .error (.notNumeric d.kindName)

example : integerOfText " +1_000 " = .ok 1000 := by rfl

end Document
end FormDispatch
