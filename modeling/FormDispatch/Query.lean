/-
# Query texts of fields

A query text belongs to a field, and a failure names it: the flaw in words, and the characters
around its place. Some fields must hold a single document.

Specification, sections 4.2 and E8.
-/

import FormDispatch.Problem
import FormDispatch.Query.Reader

namespace FormDispatch
namespace Query

/-- A flaw at a place of a field's text, as a problem. -/
def flawProblem (field : String) (text : List Char) (place : Nat) (what : Flaw) : Problem :=
  .unreadableText field (String.ofList (fragmentAround text place)) what.wording

/-- The failure of reading a field's text. -/
def ReadError.failure (field : String) (text : List Char) : ReadError → Failure
  | .flaw what left => .problem (flawProblem field text (text.length - left) what)
  | .numeralTooLong digits => .defect (.numeralTooLong digits)

/-- The value that a field's text holds. -/
def value (field text : String) : Except Failure Document :=
  match read text.toList with
  | .ok d => .ok d
  | .error e => .error (e.failure field text.toList)

/-- The document that a field's text holds, which must be an object. -/
def document (field text : String) : Except Failure Members := do
  match ← value field text with
  | .obj members => return members
  | _ => .error (.problem (flawProblem field text.toList 0 .notDocument))

end Query
end FormDispatch
