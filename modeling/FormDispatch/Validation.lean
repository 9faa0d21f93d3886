/-
# Validation

Values that come from outside are checked field by field before they become part of the library's
own types. A check yields the value or the issues found, each with the place of the value and the
kind of what is wrong with it; the issues of all fields are collected in order.
-/

import FormDispatch.Document.Basic

namespace FormDispatch

/-- What is wrong with a value. -/
inductive IssueKind where
  | missing
  | stringType
  | stringTooShort
  | dictType
  | intType
  | intParsing
  | intParsingSize
  | intFromFloat
  | finiteNumber
  | floatType
  | floatParsing
  | greaterThan
  | greaterThanEqual
  | lessThanEqual
  | literal
deriving DecidableEq

/-- The name of a kind of issue. -/
def IssueKind.name : IssueKind → String
  | missing => "missing"
  | stringType => "string_type"
  | stringTooShort => "string_too_short"
  | dictType => "dict_type"
  | intType => "int_type"
  | intParsing => "int_parsing"
  | intParsingSize => "int_parsing_size"
  | intFromFloat => "int_from_float"
  | finiteNumber => "finite_number"
  | floatType => "float_type"
  | floatParsing => "float_parsing"
  | greaterThan => "greater_than"
  | greaterThanEqual => "greater_than_equal"
  | lessThanEqual => "less_than_equal"
  | literal => "literal_error"

/-- Something wrong with the value at a place. -/
structure Issue where
  place : List String
  kind : IssueKind
deriving DecidableEq

/-- A value, or the issues that keep it from being one. -/
abbrev Checked (α : Type) := Except (List Issue) α

namespace Checked

variable {α β : Type}

/-- Two checks, both of whose issues count. -/
def both (a : Checked α) (b : Checked β) : Checked (α × β) :=
  match a, b with
  | .ok a, .ok b => .ok (a, b)
  | .error a, .error b => .error (a ++ b)
  | .error a, .ok _ => .error a
  | .ok _, .error b => .error b

/-- A single issue at a place. -/
def issue (place : List String) (kind : IssueKind) : Checked α :=
  .error [⟨place, kind⟩]

/-- A text, at least as long as wanted. -/
def text (place : List String) (leastLength : Nat) : Document → Checked String
  | .str s => if s.length < leastLength then issue place .stringTooShort else .ok s
  | _ => issue place .stringType

/-- A text or null. -/
def text? (place : List String) : Document → Checked (Option String)
  | .null => .ok none
  | d => (text place 0 d).map some

/-- The members of an object, each checked. -/
def members (check : List String → Document → Checked α) (place : List String) :
    Members → Checked (Entries α)
  | [] => .ok []
  | (key, value) :: rest =>
    (both (check (place ++ [key]) value) (members check place rest)).map fun (v, others) =>
      (key, v) :: others

/-- An object of texts. -/
def texts (place : List String) : Document → Checked (Entries String)
  | .obj m => members (fun place d => text place 0 d) place m
  | _ => issue place .dictType

/-- A member that must be there. -/
def required (form : Members) (key : String) (check : Document → Checked α) : Checked α :=
  match form.get? key with
  | some d => check d
  | none => issue [key] .missing

/-- A member that may be missing. -/
def optional (form : Members) (key : String) (default : α) (check : Document → Checked α) :
    Checked α :=
  match form.get? key with
  | some d => check d
  | none => .ok default

end Checked
end FormDispatch
