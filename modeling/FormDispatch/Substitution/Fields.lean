/-
# Filled fields

Substitution in a form: the fields that may hold bindings are filled one after the other, each in
the form that the one before has left. A form can switch substitution off by its field
`smartSubstitution`; it is on when that field is absent or is neither a boolean nor a text.

Specification, sections 4.5 and E9.
-/

import FormDispatch.Form
import FormDispatch.Substitution.Fill

namespace FormDispatch
namespace Substitution

/-- The field that switches substitution off. -/
def switchField : String := "smartSubstitution"

/-- A form wants its bindings filled. -/
def isEnabled (form : Members) : Bool :=
  match Form.any? form switchField with
  | some (.bool b) => b
  | some (.str s) => Form.lowered s == "true"
  | _ => true

/-- A field that has been filled. -/
structure FilledField where
  field : String
  bound : List BoundParameter

/-- What substitution has done to a form. -/
structure Outcome where
  /-- the form with all that could be filled -/
  form : Members
  /-- the fields in which something was filled, in order -/
  fields : List FilledField
  /-- why the fields after them were left alone, if so -/
  problem : Option Problem

/-- All that was filled, in order. -/
def Outcome.bound (o : Outcome) : List BoundParameter :=
  o.fields.flatMap FilledField.bound

/-- A form with its fields filled in order, up to the first that cannot be. -/
def inFields (params : List Param) (form : Members) : (fields : List String) → Outcome
  | [] => ⟨form, [], none⟩
  | field :: others =>
    match Form.any? form field with
    | some (.str text) =>
      match filled text params with
      | .error e => ⟨form, [], some e⟩
      | .ok (_, []) => inFields params form others
      | .ok (text, bound) =>
        let rest := inFields params (Form.put form field (.str text)) others
        { rest with fields := ⟨field, bound⟩ :: rest.fields }
    | _ => inFields params form others

end Substitution
end FormDispatch
