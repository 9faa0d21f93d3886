/-
# Forms

Typed access to the configuration of one request, a map of loosely typed values. A field is named by
its key, or by the keys on the way to it with points between; a key that holds the points itself
comes first. Texts are trimmed, and a blank text is as good as none. An absent field is no failure;
a value of another type than asked for is one, and nothing is converted but texts that spell a
boolean or an integer. What should be a form and is none holds no field and takes none.

`walk_putPath` says that what is written at the end of a path is found there.

Specification, sections 4.1 and E5.
-/

import FormDispatch.Problem
import FormDispatch.Text.Lines

namespace FormDispatch
namespace Form

/-- The parts of a field name between its points. -/
def parts (field : String) : List String :=
  (Text.splitAt '.' field.toList).map String.ofList

/-- The value at the end of a path of keys. -/
def walk : Members → List String → Option Document
  | _, [] => none
  | form, [part] => form.get? part
  | form, part :: rest => (form.get? part).bind fun d => walk d.members rest

/-- The value of a field: under its own name if there is one, else along its parts. -/
def lookup (form : Members) (field : String) : Option Document :=
  (form.get? field).or (walk form (parts field))

/-- The value of a field that holds anything: neither null nor a blank text. -/
def usable (form : Members) (field : String) : Option Document :=
  match lookup form field with
  | some .null => none
  | some (.str s) => if Text.isBlankText s then none else some (.str s)
  | found => found

/-- The types that a field can be asked for as. -/
inductive FieldType where
  | text
  | integer
  | boolean
  | object
  | array
  | any
deriving DecidableEq

/-- A mismatch of the type of a field. -/
def mismatch (field expected : String) (actual : String) : TypeMismatch :=
  ⟨field, expected, some actual⟩

/-- Why a field is not read as it was asked for. -/
inductive FieldError where
  | mismatch (m : TypeMismatch)
  | numeralTooLong (digits : Nat)
deriving DecidableEq

/-- The failure that an unread field is. -/
def FieldError.failure : FieldError → Failure
  | .mismatch m => .problem (.wrongType m [])
  | .numeralTooLong digits => .defect (.numeralTooLong digits)

/-- A value as a text, trimmed. -/
def asText (field : String) : Document → Except FieldError String
  | .str s => .ok (Text.trimmed s)
  | d => .error (.mismatch (mismatch field "string" d.kindName))

/-- A value as an integer: an integer, or a text of an optional sign and decimal digits. -/
def asInteger (field : String) : Document → Except FieldError Int
  | .int n => .ok n
  | .str s =>
    match Numeral.signed? (Text.trim s.toList) with
    | none => .error (.mismatch (mismatch field "integer" (Text.quoted s)))
    | some numeral =>
      match Numeral.readSigned numeral with
      | .ok n => .ok n
      | .error digits => .error (.numeralTooLong digits)
  | d => .error (.mismatch (mismatch field "integer" d.kindName))

/-- A text without regard to the case of its ASCII letters. -/
def lowered (s : String) : String :=
  String.ofList (s.toList.map Char.toLower)

/-- A value as a boolean: a boolean, or a text that spells one. -/
def asBoolean (field : String) : Document → Except FieldError Bool
  | .bool b => .ok b
  | .str s =>
    let word := lowered (Text.trimmed s)
    if word = "true" then .ok true
    else if word = "false" then .ok false
    else .error (.mismatch (mismatch field "boolean" (Document.str s).kindName))
  | d => .error (.mismatch (mismatch field "boolean" d.kindName))

/-- A value as it is, a text trimmed. -/
def asAny : Document → Document
  | .str s => .str (Text.trimmed s)
  | d => d

/-- A value as one of a type. -/
def coerced (field : String) (type : FieldType) (d : Document) : Except FieldError Document :=
  match type with
  | .text => (asText field d).map .str
  | .integer => (asInteger field d).map .int
  | .boolean => (asBoolean field d).map .bool
  | .object => if d.isObject then .ok d else .error (.mismatch (mismatch field "object" d.kindName))
  | .array =>
    match d with
    | .arr items => .ok (.arr items)
    | d => .error (.mismatch (mismatch field "array" d.kindName))
  | .any => .ok (asAny d)

/-- A field read as a type, or the default when it is absent. -/
def get (form : Members) (field : String) (type : FieldType) (default : Document) :
    Except FieldError Document :=
  match usable form field with
  | none => .ok default
  | some d => coerced field type d

/-- A field read as a text. -/
def text? (form : Members) (field : String) : Except FieldError (Option String) :=
  match usable form field with
  | none => .ok none
  | some d => (asText field d).map some

/-- A field read as an integer. -/
def integer? (form : Members) (field : String) : Except FieldError (Option Int) :=
  match usable form field with
  | none => .ok none
  | some d => (asInteger field d).map some

/-- A field read as a boolean. -/
def boolean? (form : Members) (field : String) : Except FieldError (Option Bool) :=
  match usable form field with
  | none => .ok none
  | some d => (asBoolean field d).map some

/-- A field read as it is. -/
def any? (form : Members) (field : String) : Option Document :=
  (usable form field).map asAny

/-- A field holds something: not null, not blank, not empty. -/
def isPresent (form : Members) (field : String) : Bool :=
  match usable form field with
  | none => false
  | some (.arr items) => !items.isEmpty
  | some (.obj members) => !members.isEmpty
  | some _ => true

/-- The form with a value at the end of a path; what is no object on the way becomes one. -/
def putPath : Members → List String → Document → Members
  | form, [], _ => form
  | form, [part], value => form.put part value
  | form, part :: rest, value =>
    form.put part (.obj (putPath (Document.ofOption (form.get? part)).members rest value))

/-- The form with a value in a field: under its own name if there is such a key, else along its
parts. -/
def put (form : Members) (field : String) (value : Document) : Members :=
  if form.has field then form.put field value else putPath form (parts field) value

/-- What should be a form with a value in a field; only a form takes one. Anything else refuses it
by its kind, an array or a text also by whether the field is to be looked for along its parts: not
when the name of the field is itself an item of the array or stands in the text. -/
def putInto (d : Document) (field : String) (value : Document) : Except Defect Document :=
  let refused (known : Bool) (refusal : Defect) : Except Defect Document :=
    .error (if !known && 1 < (parts field).length then .noMembers d.kindName else refusal)
  match d with
  | .obj form => .ok (.obj (put form field value))
  | .arr items => refused (items.contains (.str field)) .arrayField
  | .str s => refused (Text.occurs field.toList s.toList) .textField
  | _ => .error (.noFields d.kindName)

/-- What is written at the end of a path is found there. -/
theorem walk_putPath (form : Members) {path : List String} (h : path ≠ []) (value : Document) :
    walk (putPath form path value) path = some value := by
  induction path generalizing form with
  | nil => exact absurd rfl h
  | cons part rest ih =>
    cases rest with
    | nil => simp [putPath, walk]
    | cons next rest => simpa [putPath, walk, Document.members] using ih _ (by simp)

example : walk [("a", .obj [("b", .int 1)])] ["a", "b"] = some (.int 1) := by decide

example : (put [("a", .int 0)] "a.b" (.int 1)) = [("a", .obj [("b", .int 1)])] := by
  decide

end Form
end FormDispatch
