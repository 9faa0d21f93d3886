/-
# Reading the fields of a configuration

A configuration is read field by field, and every field either gives a value or adds one mismatch to
those found so far. `Finds` says both at once of a reading, whatever was found before; it is put
together along a chain of readings (`Finds.bind`), so what a whole reading finds is what its fields
find, in their order: `ofForm_eq`.

Which fields are read is known from the form alone (`fieldsRead`), and so is the mismatch of each
(`mismatchOf`). Rows that come as values are the one thing that is not only read but written: an
integer in them may be too long for any text (`ofForm_of_untold`).
-/

import FormDispatch.Proofs.Form
import FormDispatch.Proofs.Number.Digits
import FormDispatch.Sheet.Config

namespace FormDispatch
namespace Sheet

/-! ### Fields and their types -/

/-- How a field of a configuration is declared: as a type that fields are asked for as, or as JSON
text, which may have been decoded to a value of a type. -/
inductive Declared where
  | typed (type : Form.FieldType)
  | json (decoded : Form.FieldType)
deriving DecidableEq

/-- The fields that hold one value, in the order in which they are read. -/
def scalarFields : List (String × Declared) := [
  ("entity", .typed .text), ("command", .typed .text), ("spreadsheetId", .typed .text),
  ("spreadsheetName", .typed .text), ("sheetTitle", .typed .text), ("range", .typed .text),
  ("tableHeaderIndex", .typed .integer), ("rowIndex", .typed .integer),
  ("rowOffset", .typed .integer), ("rowLimit", .typed .integer),
  ("firstRowIsHeader", .typed .boolean), ("destinationSpreadsheetId", .typed .text)]

/-- The fields that hold rows. -/
def rowFields : List (String × Declared) :=
  [("rowObject", .json .object), ("rowObjects", .json .array)]

/-- The field in which a spreadsheet is named by its URL, unless it is named by its identifier. -/
def urlFields (form : Members) : List (String × Declared) :=
  match Form.get form "spreadsheetId" .text .null with
  | .ok (.str _) => []
  | _ => [("spreadsheetUrl", .typed .text)]

/-- The fields that are read of a form, in the order in which they are read. -/
def fieldsRead (form : Members) : List (String × Declared) :=
  scalarFields ++ urlFields form ++ rowFields

/-- A form gives a field as a type: the field is absent, or it holds a value of the type. -/
def accepts (form : Members) (field : String) (type : Form.FieldType) : Bool :=
  (Form.get form field type .null).isOk

/-- A field is of the type that it is declared as. -/
def isWellTyped (form : Members) : String × Declared → Bool
  | (field, .typed type) => accepts form field type
  | (field, .json decoded) => accepts form field .text || accepts form field decoded

/-- The mismatch that a field is refused with. -/
def mismatch? {α : Type} : Except Form.FieldError α → Option TypeMismatch
  | .error (.mismatch m) => some m
  | _ => none

/-- The mismatch of a field: that with which it is refused, or that it holds no JSON text. -/
def mismatchOf (form : Members) : String × Declared → Option TypeMismatch
  | (field, .typed type) => mismatch? (Form.get form field type .null)
  | (field, .json decoded) =>
    if isWellTyped form (field, .json decoded) then none
    else
      some (Form.mismatch field "JSON text"
        (Document.ofOption (Form.lookup form field)).kindName)

/-- All mismatches of a form, in the order of reading. -/
def mismatches (form : Members) : List TypeMismatch :=
  (fieldsRead form).filterMap (mismatchOf form)

/-- The digits of the text that a field holds. -/
def textDigits (form : Members) (field : String) : List Char :=
  match Form.lookup form field with
  | some (.str s) => s.toList.filter Text.isDecimalDigit
  | _ => []

/-- No field that is declared as an integer holds a text of more digits than are converted. -/
def HasShortNumerals (form : Members) : Prop :=
  ∀ read ∈ scalarFields, read.2 = .typed .integer →
    (textDigits form read.1).length ≤ Numeral.longestNumeral

instance (form : Members) : Decidable (HasShortNumerals form) :=
  inferInstanceAs (Decidable (∀ read ∈ scalarFields, _ → _))

/-- The value that a form gives as a type, if it gives one, has a text. -/
def isTold (form : Members) (field : String) (type : Form.FieldType) : Bool :=
  match Form.get form field type .null with
  | .ok d => d.isTellable
  | .error _ => true

/-- Rows that come as values of the right types have a text. -/
def rowsAreTold (form : Members) : Bool :=
  isTold form "rowObject" .object && isTold form "rowObjects" .array

/-! ### What a reading finds -/

/-- A reading gives a value, and adds mismatches to those found before. -/
def Finds {α : Type} (reading : Reading α) (value : α) (found : List TypeMismatch) : Prop :=
  ∀ before, reading.run before = .ok (value, before ++ found)

/-- A reading ends with a defect, whatever was found before. -/
def BreaksOff {α : Type} (reading : Reading α) (defect : Defect) : Prop :=
  ∀ before, reading.run before = .error defect

section Readings

variable {α β : Type} {reading : Reading α} {next : α → Reading β} {a : α} {b : β}
variable {found others : List TypeMismatch} {defect : Defect}

theorem Finds.pure : Finds (Pure.pure a : Reading α) a [] :=
  fun before => by rw [List.append_nil]; rfl

/-- What follows a reading goes on with its value and what it found. -/
theorem Finds.run_bind (h : Finds reading a found) (next : α → Reading β)
    (before : List TypeMismatch) :
    (reading >>= next).run before = (next a).run (before ++ found) := by
  rw [StateT.run_bind, h before]
  rfl

theorem Finds.bind (h : Finds reading a found) (h' : Finds (next a) b others) :
    Finds (reading >>= next) b (found ++ others) := by
  intro before
  rw [h.run_bind, h' (before ++ found), List.append_assoc]

theorem Finds.breaksOff (h : Finds reading a found) (h' : BreaksOff (next a) defect) :
    BreaksOff (reading >>= next) defect := by
  intro before
  rw [h.run_bind, h' (before ++ found)]

theorem BreaksOff.bind (h : BreaksOff reading defect) : BreaksOff (reading >>= next) defect := by
  intro before
  rw [StateT.run_bind, h before]
  rfl

/-- The value of a field that is read, none where it is refused. -/
def valueOf (r : Except Form.FieldError (Option α)) : Option α :=
  r.toOption.join

/-- A field gives its value, or its mismatch is noted. -/
theorem finds_noted {r : Except Form.FieldError (Option α)}
    (h : ∀ digits, r ≠ .error (.numeralTooLong digits)) :
    Finds (noted r) (valueOf r) (mismatch? r).toList := by
  cases r with
  | ok v => exact .pure
  | error e =>
    cases e with
    | mismatch m => exact fun _ => rfl
    | numeralTooLong digits => exact absurd rfl (h digits)

end Readings

/-! ### Fields that are read -/

section Fields

variable {form : Members} {field : String}

theorem get_text (form : Members) (field : String) (default : Document) :
    Form.get form field .text default =
      (Form.text? form field).map fun s => (s.map Document.str).getD default := by
  unfold Form.get Form.text?
  cases Form.usable form field with
  | none => rfl
  | some d => cases h : Form.asText field d <;> simp [Form.coerced, h, Except.map]

theorem get_integer (form : Members) (field : String) (default : Document) :
    Form.get form field .integer default =
      (Form.integer? form field).map fun n => (n.map Document.int).getD default := by
  unfold Form.get Form.integer?
  cases Form.usable form field with
  | none => rfl
  | some d => cases h : Form.asInteger field d <;> simp [Form.coerced, h, Except.map]

theorem get_boolean (form : Members) (field : String) (default : Document) :
    Form.get form field .boolean default =
      (Form.boolean? form field).map fun b => (b.map Document.bool).getD default := by
  unfold Form.get Form.boolean?
  cases Form.usable form field with
  | none => rfl
  | some d => cases h : Form.asBoolean field d <;> simp [Form.coerced, h, Except.map]

/-- A field is refused with a mismatch of its own name, unless its numeral is too long. -/
theorem get_eq_error {form : Members} {field : String} {type : Form.FieldType}
    {default : Document} {e : Form.FieldError} (h : Form.get form field type default = .error e) :
    (∃ m, e = .mismatch m ∧ m.field = field) ∨
      type = .integer ∧ ∃ digits, e = .numeralTooLong digits := by
  unfold Form.get at h
  split at h
  · cases h
  · next d _ =>
    cases type with
    | text =>
      have hd := Result.map_eq_error.mp h
      cases d <;> cases hd <;> exact .inl ⟨_, rfl, rfl⟩
    | integer =>
      have hd := Result.map_eq_error.mp h
      unfold Form.asInteger at hd
      split at hd
      · cases hd
      · split at hd
        · cases hd
          exact .inl ⟨_, rfl, rfl⟩
        · split at hd
          · cases hd
          · cases hd
            exact .inr ⟨rfl, _, rfl⟩
      · cases hd
        exact .inl ⟨_, rfl, rfl⟩
    | boolean =>
      have hd := Result.map_eq_error.mp h
      unfold Form.asBoolean at hd
      split at hd
      · cases hd
      · dsimp only at hd
        split at hd
        · cases hd
        · split at hd
          · cases hd
          · cases hd
            exact .inl ⟨_, rfl, rfl⟩
      · cases hd
        exact .inl ⟨_, rfl, rfl⟩
    | object =>
      unfold Form.coerced at h
      dsimp only at h
      split at h
      · cases h
      · cases h
        exact .inl ⟨_, rfl, rfl⟩
    | array =>
      unfold Form.coerced at h
      dsimp only at h
      split at h
      · cases h
      · cases h
        exact .inl ⟨_, rfl, rfl⟩
    | any => cases h

theorem mismatch?_map {α β : Type} (f : α → β) (r : Except Form.FieldError α) :
    mismatch? (r.map f) = mismatch? r := by
  rcases r with (_ | _) | _ <;> rfl

theorem finds_text (form : Members) (field : String) :
    Finds (noted (Form.text? form field)) (valueOf (Form.text? form field))
      (mismatchOf form (field, .typed .text)).toList := by
  rw [mismatchOf, get_text, mismatch?_map]
  refine finds_noted fun digits h => ?_
  have hget : Form.get form field .text .null = .error (.numeralTooLong digits) := by
    rw [get_text, h]
    rfl
  obtain ⟨m, hm, -⟩ | ⟨htype, -⟩ := get_eq_error hget
  · cases hm
  · cases htype

theorem finds_boolean (form : Members) (field : String) :
    Finds (noted (Form.boolean? form field)) (valueOf (Form.boolean? form field))
      (mismatchOf form (field, .typed .boolean)).toList := by
  rw [mismatchOf, get_boolean, mismatch?_map]
  refine finds_noted fun digits h => ?_
  have hget : Form.get form field .boolean .null = .error (.numeralTooLong digits) := by
    rw [get_boolean, h]
    rfl
  obtain ⟨m, hm, -⟩ | ⟨htype, -⟩ := get_eq_error hget
  · cases hm
  · cases htype

/-- A numeral of no more digits than are converted is read. -/
theorem integer?_ne_numeralTooLong (h : (textDigits form field).length ≤ Numeral.longestNumeral)
    (digits : Nat) : Form.integer? form field ≠ .error (.numeralTooLong digits) := by
  intro hlong
  unfold Form.integer? at hlong
  split at hlong
  · cases hlong
  · next d hd =>
    rw [Result.map_eq_error] at hlong
    unfold Form.asInteger at hlong
    split at hlong
    · cases hlong
    · next s =>
      have hfound := (Form.usable_eq_str.mp hd).1
      split at hlong
      · cases hlong
      · next numeral hsigned =>
        split at hlong
        · cases hlong
        · next n hread =>
          obtain ⟨rfl, hmany⟩ := Numeral.readSigned_eq_error.mp hread
          obtain ⟨hsub, hdigits⟩ := Numeral.signed?_spec hsigned
          -- the digits of the numeral are among those of the text
          have hamong := ((hsub.trans (Text.trim_sublist s.toList)).filter
            Text.isDecimalDigit).length_le
          rw [List.filter_eq_self.mpr hdigits] at hamong
          rw [textDigits, hfound] at h
          exact absurd (Nat.lt_of_lt_of_le hmany (hamong.trans h)) (Nat.lt_irrefl _)
    · cases hlong

theorem finds_integer (h : (textDigits form field).length ≤ Numeral.longestNumeral) :
    Finds (noted (Form.integer? form field)) (valueOf (Form.integer? form field))
      (mismatchOf form (field, .typed .integer)).toList := by
  rw [mismatchOf, get_integer, mismatch?_map]
  exact finds_noted (integer?_ne_numeralTooLong h)

end Fields

/-! ### Rows -/

/-- The rows that a field gives: its text, or the text of a value of the type. -/
def keptRows (form : Members) (field : String) (type : Form.FieldType) : Option String :=
  match Form.any? form field with
  | none => none
  | some (.str s) => some s
  | some d => if (Form.coerced field type d).isOk then some (d.written .inline) else none

/-- The values of a type are those that are wanted, and each is taken as it is. -/
def TakenAsIs (type : Form.FieldType) (wanted : Document → Bool) : Prop :=
  ∀ field d, ∃ e, Form.coerced field type d = if wanted d then .ok d else .error e

theorem takenAsIs_object : TakenAsIs .object Document.isObject :=
  fun _ _ => ⟨_, rfl⟩

theorem takenAsIs_array : TakenAsIs .array isArray :=
  fun field d => ⟨.mismatch (Form.mismatch field "array" d.kindName), by cases d <;> rfl⟩

section Rows

variable {form : Members} {field : String} {type : Form.FieldType} {wanted : Document → Bool}

theorem TakenAsIs.isOk (h : TakenAsIs type wanted) (d : Document) :
    (Form.coerced field type d).isOk = wanted d := by
  obtain ⟨e, he⟩ := h field d
  rw [he]
  split
  · next hd => rw [hd]; rfl
  · next hd => rw [Bool.eq_false_iff.mpr hd]; rfl

theorem accepts_eq (form : Members) (field : String) (type : Form.FieldType) :
    accepts form field type =
      ((Form.usable form field).map fun d => (Form.coerced field type d).isOk).getD true := by
  unfold accepts Form.get
  cases Form.usable form field <;> rfl

/-- A field of rows is well typed if it is absent or holds a text or a value of its type. -/
theorem mismatchOf_json (h : TakenAsIs type wanted) :
    mismatchOf form (field, .json type) =
      match Form.usable form field with
      | none | some (.str _) => none
      | some d => if wanted d then none else some (Form.mismatch field "JSON text" d.kindName) := by
  simp only [mismatchOf, isWellTyped, accepts_eq]
  cases hfound : Form.usable form field with
  | none => rfl
  | some d =>
    simp only [Option.map_some, Option.getD_some, h.isOk, Form.lookup_of_usable hfound]
    cases d <;> rfl

/-- Rows that can be told are kept as a text, or noted. -/
theorem finds_rowText (h : TakenAsIs type wanted)
    (htold : isTold form field type = true) :
    Finds (rowText field wanted (Form.any? form field)) (keptRows form field type)
      (mismatchOf form (field, .json type)).toList := by
  rw [mismatchOf_json h]
  unfold keptRows Form.any?
  unfold isTold Form.get at htold
  cases hfound : Form.usable form field with
  | none => exact .pure
  | some d =>
    obtain ⟨e, he⟩ := h field d
    simp only [hfound, he] at htold
    cases d
    case str s => exact .pure
    all_goals
      simp only [Option.map_some, Form.asAny, rowText, h.isOk]
      split
      · next hwanted =>
        simp only [if_pos hwanted] at htold
        rw [if_pos htold]
        exact .pure
      · exact fun _ => rfl

/-- Rows that cannot be told end the reading. -/
theorem breaksOff_rowText (h : TakenAsIs type wanted) (htold : isTold form field type = false) :
    BreaksOff (rowText field wanted (Form.any? form field)) .integerTooLong := by
  unfold Form.any?
  unfold isTold Form.get at htold
  cases hfound : Form.usable form field with
  | none =>
    rw [hfound] at htold
    cases htold
  | some d =>
    obtain ⟨e, he⟩ := h field d
    simp only [hfound, he] at htold
    split at htold
    · next d' hd =>
      split at hd
      · next hwanted =>
        cases hd
        have hne : d.isTellable ≠ true := Bool.eq_false_iff.mp htold
        cases d
        case str s => exact absurd rfl hne
        all_goals
          simp only [Option.map_some, Form.asAny, rowText, if_pos hwanted, if_neg hne]
          exact fun _ => rfl
      · cases hd
    · cases htold

end Rows

/-! ### The whole reading -/

/-- The configuration of the values that the fields of a form give. -/
def configOf (form : Members) : Config where
  entity := valueOf (Form.text? form "entity")
  command := valueOf (Form.text? form "command")
  spreadsheetId := (valueOf (Form.text? form "spreadsheetId")).or
    ((valueOf (Form.text? form "spreadsheetUrl")).map idOfUrl)
  spreadsheetName := valueOf (Form.text? form "spreadsheetName")
  sheetTitle := valueOf (Form.text? form "sheetTitle")
  range := valueOf (Form.text? form "range")
  headerRow := (valueOf (Form.integer? form "tableHeaderIndex")).getD 1
  rowIndex := valueOf (Form.integer? form "rowIndex")
  rowOffset := (valueOf (Form.integer? form "rowOffset")).getD 0
  rowLimit := valueOf (Form.integer? form "rowLimit")
  firstRowIsHeader := (valueOf (Form.boolean? form "firstRowIsHeader")).getD true
  rowObject := keptRows form "rowObject" .object
  rowObjects := keptRows form "rowObjects" .array
  destinationSpreadsheetId := valueOf (Form.text? form "destinationSpreadsheetId")

/-- What is left to be read when only the rows are missing of a configuration. -/
def readingRows (form : Members) (config : Config) : Reading Config := do
  let rowObject ← rowText "rowObject" Document.isObject (Form.any? form "rowObject")
  let rowObjects ← rowText "rowObjects" isArray (Form.any? form "rowObjects")
  return { config with rowObject, rowObjects }

/-- The URL is read where the identifier gave no value. -/
theorem urlFields_eq (form : Members) :
    urlFields form = match valueOf (Form.text? form "spreadsheetId") with
      | some _ => []
      | none => [("spreadsheetUrl", .typed .text)] := by
  rw [urlFields, get_text]
  rcases Form.text? form "spreadsheetId" with e | _ | s <;> rfl

/-- The fields before the rows are read one after another, whatever they hold. -/
theorem reading_run {form : Members} (hshort : HasShortNumerals form)
    (before : List TypeMismatch) :
    (Config.reading form).run before = (readingRows form (configOf form)).run
      (before ++ (scalarFields ++ urlFields form).filterMap (mismatchOf form)) := by
  have hinteger := fun field hfield => finds_integer (hshort (field, .typed .integer) hfield rfl)
  simp only [Config.reading, pure_bind, scalarFields, List.filterMap_eq_flatMap_toList,
    List.flatMap_append, List.flatMap_cons, List.flatMap_nil, List.append_nil, urlFields_eq]
  rw [(finds_text form "entity").run_bind, (finds_text form "command").run_bind,
    (finds_text form "spreadsheetId").run_bind, (finds_text form "spreadsheetName").run_bind,
    (finds_text form "sheetTitle").run_bind, (finds_text form "range").run_bind,
    (hinteger "tableHeaderIndex" (by decide)).run_bind, (hinteger "rowIndex" (by decide)).run_bind,
    (hinteger "rowOffset" (by decide)).run_bind, (hinteger "rowLimit" (by decide)).run_bind,
    (finds_boolean form "firstRowIsHeader").run_bind,
    (finds_text form "destinationSpreadsheetId").run_bind]
  cases hid : valueOf (Form.text? form "spreadsheetId") with
  | some id =>
    simp only [configOf, hid, readingRows]
    simp only [List.append_assoc, List.flatMap_nil, List.append_nil, Option.some_or]
  | none =>
    simp only [configOf, hid, readingRows]
    rw [(finds_text form "spreadsheetUrl").run_bind]
    simp only [List.append_assoc, List.flatMap_cons, List.flatMap_nil, List.append_nil,
      Option.none_or]

/-- Rows that can be told complete a configuration. -/
theorem finds_readingRows {form : Members} (htold : rowsAreTold form = true) (config : Config) :
    Finds (readingRows form config) { config with
        rowObject := keptRows form "rowObject" .object
        rowObjects := keptRows form "rowObjects" .array }
      (rowFields.filterMap (mismatchOf form)) := by
  rw [rowsAreTold, Bool.and_eq_true] at htold
  rw [List.filterMap_eq_flatMap_toList]
  exact (finds_rowText takenAsIs_object htold.1).bind
    ((finds_rowText takenAsIs_array htold.2).bind .pure)

/-- Rows that cannot be told end the reading of a configuration. -/
theorem breaksOff_readingRows {form : Members} (htold : rowsAreTold form = false)
    (config : Config) : BreaksOff (readingRows form config) .integerTooLong := by
  by_cases hrow : isTold form "rowObject" .object = true
  · rw [rowsAreTold, hrow, Bool.true_and] at htold
    exact (finds_rowText takenAsIs_object hrow).breaksOff
      (breaksOff_rowText takenAsIs_array htold).bind
  · exact (breaksOff_rowText takenAsIs_object (Bool.eq_false_iff.mpr hrow)).bind

/-- **The outcome of a form is told by the mismatches of its fields.** -/
theorem ofForm_eq {form : Members} (hshort : HasShortNumerals form)
    (htold : rowsAreTold form = true) :
    Config.ofForm form = match mismatches form with
      | [] => .ok (configOf form)
      | first :: others => .error (.problem (.wrongType first others)) := by
  have hfound : (Config.reading form).run [] = .ok (configOf form, mismatches form) := by
    rw [reading_run hshort, finds_readingRows htold, List.nil_append, ← List.filterMap_append,
      mismatches, fieldsRead]
    rfl
  rw [Config.ofForm, hfound]
  cases mismatches form <;> rfl

/-- Rows that cannot be told are a defect, whatever the other fields hold. -/
theorem ofForm_of_untold {form : Members} (hshort : HasShortNumerals form)
    (htold : rowsAreTold form = false) :
    Config.ofForm form = .error (.defect .integerTooLong) := by
  rw [Config.ofForm, reading_run hshort, breaksOff_readingRows htold]

end Sheet
end FormDispatch
