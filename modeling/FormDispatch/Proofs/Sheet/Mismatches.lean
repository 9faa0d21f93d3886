/-
# All mismatches together

A field is ill typed when the form does not give it as the type that it is declared as. Its mismatch
carries its name (`map_mismatchOf`), so the mismatches of a form are its ill-typed fields, each
once, in the order of reading (`map_mismatches`). Without one, a configuration holds what the fields
give, told by the form and not by the reading (`IsDecoded`). `TellsTogether` puts the two together,
and `mismatches_told_together` shows it of every form whose rows have a text.
-/

import FormDispatch.Proofs.Sheet.FieldReading

namespace FormDispatch
namespace Sheet

/-! ### Ill-typed fields -/

/-- Only fields that hold one value are declared as integers. -/
theorem mem_scalarFields {form : Members} {field : String}
    (h : (field, Declared.typed .integer) ∈ fieldsRead form) :
    (field, Declared.typed .integer) ∈ scalarFields := by
  rw [fieldsRead, urlFields_eq, List.mem_append, List.mem_append] at h
  rcases h with (h | h) | h
  · exact h
  · split at h <;> simp at h
  · simp [rowFields] at h

/-- A mismatch is noted of a field just when it is ill typed, and it names the field. -/
theorem map_mismatchOf {form : Members} (hshort : HasShortNumerals form)
    {read : String × Declared} (hread : read ∈ fieldsRead form) :
    (mismatchOf form read).map TypeMismatch.field =
      if isWellTyped form read then none else some read.1 := by
  obtain ⟨field, type | decoded⟩ := read
  · have htyped : isWellTyped form (field, .typed type) =
        (Form.get form field type .null).isOk := rfl
    rw [htyped, mismatchOf]
    generalize hget : Form.get form field type .null = given
    cases given with
    | ok d => rfl
    | error e =>
      obtain ⟨m, rfl, hm⟩ | ⟨rfl, digits, rfl⟩ := get_eq_error hget
      · exact congrArg some hm
      · rw [get_integer, Result.map_eq_error] at hget
        have hdigits := hshort _ (mem_scalarFields hread) rfl
        exact absurd hget (integer?_ne_numeralTooLong hdigits digits)
  · simp only [mismatchOf]
    split <;> simp [*, Form.mismatch]

/-- **The fields of the mismatches are the ill-typed fields, in their order.** -/
theorem map_mismatches {form : Members} (hshort : HasShortNumerals form) :
    (mismatches form).map TypeMismatch.field =
      ((fieldsRead form).filter fun read => !isWellTyped form read).map Prod.fst := by
  rw [mismatches, List.map_filterMap, ← List.filterMap_eq_map', List.filterMap_filter]
  refine List.filterMap_congr fun read hread => ?_
  rw [map_mismatchOf hshort hread]
  cases isWellTyped form read <;> rfl

/-- No field is read twice. -/
theorem nodup_fieldsRead (form : Members) : ((fieldsRead form).map Prod.fst).Nodup := by
  rw [fieldsRead, urlFields_eq]
  split <;> decide

theorem mismatches_eq_nil_iff {form : Members} (hshort : HasShortNumerals form) :
    mismatches form = [] ↔ ∀ read ∈ fieldsRead form, isWellTyped form read = true := by
  rw [← List.map_eq_nil_iff, map_mismatches hshort, List.map_eq_nil_iff, List.filter_eq_nil_iff]
  simp

/-! ### Decoded values -/

/-- A field of a configuration that holds one value: what it is asked for as, what stands for it
when it holds nothing, and the value of the configuration. -/
structure Scalar where
  field : String
  type : Form.FieldType
  default : Document
  value : Document

/-- An integer that may be missing. -/
def integerOf? (n : Option Int) : Document :=
  (n.map .int).getD .null

/-- The values of a configuration that are given by one field each, but for the rows. -/
def Config.scalars (config : Config) : List Scalar := [
  ⟨"entity", .text, .null, .ofText? config.entity⟩,
  ⟨"command", .text, .null, .ofText? config.command⟩,
  ⟨"spreadsheetName", .text, .null, .ofText? config.spreadsheetName⟩,
  ⟨"sheetTitle", .text, .null, .ofText? config.sheetTitle⟩,
  ⟨"range", .text, .null, .ofText? config.range⟩,
  ⟨"tableHeaderIndex", .integer, .int 1, .int config.headerRow⟩,
  ⟨"rowIndex", .integer, .null, integerOf? config.rowIndex⟩,
  ⟨"rowOffset", .integer, .int 0, .int config.rowOffset⟩,
  ⟨"rowLimit", .integer, .null, integerOf? config.rowLimit⟩,
  ⟨"firstRowIsHeader", .boolean, .bool true, .bool config.firstRowIsHeader⟩,
  ⟨"destinationSpreadsheetId", .text, .null, .ofText? config.destinationSpreadsheetId⟩]

/-- The identifier that a form names a spreadsheet by: its own, or else that of the URL. -/
def NamesSpreadsheet (form : Members) (id : String) : Prop :=
  Form.HoldsText form "spreadsheetId" id ∨
    (∀ other, ¬Form.HoldsText form "spreadsheetId" other) ∧
      ∃ url, Form.HoldsText form "spreadsheetUrl" url ∧ idOfUrl url = id

/-- The rows that a form gives in a field: a text, or the JSON text of a value that is wanted. -/
def GivesRows (form : Members) (field : String) (wanted : Document → Bool) (rows : String) : Prop :=
  Form.HoldsText form field rows ∨
    ∃ d, Form.lookup form field = some d ∧ wanted d = true ∧ rows = d.written .inline

/-- A configuration holds what a form gives. -/
structure IsDecoded (form : Members) (config : Config) : Prop where
  scalars : ∀ s ∈ config.scalars, Form.get form s.field s.type s.default = .ok s.value
  defaults : ∀ s ∈ config.scalars, Form.HoldsNothing form s.field → s.value = s.default
  spreadsheetId : ∀ id, config.spreadsheetId = some id ↔ NamesSpreadsheet form id
  rowObject : ∀ rows, config.rowObject = some rows ↔
    GivesRows form "rowObject" Document.isObject rows
  rowObjects : ∀ rows, config.rowObjects = some rows ↔ GivesRows form "rowObjects" isArray rows

section Decoded

variable {form : Members} {field : String}

theorem valueOf_text_eq_some {text : String} :
    valueOf (Form.text? form field) = some text ↔ Form.HoldsText form field text := by
  rw [← Form.text?_eq_some]
  rcases Form.text? form field with e | _ | s <;> simp [valueOf, Except.toOption]

theorem eq_ok_valueOf {α β : Type} {r : Except Form.FieldError (Option α)} {f : Option α → β}
    (h : (r.map f).isOk = true) : r = .ok (valueOf r) := by
  cases r with
  | ok v => rfl
  | error e => cases h

theorem get_text_of_accepts (h : accepts form field .text = true) :
    Form.get form field .text .null = .ok (.ofText? (valueOf (Form.text? form field))) := by
  rw [accepts, get_text] at h
  rw [get_text, eq_ok_valueOf h]
  rcases valueOf (Form.text? form field) with _ | s <;> rfl

theorem get_integer_of_accepts (h : accepts form field .integer = true) (default : Document) :
    Form.get form field .integer default =
      .ok (((valueOf (Form.integer? form field)).map Document.int).getD default) := by
  rw [accepts, get_integer] at h
  rw [get_integer, eq_ok_valueOf h]
  rfl

theorem get_boolean_of_accepts (h : accepts form field .boolean = true) (default : Document) :
    Form.get form field .boolean default =
      .ok (((valueOf (Form.boolean? form field)).map Document.bool).getD default) := by
  rw [accepts, get_boolean] at h
  rw [get_boolean, eq_ok_valueOf h]
  rfl

/-- The rows that are kept are those that a form gives. -/
theorem keptRows_eq_some {type : Form.FieldType} {wanted : Document → Bool} {rows : String}
    (h : TakenAsIs type wanted) (hnull : wanted .null = false)
    (hstr : ∀ s, wanted (.str s) = false) :
    keptRows form field type = some rows ↔ GivesRows form field wanted rows := by
  have hused {d : Document} (hd : Form.lookup form field = some d) (hw : wanted d = true) :
      Form.usable form field = some d := by
    refine Form.usable_of_lookup hd ?_ fun s => ?_
    · rintro rfl
      rw [hnull] at hw
      cases hw
    · rintro rfl
      rw [hstr] at hw
      cases hw
  rw [GivesRows, ← Form.any?_eq_str]
  unfold keptRows Form.any?
  cases hfound : Form.usable form field with
  | none =>
    refine iff_of_false nofun ?_
    rintro (htext | ⟨d, hd, hw, -⟩)
    · cases htext
    · rw [hused hd hw] at hfound
      cases hfound
  | some d =>
    have hlookup := Form.lookup_of_usable hfound
    cases d
    case str s => simp [hlookup, hstr, Form.asAny]
    all_goals
      simp only [Option.map_some, Form.asAny, h.isOk, hlookup]
      constructor
      · intro hrows
        split at hrows
        · next hw =>
          cases hrows
          exact .inr ⟨_, rfl, hw, rfl⟩
        · cases hrows
      · rintro (htext | ⟨d, hd, hw, rfl⟩)
        · cases htext
        · cases hd
          rw [if_pos hw]

end Decoded

/-- A configuration of well-typed fields holds what they give. -/
theorem isDecoded_configOf {form : Members}
    (h : ∀ read ∈ fieldsRead form, isWellTyped form read = true) :
    IsDecoded form (configOf form) := by
  have hscalar : ∀ read ∈ scalarFields, isWellTyped form read = true := fun read hread =>
    h read (List.mem_append_left _ (List.mem_append_left _ hread))
  have htext (field) (hread : (field, .typed .text) ∈ scalarFields) :=
    get_text_of_accepts (hscalar (field, .typed .text) hread)
  have hinteger (field) (hread : (field, .typed .integer) ∈ scalarFields) :=
    get_integer_of_accepts (hscalar (field, .typed .integer) hread)
  have hboolean (field) (hread : (field, .typed .boolean) ∈ scalarFields) :=
    get_boolean_of_accepts (hscalar (field, .typed .boolean) hread)
  have hscalars : ∀ s ∈ (configOf form).scalars,
      Form.get form s.field s.type s.default = .ok s.value := by
    simp only [Config.scalars, List.forall_mem_cons, List.not_mem_nil, false_imp_iff, implies_true,
      and_true]
    refine ⟨htext _ (by decide), htext _ (by decide), htext _ (by decide), htext _ (by decide),
      htext _ (by decide), ?_, hinteger _ (by decide) _, ?_, hinteger _ (by decide) _, ?_,
      htext _ (by decide)⟩
    · rw [hinteger _ (by decide), Option.getD_map]
      rfl
    · rw [hinteger _ (by decide), Option.getD_map]
      rfl
    · rw [hboolean _ (by decide), Option.getD_map]
      rfl
  refine ⟨hscalars, ?_, ?_, fun _ => keptRows_eq_some takenAsIs_object rfl fun _ => rfl,
    fun _ => keptRows_eq_some takenAsIs_array rfl fun _ => rfl⟩
  · intro s hs hnothing
    have hvalue := hscalars s hs
    rw [Form.get, hnothing.usable_eq] at hvalue
    exact (Except.ok.inj hvalue).symm
  · intro id
    have hnone : valueOf (Form.text? form "spreadsheetId") = none ↔
        ∀ other, ¬Form.HoldsText form "spreadsheetId" other := by
      simp only [Option.eq_none_iff_forall_ne_some, ne_eq, valueOf_text_eq_some]
    simp only [configOf, Option.or_eq_some_iff, valueOf_text_eq_some, hnone,
      Option.map_eq_some_iff, NamesSpreadsheet]

/-! ### The outcome -/

/-- A failure tells the mismatches of a form: it is one problem, whose mismatches are those that the
ill-typed fields are refused with, one for each in the order of reading, and whose message joins
theirs. -/
def TellsMismatches (form : Members) (failure : Failure) : Prop :=
  ∃ first others, failure = .problem (.wrongType first others) ∧
    first :: others = (fieldsRead form).filterMap (mismatchOf form) ∧
    (first :: others).map TypeMismatch.field =
      ((fieldsRead form).filter fun read => !isWellTyped form read).map Prod.fst ∧
    ((first :: others).map TypeMismatch.field).Nodup ∧
    failure.message = "; ".intercalate ((first :: others).map TypeMismatch.message)

theorem tellsMismatches {form : Members} (hshort : HasShortNumerals form) {first : TypeMismatch}
    {others : List TypeMismatch} (h : mismatches form = first :: others) :
    TellsMismatches form (.problem (.wrongType first others)) := by
  have hfields := map_mismatches hshort
  rw [h] at hfields
  refine ⟨first, others, rfl, h.symm, hfields, ?_, rfl⟩
  rw [hfields]
  exact (nodup_fieldsRead form).sublist (List.filter_sublist.map Prod.fst)

/-- A form is turned into a configuration, or all its mismatches are told together: there is a
configuration just when every field that is read is well typed, and then it holds what the fields
give; otherwise one problem tells the ill-typed fields, each once, in the order of reading. -/
structure TellsTogether (form : Members) : Prop where
  accepted : (∃ config, Config.ofForm form = .ok config) ↔
    ∀ read ∈ fieldsRead form, isWellTyped form read = true
  decoded : ∀ config, Config.ofForm form = .ok config → IsDecoded form config
  refused : ∀ failure, Config.ofForm form = .error failure → TellsMismatches form failure

/-- **All mismatches are told together, or there are none and the configuration is decoded.** Rows
that come as values have to have a text, since they are kept as it. -/
theorem mismatches_told_together (form : Members) (hshort : HasShortNumerals form)
    (htold : rowsAreTold form = true) : TellsTogether form := by
  have hform := ofForm_eq hshort htold
  cases hfound : mismatches form with
  | nil =>
    simp only [hfound] at hform
    have htyped := (mismatches_eq_nil_iff hshort).mp hfound
    refine ⟨iff_of_true ⟨configOf form, hform⟩ htyped, fun config hconfig => ?_, fun _ h => ?_⟩
    · rw [hform] at hconfig
      exact Except.ok.inj hconfig ▸ isDecoded_configOf htyped
    · rw [hform] at h
      cases h
  | cons first others =>
    simp only [hfound] at hform
    have hne : mismatches form ≠ [] := hfound ▸ List.cons_ne_nil _ _
    refine ⟨iff_of_false (fun ⟨_, h⟩ => ?_) (mt (mismatches_eq_nil_iff hshort).mpr hne),
      fun _ h => ?_, fun failure h => ?_⟩
    · rw [hform] at h
      cases h
    · rw [hform] at h
      cases h
    · rw [hform] at h
      exact Except.error.inj h ▸ tellsMismatches hshort hfound

/-- A form with mistakes of every kind, and a URL that is read since the identifier gives none. -/
def mistyped : Members := [
  ("rowObjects", .bool true), ("rowObject", .arr []), ("spreadsheetUrl", .int 5),
  ("tableHeaderIndex", .str "x"), ("rowIndex", .str " 7 "), ("spreadsheetId", .obj [])]

/-- The mistakes are told in the order of reading, and the row index is none of them. -/
theorem mismatches_told_together_mistyped : HasShortNumerals mistyped ∧
    rowsAreTold mistyped = true ∧
    ∃ first others, Config.ofForm mistyped = .error (.problem (.wrongType first others)) ∧
      (first :: others).map TypeMismatch.field =
        ["spreadsheetId", "tableHeaderIndex", "spreadsheetUrl", "rowObject", "rowObjects"] := by
  have hshort : HasShortNumerals mistyped := by decide
  have htold : rowsAreTold mistyped = true := by decide
  have htogether := mismatches_told_together mistyped hshort htold
  refine ⟨hshort, htold, ?_⟩
  cases hform : Config.ofForm mistyped with
  | ok config => exact absurd (htogether.accepted.mp ⟨config, hform⟩) (by decide)
  | error failure =>
    obtain ⟨first, others, rfl, -, hfields, -, -⟩ := htogether.refused failure hform
    exact ⟨first, others, rfl, hfields.trans (by decide)⟩

/-- Without a text for the rows it is not so: a mismatch of another field is lost with the reading,
which ends with a defect. -/
theorem rowsAreTold_of_tellsTogether {form : Members} (hshort : HasShortNumerals form)
    (htogether : TellsTogether form) : rowsAreTold form = true := by
  rw [← Bool.not_eq_false]
  intro huntold
  obtain ⟨_, _, hfailure, -⟩ := htogether.refused _ (ofForm_of_untold hshort huntold)
  cases hfailure

/-- A form that gives a row as a value. -/
def decodedRow : Members := [("rowObject", .obj [("a", .int 1)])]

/-- A form with a text for an integer, and a row with an integer of 4301 digits. -/
def overlongRow : Members := [
  ("tableHeaderIndex", .str "x"), ("rowObject", .obj [("a", .int (Numeral.tenTo 4300))])]

/-- The configuration does not hold the row that the form gives, it holds the text of that row. And
a row that has no text hides the mistake of another field. -/
theorem decoded_row_kept_as_text :
    (HasShortNumerals decodedRow ∧
      (∀ read ∈ fieldsRead decodedRow, isWellTyped decodedRow read = true) ∧
      ∃ config, Config.ofForm decodedRow = .ok config ∧
        config.rowObject = some "\x7b\"a\": 1\x7d" ∧
        Form.lookup decodedRow "rowObject" ≠ some (.ofText? config.rowObject)) ∧
    HasShortNumerals overlongRow ∧
      isWellTyped overlongRow ("tableHeaderIndex", .typed .integer) = false ∧
      ¬TellsTogether overlongRow := by
  have hshort : HasShortNumerals overlongRow := by decide +kernel
  refine ⟨⟨by decide, by decide, ?_⟩, hshort, by decide, fun htogether => ?_⟩
  · exact ⟨{ rowObject := some "\x7b\"a\": 1\x7d" }, by decide +kernel, rfl, by decide +kernel⟩
  · have huntold : rowsAreTold overlongRow = false := by decide +kernel
    rw [rowsAreTold_of_tellsTogether hshort htogether] at huntold
    cases huntold

end Sheet
end FormDispatch
