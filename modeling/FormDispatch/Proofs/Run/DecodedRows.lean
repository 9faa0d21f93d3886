/-
# Rows as text and decoded

The rows of an operation may be given decoded or as their text. Decoded rows are kept as that text
when the configuration is read, so from there on there is no difference. Before that there is one:
bindings are filled in texts, and decoded rows are not looked into. `Alike` says that two forms
differ in this alone; without bindings in the text, filling keeps them so (`Alike.inFields`), and
they run alike (`Alike.execute`).

`decoded_rows_interchangeable` says that the two ways come to the same course of a run where the
text has no bindings or the form does not want them filled, and that they do not otherwise.
-/

import FormDispatch.Proofs.Run.Bindings
import FormDispatch.Proofs.Sheet.RowTexts

namespace FormDispatch
namespace SheetRun

open Form (AreApart)
open Sheet (Config RowValue)

/-! ### Forms that differ in how rows are given -/

/-- The fields that a run on spreadsheets reads besides the rows. -/
def plainFields : List String :=
  [Substitution.switchField, "entity", "command", "spreadsheetId", "spreadsheetUrl",
    "spreadsheetName", "sheetTitle", "range", "tableHeaderIndex", "rowIndex", "rowOffset",
    "rowLimit", "firstRowIsHeader", "destinationSpreadsheetId"]

/-- The fields that a run on spreadsheets reads. -/
def fieldsRead : List String := plainFields ++ jsonFields

theorem areApart_fieldsRead : ∀ field ∈ jsonFields, ∀ other ∈ fieldsRead, field ≠ other →
    AreApart field other := by
  decide +kernel

theorem not_mem_jsonFields_of_mem_plainFields : ∀ read ∈ plainFields, read ∉ jsonFields := by
  decide

/-- The rows are in a field that is filled. -/
theorem mem_jsonFields_of_rowValue {field : String} {d : Document} (hd : RowValue field d) :
    field ∈ jsonFields := by
  cases hd <;> decide

/-- No rows are in the other fields. -/
theorem ne_of_mem_plainFields {field read : String} {d : Document} (hd : RowValue field d)
    (h : read ∈ plainFields) : read ≠ field := by
  rintro rfl
  exact not_mem_jsonFields_of_mem_plainFields read h (mem_jsonFields_of_rowValue hd)

/-- Rows lie apart from the other field that is filled. -/
theorem areApart_rows {field written : String} {d : Document} (hd : RowValue field d)
    (hwritten : written ∈ jsonFields) (hne : written ≠ field) : AreApart written field :=
  areApart_fieldsRead written hwritten field
    (List.mem_append_right _ (mem_jsonFields_of_rowValue hd)) hne

/-- Two forms hold the same in every field that is read but one. -/
def SameElsewhere (field : String) (form other : Members) : Prop :=
  ∀ read ∈ fieldsRead, read ≠ field → Form.lookup form read = Form.lookup other read

namespace SameElsewhere

variable {field : String} {d : Document} {form other : Members}

theorem any?_eq (h : SameElsewhere field form other) {read : String} (hread : read ∈ fieldsRead)
    (hne : read ≠ field) : Form.any? form read = Form.any? other read :=
  Form.any?_congr (h read hread hne)

/-- The fields besides the rows hold the same. -/
theorem lookup_plain (h : SameElsewhere field form other) (hd : RowValue field d) :
    ∀ read ∈ plainFields, Form.lookup form read = Form.lookup other read :=
  fun read hread => h read (List.mem_append_left _ hread) (ne_of_mem_plainFields hd hread)

/-- Whether bindings are filled does not depend on the rows. -/
theorem isEnabled_eq (h : SameElsewhere field form other) (hd : RowValue field d) :
    Substitution.isEnabled form = Substitution.isEnabled other := by
  rw [Substitution.isEnabled, Substitution.isEnabled,
    Form.any?_congr (h.lookup_plain hd Substitution.switchField (by decide))]

/-- The operation is named by other fields than the rows. -/
theorem names_eq (h : SameElsewhere field form other) (hd : RowValue field d) :
    names form = names other := by
  rw [names, names, namedBy, namedBy, namedBy, namedBy,
    Form.any?_congr (h.lookup_plain hd "entity" (by decide)),
    Form.any?_congr (h.lookup_plain hd "command" (by decide))]

end SameElsewhere

/-- Putting rows into a form changes no other field that is read. -/
theorem sameElsewhere_put {field : String} {d : Document} (hd : RowValue field d) (form : Members)
    (value : Document) : SameElsewhere field (Form.put form field value) form :=
  fun read hread hne => Form.lookup_put_of_areApart form
    (areApart_fieldsRead field (mem_jsonFields_of_rowValue hd) read hread (Ne.symm hne)) value

/-- One form has rows decoded in a field that the other has as their text; what else is read is the
same. -/
structure Alike (field : String) (d : Document) (form other : Members) : Prop where
  elsewhere : SameElsewhere field form other
  decoded : Form.lookup form field = some d
  textual : Form.lookup other field = some (.str (d.written .inline))

namespace Alike

variable {field : String} {d : Document} {form other : Members}

/-- Putting the rows into a form in one way or the other makes forms alike. -/
theorem of_put (hd : RowValue field d) (form : Members) :
    Alike field d (Form.put form field d) (Form.put form field (.str (d.written .inline))) where
  elsewhere read hread hne :=
    (sameElsewhere_put hd form _ read hread hne).trans
      (sameElsewhere_put hd form _ read hread hne).symm
  decoded := Form.lookup_put_self _ _ _
  textual := Form.lookup_put_self _ _ _

/-- Another field that is filled in both keeps them alike. -/
theorem put (h : Alike field d form other) (hd : RowValue field d) {written : String}
    (hwritten : written ∈ jsonFields) (hne : written ≠ field) (value : Document) :
    Alike field d (Form.put form written value) (Form.put other written value) where
  elsewhere read hread hother := by
    by_cases heq : read = written
    · rw [heq, Form.lookup_put_self, Form.lookup_put_self]
    · have hapart := areApart_fieldsRead written hwritten read hread (Ne.symm heq)
      rw [Form.lookup_put_of_areApart form hapart, Form.lookup_put_of_areApart other hapart]
      exact h.elsewhere read hread hother
  decoded := by
    rw [Form.lookup_put_of_areApart form (areApart_rows hd hwritten hne)]
    exact h.decoded
  textual := by
    rw [Form.lookup_put_of_areApart other (areApart_rows hd hwritten hne)]
    exact h.textual

theorem any?_decoded (h : Alike field d form other) (hd : RowValue field d) :
    Form.any? form field = some d :=
  Sheet.any?_of_rowValue hd h.decoded

theorem any?_textual (h : Alike field d form other) (hd : RowValue field d) :
    Form.any? other field = some (.str (d.written .inline)) :=
  Form.any?_eq_str.mpr (Sheet.holdsText_of_written hd h.textual)

end Alike

/-! ### Filling -/

section Filling

variable {field : String} {d : Document} {form other : Members}
variable (params : List Substitution.Param)

/-- Decoded rows are no text. -/
theorem ne_str_of_rowValue (hd : RowValue field d) (text : String) : d ≠ .str text := by
  cases hd <;> exact nofun

/-- **Without bindings in the text of the rows, filling keeps forms alike,** and does the same to
the fields of both. -/
theorem Alike.inFields (hd : RowValue field d)
    (hfree : Substitution.bindings (d.written .inline).toList = []) (h : Alike field d form other)
    (fields : List String) (hfields : ∀ f ∈ fields, f ∈ jsonFields) :
    (Substitution.inFields params form fields).fields =
        (Substitution.inFields params other fields).fields ∧
      (Substitution.inFields params form fields).problem =
        (Substitution.inFields params other fields).problem ∧
      Alike field d (Substitution.inFields params form fields).form
        (Substitution.inFields params other fields).form := by
  induction fields generalizing form other with
  | nil => exact ⟨rfl, rfl, h⟩
  | cons first rest ih =>
    obtain ⟨hfirst, hrest⟩ := List.forall_mem_cons.mp hfields
    by_cases heq : first = field
    · -- the decoded rows are passed over, and the text has nothing to fill
      subst heq
      have hfilled : Substitution.filled (d.written .inline) params =
          .ok (d.written .inline, []) := by
        rw [Substitution.filled, hfree]
      have hdecoded : Substitution.inFields params form (first :: rest) =
          Substitution.inFields params form rest := by
        rw [Substitution.inFields, h.any?_decoded hd]
        split
        · next text htext => exact absurd (Option.some.inj htext) (ne_str_of_rowValue hd text)
        · rfl
      have htextual : Substitution.inFields params other (first :: rest) =
          Substitution.inFields params other rest := by
        simp only [Substitution.inFields, h.any?_textual hd, hfilled]
      rw [hdecoded, htextual]
      exact ih h hrest
    · simp only [Substitution.inFields, h.elsewhere.any?_eq (List.mem_append_right _ hfirst) heq]
      split
      · next text _ =>
        split
        · exact ⟨rfl, rfl, h⟩
        · exact ih h hrest
        · next result bound _ _ =>
          have hput := h.put hd hfirst heq (.str result)
          obtain ⟨hsame, hproblem, halike⟩ := ih hput hrest
          exact ⟨congrArg (List.cons _) hsame, hproblem, halike⟩
      · exact ih h hrest

variable {σ : Type}

/-- **Filling goes the same way in forms that are alike.** -/
theorem Alike.fillFields (hd : RowValue field d) (h : Alike field d form other)
    (hfree : Substitution.isEnabled form = true →
      Substitution.bindings (d.written .inline).toList = []) (s : Session σ WireRequest) :
    (∃ e u, (Work.fillFields jsonFields params form).perform s = (.error e, u) ∧
      (Work.fillFields jsonFields params other).perform s = (.error e, u)) ∨
    ∃ filled filled' bound u, Alike field d filled filled' ∧
      (Work.fillFields jsonFields params form).perform s = (.ok (filled, bound), u) ∧
      (Work.fillFields jsonFields params other).perform s = (.ok (filled', bound), u) := by
  unfold Work.fillFields
  rw [← h.elsewhere.isEnabled_eq hd]
  split
  · next henabled =>
    obtain ⟨hfields, hproblem, halike⟩ :=
      Alike.inFields params hd (hfree henabled) h jsonFields fun f hf => hf
    simp only [Work.perform_bind, Work.perform_report, Substitution.Outcome.bound, ← hfields,
      ← hproblem]
    rcases (Work.enter .substituting).perform s with ⟨e | _, u⟩
    · exact .inl ⟨e, u, rfl, rfl⟩
    · cases (Substitution.inFields params form jsonFields).problem with
      | some p => exact .inl ⟨_, _, rfl, rfl⟩
      | none => exact .inr ⟨_, _, _, _, halike, rfl, rfl⟩
  · exact .inr ⟨form, other, [], s, h, rfl, rfl⟩

end Filling

/-! ### The configuration -/

section Configuration

variable {field : String} {d : Document} {form other : Members}

/-- Decoded rows are kept as their text. -/
theorem rowText_of_wanted {wanted : Document → Bool} (hwanted : wanted d = true)
    (htell : d.isTellable = true) (hne : ∀ text, d ≠ .str text) :
    Sheet.rowText field wanted (some d) =
      Sheet.rowText field wanted (some (.str (d.written .inline))) := by
  rw [Sheet.rowText, Sheet.rowText, if_pos hwanted, if_pos htell]
  exact hne

/-- What is read depends on the plain fields, and on the texts that are kept for the rows. -/
theorem reading_congr
    (hplain : ∀ read ∈ plainFields, Form.lookup form read = Form.lookup other read)
    (hrow : Sheet.rowText "rowObject" Document.isObject (Form.any? form "rowObject") =
      Sheet.rowText "rowObject" Document.isObject (Form.any? other "rowObject"))
    (hrows : Sheet.rowText "rowObjects" Sheet.isArray (Form.any? form "rowObjects") =
      Sheet.rowText "rowObjects" Sheet.isArray (Form.any? other "rowObjects")) :
    Config.reading form = Config.reading other := by
  have htext : ∀ read ∈ plainFields, Form.text? form read = Form.text? other read :=
    fun read hread => Form.text?_congr (hplain read hread)
  have hinteger : ∀ read ∈ plainFields, Form.integer? form read = Form.integer? other read :=
    fun read hread => by simp only [Form.integer?, Form.usable, hplain read hread]
  have hboolean : ∀ read ∈ plainFields, Form.boolean? form read = Form.boolean? other read :=
    fun read hread => by simp only [Form.boolean?, Form.usable, hplain read hread]
  simp (disch := decide) only [Config.reading, htext, hinteger, hboolean, hrow, hrows]

/-- **Forms that are alike give the same configuration.** -/
theorem Alike.ofForm_eq (hd : RowValue field d) (htell : d.isTellable = true)
    (h : Alike field d form other) : Config.ofForm form = Config.ofForm other := by
  have hplain := h.elsewhere.lookup_plain hd
  have hdecoded := h.any?_decoded hd
  have htextual := h.any?_textual hd
  have hne := ne_str_of_rowValue hd
  have hreading : Config.reading form = Config.reading other := by
    cases hd with
    | object row =>
      refine reading_congr hplain ?_ ?_
      · rw [hdecoded, htextual, rowText_of_wanted rfl htell hne]
      · rw [h.elsewhere.any?_eq (by decide) (by decide)]
    | objects rows =>
      refine reading_congr hplain ?_ ?_
      · rw [h.elsewhere.any?_eq (by decide) (by decide)]
      · rw [hdecoded, htextual, rowText_of_wanted rfl htell hne]
  rw [Config.ofForm, Config.ofForm, hreading]

/-- A reading can give a value. -/
def Returns {α : Type} (reading : Sheet.Reading α) (a : α) : Prop :=
  ∃ s s', reading.run s = .ok (a, s')

/-- Whatever a reading gives has a property. -/
def Yields {α : Type} (p : α → Prop) (reading : Sheet.Reading α) : Prop :=
  ∀ a, Returns reading a → p a

namespace Yields

variable {α β : Type} {p : α → Prop} {q : β → Prop}

theorem pure {a : α} (h : p a) : Yields p (Pure.pure a) := by
  rintro _ ⟨s, s', hrun⟩
  cases hrun
  exact h

theorem bind {reading : Sheet.Reading α} {next : α → Sheet.Reading β}
    (h : ∀ a, Returns reading a → Yields q (next a)) : Yields q (reading >>= next) := by
  rintro b ⟨s, s', hrun⟩
  rw [StateT.run_bind] at hrun
  obtain ⟨⟨a, between⟩, ha, hb⟩ := Result.bind_eq_ok.mp hrun
  exact h a ⟨s, between, ha⟩ b ⟨between, s', hb⟩

end Yields

/-- The rows of a configuration are the texts that a form holds for them. -/
structure KeepsRows (form : Members) (config : Config) : Prop where
  row : Returns (Sheet.rowText "rowObject" Document.isObject (Form.any? form "rowObject"))
    config.rowObject
  rows : Returns (Sheet.rowText "rowObjects" Sheet.isArray (Form.any? form "rowObjects"))
    config.rowObjects

/-- **A form gives its rows to the configuration.** -/
theorem keepsRows_of_ofForm {config : Config} (h : Config.ofForm form = .ok config) :
    KeepsRows form config := by
  have hyields : Yields (KeepsRows form) (Config.reading form) := by
    simp only [Config.reading, pure_bind]
    -- the fields before the rows, and the URL where there is no identifier
    iterate 12 refine .bind fun _ _ => ?_
    split
    · exact .bind fun _ hrow => .bind fun _ hrows => .pure ⟨hrow, hrows⟩
    · exact .bind fun _ _ => .bind fun _ hrow => .bind fun _ hrows => .pure ⟨hrow, hrows⟩
  unfold Config.ofForm at h
  split at h
  · cases h
  · next hrun =>
    cases h
    exact hyields _ ⟨[], _, hrun⟩
  · cases h

/-- The text of decoded rows is all that they are kept as. -/
theorem eq_written_of_returns {wanted : Document → Bool} (hwanted : wanted d = true)
    (htell : d.isTellable = true) (hne : ∀ text, d ≠ .str text) {kept : Option String}
    (h : Returns (Sheet.rowText field wanted (some d)) kept) :
    kept = some (d.written .inline) := by
  rw [rowText_of_wanted hwanted htell hne] at h
  obtain ⟨s, s', hrun⟩ := h
  cases hrun
  rfl

end Configuration

/-! ### The run -/

section Runs

variable {σ : Type} {field : String} {d : Document} {form other : Members}
variable (params : List Substitution.Param)

/-- A form in which something is found is not empty. -/
theorem isEmpty_of_lookup {found : Document} (h : Form.lookup form field = some found) :
    form.isEmpty = false := by
  cases form with
  | nil =>
    rw [Form.lookup, Form.walk_nil] at h
    cases h
  | cons p rest => rfl

/-- The stages go the same way in forms that are alike. -/
theorem Alike.stages (hd : RowValue field d) (htell : d.isTellable = true)
    (h : Alike field d form other)
    (hfree : Substitution.isEnabled form = true →
      Substitution.bindings (d.written .inline).toList = []) (t : Transport σ)
    (settings : Settings) (method : Sheet.Method) (c : Credentials) (s : Session σ WireRequest) :
    (stages t settings method c form params).perform s =
      (stages t settings method c other params).perform s := by
  rw [SheetRun.stages, SheetRun.stages, Work.perform_bind, Work.perform_bind]
  obtain ⟨e, u, hform, hother⟩ | ⟨filled, filled', bound, u, halike, hform, hother⟩ :=
    Alike.fillFields params hd h hfree s
  · rw [hform, hother]
  · rw [hform, hother]
    simp only [halike.ofForm_eq hd htell]

/-- **Forms that are alike run alike,** where no bindings are to be filled in the text of the
rows. -/
theorem Alike.execute (hd : RowValue field d) (htell : d.isTellable = true)
    (h : Alike field d form other)
    (hfree : Substitution.isEnabled form = true →
      Substitution.bindings (d.written .inline).toList = []) (t : Transport σ)
    (settings : Settings) (credentials : Option Credentials) (service : σ) :
    execute t settings form params credentials service =
      execute t settings other params credentials service := by
  have hform := isEmpty_of_lookup h.decoded
  have hother := isEmpty_of_lookup h.textual
  simp only [SheetRun.execute, hform, hother, h.elsewhere.names_eq hd, executeAs,
    h.stages params hd htell hfree]

/-- In the text of the rows as many more substitutions are asked for as it has bindings. -/
theorem Alike.length_performed (hd : RowValue field d) (h : Alike field d form other)
    (henabled : Substitution.isEnabled form = true) :
    (Work.performed jsonFields params other).length =
      (Work.performed jsonFields params form).length +
        (Substitution.bindings (d.written .inline).toList).length := by
  have hdecoded : Substitution.recordedIn params form field = [] := by
    rw [Substitution.recordedIn, h.any?_decoded hd]
    cases hd <;> rfl
  have htextual : (Substitution.recordedIn params other field).length =
      (Substitution.bindings (d.written .inline).toList).length := by
    rw [Substitution.recordedIn, h.any?_textual hd, List.length_map]
  have helsewhere : ∀ read ∈ fieldsRead, read ≠ field →
      Substitution.recordedIn params form read = Substitution.recordedIn params other read :=
    fun read hread hne => by
      rw [Substitution.recordedIn, Substitution.recordedIn, h.elsewhere.any?_eq hread hne]
  rw [Work.performed, Work.performed, ← h.elsewhere.isEnabled_eq hd, if_pos henabled,
    if_pos henabled, ← htextual]
  cases hd with
  | object row =>
    simp only [jsonFields, List.flatMap_cons, List.flatMap_nil, List.length_append, hdecoded,
      helsewhere "rowObjects" (by decide) (by decide), List.length_nil]
    omega
  | objects rows =>
    simp only [jsonFields, List.flatMap_cons, List.flatMap_nil, List.length_append, hdecoded,
      helsewhere "rowObject" (by decide) (by decide), List.length_nil]
    omega

/-- Where the text of the rows can be filled, the form with the decoded rows can. -/
theorem Alike.exists_filling (hd : RowValue field d) (h : Alike field d form other)
    (hother : ∃ filled, Work.filling jsonFields params other = .ok filled) :
    ∃ filled, Work.filling jsonFields params form = .ok filled := by
  rw [Work.exists_filling areApart_jsonFields] at hother ⊢
  rw [h.elsewhere.isEnabled_eq hd]
  intro henabled read hread text htext
  by_cases heq : read = field
  · subst heq
    rw [← Form.any?_eq_str, h.any?_decoded hd] at htext
    exact absurd (Option.some.inj htext) (ne_str_of_rowValue hd text)
  · refine hother henabled read hread text ?_
    rwa [← Form.holdsText_congr
      (h.elsewhere read (List.mem_append_right _ hread) heq)]

/-- **Where bindings in the text of the rows are filled, the envelopes tell them apart.** -/
theorem Alike.outcome_ne (hd : RowValue field d) (h : Alike field d form other)
    (henabled : Substitution.isEnabled form = true)
    (hbindings : Substitution.bindings (d.written .inline).toList ≠ [])
    {entity command : Option String} {operation : SheetOperation}
    {credentials : Option Credentials} {c : Credentials}
    (hnames : names other = .ok (entity, command))
    (hoperation : SheetOperation.resolve entity command = .ok operation)
    (husable : Credentials.usable credentials = .ok c)
    (hfilling : ∃ filled, Work.filling jsonFields params other = .ok filled) (t : Transport σ)
    (settings : Settings) (service : σ) :
    (SheetRun.execute t settings form params credentials service).outcome ≠
      (SheetRun.execute t settings other params credentials service).outcome := by
  obtain ⟨filled, hfilled⟩ := h.exists_filling params hd hfilling
  obtain ⟨filled', hfilled'⟩ := hfilling
  obtain ⟨envelope, s, hrun, hparams, -⟩ :=
    execute_sends t settings params service ((h.elsewhere.names_eq hd).trans hnames) hoperation
      husable
  obtain ⟨envelope', s', hrun', hparams', -⟩ :=
    execute_sends t settings params service hnames hoperation husable
  rw [hrun, hrun']
  intro heq
  cases Except.ok.inj heq
  rw [hparams, boundOf_eq_performed hfilled, boundOf_eq_performed hfilled'] at hparams'
  have hlength := h.length_performed params hd henabled
  rw [hparams', Nat.left_eq_add] at hlength
  exact hbindings (List.length_eq_zero_iff.mp hlength)

end Runs

/-- **Rows may be given decoded or as their text where the text has no bindings to be filled.** Then
the two ways come to the same course of a run: the same envelope, states, events and requests,
whatever else the form holds. Where the text has bindings and the form wants them filled, they are
filled in the text only, and the envelopes of a run that can fill them all differ. Decoded rows are
kept as their text, which is read as the same rows. -/
theorem decoded_rows_interchangeable {field : String} {d : Document} (hd : RowValue field d)
    (htell : d.isTellable = true) (form : Members) (params : List Substitution.Param) :
    ((Substitution.isEnabled form = true →
        Substitution.bindings (d.written .inline).toList = []) →
      ∀ {σ : Type} (t : Transport σ) (settings : Settings) (credentials : Option Credentials)
        (service : σ),
        execute t settings (Form.put form field d) params credentials service =
          execute t settings (Form.put form field (.str (d.written .inline))) params credentials
            service) ∧
    (Substitution.isEnabled form = true →
        Substitution.bindings (d.written .inline).toList ≠ [] →
      ∀ {σ : Type} (t : Transport σ) (settings : Settings) (credentials : Option Credentials)
        (service : σ) (entity command : Option String) (operation : SheetOperation)
        (c : Credentials),
        names form = .ok (entity, command) →
        SheetOperation.resolve entity command = .ok operation →
        Credentials.usable credentials = .ok c →
        (∃ filled, Work.filling jsonFields params
          (Form.put form field (.str (d.written .inline))) = .ok filled) →
        (execute t settings (Form.put form field d) params credentials service).outcome ≠
          (execute t settings (Form.put form field (.str (d.written .inline))) params credentials
            service).outcome) ∧
    ∀ config, Config.ofForm (Form.put form field d) = .ok config →
      (∀ row, d = .obj row → config.rowObject = some (d.written .inline) ∧
        (d.hasDistinctKeys = true → Sheet.rowOf config.rowObject = .ok row)) ∧
      ∀ rows, d = .arr (rows.map .obj) → config.rowObjects = some (d.written .inline) ∧
        (d.hasDistinctKeys = true → rows ≠ [] → Sheet.rowsOf config.rowObjects = .ok rows) := by
  have halike := Alike.of_put hd form
  have hdecoded := sameElsewhere_put hd form d
  have htextual := sameElsewhere_put hd form (.str (d.written .inline))
  refine ⟨fun hfree σ t settings credentials service => ?_,
    fun henabled hbindings σ t settings credentials service entity command operation c hnames
      hoperation husable hfilling => ?_, fun config hconfig => ?_⟩
  · exact halike.execute params hd htell (by rwa [hdecoded.isEnabled_eq hd]) t settings credentials
      service
  · exact halike.outcome_ne params hd (by rwa [hdecoded.isEnabled_eq hd]) hbindings
      ((htextual.names_eq hd).trans hnames) hoperation husable hfilling t settings service
  · obtain ⟨hrow, hrows⟩ := keepsRows_of_ofForm hconfig
    have hread := halike.any?_decoded hd
    have hne := ne_str_of_rowValue hd
    refine ⟨?_, ?_⟩
    · rintro row rfl
      cases hd
      rw [hread] at hrow
      have hkept := eq_written_of_returns rfl htell hne hrow
      refine ⟨hkept, fun hkeys => ?_⟩
      rw [hkept]
      exact Sheet.rowOf_written_eq (Document.read_chars Document.Layout.spaced_inline htell hkeys)
    · rintro rows rfl
      generalize hshape : Document.arr (rows.map .obj) = d at *
      cases hd with
      | object row => cases hshape
      | objects rows' =>
        rw [hread] at hrows
        have hkept := eq_written_of_returns rfl htell hne hrows
        refine ⟨hkept, fun hkeys hnonempty => ?_⟩
        rw [hkept, ← hshape]
        rw [← hshape] at htell hkeys
        exact Sheet.rowsOf_written_eq hnonempty
          (Document.read_chars Document.Layout.spaced_inline htell hkeys)

/-- An insertion into a sheet that has no row yet. -/
def rowless : Members :=
  [("entity", .str "ROW"), ("command", .str "INSERT_ONE"), ("spreadsheetId", .str "s"),
    ("sheetTitle", .str "t")]

theorem names_rowless : names rowless = .ok (some "ROW", some "INSERT_ONE") := by
  rfl

/-- A row without a binding in its text. -/
def plainRow : Members := [("name", .str "Ada")]

/-- A row with a binding in its text. -/
def bindingRow : Members := [("name", .str "\x7b\x7b who \x7d\x7d")]

/-- The text of the row can be filled. -/
theorem exists_filling_bindingRow : ∃ filled, Work.filling jsonFields [⟨"who", some "Eve"⟩]
    (Form.put rowless "rowObject" (.str ((Document.obj bindingRow).written .inline))) =
      .ok filled := by
  refine ⟨(Form.put rowless "rowObject" (.str "\x7b\"name\": \"Eve\"\x7d"),
    [⟨"who", some "Eve", .string⟩]), Result.toOption_eq_some.mp ?_⟩
  decide +kernel

/-- A row without bindings is inserted alike in both ways, and kept as a text that is read as it.
One with a binding is not inserted alike. -/
theorem decoded_rows_interchangeable_insertion :
    RowValue "rowObject" (.obj plainRow) ∧ (Document.obj plainRow).isTellable = true ∧
    execute answering {} (Form.put rowless "rowObject" (.obj plainRow)) [⟨"who", some "Eve"⟩]
        (some (.bearer (some "token"))) () =
      execute answering {}
        (Form.put rowless "rowObject" (.str ((Document.obj plainRow).written .inline)))
        [⟨"who", some "Eve"⟩] (some (.bearer (some "token"))) () ∧
    (∃ config, Config.ofForm (Form.put rowless "rowObject" (.obj plainRow)) = .ok config ∧
      Sheet.rowOf config.rowObject = .ok plainRow) ∧
    RowValue "rowObject" (.obj bindingRow) ∧ (Document.obj bindingRow).isTellable = true ∧
    (execute answering {} (Form.put rowless "rowObject" (.obj bindingRow)) [⟨"who", some "Eve"⟩]
        (some (.bearer (some "token"))) ()).outcome ≠
      (execute answering {}
        (Form.put rowless "rowObject" (.str ((Document.obj bindingRow).written .inline)))
        [⟨"who", some "Eve"⟩] (some (.bearer (some "token"))) ()).outcome := by
  have hplain : (Document.obj plainRow).isTellable = true := by decide
  have hbinding : (Document.obj bindingRow).isTellable = true := by decide
  obtain ⟨hsame, -, hkept⟩ :=
    decoded_rows_interchangeable (.object plainRow) hplain rowless [⟨"who", some "Eve"⟩]
  obtain ⟨-, hdiffer, -⟩ :=
    decoded_rows_interchangeable (.object bindingRow) hbinding rowless [⟨"who", some "Eve"⟩]
  obtain ⟨config, hconfig⟩ : ∃ config,
      Config.ofForm (Form.put rowless "rowObject" (.obj plainRow)) = .ok config := ⟨_, rfl⟩
  refine ⟨.object _, hplain, hsame (fun _ => by decide +kernel) answering {} _ (),
    ⟨config, hconfig, ((hkept config hconfig).1 _ rfl).2 (by decide)⟩, .object _, hbinding, ?_⟩
  exact hdiffer (by decide) (by decide +kernel) answering {} _ () _ _ .rowInsertOne _ names_rowless
    rfl rfl exists_filling_bindingRow

/-- With a binding in the row, the two ways come to different envelopes: only the text is filled. -/
theorem decoded_rows_unfilled :
    RowValue "rowObject" (.obj bindingRow) ∧ (Document.obj bindingRow).isTellable = true ∧
    Substitution.isEnabled rowless = true ∧
    (execute answering {} (Form.put rowless "rowObject" (.obj bindingRow)) [⟨"who", some "Eve"⟩]
        (some (.bearer (some "token"))) ()).outcome ≠
      (execute answering {}
        (Form.put rowless "rowObject" (.str ((Document.obj bindingRow).written .inline)))
        [⟨"who", some "Eve"⟩] (some (.bearer (some "token"))) ()).outcome := by
  have hrow : RowValue "rowObject" (.obj bindingRow) := .object bindingRow
  have htextual := sameElsewhere_put hrow rowless (.str ((Document.obj bindingRow).written .inline))
  have husable : Credentials.usable (some (.bearer (some "token"))) =
      .ok (.bearer (some "token")) := rfl
  refine ⟨hrow, by decide, by decide, ?_⟩
  exact (Alike.of_put hrow rowless).outcome_ne [⟨"who", some "Eve"⟩] hrow (by decide)
    (by decide +kernel) ((htextual.names_eq hrow).trans names_rowless) rfl husable
      exists_filling_bindingRow answering {} ()

end SheetRun
end FormDispatch
