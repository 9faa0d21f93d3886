/-
# Results of any body

The body of an answer is whatever JSON the service sends. Turning it into the result of an operation
or into the choices of a lookup takes it apart: the members of what is no object are none, the items
of what is no array are none, and so a body of any shape has a result (`result_ok_of_ne`,
`choices_ok_of_ne`). Only the header of a table asks more of the values. Nothing at all and a text
are a header without cells; but `true`, a number other than zero and an object with members have no
first row, and asking for it is a defect. So values either read as rows and have a header, or have
none (`headerOf_cases`), and the columns of a sheet, as a result or as choices, fail just there and
with the same defect (`results_given_iff`).
-/

import FormDispatch.Proofs.Result
import FormDispatch.Sheet.Catalog

namespace FormDispatch
namespace Sheet

/-- Values that a first row can be asked of: absent ones, a list, or a text. -/
inductive ReadsAsRows : Document → Prop where
  | absent {values : Document} : values.isAbsent = true → ReadsAsRows values
  | list (rows : List Document) : ReadsAsRows (.arr rows)
  | text (s : String) : ReadsAsRows (.str s)

/-- What goes wrong when values are asked for their first row. An object has its members under
texts, none under a number; the other values have no items at all. -/
inductive FirstRowDefect : Document → Defect → Prop where
  | yes : FirstRowDefect (.bool true) (.noItems "bool")
  | int {n : Int} : n ≠ 0 → FirstRowDefect (.int n) (.noItems "int")
  | float {x : Binary64} : x.isZero = false → FirstRowDefect (.float x) (.noItems "float")
  | obj {members : Members} : members ≠ [] → FirstRowDefect (.obj members) .noFirstItem

/-! ### The header -/

/-- Where asking goes wrong the values are there, and neither a list nor a text. -/
theorem FirstRowDefect.not_readsAsRows {values : Document} {defect : Defect}
    (h : FirstRowDefect values defect) : ¬ReadsAsRows values := by
  rintro (habsent | _ | _)
  · cases h <;> simp_all [Document.isAbsent]
  · cases h
  · cases h

/-- Only one thing goes wrong with values. -/
theorem FirstRowDefect.unique {values : Document} {one other : Defect}
    (h : FirstRowDefect values one) (h' : FirstRowDefect values other) : one = other := by
  cases h <;> cases h' <;> rfl

/-- Values read as rows and have a header, or asking for their first row goes wrong. -/
theorem headerOf_cases (body : Document) :
    (ReadsAsRows (body.member "values") ∧ ∃ header, headerOf body = .ok header) ∨
      ∃ defect, FirstRowDefect (body.member "values") defect ∧ headerOf body = .error defect := by
  unfold headerOf
  generalize body.member "values" = values
  by_cases habsent : values.isAbsent = true
  · exact .inl ⟨.absent habsent, [], by simp [habsent]⟩
  · -- the values are there, so what they are settles it
    simp only [habsent]
    match values with
    | .null => exact absurd rfl habsent
    | .bool false => exact absurd rfl habsent
    | .bool true => exact .inr ⟨_, .yes, rfl⟩
    | .int n => exact .inr ⟨_, .int (by simpa [Document.isAbsent] using habsent), rfl⟩
    | .float x => exact .inr ⟨_, .float (by simpa [Document.isAbsent] using habsent), rfl⟩
    | .str s => exact .inl ⟨.text s, _, rfl⟩
    | .arr [] => exact absurd rfl habsent
    | .arr (row :: rest) => exact .inl ⟨.list _, by cases row <;> exact ⟨_, rfl⟩⟩
    | .obj members =>
      exact .inr ⟨_, .obj (by simpa [Document.isAbsent] using habsent), rfl⟩

/-- There is a header just when the values read as rows. -/
theorem headerOf_eq_ok_iff {body : Document} :
    (∃ header, headerOf body = .ok header) ↔ ReadsAsRows (body.member "values") := by
  rcases headerOf_cases body with ⟨hreads, hheader⟩ | ⟨defect, hdefect, herror⟩
  · exact iff_of_true hheader hreads
  · exact iff_of_false (by simp [herror]) hdefect.not_readsAsRows

/-- The header is missed for what goes wrong with the first row. -/
theorem headerOf_eq_error_iff {body : Document} {defect : Defect} :
    headerOf body = .error defect ↔ FirstRowDefect (body.member "values") defect := by
  rcases headerOf_cases body with ⟨hreads, header, hheader⟩ | ⟨found, hfound, herror⟩
  · exact iff_of_false (by simp [hheader]) fun hdefect => hdefect.not_readsAsRows hreads
  · rw [herror, Except.error.injEq]
    exact ⟨fun heq => heq ▸ hfound, fun hdefect => hfound.unique hdefect⟩

/-! ### The results -/

/-- Every operation but asking for the columns has a result of any body. -/
theorem result_ok_of_ne {operation : SheetOperation} (h : operation ≠ .sheetFetchStructure)
    (c : Config) (body : Document) : ∃ d, operation.method.result c body = .ok d := by
  cases operation with
  | sheetFetchStructure => exact absurd rfl h
  | _ => exact ⟨_, rfl⟩

/-- Every lookup but that of the columns has choices in any body. -/
theorem choices_ok_of_ne {trigger : Trigger} (h : trigger ≠ .columns) (c : Config)
    (body : Document) : ∃ d, trigger.method.result c body = .ok d := by
  cases trigger with
  | columns => exact absurd rfl h
  | _ => exact ⟨_, rfl⟩

/-- What is made of a header is there when the header is. -/
theorem exists_ofHeader_iff {body : Document} {make : List String → Document} :
    (∃ d, ((headerOf body).mapError Failure.defect >>= fun header => pure (make header)) = .ok d) ↔
      ReadsAsRows (body.member "values") := by
  rw [← headerOf_eq_ok_iff]
  constructor
  · rintro ⟨d, hd⟩
    obtain ⟨header, hheader, -⟩ := Result.bind_eq_ok.mp hd
    exact ⟨header, Result.mapError_eq_ok.mp hheader⟩
  · rintro ⟨header, hheader⟩
    exact ⟨make header, Result.bind_eq_ok.mpr ⟨header, Result.mapError_eq_ok.mpr hheader, rfl⟩⟩

/-- What is made of a header fails with the defect of the header. -/
theorem ofHeader_eq_error_iff {body : Document} {make : List String → Document} {defect : Defect} :
    ((headerOf body).mapError Failure.defect >>= fun header => pure (make header)) =
        .error (.defect defect) ↔
      FirstRowDefect (body.member "values") defect := by
  rw [← headerOf_eq_error_iff, Result.bind_eq_error, Result.mapError_eq_error]
  constructor
  · rintro (⟨found, hfound, heq⟩ | ⟨header, -, hmade⟩)
    · exact Failure.defect.inj heq ▸ hfound
    · cases hmade
  · intro herror
    exact .inl ⟨defect, herror, rfl⟩

/-- **A body of any shape has a result, but for values that have no first row.** Under every
configuration and of every body there is the result of each operation and there are the choices of
each lookup; where the columns of a sheet are asked for, and where a header is, the values have to
read as rows. Where they do not, all three fail with what goes wrong with the first row. -/
theorem results_given_iff (c : Config) (body : Document) :
    (∀ operation : SheetOperation, (∃ d, operation.method.result c body = .ok d) ↔
      operation ≠ .sheetFetchStructure ∨ ReadsAsRows (body.member "values")) ∧
    (∀ trigger : Trigger, (∃ d, trigger.method.result c body = .ok d) ↔
      trigger ≠ .columns ∨ ReadsAsRows (body.member "values")) ∧
    ((∃ header, headerOf body = .ok header) ↔ ReadsAsRows (body.member "values")) ∧
    ∀ defect,
      (headerOf body = .error defect ↔ FirstRowDefect (body.member "values") defect) ∧
      (SheetOperation.sheetFetchStructure.method.result c body = .error (.defect defect) ↔
        FirstRowDefect (body.member "values") defect) ∧
      (Trigger.columns.method.result c body = .error (.defect defect) ↔
        FirstRowDefect (body.member "values") defect) := by
  refine ⟨fun operation => ?_, fun trigger => ?_, headerOf_eq_ok_iff, fun defect =>
    ⟨headerOf_eq_error_iff, ofHeader_eq_error_iff, ofHeader_eq_error_iff⟩⟩
  · by_cases hcolumns : operation = .sheetFetchStructure
    · subst hcolumns
      exact exists_ofHeader_iff.trans (or_iff_right (not_not_intro rfl)).symm
    · exact iff_of_true (result_ok_of_ne hcolumns c body) (.inl hcolumns)
  · by_cases hcolumns : trigger = .columns
    · subst hcolumns
      exact exists_ofHeader_iff.trans (or_iff_right (not_not_intro rfl)).symm
    · exact iff_of_true (choices_ok_of_ne hcolumns c body) (.inl hcolumns)

/-- Values that are an object with members have no first row. -/
example : headerOf (.obj [("values", .obj [("a", .int 1)])]) = .error .noFirstItem := by decide

end Sheet
end FormDispatch
