/-
# Forms with their bindings filled

A form may switch the filling of its bindings off, so what a field holds in the filled form is one
of two things: what its text comes to, or its text as it is. `FilledText` says which, and
`holdsText_filling` that it is what the filled form holds; a field apart from those that are filled
is as it was (`lookup_filling`). `performed` lists the substitutions that a form asks for, and
`bound_filling` says that they are the bindings that filling gives.

The fields that are filled lie apart from each other, which `hapart` assumes of them throughout.
-/

import FormDispatch.Proofs.Run.Work
import FormDispatch.Proofs.Substitution.Fields

namespace FormDispatch
namespace Work

open Form (AreApart HoldsText)
open Substitution

variable {fields : List String} {params : List Param} {form filled : Members}
variable {bound : List BoundParameter} {field text : String}

/-- Filling has a result where the form does not want it, and where nothing stops it. -/
theorem filling_eq_ok : filling fields params form = .ok (filled, bound) ↔
    (isEnabled form = true ∧ (inFields params form fields).problem = none ∧
      (inFields params form fields).form = filled ∧
      (inFields params form fields).bound = bound) ∨
    isEnabled form = false ∧ form = filled ∧ [] = bound := by
  unfold filling
  cases isEnabled form with
  | false => simp
  | true =>
    cases hproblem : (inFields params form fields).problem <;> simp [hproblem]

/-- **Fields that lie apart are filled where each of them can be,** or where the form does not want
it. -/
theorem exists_filling (hapart : fields.Pairwise AreApart) :
    (∃ result, filling fields params form = .ok result) ↔
      (isEnabled form = true → AreFillable params form fields) := by
  rw [← problem_inFields_eq_none hapart]
  constructor
  · rintro ⟨⟨filled, bound⟩, h⟩ henabled
    obtain ⟨-, hdone, -, -⟩ | ⟨hdisabled, -, -⟩ := filling_eq_ok.mp h
    · exact hdone
    · rw [henabled] at hdisabled
      cases hdisabled
  · intro h
    cases henabled : isEnabled form with
    | false => exact ⟨(form, []), filling_eq_ok.mpr (.inr ⟨henabled, rfl, rfl⟩)⟩
    | true => exact ⟨_, filling_eq_ok.mpr (.inl ⟨henabled, h henabled, rfl, rfl⟩)⟩

/-- **Without parameters a form is filled just when it has no bindings,** or does not want them
filled, and it is left as it is. -/
theorem filling_nil (hapart : fields.Pairwise AreApart) :
    filling fields [] form = .ok (filled, bound) ↔
      (isEnabled form = true → AreUnbound form fields) ∧ filled = form ∧ bound = [] := by
  rw [← areFillable_nil]
  constructor
  · intro h
    have hfillable := (exists_filling hapart).mp ⟨_, h⟩
    refine ⟨hfillable, ?_⟩
    obtain ⟨henabled, -, rfl, rfl⟩ | ⟨-, rfl, rfl⟩ := filling_eq_ok.mp h
    · rw [inFields_of_areUnbound [] (areFillable_nil.mp (hfillable henabled))]
      exact ⟨rfl, rfl⟩
    · exact ⟨rfl, rfl⟩
  · rintro ⟨hfillable, rfl, rfl⟩
    refine filling_eq_ok.mpr ?_
    cases henabled : isEnabled filled with
    | false => exact .inr ⟨rfl, rfl, rfl⟩
    | true =>
      rw [inFields_of_areUnbound [] (areFillable_nil.mp (hfillable henabled))]
      exact .inl ⟨rfl, rfl, rfl, rfl⟩

/-- A field apart from those that are filled is as it was. -/
theorem lookup_filling {other : String} (h : filling fields params form = .ok (filled, bound))
    (hother : ∀ field ∈ fields, AreApart field other) :
    Form.lookup filled other = Form.lookup form other := by
  obtain ⟨-, -, rfl, -⟩ | ⟨-, rfl, -⟩ := filling_eq_ok.mp h
  · exact lookup_inFields params form hother
  · rfl

/-- The text that a field has once the bindings are filled, if the form wants that. -/
def FilledText (params : List Param) (form : Members) (field text : String) : Prop :=
  if isEnabled form then ComesTo params form field text else HoldsText form field text

/-- **A field of the filled form holds what its text comes to.** -/
theorem holdsText_filling (hapart : fields.Pairwise AreApart)
    (h : filling fields params form = .ok (filled, bound)) (hfield : field ∈ fields) :
    HoldsText filled field text ↔ FilledText params form field text := by
  unfold FilledText
  obtain ⟨henabled, hdone, rfl, -⟩ | ⟨hdisabled, rfl, -⟩ := filling_eq_ok.mp h
  · rw [if_pos henabled]
    exact holdsText_inFields hapart hdone hfield
  · rw [hdisabled]
    exact Iff.rfl

/-- Fields that all have a text in the end are all filled. -/
theorem exists_filling_of_filledText (hapart : fields.Pairwise AreApart)
    (h : ∀ field ∈ fields, ∃ text, FilledText params form field text) :
    ∃ filled bound, filling fields params form = .ok (filled, bound) := by
  have hfillable : isEnabled form = true → AreFillable params form fields := by
    intro henabled field hfield held hheld
    obtain ⟨text, htext⟩ := h field hfield
    rw [FilledText, if_pos henabled] at htext
    obtain ⟨other, result, bound, hother, hfilled, -, -⟩ := htext
    exact ⟨_, hheld.unique hother ▸ hfilled⟩
  obtain ⟨⟨filled, bound⟩, hfilling⟩ := (exists_filling hapart).mpr hfillable
  exact ⟨filled, bound, hfilling⟩

/-- The substitutions that a form asks for: those of its fields, field by field and in each from
left to right. -/
def performed (fields : List String) (params : List Param) (form : Members) :
    List BoundParameter :=
  if isEnabled form then fields.flatMap (recordedIn params form) else []

/-- **What filling gives are the substitutions that the form asks for.** -/
theorem bound_filling (hapart : fields.Pairwise AreApart)
    (h : filling fields params form = .ok (filled, bound)) :
    bound = performed fields params form := by
  unfold performed
  obtain ⟨henabled, hdone, -, rfl⟩ | ⟨hdisabled, -, rfl⟩ := filling_eq_ok.mp h
  · rw [if_pos henabled]
    exact bound_inFields hapart hdone
  · rw [hdisabled]
    rfl

end Work
end FormDispatch
