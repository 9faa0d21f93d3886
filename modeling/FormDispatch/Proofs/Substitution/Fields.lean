/-
# What filling does to a form

Filling the fields of a form writes to these fields only, so a member in which none of them lies is
as it was (`get?_inFields`), and so is a field that lies apart from them all (`lookup_inFields`).
Where the fields lie apart from each other, filling one does not show in the next: each comes to
what it would alone (`holdsText_inFields`), all are filled just when each of them can be
(`problem_inFields_eq_none`), and the bindings recorded are those that the form held
(`bound_inFields`). Filling stops at a binding without a value and for no other reason
(`problem_inFields`).
-/

import FormDispatch.Proofs.Form
import FormDispatch.Proofs.Substitution.Splice
import FormDispatch.Substitution.Fields

namespace FormDispatch
namespace Substitution

/-- A field lies outside of a member. -/
def IsOutside (key field : String) : Prop :=
  field ≠ key ∧ (Form.parts field).head? ≠ some key

instance (key field : String) : Decidable (IsOutside key field) :=
  inferInstanceAs (Decidable (_ ∧ _))

/-! ### What filling records -/

/-- What is recorded of a binding: the value of its parameter, and what kind of value that is. -/
def recorded (params : List Param) (binding : String) : BoundParameter :=
  let value := (paramOf? params binding).bind Param.value
  ⟨binding, value, value.elim .null fun value => kindOf value.toList⟩

theorem kind_rendered (value : Option String) (quote : Option Char) :
    (rendered value quote).2 = value.elim .null fun value => kindOf value.toList := by
  rw [rendered_kind]
  cases value <;> rfl

theorem bound_of_fillFrom {params : List Param} {place : Quotation} {text chars : List Char}
    {bindings : List String} {bound : List BoundParameter}
    (h : fillFrom params place text bindings = .ok (chars, bound)) :
    bound = bindings.map (recorded params) := by
  induction bindings generalizing place text chars bound with
  | nil =>
    cases h
    rfl
  | cons binding others ih =>
    unfold fillFrom at h
    split at h
    · next before after param _ hparam =>
      dsimp only at h
      split at h
      · next rest bound' hrest =>
        cases h
        rw [List.map_cons, ← ih hrest, recorded, hparam, kind_rendered]
        rfl
      · cases h
    · cases h

/-- **Filling a text records each binding once, in order.** -/
theorem bound_of_filled {params : List Param} {text result : String} {bound : List BoundParameter}
    (h : filled text params = .ok (result, bound)) :
    bound = (bindings text.toList).map (recorded params) := by
  unfold filled at h
  split at h
  · next hnone =>
    cases h
    rw [hnone]
    rfl
  · obtain ⟨⟨chars, bound'⟩, hfill, heq⟩ := Result.map_eq_ok.mp h
    cases heq
    exact bound_of_fillFrom hfill

/-- A text without bindings is left as it is. -/
theorem eq_of_filled {params : List Param} {text result : String}
    (h : filled text params = .ok (result, [])) : result = text := by
  have hnone : bindings text.toList = [] := List.map_eq_nil_iff.mp (bound_of_filled h).symm
  unfold filled at h
  rw [hnone] at h
  cases h
  rfl

/-! ### One field after the other -/

/-- What can happen to the first field: its text cannot be filled, it has no bindings, it is filled,
or the field holds no text. -/
theorem inFields_cons (params : List Param) (form : Members) (field : String)
    (others : List String) :
    (∃ text e, Form.HoldsText form field text ∧ filled text params = .error e ∧
      inFields params form (field :: others) = ⟨form, [], some e⟩) ∨
    (∃ text result, Form.HoldsText form field text ∧ filled text params = .ok (result, []) ∧
      inFields params form (field :: others) = inFields params form others) ∨
    (∃ text result bound rest, Form.HoldsText form field text ∧
      filled text params = .ok (result, bound) ∧ bound ≠ [] ∧
      inFields params (Form.put form field (.str result)) others = rest ∧
      inFields params form (field :: others) =
        { rest with fields := ⟨field, bound⟩ :: rest.fields }) ∨
    (∀ text, ¬Form.HoldsText form field text) ∧
      inFields params form (field :: others) = inFields params form others := by
  simp only [← Form.any?_eq_str]
  by_cases htext : ∃ text, Form.any? form field = some (.str text)
  · obtain ⟨text, htext⟩ := htext
    rcases hfilled : filled text params with e | ⟨result, _ | ⟨first, bound⟩⟩
    · exact .inl ⟨text, e, htext, hfilled, by simp only [inFields, htext, hfilled]⟩
    · exact .inr (.inl ⟨text, result, htext, hfilled, by simp only [inFields, htext, hfilled]⟩)
    · exact .inr (.inr (.inl ⟨text, result, first :: bound, _, htext, hfilled,
        List.cons_ne_nil _ _, rfl, by simp only [inFields, htext, hfilled]⟩))
  · rw [not_exists] at htext
    refine .inr (.inr (.inr ⟨htext, ?_⟩))
    rw [inFields]
    split
    · next text h => exact absurd h (htext text)
    · rfl

/-- **Filling leaves a member alone in which none of the fields lies.** -/
theorem get?_inFields (params : List Param) (form : Members) {fields : List String} {key : String}
    (h : ∀ field ∈ fields, IsOutside key field) :
    (inFields params form fields).form.get? key = form.get? key := by
  induction fields generalizing form with
  | nil => rfl
  | cons field others ih =>
    obtain ⟨⟨hne, hpath⟩, hothers⟩ := List.forall_mem_cons.mp h
    obtain ⟨_, _, -, -, hstep⟩ | ⟨_, _, -, -, hstep⟩ | ⟨_, _, _, _, -, -, -, rfl, hstep⟩ |
      ⟨-, hstep⟩ := inFields_cons params form field others <;> rw [hstep]
    · exact ih form hothers
    · exact (ih _ hothers).trans (Form.get?_put_of_ne form hne hpath _)
    · exact ih form hothers

/-! ### Fields that lie apart -/

/-- **Filling leaves a field alone that lies apart from all it fills.** -/
theorem lookup_inFields (params : List Param) (form : Members) {fields : List String}
    {other : String} (h : ∀ field ∈ fields, Form.AreApart field other) :
    Form.lookup (inFields params form fields).form other = Form.lookup form other := by
  induction fields generalizing form with
  | nil => rfl
  | cons field others ih =>
    obtain ⟨hfield, hothers⟩ := List.forall_mem_cons.mp h
    obtain ⟨_, _, -, -, hstep⟩ | ⟨_, _, -, -, hstep⟩ | ⟨_, _, _, _, -, -, -, rfl, hstep⟩ |
      ⟨-, hstep⟩ := inFields_cons params form field others <;> rw [hstep]
    · exact ih form hothers
    · exact (ih _ hothers).trans (Form.lookup_put_of_areApart form hfield _)
    · exact ih form hothers

/-- Every field that holds a text can be filled. -/
def AreFillable (params : List Param) (form : Members) (fields : List String) : Prop :=
  ∀ field ∈ fields, ∀ text, Form.HoldsText form field text →
    ∃ result, filled text params = .ok result

theorem areFillable_cons {params : List Param} {form : Members} {field : String}
    {others : List String} : AreFillable params form (field :: others) ↔
      (∀ text, Form.HoldsText form field text → ∃ result, filled text params = .ok result) ∧
        AreFillable params form others :=
  List.forall_mem_cons

theorem areFillable_put (params : List Param) (form : Members) {field : String}
    {others : List String} (hapart : ∀ other ∈ others, Form.AreApart field other)
    (value : Document) :
    AreFillable params (Form.put form field value) others ↔ AreFillable params form others := by
  refine forall₂_congr fun other hother => forall_congr' fun text => ?_
  rw [Form.holdsText_congr (Form.lookup_put_of_areApart form (hapart other hother) value)]

/-- **Fields that lie apart are all filled just when each of them can be.** -/
theorem problem_inFields_eq_none {params : List Param} {form : Members} {fields : List String}
    (hapart : fields.Pairwise Form.AreApart) :
    (inFields params form fields).problem = none ↔ AreFillable params form fields := by
  induction fields generalizing form with
  | nil => exact iff_of_true rfl nofun
  | cons field others ih =>
    obtain ⟨hfield, hothers⟩ := List.pairwise_cons.mp hapart
    rw [areFillable_cons]
    obtain ⟨text, e, htext, hfilled, hstep⟩ | ⟨text, result, htext, hfilled, hstep⟩ |
      ⟨text, result, bound, _, htext, hfilled, -, rfl, hstep⟩ | ⟨hnone, hstep⟩ :=
      inFields_cons params form field others <;> rw [hstep]
    · refine iff_of_false nofun fun h => ?_
      obtain ⟨result, hresult⟩ := h.1 text htext
      rw [hfilled] at hresult
      cases hresult
    · rw [ih hothers, and_iff_right]
      exact fun other hother => ⟨_, htext.unique hother ▸ hfilled⟩
    · rw [ih hothers, areFillable_put params form hfield, and_iff_right]
      exact fun other hother => ⟨_, htext.unique hother ▸ hfilled⟩
    · rw [ih hothers, and_iff_right]
      exact fun other hother => absurd hother (hnone other)

/-- No text in the fields of a form has bindings. -/
def AreUnbound (form : Members) (fields : List String) : Prop :=
  ∀ field ∈ fields, ∀ text, Form.HoldsText form field text → bindings text.toList = []

theorem areUnbound_nil (form : Members) : AreUnbound form [] :=
  nofun

/-- A field that holds a text has the bindings of that text. -/
theorem areUnbound_cons_of_holdsText {form : Members} {field text : String} {others : List String}
    (h : Form.HoldsText form field text) :
    AreUnbound form (field :: others) ↔ bindings text.toList = [] ∧ AreUnbound form others := by
  rw [AreUnbound, List.forall_mem_cons]
  refine and_congr_left fun _ => ⟨fun hall => hall text h, fun hnone other hother => ?_⟩
  rwa [hother.unique h]

/-- A field that is not there has none. -/
theorem areUnbound_cons_of_lookup {form : Members} {field : String} {others : List String}
    (h : Form.lookup form field = none) :
    AreUnbound form (field :: others) ↔ AreUnbound form others := by
  rw [AreUnbound, List.forall_mem_cons]
  refine and_iff_right fun text htext => ?_
  obtain ⟨found, hfound, -⟩ := htext
  rw [h] at hfound
  cases hfound

/-- A text is filled without parameters just when it has no bindings. -/
theorem filled_nil {text : String} :
    (∃ result, filled text [] = .ok result) ↔ bindings text.toList = [] := by
  unfold filled
  split
  · next hnone => exact iff_of_true ⟨_, rfl⟩ hnone
  · next hsome =>
    refine iff_of_false ?_ hsome
    rintro ⟨result, h⟩
    obtain ⟨⟨chars, bound⟩, hfill, -⟩ := Result.map_eq_ok.mp h
    cases hbindings : bindings text.toList with
    | nil => exact hsome hbindings
    | cons binding others =>
      rw [hbindings] at hfill
      simp [fillFrom, paramOf?] at hfill

theorem areFillable_nil {form : Members} {fields : List String} :
    AreFillable [] form fields ↔ AreUnbound form fields :=
  forall₂_congr fun _ _ => forall₂_congr fun _ _ => filled_nil

/-- Fields without bindings are left as they are. -/
theorem inFields_of_areUnbound (params : List Param) {form : Members} {fields : List String}
    (h : AreUnbound form fields) : inFields params form fields = ⟨form, [], none⟩ := by
  induction fields with
  | nil => rfl
  | cons field others ih =>
    obtain ⟨hfield, hothers⟩ := List.forall_mem_cons.mp h
    have hfilled : ∀ text, Form.HoldsText form field text →
        filled text params = .ok (text, []) := by
      intro text htext
      rw [filled, hfield text htext]
    obtain ⟨text, e, htext, he, -⟩ | ⟨_, _, -, -, hstep⟩ | ⟨text, _, bound, _, htext, hb, hne, -⟩ |
      ⟨-, hstep⟩ := inFields_cons params form field others
    · rw [hfilled text htext] at he
      cases he
    · rw [hstep, ih hothers]
    · rw [hfilled text htext] at hb
      cases hb
      exact absurd rfl hne
    · rw [hstep, ih hothers]

/-- The text that a field comes to when the text that it holds is filled. -/
def ComesTo (params : List Param) (form : Members) (field text : String) : Prop :=
  ∃ held result bound, Form.HoldsText form field held ∧ filled held params = .ok (result, bound) ∧
    Text.isBlankText result = false ∧ text = Text.trimmed result

theorem comesTo_congr {params : List Param} {form other : Members} {field text : String}
    (h : Form.lookup form field = Form.lookup other field) :
    ComesTo params form field text ↔ ComesTo params other field text := by
  simp only [ComesTo, Form.holdsText_congr h]

/-- What the first of some fields comes to, where the others leave it alone. -/
theorem holdsText_inFields_first {params : List Param} {form : Members} {field text : String}
    {others : List String} (hothers : ∀ other ∈ others, Form.AreApart other field)
    (hdone : (inFields params form (field :: others)).problem = none) :
    Form.HoldsText (inFields params form (field :: others)).form field text ↔
      ComesTo params form field text := by
  obtain ⟨held, e, -, -, hstep⟩ | ⟨held, result, hheld, hfilled, hstep⟩ |
    ⟨held, result, bound, _, hheld, hfilled, -, rfl, hstep⟩ | ⟨hnone, hstep⟩ :=
    inFields_cons params form field others
  · rw [hstep] at hdone
    cases hdone
  · rw [hstep, Form.holdsText_congr (lookup_inFields params form hothers)]
    obtain rfl := eq_of_filled hfilled
    constructor
    · intro htext
      obtain rfl := hheld.unique htext
      exact ⟨result, result, [], hheld, hfilled, hheld.not_isBlankText, hheld.trimmed_eq.symm⟩
    · rintro ⟨other, filledText, bound, hother, hfilled', -, rfl⟩
      obtain rfl := hheld.unique hother
      rw [hfilled] at hfilled'
      cases hfilled'
      rwa [hheld.trimmed_eq]
  · rw [hstep, Form.holdsText_congr (lookup_inFields params _ hothers), Form.HoldsText,
      Form.lookup_put_self]
    constructor
    · rintro ⟨found, heq, hblank, rfl⟩
      cases heq
      exact ⟨held, result, bound, hheld, hfilled, hblank, rfl⟩
    · rintro ⟨other, filledText, bound', hother, hfilled', hblank, rfl⟩
      obtain rfl := hheld.unique hother
      rw [hfilled] at hfilled'
      cases hfilled'
      exact ⟨result, rfl, hblank, rfl⟩
  · rw [hstep, Form.holdsText_congr (lookup_inFields params form hothers)]
    refine iff_of_false (hnone text) ?_
    rintro ⟨held, _, _, hheld, -⟩
    exact hnone held hheld

/-- **Each of the fields that lie apart comes to what it would alone.** -/
theorem holdsText_inFields {params : List Param} {form : Members} {fields : List String}
    {field text : String} (hapart : fields.Pairwise Form.AreApart)
    (hdone : (inFields params form fields).problem = none) (hfield : field ∈ fields) :
    Form.HoldsText (inFields params form fields).form field text ↔
      ComesTo params form field text := by
  induction fields generalizing form with
  | nil => cases hfield
  | cons first others ih =>
    obtain ⟨hfirst, hothers⟩ := List.pairwise_cons.mp hapart
    obtain rfl | hmem := List.mem_cons.mp hfield
    · exact holdsText_inFields_first (fun other hother => (hfirst other hother).symm) hdone
    · obtain ⟨_, _, -, -, hstep⟩ | ⟨_, _, -, -, hstep⟩ | ⟨_, _, _, _, -, -, -, rfl, hstep⟩ |
        ⟨-, hstep⟩ := inFields_cons params form first others <;> rw [hstep] at hdone ⊢
      · cases hdone
      · exact ih hothers hdone hmem
      · rw [ih hothers hdone hmem,
          comesTo_congr (Form.lookup_put_of_areApart form (hfirst field hmem) _)]
      · exact ih hothers hdone hmem

/-- The bindings in a field of a form, each recorded once and in order. -/
def recordedIn (params : List Param) (form : Members) (field : String) : List BoundParameter :=
  match Form.any? form field with
  | some (.str text) => (bindings text.toList).map (recorded params)
  | _ => []

theorem recordedIn_of_holdsText {params : List Param} {form : Members} {field text : String}
    (h : Form.HoldsText form field text) :
    recordedIn params form field = (bindings text.toList).map (recorded params) := by
  rw [recordedIn, Form.any?_eq_str.mpr h]

theorem recordedIn_of_not_holdsText {params : List Param} {form : Members} {field : String}
    (h : ∀ text, ¬Form.HoldsText form field text) : recordedIn params form field = [] := by
  unfold recordedIn
  split
  · next text htext => exact absurd (Form.any?_eq_str.mp htext) (h text)
  · rfl

theorem flatMap_recordedIn_put (params : List Param) (form : Members) {field : String}
    {others : List String} (hapart : ∀ other ∈ others, Form.AreApart field other)
    (value : Document) :
    others.flatMap (recordedIn params (Form.put form field value)) =
      others.flatMap (recordedIn params form) := by
  rw [List.flatMap_def, List.flatMap_def, List.map_congr_left fun other hother => ?_]
  rw [recordedIn, recordedIn,
    Form.any?_congr (Form.lookup_put_of_areApart form (hapart other hother) value)]

/-- **What filling records are the bindings of its fields, field by field,** as the form holds them
before anything is filled. -/
theorem bound_inFields {params : List Param} {form : Members} {fields : List String}
    (hapart : fields.Pairwise Form.AreApart)
    (hdone : (inFields params form fields).problem = none) :
    (inFields params form fields).bound = fields.flatMap (recordedIn params form) := by
  induction fields generalizing form with
  | nil => rfl
  | cons field others ih =>
    obtain ⟨hfield, hothers⟩ := List.pairwise_cons.mp hapart
    rw [List.flatMap_cons]
    obtain ⟨_, _, -, -, hstep⟩ | ⟨text, result, htext, hfilled, hstep⟩ |
      ⟨text, result, bound, _, htext, hfilled, -, rfl, hstep⟩ | ⟨hnone, hstep⟩ :=
      inFields_cons params form field others <;> rw [hstep] at hdone ⊢
    · cases hdone
    · rw [ih hothers hdone, recordedIn_of_holdsText htext, ← bound_of_filled hfilled,
        List.nil_append]
    · rw [recordedIn_of_holdsText htext, ← bound_of_filled hfilled,
        ← flatMap_recordedIn_put params form hfield (.str result), ← ih hothers hdone]
      rfl
    · rw [ih hothers hdone, recordedIn_of_not_holdsText hnone, List.nil_append]

/-! ### Why filling stops -/

theorem unboundBinding_of_fillFrom {params : List Param} {bindings : List String}
    {place : Quotation} {text : List Char} {p : Problem}
    (h : fillFrom params place text bindings = .error p) :
    ∃ binding, p = .unboundBinding binding := by
  induction bindings generalizing place text with
  | nil => cases h
  | cons binding others ih =>
    unfold fillFrom at h
    split at h
    · dsimp only at h
      split at h
      · cases h
      · next hrest =>
        cases h
        exact ih hrest
    · cases h
      exact ⟨binding, rfl⟩

theorem unboundBinding_of_filled {params : List Param} {text : String} {p : Problem}
    (h : filled text params = .error p) : ∃ binding, p = .unboundBinding binding := by
  unfold filled at h
  split at h
  · cases h
  · exact unboundBinding_of_fillFrom (Result.map_eq_error.mp h)

/-- **Filling stops at a binding without a value only.** -/
theorem problem_inFields {params : List Param} {form : Members} {fields : List String} {p : Problem}
    (h : (inFields params form fields).problem = some p) :
    ∃ binding, p = .unboundBinding binding := by
  induction fields generalizing form with
  | nil => cases h
  | cons field others ih =>
    obtain ⟨_, _, -, hfilled, hstep⟩ | ⟨_, _, -, -, hstep⟩ | ⟨_, _, _, _, -, -, -, rfl, hstep⟩ |
      ⟨-, hstep⟩ := inFields_cons params form field others <;> rw [hstep] at h
    · cases h
      exact unboundBinding_of_filled hfilled
    · exact ih h
    · exact ih h
    · exact ih h

end Substitution
end FormDispatch
