/-
# What look-ups find in a form

A write along a path changes nothing but the member in which the path begins, so `get?_put_of_ne`
finds every other member as it was. A field without points is looked up under its own name alone.
What has been put in a field is found there (`lookup_put_self`), and two fields that lie apart do
not see what is put in the other (`lookup_put_of_areApart`).

What is found in a form is part of it: `isTellable_of_any?` says that where the form can be told,
the value of each of its fields can. `HoldsText` says what a field read as a text amounts to.
-/

import FormDispatch.Document.Told
import FormDispatch.Form
import FormDispatch.Proofs.Result
import FormDispatch.Proofs.Text.Blank
import FormDispatch.Proofs.Text.Cut

namespace FormDispatch
namespace Form

/-! ### Writes -/

/-- A path that begins in another member leaves a member as it was. -/
theorem get?_putPath_of_ne (form : Members) {path : List String} {key : String}
    (h : path.head? ≠ some key) (value : Document) :
    (putPath form path value).get? key = form.get? key := by
  cases path with
  | nil => rfl
  | cons part rest =>
    have hpart : part ≠ key := fun e => h (by rw [e]; rfl)
    cases rest <;> exact Entries.get?_put_of_ne form _ hpart

/-- A field of another name whose path begins in another member leaves a member as it was. -/
theorem get?_put_of_ne (form : Members) {field key : String} (hfield : field ≠ key)
    (hpath : (parts field).head? ≠ some key) (value : Document) :
    (put form field value).get? key = form.get? key := by
  unfold put
  split
  · exact Entries.get?_put_of_ne form value hfield
  · exact get?_putPath_of_ne form hpath value

/-- A field without points is looked up under its own name. -/
theorem lookup_of_parts (form : Members) {field : String} (h : parts field = [field]) :
    lookup form field = form.get? field := by
  simp [lookup, h, walk]

/-! ### Fields side by side -/

/-- A walk depends on the member alone in which it begins. -/
theorem walk_congr {form other : Members} {part : String} (h : form.get? part = other.get? part)
    (rest : List String) : walk form (part :: rest) = walk other (part :: rest) := by
  cases rest <;> simp only [walk, h]

theorem walk_nil (path : List String) : walk [] path = none := by
  rcases path with _ | ⟨part, _ | ⟨next, rest⟩⟩ <;> rfl

/-- **A write along one path is not seen along a path that parts from it.** -/
theorem walk_putPath_of_parts (form : Members) {path other : List String}
    (h : ¬path <+: other) (h' : ¬other <+: path) (value : Document) :
    walk (putPath form path value) other = walk form other := by
  induction path generalizing form other with
  | nil => exact absurd List.nil_prefix h
  | cons part rest ih =>
    cases other with
    | nil => exact absurd List.nil_prefix h'
    | cons next others =>
      by_cases hpart : part = next
      · subst hpart
        rw [List.prefix_cons_inj] at h h'
        -- a path that ends here would be the beginning of the other
        cases rest with
        | nil => exact absurd List.nil_prefix h
        | cons r rs =>
          cases others with
          | nil => exact absurd List.nil_prefix h'
          | cons o os =>
            simp only [putPath, walk, Entries.get?_put_self, Option.bind_some, Document.members,
              ih _ h h']
            cases form.get? part with
            | none => exact walk_nil (o :: os)
            | some d => rfl
      · exact walk_congr (get?_putPath_of_ne form (by simpa using hpart) value) others

/-- Two fields lie apart: no name is the other or begins the other's path, and no path goes on from
the other. -/
def AreApart (field other : String) : Prop :=
  field ≠ other ∧ (parts field).head? ≠ some other ∧ (parts other).head? ≠ some field ∧
    ¬parts field <+: parts other ∧ ¬parts other <+: parts field

instance (field other : String) : Decidable (AreApart field other) :=
  inferInstanceAs (Decidable (_ ∧ _))

theorem AreApart.symm {field other : String} (h : AreApart field other) : AreApart other field :=
  ⟨h.1.symm, h.2.2.1, h.2.1, h.2.2.2.2, h.2.2.2.1⟩

/-- **What is put in a field is not seen in one that lies apart.** -/
theorem lookup_put_of_areApart (form : Members) {field other : String} (h : AreApart field other)
    (value : Document) : lookup (put form field value) other = lookup form other := by
  obtain ⟨hne, hhead, hother, hpath, hpath'⟩ := h
  have hget : (put form field value).get? other = form.get? other :=
    get?_put_of_ne form hne hhead value
  have hwalk : walk (put form field value) (parts other) = walk form (parts other) := by
    unfold put
    split
    · cases hparts : parts other with
      | nil => rfl
      | cons part rest =>
        refine walk_congr (Entries.get?_put_of_ne form value fun heq => hother ?_) rest
        rw [hparts, heq]
        rfl
    · exact walk_putPath_of_parts form hpath hpath' value
  rw [lookup, lookup, hget, hwalk]

/-- The name of a field begins its own path only where it is the whole path. -/
theorem parts_cases (field : String) :
    parts field = [field] ∨ parts field ≠ [] ∧ (parts field).head? ≠ some field := by
  obtain ⟨first, rest, hsplit, hlength⟩ := Text.length_splitAt '.' field.toList
  have hparts : parts field = String.ofList first :: rest.map String.ofList := by
    rw [parts, hsplit, List.map_cons]
  rw [hparts]
  by_cases hfirst : String.ofList first = field
  · left
    have hrest : rest.length = 0 := by
      rw [← hfirst, String.toList_ofList] at hlength
      omega
    rw [hfirst, List.length_eq_zero_iff.mp hrest, List.map_nil]
  · exact .inr ⟨List.cons_ne_nil _ _, fun h => hfirst (Option.some.inj h)⟩

/-- **What is put in a field is found there.** -/
theorem lookup_put_self (form : Members) (field : String) (value : Document) :
    lookup (put form field value) field = some value := by
  unfold lookup put
  split
  · rw [Entries.get?_put_self, Option.some_or]
  · next habsent =>
    obtain hparts | ⟨hne, hhead⟩ := parts_cases field
    · rw [hparts, putPath, Entries.get?_put_self, Option.some_or]
    · have hnone : form.get? field = none := by simpa [Entries.has] using habsent
      rw [get?_putPath_of_ne form hhead, hnone, Option.none_or, walk_putPath form hne]

/-! ### Fields that hold a text -/

/-- A field holds a text: the one that look-up finds, trimmed, if it is not blank. -/
def HoldsText (form : Members) (field text : String) : Prop :=
  ∃ found, lookup form field = some (.str found) ∧ Text.isBlankText found = false ∧
    text = Text.trimmed found

/-- A value that can be used is what look-up finds. -/
theorem lookup_of_usable {form : Members} {field : String} {found : Document}
    (h : usable form field = some found) : lookup form field = some found := by
  unfold usable at h
  split at h
  · cases h
  · next s hs =>
    split at h
    · cases h
    · exact hs.trans h
  · exact h

/-- A field holds nothing that can be used: it is not there, or it is null or a blank text. -/
def HoldsNothing (form : Members) (field : String) : Prop :=
  lookup form field = none ∨ lookup form field = some .null ∨
    ∃ s, lookup form field = some (.str s) ∧ Text.isBlankText s = true

theorem HoldsNothing.usable_eq {form : Members} {field : String} (h : HoldsNothing form field) :
    usable form field = none := by
  obtain h | h | ⟨s, h, hblank⟩ := h
  · simp [usable, h]
  · simp [usable, h]
  · simp [usable, h, hblank]

/-- A field has no value that can be used just when it holds nothing. -/
theorem usable_eq_none_iff {form : Members} {field : String} :
    usable form field = none ↔ HoldsNothing form field := by
  refine ⟨fun h => ?_, HoldsNothing.usable_eq⟩
  unfold usable at h
  split at h
  · next hnull => exact .inr (.inl hnull)
  · next s hs =>
    split at h
    · next hblank => exact .inr (.inr ⟨s, hs, hblank⟩)
    · cases h
  · exact .inl h

/-- A value that is neither null nor a text can be used. -/
theorem usable_of_lookup {form : Members} {field : String} {found : Document}
    (h : lookup form field = some found) (hnull : found ≠ .null) (hstr : ∀ s, found ≠ .str s) :
    usable form field = some found := by
  unfold usable
  rw [h]
  cases found with
  | null => exact absurd rfl hnull
  | str s => exact absurd rfl (hstr s)
  | bool | int | float | arr | obj => rfl

theorem usable_eq_str {form : Members} {field found : String} :
    usable form field = some (.str found) ↔
      lookup form field = some (.str found) ∧ Text.isBlankText found = false := by
  unfold usable
  split
  · next hnull => simp [hnull]
  · next s hs =>
    by_cases hblank : Text.isBlankText s = true
    · rw [if_pos hblank, hs]
      refine iff_of_false nofun ?_
      rintro ⟨heq, hfound⟩
      cases heq
      rw [hblank] at hfound
      cases hfound
    · rw [if_neg hblank, hs]
      refine ⟨fun h => ⟨h, ?_⟩, And.left⟩
      cases h
      exact Bool.eq_false_iff.mpr hblank
  · next hnull hstr => exact iff_of_false (hstr found) fun h => hstr found h.1

/-- A field that holds a text is read as that text. -/
theorem any?_eq_str {form : Members} {field text : String} :
    any? form field = some (.str text) ↔ HoldsText form field text := by
  unfold any? HoldsText
  constructor
  · intro h
    obtain ⟨d, hd, heq⟩ := Option.map_eq_some_iff.mp h
    cases d <;> cases heq
    obtain ⟨hlookup, hblank⟩ := usable_eq_str.mp hd
    exact ⟨_, hlookup, hblank, rfl⟩
  · rintro ⟨found, hlookup, hblank, rfl⟩
    rw [usable_eq_str.mpr ⟨hlookup, hblank⟩]
    rfl

/-- A field that holds a text is read as that text. -/
theorem text?_eq_some {form : Members} {field text : String} :
    text? form field = .ok (some text) ↔ HoldsText form field text := by
  rw [← any?_eq_str]
  unfold text? any?
  cases usable form field with
  | none => exact iff_of_false nofun nofun
  | some d => cases d <;> simp [asText, asAny, Except.map]

/-- A text without blanks at its ends is held as it is, if it is not empty. -/
theorem holdsText_of_trimmed {form : Members} {field text : String}
    (h : lookup form field = some (.str text)) (htrim : Text.trimmed text = text)
    (hne : text ≠ "") : HoldsText form field text := by
  refine ⟨text, h, ?_, htrim.symm⟩
  rw [Bool.eq_false_iff]
  intro hblank
  rw [Text.trimmed, (Text.trim_nil_iff _).mpr hblank] at htrim
  exact hne htrim.symm

/-- The text that a field holds is not empty. -/
theorem HoldsText.ne_empty {form : Members} {field text : String} (h : HoldsText form field text) :
    text ≠ "" := by
  obtain ⟨found, -, hblank, rfl⟩ := h
  intro hempty
  have htrim : Text.trim found.toList = [] := by
    simpa [Text.trimmed] using congrArg String.toList hempty
  rw [Text.isBlankText, (Text.trim_nil_iff _).mp htrim] at hblank
  cases hblank

/-- A text held is one that is trimmed. -/
theorem HoldsText.trimmed_eq {form : Members} {field text : String}
    (h : HoldsText form field text) : Text.trimmed text = text := by
  obtain ⟨found, -, -, rfl⟩ := h
  rw [Text.trimmed, Text.trimmed, String.toList_ofList, Text.trim_trim]

/-- The text that a field holds is not blank. -/
theorem HoldsText.not_isBlankText {form : Members} {field text : String}
    (h : HoldsText form field text) : Text.isBlankText text = false := by
  rw [Bool.eq_false_iff]
  intro hblank
  refine h.ne_empty ?_
  rw [← h.trimmed_eq, Text.trimmed, (Text.trim_nil_iff _).mpr hblank]

/-- A field holds one text at most. -/
theorem HoldsText.unique {form : Members} {field text other : String}
    (h : HoldsText form field text) (h' : HoldsText form field other) : text = other := by
  rw [← any?_eq_str] at h h'
  rw [h] at h'
  cases h'
  rfl

theorem holdsText_congr {form other : Members} {field text : String}
    (h : lookup form field = lookup other field) :
    HoldsText form field text ↔ HoldsText other field text := by
  rw [HoldsText, HoldsText, h]

theorem any?_congr {form other : Members} {field : String}
    (h : lookup form field = lookup other field) : any? form field = any? other field := by
  simp only [any?, usable, h]

theorem text?_congr {form other : Members} {field : String}
    (h : lookup form field = lookup other field) : text? form field = text? other field := by
  simp only [text?, usable, h]

theorem integer?_congr {form other : Members} {field : String}
    (h : lookup form field = lookup other field) :
    integer? form field = integer? other field := by
  simp only [integer?, usable, h]

/-! ### Told values -/

section Tellable

open Document

theorem isTellable_of_get? {form : Members} {key : String} {d : Document}
    (h : (obj form).isTellable = true) (hd : form.get? key = some d) : d.isTellable = true := by
  induction form with
  | nil => cases hd
  | cons p rest ih =>
    obtain ⟨k, value⟩ := p
    simp only [isTellable, holdTellable, Bool.and_eq_true] at h
    unfold Entries.get? at hd
    split at hd
    · cases hd
      exact h.1
    · exact ih h.2 hd

theorem isTellable_members {d : Document} (h : d.isTellable = true) :
    (obj d.members).isTellable = true := by
  cases d <;> first | exact h | rfl

theorem isTellable_of_walk {form : Members} {path : List String} {d : Document}
    (h : (obj form).isTellable = true) (hd : walk form path = some d) : d.isTellable = true := by
  induction path generalizing form with
  | nil => cases hd
  | cons part rest ih =>
    cases rest with
    | nil => exact isTellable_of_get? h hd
    | cons next rest =>
      obtain ⟨inner, hinner, hwalk⟩ := Option.bind_eq_some_iff.mp hd
      exact ih (isTellable_members (isTellable_of_get? h hinner)) hwalk

theorem isTellable_of_lookup {form : Members} {field : String} {d : Document}
    (h : (obj form).isTellable = true) (hd : lookup form field = some d) : d.isTellable = true := by
  obtain hd | ⟨-, hd⟩ := Option.or_eq_some_iff.mp hd
  · exact isTellable_of_get? h hd
  · exact isTellable_of_walk h hd

/-- Where a form can be told, the value of each field can. -/
theorem isTellable_of_any? {form : Members} {field : String} {d : Document}
    (h : (obj form).isTellable = true) (hd : any? form field = some d) : d.isTellable = true := by
  obtain ⟨found, hfound, rfl⟩ := Option.map_eq_some_iff.mp hd
  have htell := isTellable_of_lookup h (lookup_of_usable hfound)
  cases found <;> exact htell

end Tellable
end Form
end FormDispatch
