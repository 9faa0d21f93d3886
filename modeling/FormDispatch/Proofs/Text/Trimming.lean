/-
# Trimmed texts

Trimming by a set of characters leaves a text with none of them at its ends, and leaves such a text
alone: the texts that stay as they are (`trimOf_eq_self_iff`) are those that trimming gives
(`bare_trimOf`). Blanks are trimmed in the same way, so the facts hold for `trim` as well.
-/

import Mathlib.Data.List.DropRight
import FormDispatch.Text.Blank

namespace FormDispatch
namespace Text

/-- A text that has none of the characters at its ends. -/
structure Bare (drop : Char → Bool) (s : List Char) : Prop where
  front : ∀ c ∈ s.head?, drop c = false
  back : ∀ c ∈ s.getLast?, drop c = false

variable {drop : Char → Bool}

theorem trim_eq_trimOf (s : List Char) : trim s = trimOf isBlank s :=
  rfl

theorem trimOf_eq_rdropWhile (drop : Char → Bool) (s : List Char) :
    trimOf drop s = (s.dropWhile drop).rdropWhile drop :=
  rfl

/-- Trimming a text leaves a part of it. -/
theorem trimOf_sublist (drop : Char → Bool) (s : List Char) : (trimOf drop s).Sublist s :=
  (List.rdropWhile_prefix drop _).sublist.trans (List.dropWhile_sublist _)

private theorem dropWhile_eq_self {s : List Char} (h : ∀ c ∈ s.head?, drop c = false) :
    s.dropWhile drop = s := by
  cases s with
  | nil => rfl
  | cons c r => simp [h c rfl]

private theorem not_drop_head_dropWhile (s : List Char) :
    ∀ c ∈ (s.dropWhile drop).head?, drop c = false := by
  intro c hc
  obtain ⟨r, hr⟩ := List.head?_eq_some_iff.mp hc
  have hne : s.dropWhile drop ≠ [] := by simp [hr]
  simpa [hr] using List.head_dropWhile_not drop hne

/-- **What trimming leaves has none of the characters at its ends.** -/
theorem bare_trimOf (drop : Char → Bool) (s : List Char) : Bare drop (trimOf drop s) := by
  refine ⟨fun c hc => not_drop_head_dropWhile s c ?_, fun c hc => ?_⟩
  · obtain ⟨rest, hrest⟩ := List.rdropWhile_prefix drop (s.dropWhile drop)
    rw [← hrest, List.head?_append, ← trimOf_eq_rdropWhile, hc]
    rfl
  · rw [trimOf, List.getLast?_reverse] at hc
    exact not_drop_head_dropWhile _ c hc

/-- A text with none of the characters in front keeps its first one, if anything is left. -/
theorem head?_trimOf {s : List Char} (h : ∀ c ∈ s.head?, drop c = false)
    (hne : trimOf drop s ≠ []) : (trimOf drop s).head? = s.head? := by
  obtain ⟨c, r, hcons⟩ := List.exists_cons_of_ne_nil hne
  obtain ⟨rest, hrest⟩ := List.rdropWhile_prefix drop (s.dropWhile drop)
  rw [← trimOf_eq_rdropWhile, dropWhile_eq_self h, hcons] at hrest
  rw [hcons, ← hrest]
  rfl

/-- **Trimming leaves exactly the texts alone that have none of the characters at their ends.** -/
theorem trimOf_eq_self_iff {s : List Char} : trimOf drop s = s ↔ Bare drop s := by
  refine ⟨fun h => h ▸ bare_trimOf drop s, fun h => ?_⟩
  rw [trimOf, dropWhile_eq_self h.front, dropWhile_eq_self, List.reverse_reverse]
  rw [List.head?_reverse]
  exact h.back

/-- A text is what trimming leaves of it and the blanks around it. -/
theorem exists_trim (s : List Char) : ∃ w w', s = w ++ (trim s ++ w') ∧
    (∀ c ∈ w, isBlank c = true) ∧ ∀ c ∈ w', isBlank c = true := by
  refine ⟨s.takeWhile isBlank, (trimFront s).rtakeWhile isBlank, ?_,
    fun c hc => List.mem_takeWhile_imp hc, fun c hc => List.mem_rtakeWhile_imp hc⟩
  have hback : trim s ++ (trimFront s).rtakeWhile isBlank = trimFront s :=
    List.rdropWhile_append_rtakeWhile
  rw [hback, trimFront, List.takeWhile_append_dropWhile]

/-- Blanks behind the last character that is none can be trimmed on their own. -/
theorem trimBack_append_cons {c : Char} (hc : isBlank c = false) (s r : List Char) :
    trimBack (s ++ c :: r) = s ++ c :: trimBack r := by
  have hstop : (c :: s.reverse).dropWhile isBlank = c :: s.reverse :=
    List.dropWhile_cons_of_neg (by simp [hc])
  rw [trimBack, List.reverse_append, List.reverse_cons, List.append_assoc, List.singleton_append,
    List.dropWhile_append]
  split
  · next hnil => simp [hstop, trimBack, List.isEmpty_iff.mp hnil]
  · simp [trimBack]

/-- Trimming the back first changes nothing. -/
theorem trim_trimBack (s : List Char) : trim (trimBack s) = trim s := by
  cases h : trimFront s with
  | nil =>
    have hblank : ∀ c ∈ s, isBlank c = true := List.dropWhile_eq_nil_iff.mp h
    have hback : trimBack s = [] := List.rdropWhile_eq_nil_iff.mpr hblank
    rw [trim, trim, hback, h]
    rfl
  | cons c r =>
    have hc : isBlank c = false := not_drop_head_dropWhile s c (by rw [← trimFront, h]; rfl)
    have hsplit : s.takeWhile isBlank ++ c :: r = s := by
      rw [← h, trimFront, List.takeWhile_append_dropWhile]
    have hfront : trimFront (s.takeWhile isBlank ++ c :: trimBack r) = c :: trimBack r := by
      rw [trimFront, List.dropWhile_append_of_pos fun d hd => List.mem_takeWhile_imp hd,
        List.dropWhile_cons_of_neg (by simp [hc])]
    rw [trim, trim, h]
    conv_lhs => rw [← hsplit, trimBack_append_cons hc, hfront]
    have hcons : ∀ t, trimBack (c :: t) = c :: trimBack t := trimBack_append_cons hc []
    rw [hcons, hcons]
    exact congrArg _ (List.rdropWhile_idempotent isBlank r)

end Text
end FormDispatch
