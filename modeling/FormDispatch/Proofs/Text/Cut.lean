/-
# Texts cut at a character

Cutting a text at every occurrence of a character leaves one piece at least, and no piece holds the
character (`not_mem_of_mem_splitAt`). A text without the character is one piece; otherwise what
stands before its first occurrence is the first piece, and the rest is cut on its own.
-/

import FormDispatch.Text.Lines

namespace FormDispatch
namespace Text

/-- A text that is cut is longer than its first piece and the cuts together. -/
theorem length_splitAt (cut : Char) (s : List Char) :
    ∃ first rest, splitAt cut s = first :: rest ∧ first.length + rest.length ≤ s.length := by
  induction s with
  | nil => exact ⟨[], [], rfl, Nat.le_refl 0⟩
  | cons c r ih =>
    obtain ⟨first, rest, hsplit, hlength⟩ := ih
    by_cases hc : c == cut
    · refine ⟨[], first :: rest, by simp [splitAt, hsplit, hc], ?_⟩
      simp only [List.length_nil, List.length_cons]
      omega
    · refine ⟨c :: first, rest, by simp [splitAt, hsplit, hc], ?_⟩
      simp only [List.length_cons]
      omega

/-- A text without the character is one piece. -/
theorem splitAt_of_not_mem {cut : Char} {s : List Char} (h : cut ∉ s) : splitAt cut s = [s] := by
  induction s with
  | nil => rfl
  | cons c r ih =>
    rw [List.mem_cons, not_or] at h
    simp [splitAt, ih h.2, Ne.symm h.1]

/-- The text before the first of the characters is the first piece. -/
theorem splitAt_append_cons {cut : Char} {s : List Char} (h : cut ∉ s) (r : List Char) :
    splitAt cut (s ++ cut :: r) = s :: splitAt cut r := by
  induction s with
  | nil =>
    obtain ⟨first, rest, hsplit, -⟩ := length_splitAt cut r
    simp [splitAt, hsplit]
  | cons c s ih =>
    rw [List.mem_cons, not_or] at h
    simp [splitAt, ih h.2, Ne.symm h.1]

/-- **No piece of a text holds the character at which it is cut.** -/
theorem not_mem_of_mem_splitAt (cut : Char) (s : List Char) :
    ∀ piece ∈ splitAt cut s, cut ∉ piece := by
  induction s with
  | nil => simp [splitAt]
  | cons c r ih =>
    obtain ⟨first, rest, hsplit, -⟩ := length_splitAt cut r
    rw [hsplit] at ih
    by_cases hc : c = cut
    · have hcons : splitAt cut (c :: r) = [] :: first :: rest := by simp [splitAt, hsplit, hc]
      rw [hcons, List.forall_mem_cons]
      exact ⟨List.not_mem_nil, ih⟩
    · have hcons : splitAt cut (c :: r) = (c :: first) :: rest := by simp [splitAt, hsplit, hc]
      rw [List.forall_mem_cons] at ih
      rw [hcons, List.forall_mem_cons]
      exact ⟨by simp [Ne.symm hc, ih.1], ih.2⟩

end Text
end FormDispatch
