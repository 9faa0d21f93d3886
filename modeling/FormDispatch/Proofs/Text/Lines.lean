/-
# Texts and their lines

A line that is ended by a line feed is the first line of the text that goes on behind it
(`lines_append_cons`), so a text written line by line has the lines that were written
(`lines_flatMap`). No line of any text holds a break (`unbroken_of_mem_lines`).
-/

import FormDispatch.Text.Blank
import FormDispatch.Text.Lines

namespace FormDispatch
namespace Text

/-- A text in one line. -/
def Unbroken (s : List Char) : Prop :=
  ∀ c ∈ s, isLineBreak c = false

/-- Part of a line is in one line. -/
theorem Unbroken.of_sublist {s t : List Char} (h : Unbroken t) (hst : s.Sublist t) : Unbroken s :=
  fun c hc => h c (hst.subset hc)

/-- Breaks are blank. -/
theorem isBlank_of_isLineBreak {c : Char} (h : isLineBreak c = true) : isBlank c = true := by
  simp only [isLineBreak, Bool.or_eq_true, Bool.and_eq_true, decide_eq_true_eq, beq_iff_eq] at h
  simp only [isBlank, Bool.or_eq_true, Bool.and_eq_true, decide_eq_true_eq, beq_iff_eq]
  omega

private theorem linesFrom_append_cons {s : List Char} (h : Unbroken s) (started r : List Char) :
    linesFrom started (s ++ '\n' :: r) = (started.reverse ++ s) :: linesFrom [] r := by
  induction s generalizing started with
  | nil => simp [linesFrom, isLineBreak]
  | cons c s ih =>
    rw [Unbroken, List.forall_mem_cons] at h
    have hreturn : c ≠ '\r' := by
      rintro rfl
      exact absurd h.1 (by decide)
    simp [linesFrom, hreturn, h.1, ih h.2]

/-- A line that is ended is the first one. -/
theorem lines_append_cons {s : List Char} (h : Unbroken s) (r : List Char) :
    lines (s ++ '\n' :: r) = s :: lines r :=
  linesFrom_append_cons h [] r

/-- **A text written line by line has the lines that were written.** -/
theorem lines_flatMap {written : List (List Char)} (h : ∀ s ∈ written, Unbroken s) :
    lines (written.flatMap (· ++ ['\n'])) = written := by
  induction written with
  | nil => rfl
  | cons s rest ih =>
    rw [List.forall_mem_cons] at h
    rw [List.flatMap_cons, List.append_assoc, List.singleton_append, lines_append_cons h.1, ih h.2]

private theorem unbroken_of_mem_linesFrom (started s : List Char) (h : Unbroken started) :
    ∀ line ∈ linesFrom started s, Unbroken line := by
  have hreverse {t : List Char} (ht : Unbroken t) : Unbroken t.reverse :=
    fun c hc => ht c (List.mem_reverse.mp hc)
  have hnil : Unbroken [] := fun _ hc => absurd hc List.not_mem_nil
  induction started, s using linesFrom.induct with
  | case1 => simp [linesFrom]
  | case2 started hne => simpa [linesFrom, hne] using hreverse h
  | case3 started r ih =>
    rw [linesFrom, List.forall_mem_cons]
    exact ⟨hreverse h, ih hnil⟩
  | case4 started c r hpair hbreak ih =>
    rw [linesFrom, if_pos hbreak, List.forall_mem_cons]
    · exact ⟨hreverse h, ih hnil⟩
    · exact hpair
  | case5 started c r hpair hbreak ih =>
    rw [linesFrom, if_neg hbreak]
    · exact ih (List.forall_mem_cons.mpr ⟨by simpa using hbreak, h⟩)
    · exact hpair

/-- **No line of a text holds a break.** -/
theorem unbroken_of_mem_lines {s line : List Char} (h : line ∈ lines s) : Unbroken line :=
  unbroken_of_mem_linesFrom [] s (fun _ hc => absurd hc List.not_mem_nil) line h

end Text
end FormDispatch
