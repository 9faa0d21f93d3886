/-
# Blanks and digits

No blank character is a decimal digit, so nothing is trimmed from a text of digits. A text that has
been trimmed has no blanks at its ends, so it stays as it is (`trim_trim`).
-/

import FormDispatch.Text.Blank
import FormDispatch.Text.Digit

namespace FormDispatch
namespace Text

/-- The code points of the blank characters. -/
def blankPoints : List Nat :=
  [9, 10, 11, 12, 13, 28, 29, 30, 31, 32, 0x85, 0xA0, 0x1680, 0x2000, 0x2001, 0x2002, 0x2003,
    0x2004, 0x2005, 0x2006, 0x2007, 0x2008, 0x2009, 0x200A, 0x2028, 0x2029, 0x202F, 0x205F, 0x3000]

theorem mem_blankPoints {c : Char} (h : isBlank c = true) : c.toNat ∈ blankPoints := by
  simp only [isBlank, Bool.or_eq_true, Bool.and_eq_true, decide_eq_true_eq, beq_iff_eq] at h
  simp only [blankPoints, List.mem_cons, List.not_mem_nil, or_false]
  omega

/-- No blank character is a decimal digit. -/
theorem not_isDecimalDigit_of_isBlank {c : Char} (h : isBlank c = true) :
    isDecimalDigit c = false := by
  have none_found : ∀ n ∈ blankPoints,
      (decimalZeros.find? fun z => z ≤ n && n < z + 10) = none := by decide
  simp [isDecimalDigit, digitValue?, none_found _ (mem_blankPoints h)]

/-- An ASCII digit is a decimal digit. -/
theorem isDecimalDigit_of_isDigit {c : Char} (h : c.isDigit = true) : isDecimalDigit c = true := by
  have hc : 0x30 ≤ c.toNat ∧ c.toNat < 0x30 + 10 := by
    simp only [Char.isDigit, Bool.and_eq_true, decide_eq_true_eq] at h
    exact ⟨h.1, Nat.lt_succ_of_le h.2⟩
  simp [isDecimalDigit, digitValue?, decimalZeros, hc]

/-- Blanks in front are dropped. -/
theorem trimFront_append {w : List Char} (hw : ∀ c ∈ w, isBlank c = true) (s : List Char) :
    trimFront (w ++ s) = trimFront s :=
  List.dropWhile_append_of_pos hw

/-- A text that does not start with a blank is left as it is. -/
theorem trimFront_cons {c : Char} (hc : isBlank c = false) (s : List Char) :
    trimFront (c :: s) = c :: s := by
  simp [trimFront, hc]

/-- Digits are left as they are. -/
theorem trim_of_digits {s : List Char} (h : ∀ c ∈ s, isDecimalDigit c = true) : trim s = s := by
  have hdrop : ∀ t : List Char, (∀ c ∈ t, isDecimalDigit c = true) → t.dropWhile isBlank = t := by
    intro t ht
    cases t with
    | nil => rfl
    | cons c r =>
      refine trimFront_cons ?_ r
      rw [Bool.eq_false_iff]
      intro hblank
      have hdigit := ht c List.mem_cons_self
      rw [not_isDecimalDigit_of_isBlank hblank] at hdigit
      cases hdigit
  have hback : ∀ c ∈ s.reverse, isDecimalDigit c = true := fun c hc => h c (List.mem_reverse.mp hc)
  rw [trim, trimFront, hdrop s h, trimBack, hdrop s.reverse hback, List.reverse_reverse]

/-- What trimming leaves starts with no blank. -/
theorem isBlank_of_trimFront {s r : List Char} {c : Char} (h : trimFront s = c :: r) :
    isBlank c = false := by
  have hne : s.dropWhile isBlank ≠ [] := fun hnil => by simp [trimFront, hnil] at h
  have hhead := List.head_dropWhile_not isBlank hne
  simp only [trimFront] at h
  simpa [h] using hhead

/-- What is left by trimming stands in the text. -/
theorem trim_sublist (s : List Char) : (trim s).Sublist s := by
  have hback : (trimBack (trimFront s)).Sublist (trimFront s) := by
    rw [trimBack, ← List.reverse_sublist, List.reverse_reverse]
    exact List.dropWhile_sublist _
  exact hback.trans (List.dropWhile_sublist _)

theorem trimFront_trimFront (s : List Char) : trimFront (trimFront s) = trimFront s := by
  cases h : trimFront s with
  | nil => rfl
  | cons c r => exact trimFront_cons (isBlank_of_trimFront h) r

/-- **Trimming twice is trimming once.** -/
theorem trim_trim (s : List Char) : trim (trim s) = trim s := by
  have hback : ∀ t, trimBack t = (trimFront t.reverse).reverse := fun _ => rfl
  have hfront : trimFront (trim s) = trim s := by
    cases h : trim s with
    | nil => rfl
    | cons c r =>
      have hprefix : trim s <+: trimFront s := by
        rw [trim, hback, ← List.reverse_suffix, List.reverse_reverse]
        exact List.dropWhile_suffix _
      rw [h] at hprefix
      obtain ⟨t, ht⟩ := hprefix
      exact trimFront_cons (isBlank_of_trimFront ht.symm) r
  rw [trim, hfront, trim, hback, hback, List.reverse_reverse, trimFront_trimFront]

/-- A text that neither starts nor ends with a blank is left as it is. -/
theorem trim_of_ends {first last : Char} (hfirst : isBlank first = false)
    (hlast : isBlank last = false) (middle : List Char) :
    trim (first :: (middle ++ [last])) = first :: (middle ++ [last]) := by
  have hback : ∀ t, trimBack t = (trimFront t.reverse).reverse := fun _ => rfl
  have hreverse : (first :: (middle ++ [last])).reverse = last :: (middle.reverse ++ [first]) := by
    simp
  rw [trim, trimFront_cons hfirst, hback, hreverse, trimFront_cons hlast, ← hreverse,
    List.reverse_reverse]

end Text
end FormDispatch
