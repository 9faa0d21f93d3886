/-
# Digits and the numbers they form

The digits that a number is written with form that number again (`ofDigits_digits`), no zero leads
them needlessly (`digits_eq_cons`), and a number times a power of ten has as many more
(`length_digits_mul_pow`). So the numeral of an integer that is not too long is read as that
integer (`numeralText_chars`, `number_chars`).
-/

import Mathlib.Data.List.Induction
import Mathlib.Tactic.Ring
import FormDispatch.Proofs.Document.Numeral
import FormDispatch.Proofs.Result

namespace FormDispatch
namespace Numeral

open Document.Reader (NumeralParts NumeralText WholePart isLeadingDigit signText)

/-- A numeral is refused just when it has too many digits, and their number is told. -/
theorem readSigned_eq_error {numeral : Bool × List Char} {n : Nat} :
    readSigned numeral = .error n ↔ numeral.2.length = n ∧ longestNumeral < n := by
  unfold readSigned read
  rw [Result.map_eq_error]
  split
  · next hlong =>
    constructor
    · rintro ⟨⟩
      exact ⟨rfl, hlong⟩
    · rintro ⟨rfl, -⟩
      rfl
  · next hshort =>
    constructor
    · nofun
    · rintro ⟨rfl, hlong⟩
      exact absurd hlong hshort

/-- A numeral is converted just when it has no more digits than are converted. -/
theorem readSigned_eq_ok {numeral : Bool × List Char} {n : Int} :
    readSigned numeral = .ok n ↔
      numeral.2.length ≤ longestNumeral ∧ withSign numeral.1 (ofDigits numeral.2) = n := by
  unfold readSigned read
  rw [Result.map_eq_ok]
  split
  · next hlong => exact iff_of_false nofun fun h => Nat.not_lt_of_le h.1 hlong
  · next hshort => simp [Nat.le_of_not_lt hshort]

/-- The digits behind the sign of a numeral stand in its text, and all of them are digits. -/
theorem signed?_spec {s digits : List Char} {negative : Bool}
    (h : signed? s = some (negative, digits)) :
    digits.Sublist s ∧ ∀ c ∈ digits, Text.isDecimalDigit c = true := by
  unfold signed? at h
  split at h
  next sign behind hsplit =>
    have hbehind : behind.Sublist s := by
      split at hsplit <;> cases hsplit
      · exact List.sublist_cons_self _ _
      · exact List.sublist_cons_self _ _
      · exact List.Sublist.refl _
    split at h
    · cases h
    · next hdigits =>
      cases h
      rw [Bool.or_eq_true, not_or] at hdigits
      exact ⟨hbehind, List.all_eq_true.mp (by simpa using hdigits.2)⟩

/-- One more digit counts ten times what stands before it. -/
theorem ofDigits_concat (s : List Char) (c : Char) :
    ofDigits (s ++ [c]) = 10 * ofDigits s + (Text.digitValue? c).getD 0 := by
  simp [ofDigits]

/-- Digits in front count with the places behind them. -/
theorem ofDigits_append (s t : List Char) :
    ofDigits (s ++ t) = ofDigits s * 10 ^ t.length + ofDigits t := by
  induction t using List.reverseRecOn with
  | nil => simp [ofDigits]
  | append_singleton t c ih =>
    rw [← List.append_assoc, ofDigits_concat, ih, ofDigits_concat, List.length_append,
      List.length_singleton, Nat.pow_succ]
    ring

/-- Zeros form zero. -/
theorem ofDigits_replicate (n : Nat) : ofDigits (List.replicate n '0') = 0 := by
  induction n with
  | zero => rfl
  | succ n ih =>
    rw [List.replicate_succ', ofDigits_concat, ih]
    decide

/-- Zeros in front of digits do not count. -/
theorem ofDigits_zeros_append (n : Nat) (s : List Char) :
    ofDigits (List.replicate n '0' ++ s) = ofDigits s := by
  rw [ofDigits_append, ofDigits_replicate, Nat.zero_mul, Nat.zero_add]

/-- Zeros behind digits are powers of ten. -/
theorem ofDigits_append_zeros (s : List Char) (n : Nat) :
    ofDigits (s ++ List.replicate n '0') = ofDigits s * 10 ^ n := by
  rw [ofDigits_append, ofDigits_replicate, Nat.add_zero, List.length_replicate]

/-! ### The digits of a number -/

/-- A digit below ten has the value it shows. -/
theorem digitValue?_digitChar {d : Nat} (h : d < 10) : Text.digitValue? d.digitChar = some d := by
  have shown : ∀ d ∈ List.range 10, Text.digitValue? d.digitChar = some d := by decide
  exact shown d (List.mem_range.2 h)

/-- The last digit of a number, and those before it. -/
theorem digits_of_ten_le {n : Nat} (h : 10 ≤ n) :
    digits n = digits (n / 10) ++ [(n % 10).digitChar] :=
  Nat.toDigits_of_base_le (by decide) h

/-- **The digits of a number form the number.** -/
theorem ofDigits_digits (n : Nat) : ofDigits (digits n) = n := by
  induction n using Nat.strongRecOn with
  | ind n ih =>
    rcases Nat.lt_or_ge n 10 with h | h
    · rw [digits, Nat.toDigits_of_lt_base h]
      simp [ofDigits, digitValue?_digitChar h]
    · have hlt : n / 10 < n := Nat.div_lt_self (by omega) (by decide)
      rw [digits_of_ten_le h, ofDigits_concat, ih _ hlt,
        digitValue?_digitChar (Nat.mod_lt n (by decide))]
      exact Nat.div_add_mod n 10

/-- Numbers are written in ASCII digits. -/
theorem isDigit_of_mem_digits {n : Nat} {c : Char} (h : c ∈ digits n) : c.isDigit = true :=
  Nat.isDigit_of_mem_toDigits (by decide) (by decide) h

theorem digits_ne_nil (n : Nat) : digits n ≠ [] :=
  Nat.toDigits_ne_nil

/-- A number other than zero starts with a digit that may lead. -/
theorem digits_eq_cons {n : Nat} (h : n ≠ 0) :
    ∃ c s, digits n = c :: s ∧ isLeadingDigit c = true ∧ ∀ d ∈ s, d.isDigit = true := by
  induction n using Nat.strongRecOn with
  | ind n ih =>
    rcases Nat.lt_or_ge n 10 with hlt | hge
    · have leads : ∀ d ∈ List.range 10, d ≠ 0 → isLeadingDigit d.digitChar = true := by
        decide
      rw [digits, Nat.toDigits_of_lt_base hlt]
      exact ⟨_, [], rfl, leads n (List.mem_range.2 hlt) h, nofun⟩
    · have hless : n / 10 < n := Nat.div_lt_self (by omega) (by decide)
      obtain ⟨c, s, hs, hc, hrest⟩ := ih (n / 10) hless (by omega)
      have hall : ∀ d ∈ digits n, d.isDigit = true := fun d => isDigit_of_mem_digits
      rw [digits_of_ten_le hge, hs] at hall ⊢
      exact ⟨c, s ++ [(n % 10).digitChar], rfl, hc, fun d hd => hall d (List.mem_cons_of_mem c hd)⟩

/-- Ten times as much is one digit more. -/
theorem digits_mul_ten {n : Nat} (h : n ≠ 0) : digits (n * 10) = digits n ++ ['0'] := by
  rw [digits_of_ten_le (by omega), Nat.mul_div_cancel n (by decide), Nat.mul_mod_left]
  rfl

/-- A power of ten is as many digits more. -/
theorem length_digits_mul_pow {n : Nat} (h : n ≠ 0) (k : Nat) :
    (digits (n * 10 ^ k)).length = (digits n).length + k := by
  induction k with
  | zero => rw [Nat.pow_zero, Nat.mul_one, Nat.add_zero]
  | succ k ih =>
    have hne : n * 10 ^ k ≠ 0 := Nat.mul_ne_zero h (Nat.pow_pos (by decide)).ne'
    rw [Nat.pow_succ, ← Nat.mul_assoc, digits_mul_ten hne, List.length_append, ih]
    rfl

/-- So many digits are enough below a power of ten, and only there. -/
theorem length_digits_le_iff {n k : Nat} (h : 0 < k) : (digits n).length ≤ k ↔ n < 10 ^ k :=
  Nat.length_toDigits_le_iff (by decide) h

/-! ### Numerals of integers -/

/-- The digits of a number are the whole part of a numeral. -/
theorem wholePart_digits (n : Nat) : WholePart Char.isDigit isLeadingDigit (digits n) := by
  rcases Nat.eq_zero_or_pos n with rfl | h
  · exact .zero
  · obtain ⟨c, s, hs, hc, hrest⟩ := digits_eq_cons h.ne'
    rw [hs]
    exact .digits hc hrest

/-- **The text of an integer is a numeral.** -/
theorem numeralText_chars (n : Int) :
    NumeralText Char.isDigit isLeadingDigit ⟨decide (n < 0), digits n.natAbs, none, none⟩
      (chars n) := by
  have h : NumeralText Char.isDigit isLeadingDigit ⟨decide (n < 0), digits n.natAbs, none, none⟩
      (signText (decide (n < 0)) ++ (digits n.natAbs ++ ([] ++ []))) :=
    .parts (wholePart_digits n.natAbs) .none .none
  rw [chars]
  split
  · next hn => simpa [hn, signText] using h
  · next hn => simpa [hn, signText] using h

/-- **The numeral of an integer that is not too long stands for the integer.** -/
theorem number_chars {n : Int} (h : (digits n.natAbs).length ≤ longestNumeral) :
    NumeralParts.number ⟨decide (n < 0), digits n.natAbs, none, none⟩ = .ok (.int n) := by
  have signed : withSign (decide (n < 0)) n.natAbs = n := by
    rw [withSign]
    split
    · next hn => simp only [decide_eq_true_eq] at hn; omega
    · next hn => simp only [decide_eq_true_eq] at hn; omega
  simp only [NumeralParts.number, readSigned, read, if_neg (Nat.not_lt.2 h), ofDigits_digits,
    Except.map, signed]

end Numeral
end FormDispatch
