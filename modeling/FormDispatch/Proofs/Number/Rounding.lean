/-
# Rounding to the nearest number

What rounding a ratio to a floating-point number depends on, and what it leaves alone. The scale
that `Binary64.scale` computes from the lengths of numerator and denominator is the least one at
which the significand fits (`scale_le_iff`). So the rank depends on the ratio and not on how it is
written (`nearestRank_congr`), and a ratio that is a number already is rounded to itself
(`nearestRank_exact`).
-/

import Mathlib.Tactic.Ring
import FormDispatch.Number.Binary64

namespace FormDispatch
namespace Binary64

/-- How far below the point the least number lies: it is two to the power of this, negated. -/
def places : Nat := 1074

theorem two_mul_binade : 2 * binade = 2 ^ 53 := by
  decide

/-- The significand of a ratio fits at a scale: in units of the scale the ratio lies below twice the
hidden bit. -/
def Fits (num den power : Nat) : Prop :=
  num * 2 ^ places < den * 2 ^ power * 2 ^ 53

/-- At a greater scale a significand fits all the more. -/
theorem Fits.mono {num den p q : Nat} (h : Fits num den p) (hpq : p ≤ q) : Fits num den q := by
  have hpow : 2 ^ p ≤ 2 ^ q := Nat.pow_le_pow_right (by decide) hpq
  exact Nat.lt_of_lt_of_le h
    (Nat.mul_le_mul_right _ (Nat.mul_le_mul_left den hpow))

/-- The quotient of the scaled ratio tells whether the significand fits. -/
theorem fits_iff {num den : Nat} (hden : den ≠ 0) (power : Nat) :
    (num <<< places) / (den <<< power) < 2 * binade ↔ Fits num den power := by
  have hpos : 0 < den <<< power := by
    rw [Nat.shiftLeft_eq]
    exact Nat.mul_pos (Nat.pos_of_ne_zero hden) (Nat.pow_pos (by decide))
  rw [Nat.div_lt_iff_lt_mul hpos, two_mul_binade, Fits, Nat.shiftLeft_eq, Nat.shiftLeft_eq,
    Nat.mul_comm (2 ^ 53)]

/-- The scale from which `scale` starts. -/
def firstScale (num den : Nat) : Nat :=
  (num.log2 + places) - (den.log2 + 53)

/-- One above the first scale every significand fits. -/
theorem fits_firstScale_succ {num den : Nat} (hden : den ≠ 0) :
    Fits num den (firstScale num den + 1) := by
  have hnum : num < 2 ^ (num.log2 + 1) := Nat.lt_log2_self
  have hlog : 2 ^ den.log2 ≤ den := Nat.log2_self_le hden
  calc num * 2 ^ places
    _ < 2 ^ (num.log2 + 1) * 2 ^ places :=
      Nat.mul_lt_mul_of_pos_right hnum (Nat.pow_pos (by decide))
    _ = 2 ^ (num.log2 + 1 + places) := (Nat.pow_add ..).symm
    _ ≤ 2 ^ (den.log2 + (firstScale num den + 1) + 53) :=
      Nat.pow_le_pow_right (by decide) (by unfold firstScale; omega)
    _ = 2 ^ den.log2 * 2 ^ (firstScale num den + 1) * 2 ^ 53 := by rw [Nat.pow_add, Nat.pow_add]
    _ ≤ den * 2 ^ (firstScale num den + 1) * 2 ^ 53 :=
      Nat.mul_le_mul_right _ (Nat.mul_le_mul_right _ hlog)

/-- Below the first scale no significand fits. -/
theorem not_fits_of_lt {num den power : Nat} (hnum : num ≠ 0) (h : power < firstScale num den) :
    ¬ Fits num den power := by
  have hlog : 2 ^ num.log2 ≤ num := Nat.log2_self_le hnum
  have hden : den ≤ 2 ^ (den.log2 + 1) := Nat.le_of_lt Nat.lt_log2_self
  refine Nat.not_lt.2 ?_
  calc den * 2 ^ power * 2 ^ 53
    _ ≤ 2 ^ (den.log2 + 1) * 2 ^ power * 2 ^ 53 :=
      Nat.mul_le_mul_right _ (Nat.mul_le_mul_right _ hden)
    _ = 2 ^ (den.log2 + 1 + power + 53) := by rw [← Nat.pow_add, ← Nat.pow_add]
    _ ≤ 2 ^ (num.log2 + places) :=
      Nat.pow_le_pow_right (by decide) (by unfold firstScale at h; omega)
    _ = 2 ^ num.log2 * 2 ^ places := Nat.pow_add ..
    _ ≤ num * 2 ^ places := Nat.mul_le_mul_right _ hlog

theorem scale_eq (num den : Nat) :
    scale num den =
      if (num <<< places) / (den <<< firstScale num den) < 2 * binade then firstScale num den
      else firstScale num den + 1 :=
  rfl

/-- **The scale of a ratio is the least at which the significand fits.** -/
theorem scale_le_iff {num den : Nat} (hnum : num ≠ 0) (hden : den ≠ 0) (power : Nat) :
    scale num den ≤ power ↔ Fits num den power := by
  rw [scale_eq]
  split
  · next hfits =>
    rw [fits_iff hden] at hfits
    refine ⟨hfits.mono, fun h => Nat.not_lt.1 fun hlt => not_fits_of_lt hnum hlt h⟩
  · next hfits =>
    rw [fits_iff hden] at hfits
    refine ⟨(fits_firstScale_succ hden).mono, fun h => Nat.not_lt.1 fun hlt => ?_⟩
    exact hfits (h.mono (Nat.le_of_lt_succ hlt))

/-- The scale does not change with numerator and denominator times the same. -/
theorem scale_mul {num den c : Nat} (hnum : num ≠ 0) (hden : den ≠ 0) (hc : c ≠ 0) :
    scale (num * c) (den * c) = scale num den := by
  have hcpos := Nat.pos_of_ne_zero hc
  have hfits : ∀ power, Fits (num * c) (den * c) power ↔ Fits num den power := by
    intro power
    rw [Fits, Fits, show num * c * 2 ^ places = num * 2 ^ places * c by ring,
      show den * c * 2 ^ power * 2 ^ 53 = den * 2 ^ power * 2 ^ 53 * c by ring,
      Nat.mul_lt_mul_right hcpos]
  have hle : ∀ power, scale (num * c) (den * c) ≤ power ↔ scale num den ≤ power := by
    intro power
    rw [scale_le_iff hnum hden, ← hfits,
      scale_le_iff (Nat.mul_ne_zero hnum hc) (Nat.mul_ne_zero hden hc)]
  exact Nat.le_antisymm ((hle _).2 (Nat.le_refl _)) ((hle _).1 (Nat.le_refl _))

/-- A rounded quotient does not change with both its parts times the same. -/
theorem roundedQuotient_mul (num den : Nat) {c : Nat} (hc : 0 < c) :
    roundedQuotient (num * c) (den * c) = roundedQuotient num den := by
  have hlt : ∀ a b : Nat, a * c < b * c ↔ a < b := fun a b => Nat.mul_lt_mul_right hc
  simp only [roundedQuotient, Nat.mul_div_mul_right _ _ hc, Nat.mul_mod_mul_right, ← Nat.mul_assoc,
    hlt]

/-- A quotient without remainder is not rounded. -/
theorem roundedQuotient_exact (n : Nat) {den : Nat} (hden : 0 < den) :
    roundedQuotient (n * den) den = n := by
  simp [roundedQuotient, Nat.mul_div_cancel n hden, hden]

/-- The rank of a positive ratio: whole binades for its scale, and its significand. -/
theorem nearestRank_of_ne_zero {num : Nat} (hnum : num ≠ 0) (den : Nat) :
    nearestRank num den = scale num den * binade +
      roundedQuotient (num * 2 ^ places) (den * 2 ^ scale num den) := by
  rw [nearestRank, if_neg hnum, ← Nat.shiftLeft_eq, ← Nat.shiftLeft_eq]
  rfl

theorem nearestRank_mul {num den c : Nat} (hden : den ≠ 0) (hc : c ≠ 0) :
    nearestRank (num * c) (den * c) = nearestRank num den := by
  rcases Nat.eq_zero_or_pos num with rfl | hnum
  · simp [nearestRank]
  · have hne := Nat.mul_ne_zero hnum.ne' hc
    rw [nearestRank_of_ne_zero hne, nearestRank_of_ne_zero hnum.ne', scale_mul hnum.ne' hden hc,
      Nat.mul_right_comm num c, Nat.mul_right_comm den c,
      roundedQuotient_mul _ _ (Nat.pos_of_ne_zero hc)]

/-- **Equal ratios have the same nearest number**, however they are written. -/
theorem nearestRank_congr {num den num' den' : Nat} (hden : den ≠ 0) (hden' : den' ≠ 0)
    (h : num * den' = num' * den) : nearestRank num den = nearestRank num' den' := by
  rw [← nearestRank_mul hden hden', h, Nat.mul_comm den den', nearestRank_mul hden' hden]

/-! ### Numbers are rounded to themselves -/

/-- The scale of a rank, counted from the least. -/
def power (rank : Nat) : Nat :=
  max (rank / binade) 1 - 1

theorem exponent_eq (rank : Nat) : exponent rank = (power rank : Int) - places := by
  simp only [exponent, power, places]
  omega

theorem binade_pos : 0 < binade := by
  decide

/-- Ranks count binades and significands. -/
theorem power_mul_binade_add_significand (rank : Nat) :
    power rank * binade + significand rank = rank := by
  have hdiv := Nat.div_add_mod rank binade
  rw [Nat.mul_comm] at hdiv
  unfold power significand
  split
  · next hlt =>
    rw [Nat.div_eq_of_lt hlt]
    simp
  · next hge =>
    have hpos : 1 ≤ rank / binade := (Nat.one_le_div_iff binade_pos).2 (Nat.not_lt.1 hge)
    obtain ⟨k, hk⟩ : ∃ k, rank / binade = k + 1 := ⟨rank / binade - 1, by omega⟩
    rw [hk, Nat.succ_mul] at hdiv
    rw [hk, Nat.max_eq_left (by omega), Nat.add_sub_cancel]
    omega

/-- A significand lies below twice the hidden bit. -/
theorem significand_lt (rank : Nat) : significand rank < 2 * binade := by
  have hmod := Nat.mod_lt rank binade_pos
  unfold significand
  split <;> omega

/-- Beyond the least scale a significand has the hidden bit. -/
theorem binade_le_significand {rank : Nat} (h : 0 < power rank) : binade ≤ significand rank := by
  have hge : ¬ rank < binade := by
    intro hlt
    simp [power, Nat.div_eq_of_lt hlt] at h
  rw [significand, if_neg hge]
  exact Nat.le_add_right _ _

/-- **A ratio that is a number is rounded to that number.** -/
theorem nearestRank_exact {num den rank : Nat} (hden : den ≠ 0)
    (h : num * 2 ^ places = significand rank * (den * 2 ^ power rank)) :
    nearestRank num den = rank := by
  have hdenpos : 0 < den * 2 ^ power rank :=
    Nat.mul_pos (Nat.pos_of_ne_zero hden) (Nat.pow_pos (by decide))
  rcases Nat.eq_zero_or_pos num with rfl | hnum
  · have hzero : significand rank = 0 := by
      rw [Nat.zero_mul] at h
      exact (Nat.mul_eq_zero.1 h.symm).resolve_right hdenpos.ne'
    have hpower : power rank = 0 := Nat.eq_zero_of_not_pos fun hpos => by
      have := binade_le_significand hpos
      have := binade_pos
      omega
    have hrank := power_mul_binade_add_significand rank
    rw [hpower, hzero] at hrank
    rw [← hrank]
    simp [nearestRank]
  · have hfits : Fits num den (power rank) := by
      rw [Fits, h, Nat.mul_comm, ← two_mul_binade]
      exact Nat.mul_lt_mul_of_pos_left (significand_lt rank) hdenpos
    have hleast : ∀ p < power rank, ¬ Fits num den p := by
      intro p hp hlt
      have hbinade := binade_le_significand (Nat.zero_lt_of_lt hp)
      have hpow : den * 2 ^ p * 2 ≤ den * 2 ^ power rank := by
        rw [Nat.mul_assoc, ← Nat.pow_succ]
        exact Nat.mul_le_mul_left _ (Nat.pow_le_pow_right (by decide) hp)
      rw [Fits, h, ← two_mul_binade] at hlt
      have hle : den * 2 ^ p * (2 * binade) ≤ significand rank * (den * 2 ^ power rank) :=
        calc den * 2 ^ p * (2 * binade)
          _ = binade * (den * 2 ^ p * 2) := by ring
          _ ≤ significand rank * (den * 2 ^ power rank) := Nat.mul_le_mul hbinade hpow
      exact Nat.not_lt.2 hle hlt
    have hscale : scale num den = power rank := by
      refine Nat.le_antisymm ((scale_le_iff hnum.ne' hden _).2 hfits) (Nat.not_lt.1 fun hlt => ?_)
      exact hleast _ hlt ((scale_le_iff hnum.ne' hden _).1 (Nat.le_refl _))
    rw [nearestRank_of_ne_zero hnum.ne', hscale, h, roundedQuotient_exact _ hdenpos,
      power_mul_binade_add_significand]

end Binary64
end FormDispatch
