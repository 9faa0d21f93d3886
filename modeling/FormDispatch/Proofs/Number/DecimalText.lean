/-
# Floating-point numbers read back

The text that a finite floating-point number is written with is a JSON numeral, and reading it gives
the number again (`number_finiteChars`). Zeros at the end of a decimal count as powers of ten
(`ofDecimal_mul_pow`), so it does not matter where a layout puts the point; and where no decimal of
17 digits reads back, the exact expansion does (`readsBack_expansion`).
-/

import FormDispatch.Proofs.Number.Digits
import FormDispatch.Proofs.Number.Rounding

namespace FormDispatch
namespace Binary64

open Document.Reader (NumeralParts NumeralText WholePart FractionPart ExponentPart AreDigits
  isLeadingDigit signText)

/-! ### The number nearest to a decimal -/

/-- The place of the first digit of a decimal, one above it. -/
def pointOf (digits : Nat) (exponent : Int) : Int :=
  exponent + (Numeral.digits digits).length

/-- A decimal that is neither zero nor far from the point is a ratio. -/
theorem ofDecimal_eq (negative : Bool) {digits : Nat} (hd : digits ≠ 0) (exponent : Int) :
    ofDecimal negative digits exponent =
      if pointOf digits exponent > 400 then .infinite negative
      else if pointOf digits exponent < -400 then zero negative
      else ofRatio negative (digits * 10 ^ exponent.toNat) (10 ^ (-exponent).toNat) := by
  unfold ofDecimal
  rw [if_neg hd]
  cases exponent with
  | ofNat e =>
    have htoNat : (-(Int.ofNat e)).toNat = 0 := by
      simp only [Int.ofNat_eq_natCast]
      omega
    rw [htoNat, Nat.pow_zero]
    rfl
  | negSucc e => rw [Int.toNat_negSucc, Nat.pow_zero, Nat.mul_one]; rfl

/-- Equal ratios are rounded alike. -/
theorem ofRatio_congr (negative : Bool) {num den num' den' : Nat} (hden : den ≠ 0)
    (hden' : den' ≠ 0) (h : num * den' = num' * den) :
    ofRatio negative num den = ofRatio negative num' den' := by
  simp only [ofRatio, nearestRank_congr hden hden' h]

/-- **Zeros at the end of a decimal count as powers of ten.** -/
theorem ofDecimal_mul_pow (negative : Bool) (digits k : Nat) (exponent : Int) :
    ofDecimal negative (digits * 10 ^ k) exponent = ofDecimal negative digits (exponent + k) := by
  rcases Nat.eq_zero_or_pos digits with rfl | hd
  · simp [ofDecimal]
  · have hpow : ∀ n : Nat, 10 ^ n ≠ 0 := fun n => (Nat.pow_pos (by decide)).ne'
    have hpoint : pointOf (digits * 10 ^ k) exponent = pointOf digits (exponent + k) := by
      rw [pointOf, pointOf, Numeral.length_digits_mul_pow hd.ne']
      omega
    have hratio : digits * 10 ^ k * 10 ^ exponent.toNat * 10 ^ (-(exponent + k)).toNat =
        digits * 10 ^ (exponent + k).toNat * 10 ^ (-exponent).toNat := by
      have hsum : k + exponent.toNat + (-(exponent + k)).toNat =
          (exponent + k).toNat + (-exponent).toNat := by omega
      rw [Nat.mul_assoc digits, Nat.mul_assoc digits, ← Nat.pow_add, ← Nat.pow_add, hsum,
        Nat.pow_add, ← Nat.mul_assoc]
    rw [ofDecimal_eq _ (Nat.mul_ne_zero hd.ne' (hpow k)), ofDecimal_eq _ hd.ne', hpoint,
      ofRatio_congr negative (hpow _) (hpow _) hratio]

/-- The sign of a decimal is that of its number. -/
theorem ofDecimal_sign {digits : Nat} {exponent : Int} {rank : Fin rankCount}
    (h : ofDecimal false digits exponent = .finite false rank) (negative : Bool) :
    ofDecimal negative digits exponent = .finite negative rank := by
  have hratio : ∀ {num den : Nat}, ofRatio false num den = .finite false rank →
      ofRatio negative num den = .finite negative rank := by
    intro num den h
    simp only [ofRatio] at h ⊢
    split at h
    · next hlt =>
      cases h
      rw [dif_pos hlt]
    · cases h
  have hzero : zero false = .finite false rank → zero negative = .finite negative rank := by
    intro h
    cases h
    rfl
  rcases Nat.eq_zero_or_pos digits with rfl | hd
  · simp only [ofDecimal, if_true] at h ⊢
    exact hzero h
  · rw [ofDecimal_eq _ hd.ne'] at h ⊢
    split at h
    · cases h
    · next hfar =>
      rw [if_neg hfar]
      split at h
      · next hnear =>
        rw [if_pos hnear]
        exact hzero h
      · next hnear =>
        rw [if_neg hnear]
        exact hratio h

/-- A decimal that is a number near the point is rounded to that number. -/
theorem ofDecimal_exact {digits : Nat} {exponent : Int} {rank : Fin rankCount} (hd : digits ≠ 0)
    (least : -400 ≤ pointOf digits exponent) (greatest : pointOf digits exponent ≤ 400)
    (h : digits * 10 ^ exponent.toNat * 2 ^ places =
      significand rank * (10 ^ (-exponent).toNat * 2 ^ power rank)) :
    ofDecimal false digits exponent = .finite false rank := by
  have hden : 10 ^ (-exponent).toNat ≠ 0 := (Nat.pow_pos (by decide)).ne'
  rw [ofDecimal_eq _ hd, if_neg (Int.not_lt.2 greatest), if_neg (Int.not_lt.2 least)]
  simp only [ofRatio, nearestRank_exact hden h, rank.isLt, dite_true]

/-! ### The exact expansion reads back -/

theorem two_pow_le_ten_pow {a k : Nat} (h : a ≤ 3 * k) : 2 ^ a ≤ 10 ^ k :=
  calc 2 ^ a
    _ ≤ 2 ^ (3 * k) := Nat.pow_le_pow_right (by decide) h
    _ = 8 ^ k := Nat.pow_mul 2 3 k
    _ ≤ 10 ^ k := Nat.pow_le_pow_left (by decide) k

/-- Powers of two have few digits. -/
theorem length_digits_le_of_lt_two_pow {n a k : Nat} (h : n < 2 ^ a) (hk : a ≤ 3 * k)
    (pos : 0 < k) : (Numeral.digits n).length ≤ k :=
  (Numeral.length_digits_le_iff pos).2 (Nat.lt_of_lt_of_le h (two_pow_le_ten_pow hk))

/-- Powers of five have fewer digits than those of ten. -/
theorem length_digits_mul_five_pow_le {n a k : Nat} (h : n < 2 ^ a) (hk : a ≤ 3 * k)
    (pos : 0 < k) (m : Nat) : (Numeral.digits (n * 5 ^ m)).length ≤ k + m := by
  refine (Numeral.length_digits_le_iff (by omega)).2 ?_
  calc n * 5 ^ m
    _ < 2 ^ a * 5 ^ m := Nat.mul_lt_mul_of_pos_right h (Nat.pow_pos (by decide))
    _ ≤ 10 ^ k * 10 ^ m :=
      Nat.mul_le_mul (two_pow_le_ten_pow hk) (Nat.pow_le_pow_left (by decide) m)
    _ = 10 ^ (k + m) := (Nat.pow_add ..).symm

/-- Powers of five do not have much fewer digits than those of ten. -/
theorem lt_length_digits_mul_five_pow {n k m : Nat} (hn : n ≠ 0) (hk : m ≤ 3 * k) (hm : k < m) :
    m - k < (Numeral.digits (n * 5 ^ m)).length := by
  refine Nat.lt_of_not_le fun hle => ?_
  have hlt := (Numeral.length_digits_le_iff (Nat.sub_pos_of_lt hm)).1 hle
  refine Nat.not_le.2 hlt (Nat.le_of_mul_le_mul_left ?_ (Nat.pow_pos (n := k) (Nat.succ_pos 9)))
  calc 10 ^ k * 10 ^ (m - k)
    _ = 10 ^ m := by rw [← Nat.pow_add, Nat.add_sub_cancel' (Nat.le_of_lt hm)]
    _ = 2 ^ m * 5 ^ m := Nat.mul_pow 2 5 m
    _ ≤ 10 ^ k * (n * 5 ^ m) :=
      Nat.mul_le_mul (two_pow_le_ten_pow hk) (Nat.le_mul_of_pos_left _ (Nat.pos_of_ne_zero hn))

/-- The scale of a finite rank is not beyond the greatest. -/
theorem power_le (rank : Fin rankCount) : power rank ≤ 2045 := by
  have hdiv : rank.val / binade < 2047 := by
    rw [Nat.div_lt_iff_lt_mul binade_pos]
    exact rank.isLt
  unfold power
  omega

theorem significand_ne_zero {rank : Nat} (h : rank ≠ 0) : significand rank ≠ 0 := by
  intro hzero
  have hpower : power rank = 0 := Nat.eq_zero_of_not_pos fun hpos => by
    have := binade_le_significand hpos
    have := binade_pos
    omega
  have hrank := power_mul_binade_add_significand rank
  rw [hpower, hzero] at hrank
  omega

/-- **The exact expansion of a number reads back as the number.** -/
theorem readsBack_expansion {rank : Fin rankCount} (h : rank.val ≠ 0) :
    readsBack rank (expansion rank) = true := by
  have hsig := significand_ne_zero h
  have hlt : significand rank < 2 ^ 53 := two_mul_binade ▸ significand_lt rank
  have hpower := power_le rank
  have hplaces : places = 1074 := rfl
  have hexponent := exponent_eq rank
  rw [readsBack, beq_iff_eq, expansion]
  cases he : exponent rank with
  | ofNat e =>
    rw [he, Int.ofNat_eq_natCast] at hexponent
    have hpos : significand rank * 2 ^ e ≠ 0 :=
      Nat.mul_ne_zero hsig (Nat.pow_pos (by decide)).ne'
    have hlen : (Numeral.digits (significand rank * 2 ^ e)).length ≤ 400 := by
      have hbound : significand rank * 2 ^ e < 2 ^ (53 + e) := by
        rw [Nat.pow_add]
        exact Nat.mul_lt_mul_of_pos_right hlt (Nat.pow_pos (by decide))
      exact length_digits_le_of_lt_two_pow hbound (by omega) (by decide)
    have hratio : significand rank * 2 ^ e * 10 ^ (0 : Int).toNat * 2 ^ places =
        significand rank * (10 ^ (-0 : Int).toNat * 2 ^ power rank) := by
      have hsum : power rank = e + places := by omega
      simp only [hsum, Int.toNat_zero, Int.neg_zero, Nat.pow_zero, Nat.mul_one, Nat.one_mul,
        Nat.mul_assoc, Nat.pow_add]
    simp only [Nat.shiftLeft_eq]
    exact ofDecimal_exact hpos (by simp only [pointOf]; omega) (by simp only [pointOf]; omega)
      hratio
  | negSucc e =>
    rw [he] at hexponent
    have hm : e + 1 + power rank = places := by omega
    have hten : 10 ^ (e + 1) = 5 ^ (e + 1) * 2 ^ (e + 1) := Nat.mul_pow 5 2 (e + 1)
    have hfive : 10 ^ (e + 1) >>> (e + 1) = 5 ^ (e + 1) := by
      rw [Nat.shiftRight_eq_div_pow, hten, Nat.mul_div_cancel _ (Nat.pow_pos (by decide))]
    have hpos : significand rank * 5 ^ (e + 1) ≠ 0 :=
      Nat.mul_ne_zero hsig (Nat.pow_pos (by decide)).ne'
    have hgreatest := length_digits_mul_five_pow_le (k := 400) hlt (by decide) (by decide) (e + 1)
    have hleast : e + 1 ≤ 400 + (Numeral.digits (significand rank * 5 ^ (e + 1))).length := by
      rcases Nat.lt_or_ge 400 (e + 1) with hfar | hnear
      · have := lt_length_digits_mul_five_pow (k := 400) hsig (by omega) hfar
        omega
      · omega
    have hratio : significand rank * 5 ^ (e + 1) * 10 ^ (Int.negSucc e).toNat * 2 ^ places =
        significand rank * (10 ^ (-Int.negSucc e).toNat * 2 ^ power rank) := by
      rw [← hm, Nat.pow_add, Int.toNat_negSucc, Int.neg_negSucc, Int.toNat_natCast, hten]
      ring
    simp only [Numeral.tenTo, Nat.pow_eq, hfive]
    refine ofDecimal_exact hpos ?_ ?_ hratio
    · simp only [pointOf]
      omega
    · simp only [pointOf]
      omega

/-- The decimal that a number is written as reads back as the number. -/
theorem ofDecimal_shortest {rank : Fin rankCount} (h : rank.val ≠ 0) :
    ofDecimal false (shortest rank).digits (shortest rank).exponent = .finite false rank := by
  have hback : readsBack rank (shortest rank) = true := by
    cases hfound : roundTripping? rank with
    | some c => exact shortest_reads_back (by rw [hfound]; rfl)
    | none =>
      rw [shortest, hfound]
      exact readsBack_expansion h
  exact beq_iff_eq.1 hback

/-! ### Laid out decimals -/

/-- Zeros taken from the end of a number are powers of ten. -/
theorem withoutZeros_spec (fuel n : Nat) :
    (withoutZeros fuel n).1 * 10 ^ (withoutZeros fuel n).2 = n := by
  induction fuel generalizing n with
  | zero => exact Nat.mul_one n
  | succ fuel ih =>
    rw [withoutZeros]
    split
    · next h =>
      simp only [Nat.pow_succ, ← Nat.mul_assoc, ih]
      omega
    · exact Nat.mul_one n

/-- Nonzero digits with zeros behind them are the whole part of a numeral. -/
theorem wholePart_append_zeros {n : Nat} (h : n ≠ 0) (k : Nat) :
    WholePart Char.isDigit isLeadingDigit (Numeral.digits n ++ List.replicate k '0') := by
  obtain ⟨c, s, hs, hc, hrest⟩ := Numeral.digits_eq_cons h
  rw [hs]
  refine .digits hc fun d hd => ?_
  rcases List.mem_append.1 hd with hd | hd
  · exact hrest d hd
  · rw [List.eq_of_mem_replicate hd]
    decide

/-- The first digits of a number other than zero are the whole part of a numeral. -/
theorem wholePart_take {n : Nat} (h : n ≠ 0) (k : Nat) :
    WholePart Char.isDigit isLeadingDigit ((Numeral.digits n).take (k + 1)) := by
  obtain ⟨c, s, hs, hc, hrest⟩ := Numeral.digits_eq_cons h
  rw [hs]
  exact .digits hc fun d hd => hrest d (List.mem_of_mem_take hd)

/-- A text is the numeral of a floating-point number. -/
def IsNumeralOf (negative : Bool) (x : Binary64) (t : List Char) : Prop :=
  ∃ parts, NumeralText Char.isDigit isLeadingDigit parts (signText negative ++ t) ∧
    parts.number = .ok (.float x)

/-- A numeral with a point stands for its digits with the point at their place. -/
theorem isNumeralOf_point {whole fraction : List Char} (negative : Bool)
    (hw : WholePart Char.isDigit isLeadingDigit whole) (hf : AreDigits Char.isDigit fraction) :
    IsNumeralOf negative
      (ofDecimal negative (Numeral.ofDigits (whole ++ fraction)) (-fraction.length))
      (whole ++ '.' :: fraction) := by
  have htext : NumeralText Char.isDigit isLeadingDigit ⟨negative, whole, some fraction, none⟩ _ :=
    .parts hw (.some hf) .none
  rw [List.append_nil] at htext
  refine ⟨_, htext, ?_⟩
  simp only [NumeralParts.number, Option.getD_some, Int.zero_sub]

/-- The text of an exponent. -/
def exponentText (place : Int) : List Char :=
  'e' :: (if place < 0 then '-' else '+') :: padded 2 (Numeral.digits place.natAbs)

/-- The digits of a padded exponent form its number. -/
theorem ofDigits_padded (width n : Nat) :
    Numeral.ofDigits (padded width (Numeral.digits n)) = n := by
  rw [padded, Numeral.ofDigits_zeros_append, Numeral.ofDigits_digits]

theorem areDigits_padded (width n : Nat) :
    AreDigits Char.isDigit (padded width (Numeral.digits n)) := by
  refine ⟨?_, fun c hc => ?_⟩
  · simp [padded, Numeral.digits_ne_nil]
  · rcases List.mem_append.1 hc with hc | hc
    · rw [List.eq_of_mem_replicate hc]
      decide
    · exact Numeral.isDigit_of_mem_digits hc

/-- The text of an exponent is one of a numeral. -/
theorem exponentPart_exponentText (place : Int) :
    ExponentPart Char.isDigit (some (decide (place < 0), padded 2 (Numeral.digits place.natAbs)))
      (exponentText place) := by
  have hdigits := areDigits_padded 2 place.natAbs
  unfold exponentText
  split
  · next h => simpa [h] using ExponentPart.minus (.inl rfl) hdigits
  · next h => simpa [h] using ExponentPart.plus (.inl rfl) hdigits

theorem withSign_natAbs (place : Int) :
    Numeral.withSign (decide (place < 0)) place.natAbs = place := by
  unfold Numeral.withSign
  split
  · next h => simp only [decide_eq_true_eq] at h; omega
  · next h => simp only [decide_eq_true_eq] at h; omega

/-- A numeral with an exponent stands for its digits with the point moved by so many places. -/
theorem isNumeralOf_exponent {d : Char} {rest point : List Char} (negative : Bool)
    (hd : isLeadingDigit d = true) (hrest : ∀ c ∈ rest, c.isDigit = true)
    (hpoint : point = if rest = [] then [d] else d :: '.' :: rest) (place : Int) :
    IsNumeralOf negative (ofDecimal negative (Numeral.ofDigits (d :: rest)) (place - rest.length))
      (point ++ exponentText place) := by
  have hexponent := exponentPart_exponentText place
  have hwhole : WholePart Char.isDigit isLeadingDigit [d] := .digits hd nofun
  split at hpoint
  · next hnil =>
    subst hnil hpoint
    have htext : NumeralText Char.isDigit isLeadingDigit
        ⟨negative, [d], none,
          some (decide (place < 0), padded 2 (Numeral.digits place.natAbs))⟩ _ :=
      .parts hwhole .none hexponent
    refine ⟨_, htext, ?_⟩
    simp only [NumeralParts.number, Option.getD_none, ofDigits_padded, withSign_natAbs,
      List.append_nil]
  · next hne =>
    subst hpoint
    have htext : NumeralText Char.isDigit isLeadingDigit
        ⟨negative, [d], some rest,
          some (decide (place < 0), padded 2 (Numeral.digits place.natAbs))⟩ _ :=
      .parts hwhole (.some ⟨hne, hrest⟩) hexponent
    refine ⟨_, htext, ?_⟩
    simp only [NumeralParts.number, Option.getD_some, ofDigits_padded, withSign_natAbs,
      List.singleton_append]

/-- All digits before the point, with zeros between. -/
theorem isNumeralOf_zeros_behind (negative : Bool) {n : Nat} (hn : n ≠ 0) (k : Nat) :
    IsNumeralOf negative (ofDecimal negative n k)
      (Numeral.digits n ++ List.replicate k '0' ++ '.' :: ['0']) := by
  have hzero : AreDigits Char.isDigit ['0'] :=
    ⟨by decide, List.all_eq_true.mp (by decide)⟩
  have hform := isNumeralOf_point negative (wholePart_append_zeros hn k) hzero
  have hvalue : Numeral.ofDigits (Numeral.digits n ++ List.replicate k '0' ++ ['0']) =
      n * 10 ^ (k + 1) := by
    rw [List.append_assoc, ← List.replicate_succ', Numeral.ofDigits_append_zeros,
      Numeral.ofDigits_digits]
  have hplace : -(['0'].length : Int) + (k + 1 : Nat) = k := by
    simp only [List.length_singleton]
    omega
  rwa [hvalue, ofDecimal_mul_pow, hplace] at hform

/-- The point between the digits. -/
theorem isNumeralOf_between (negative : Bool) {n p : Nat} (hn : n ≠ 0)
    (h : p + 1 < (Numeral.digits n).length) :
    IsNumeralOf negative (ofDecimal negative n (p + 1 - (Numeral.digits n).length))
      ((Numeral.digits n).take (p + 1) ++ '.' :: (Numeral.digits n).drop (p + 1)) := by
  have hdrop : AreDigits Char.isDigit ((Numeral.digits n).drop (p + 1)) :=
    ⟨fun hnil => absurd (List.drop_eq_nil_iff.1 hnil) (Nat.not_le.2 h),
      fun d hd => Numeral.isDigit_of_mem_digits (List.mem_of_mem_drop hd)⟩
  have hform := isNumeralOf_point negative (wholePart_take hn p) hdrop
  have hplace : -(((Numeral.digits n).length - (p + 1) : Nat) : Int) =
      p + 1 - (Numeral.digits n).length := by omega
  rwa [List.take_append_drop, Numeral.ofDigits_digits, List.length_drop, hplace] at hform

/-- The point before all digits, with zeros between. -/
theorem isNumeralOf_zeros_front (negative : Bool) (n p : Nat) :
    IsNumeralOf negative (ofDecimal negative n (-(p + (Numeral.digits n).length)))
      ('0' :: '.' :: List.replicate p '0' ++ Numeral.digits n) := by
  have hdigits : AreDigits Char.isDigit (List.replicate p '0' ++ Numeral.digits n) := by
    refine ⟨by simp [Numeral.digits_ne_nil], fun d hd => ?_⟩
    rcases List.mem_append.1 hd with hd | hd
    · rw [List.eq_of_mem_replicate hd]
      decide
    · exact Numeral.isDigit_of_mem_digits hd
  have hform := isNumeralOf_point negative .zero hdigits
  have hvalue : Numeral.ofDigits (['0'] ++ (List.replicate p '0' ++ Numeral.digits n)) = n := by
    rw [← List.append_assoc, ← List.replicate_one, List.replicate_append_replicate,
      Numeral.ofDigits_zeros_append, Numeral.ofDigits_digits]
  rwa [hvalue, List.length_append, List.length_replicate, Int.natCast_add] at hform

/-- One digit before the point, if there are more, and an exponent. -/
theorem isNumeralOf_scientific (negative : Bool) {n : Nat} (hn : n ≠ 0) (place : Int) :
    IsNumeralOf negative (ofDecimal negative n (place + 1 - (Numeral.digits n).length))
      ((match Numeral.digits n with
        | [] => []
        | [d] => [d]
        | d :: rest => d :: '.' :: rest) ++ exponentText place) := by
  obtain ⟨d, rest, hcons, hd, hrest⟩ := Numeral.digits_eq_cons hn
  have hform := isNumeralOf_exponent negative hd hrest rfl place
  have hplace : place - rest.length = place + 1 - (Numeral.digits n).length := by
    rw [hcons, List.length_cons]
    omega
  rw [hplace, ← hcons, Numeral.ofDigits_digits] at hform
  rw [hcons] at hform ⊢
  cases rest with
  | nil => exact hform
  | cons e r => exact hform

/-- **The laid out text of a decimal is a numeral, and stands for the decimal.** -/
theorem isNumeralOf_layout (negative : Bool) {c : Decimal} (hc : c.digits ≠ 0) :
    IsNumeralOf negative (ofDecimal negative c.digits c.exponent) (layout plainStyle c) := by
  have hzeros := withoutZeros_spec (Numeral.digits c.digits).length c.digits
  unfold layout
  generalize withoutZeros (Numeral.digits c.digits).length c.digits = stripped at hzeros ⊢
  obtain ⟨n, k⟩ := stripped
  dsimp only at hzeros ⊢
  have hn : n ≠ 0 := by
    rintro rfl
    rw [Nat.zero_mul] at hzeros
    exact hc hzeros.symm
  rw [← hzeros, ofDecimal_mul_pow]
  generalize hplace : c.exponent + k + (Numeral.digits n).length - 1 = place
  have hexponent : c.exponent + k = place + 1 - (Numeral.digits n).length := by omega
  rw [hexponent]
  split
  · split
    · next p _ =>
      split
      · next hempty =>
        rw [List.isEmpty_iff, List.drop_eq_nil_iff] at hempty
        have hform := isNumeralOf_zeros_behind negative hn (p + 1 - (Numeral.digits n).length)
        rwa [List.take_of_length_le hempty, Int.ofNat_eq_natCast, ← Int.natCast_succ,
          ← Int.ofNat_sub hempty]
      · next hrest =>
        rw [List.isEmpty_iff, List.drop_eq_nil_iff, Nat.not_le] at hrest
        have htake : p + 1 - ((Numeral.digits n).take (p + 1)).length = 0 := by
          rw [List.length_take, Nat.min_eq_left (Nat.le_of_lt hrest), Nat.sub_self]
        rw [htake, List.replicate_zero, List.append_nil]
        exact isNumeralOf_between negative hn hrest
    · next p _ =>
      have hform := isNumeralOf_zeros_front negative n p
      have hneg : Int.negSucc p + 1 - ((Numeral.digits n).length : Int) =
          -(p + (Numeral.digits n).length) := by omega
      rwa [hneg]
  · exact isNumeralOf_scientific negative hn place

/-! ### Finite numbers -/

/-- **The text of a finite number is a JSON numeral, and stands for the number.** -/
theorem number_finiteChars (negative : Bool) (rank : Fin rankCount) :
    ∃ parts, NumeralText Char.isDigit isLeadingDigit parts (finiteChars negative rank) ∧
      parts.number = .ok (.float (.finite negative rank)) := by
  have hbody : IsNumeralOf negative (.finite negative rank)
      (if rank.val = 0 then ['0', '.', '0'] else layout plainStyle (shortest rank)) := by
    split
    · next hzero =>
      have hdigits : AreDigits Char.isDigit ['0'] :=
        ⟨by decide, List.all_eq_true.mp (by decide)⟩
      have hform := isNumeralOf_point negative .zero hdigits
      have hvalue : ofDecimal negative (Numeral.ofDigits ['0', '0']) (-1) =
          .finite negative rank := by
        have hrank : rank = ⟨0, by decide⟩ := Fin.ext hzero
        rw [hrank]
        rfl
      rwa [← hvalue]
    · next hne =>
      have hback := ofDecimal_shortest hne
      have hdigits : (shortest rank).digits ≠ 0 := by
        intro hzero
        rw [hzero] at hback
        simp only [ofDecimal, if_true, zero] at hback
        cases hback
        exact hne rfl
      have hform := isNumeralOf_layout negative hdigits
      rwa [ofDecimal_sign hback] at hform
  obtain ⟨parts, htext, hnumber⟩ := hbody
  refine ⟨parts, ?_, hnumber⟩
  unfold finiteChars
  cases negative with
  | true => exact htext
  | false => exact htext

end Binary64
end FormDispatch
