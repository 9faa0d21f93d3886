/-
# UTF-8 read back

The bytes of a text decode to that text (`utf8Text?_utf8Bytes`). A first byte allows fewer second
bytes than there are: the range that it leaves keeps out overlong forms, surrogates and what lies
beyond the last code point. No character asks for more than its range allows, which is what
`beginChar_three` and `beginChar_four` say; the bytes after the second only have to go on.
-/

import FormDispatch.Text.Utf8

namespace FormDispatch
namespace Text

/-! ### One byte -/

/-- A byte that is a character on its own. -/
theorem decodeFrom_whole {b : UInt8} (h : b.toNat < 0x80) (r : List UInt8) :
    decodeFrom none (b :: r) = some (Char.ofNat b.toNat) :: decodeFrom none r := by
  simp [decodeFrom, beginChar, h]

/-- A byte that begins a longer character. -/
theorem decodeFrom_begun {b : UInt8} {p : Pending} (h : beginChar b = .inr p) (r : List UInt8) :
    decodeFrom none (b :: r) = decodeFrom (some p) r := by
  simp only [decodeFrom, h]

/-- The last byte of a character. -/
theorem decodeFrom_last {b : UInt8} {bits low high : Nat} (hlow : low ≤ b.toNat)
    (hhigh : b.toNat ≤ high) (r : List UInt8) :
    decodeFrom (some ⟨1, bits, low, high⟩) (b :: r) =
      some (Char.ofNat (bits * 64 + b.toNat % 64)) :: decodeFrom none r := by
  simp [decodeFrom, hlow, hhigh]

/-- A byte within a character. -/
theorem decodeFrom_within {b : UInt8} {needed bits low high : Nat} (hlow : low ≤ b.toNat)
    (hhigh : b.toNat ≤ high) (r : List UInt8) :
    decodeFrom (some ⟨needed + 2, bits, low, high⟩) (b :: r) =
      decodeFrom (some ⟨needed + 1, bits * 64 + b.toNat % 64, 0x80, 0xBF⟩) r := by
  simp [decodeFrom, hlow, hhigh]

/-! ### First bytes -/

/-- The first byte of a character of two. -/
theorem beginChar_two {b : UInt8} {lead : Nat} (hbyte : b.toNat = lead + 0xC0) (hlow : 2 ≤ lead)
    (hhigh : lead < 0x20) : beginChar b = .inr ⟨1, lead, 0x80, 0xBF⟩ := by
  have hmore : ¬lead + 0xC0 < 0x80 ∧ ¬lead + 0xC0 < 0xC2 := by omega
  have hless : lead + 0xC0 < 0xE0 := by omega
  simp [beginChar, hbyte, hmore, hless]

/-- The first byte of a character of three, and a second byte that is neither overlong behind it nor
makes it a surrogate. -/
theorem beginChar_three {b : UInt8} {lead : Nat} (next : Nat) (hbyte : b.toNat = lead + 0xE0)
    (hhigh : lead < 0x10) (hnext : 0x80 ≤ next ∧ next ≤ 0xBF) (hlong : lead = 0 → 0xA0 ≤ next)
    (hpair : lead = 0xD → next ≤ 0x9F) :
    ∃ low high, beginChar b = .inr ⟨2, lead, low, high⟩ ∧ low ≤ next ∧ next ≤ high := by
  by_cases hzero : lead = 0
  · exact ⟨0xA0, 0xBF, by simp [beginChar, hbyte, hzero], hlong hzero, hnext.2⟩
  by_cases hsurrogate : lead = 0xD
  · exact ⟨0x80, 0x9F, by simp [beginChar, hbyte, hsurrogate], hnext.1, hpair hsurrogate⟩
  · have hmore : ¬lead + 0xE0 < 0x80 ∧ ¬lead + 0xE0 < 0xC2 ∧ ¬lead + 0xE0 < 0xE0 := by omega
    have hless : lead + 0xE0 < 0xF0 := by omega
    refine ⟨0x80, 0xBF, ?_, hnext⟩
    simp [beginChar, hbyte, hmore, hless, hzero, hsurrogate]

/-- The first byte of a character of four, and a second byte that is neither overlong behind it nor
leads beyond the last code point. -/
theorem beginChar_four {b : UInt8} {lead : Nat} (next : Nat) (hbyte : b.toNat = lead + 0xF0)
    (hhigh : lead ≤ 4) (hnext : 0x80 ≤ next ∧ next ≤ 0xBF) (hlong : lead = 0 → 0x90 ≤ next)
    (hlast : lead = 4 → next ≤ 0x8F) :
    ∃ low high, beginChar b = .inr ⟨3, lead, low, high⟩ ∧ low ≤ next ∧ next ≤ high := by
  by_cases hzero : lead = 0
  · exact ⟨0x90, 0xBF, by simp [beginChar, hbyte, hzero], hlong hzero, hnext.2⟩
  by_cases hfour : lead = 4
  · exact ⟨0x80, 0x8F, by simp [beginChar, hbyte, hfour], hnext.1, hlast hfour⟩
  · have hmore : ¬lead + 0xF0 < 0x80 ∧ ¬lead + 0xF0 < 0xC2 ∧ ¬lead + 0xF0 < 0xE0 ∧
        ¬lead + 0xF0 < 0xF0 := by omega
    have hless : lead + 0xF0 < 0xF4 := by omega
    refine ⟨0x80, 0xBF, ?_, hnext⟩
    simp [beginChar, hbyte, hmore, hless, hzero]

/-! ### Characters and texts -/

/-- The byte of a value that fits into one. -/
theorem toNat_ofNat_of_lt {n : Nat} (h : n < 0x100) : (UInt8.ofNat n).toNat = n := by
  rw [UInt8.toNat_ofNat', Nat.mod_eq_of_lt h]

/-- **The bytes of a character decode to it,** whatever stands behind them. -/
theorem decodeFrom_utf8EncodeChar (c : Char) (r : List UInt8) :
    decodeFrom none (String.utf8EncodeChar c ++ r) = some c :: decodeFrom none r := by
  have hvalid : c.val.toNat < 0xD800 ∨ 0xDFFF < c.val.toNat ∧ c.val.toNat < 0x110000 := c.valid
  have hchar : Char.ofNat c.val.toNat = c := Char.ofNat_toNat c
  -- a byte that goes on with a character carries its lowest six bits
  have hnext (x : Nat) : (UInt8.ofNat (x % 64 + 128)).toNat = x % 64 + 128 :=
    toNat_ofNat_of_lt (by omega)
  unfold String.utf8EncodeChar
  generalize c.val.toNat = n at hvalid hchar ⊢
  dsimp only
  split
  · next hone =>
    have hbyte : (UInt8.ofNat n).toNat = n := toNat_ofNat_of_lt (by omega)
    rw [List.singleton_append, decodeFrom_whole (by omega), hbyte, hchar]
  split
  · next hone htwo =>
    have hlead : (UInt8.ofNat (n / 64 % 32 + 192)).toNat = n / 64 + 192 := by
      rw [toNat_ofNat_of_lt (by omega)]
      omega
    have hbits : n / 64 * 64 + (n % 64 + 128) % 64 = n := by omega
    rw [List.cons_append, List.singleton_append,
      decodeFrom_begun (beginChar_two hlead (by omega) (by omega)),
      decodeFrom_last (by rw [hnext]; omega) (by rw [hnext]; omega), hnext, hbits, hchar]
  split
  · next hone htwo hthree =>
    have hlead : (UInt8.ofNat (n / 4096 % 16 + 224)).toNat = n / 4096 + 224 := by
      rw [toNat_ofNat_of_lt (by omega)]
      omega
    obtain ⟨low, high, hbegin, hlow, hhigh⟩ :=
      beginChar_three (n / 64 % 64 + 128) hlead (by omega) (by omega) (by omega) (by omega)
    have hbits : (n / 4096 * 64 + (n / 64 % 64 + 128) % 64) * 64 + (n % 64 + 128) % 64 = n := by
      omega
    simp only [List.cons_append, List.nil_append]
    rw [decodeFrom_begun hbegin, decodeFrom_within (by rw [hnext]; omega) (by rw [hnext]; omega),
      decodeFrom_last (by rw [hnext]; omega) (by rw [hnext]; omega), hnext, hnext, hbits, hchar]
  · next hone htwo hthree =>
    have hlead : (UInt8.ofNat (n / 262144 % 8 + 240)).toNat = n / 262144 + 240 := by
      rw [toNat_ofNat_of_lt (by omega)]
      omega
    obtain ⟨low, high, hbegin, hlow, hhigh⟩ :=
      beginChar_four (n / 4096 % 64 + 128) hlead (by omega) (by omega) (by omega) (by omega)
    have hbits : ((n / 262144 * 64 + (n / 4096 % 64 + 128) % 64) * 64 +
        (n / 64 % 64 + 128) % 64) * 64 + (n % 64 + 128) % 64 = n := by omega
    simp only [List.cons_append, List.nil_append]
    rw [decodeFrom_begun hbegin, decodeFrom_within (by rw [hnext]; omega) (by rw [hnext]; omega),
      decodeFrom_within (by rw [hnext]; omega) (by rw [hnext]; omega),
      decodeFrom_last (by rw [hnext]; omega) (by rw [hnext]; omega), hnext, hnext, hnext, hbits,
      hchar]

/-- **The bytes of a text decode to it.** -/
theorem utf8Text?_utf8Bytes (s : String) : utf8Text? (utf8Bytes s) = some s := by
  have hdecode (t : List Char) :
      decodeFrom none (t.flatMap String.utf8EncodeChar) = t.map some := by
    induction t with
    | nil => rfl
    | cons c t ih => rw [List.flatMap_cons, decodeFrom_utf8EncodeChar, ih, List.map_cons]
  have hchars (t : List Char) : (t.map some).mapM id = some t := by
    induction t with
    | nil => rfl
    | cons c t ih => rw [List.map_cons, List.mapM_cons, ih]; rfl
  rw [utf8Text?, utf8Bytes, hdecode, hchars, Option.map_some, String.ofList_toList]

end Text
end FormDispatch
