/-
# Percent-encoded text read back

An encoded text is the text of one segment (`isSegment_percentEncoded`): unreserved characters and
escapes, none of which is a mark that a URL is divided at. It is read back as the text that was
encoded (`percentDecoded?_percentEncoded`), since a percent sign is no unreserved character: where
one stands, an escape begins.
-/

import FormDispatch.Proofs.Text.Utf8
import FormDispatch.Text.Percent

namespace FormDispatch
namespace Text

/-! ### Segments -/

/-- The text of one segment of a URL: unreserved characters, and percent signs before two
hexadecimal digits. -/
inductive IsSegment : List Char → Prop where
  | nil : IsSegment []
  | kept {c : Char} {r : List Char} : isUnreserved c = true → IsSegment r → IsSegment (c :: r)
  | escape {a b : Char} {r : List Char} : (hexValue? a).isSome = true →
      (hexValue? b).isSome = true → IsSegment r → IsSegment ('%' :: a :: b :: r)

theorem hexValue?_upperHexDigit (n : Nat) : hexValue? (upperHexDigit n) = some (n % 16) := by
  have hdigits : ∀ k < 16, hexValue? (Nat.digitChar k).toUpper = some k := by decide
  exact hdigits (n % 16) (Nat.mod_lt n (by decide))

/-- A hexadecimal digit is an unreserved character. -/
theorem isUnreserved_of_hexValue? {c : Char} (h : (hexValue? c).isSome = true) :
    isUnreserved c = true := by
  have hrange : ('0' ≤ c ∧ c ≤ '9') ∨ ('a' ≤ c ∧ c ≤ 'f') ∨ ('A' ≤ c ∧ c ≤ 'F') := by
    unfold hexValue? at h
    grind
  have hword : c.isAlpha = true ∨ c.isDigit = true := by
    rcases hrange with ⟨hlow, hhigh⟩ | ⟨hlow, hhigh⟩ | ⟨hlow, hhigh⟩
    · exact .inr (Bool.and_eq_true_iff.mpr ⟨decide_eq_true hlow, decide_eq_true hhigh⟩)
    · have hz : c ≤ 'z' := Char.le_trans hhigh (by decide)
      have hlower : c.isLower = true :=
        Bool.and_eq_true_iff.mpr ⟨decide_eq_true hlow, decide_eq_true hz⟩
      exact .inl (Bool.or_eq_true_iff.mpr (.inr hlower))
    · have hz : c ≤ 'Z' := Char.le_trans hhigh (by decide)
      have hupper : c.isUpper = true := decide_eq_true ⟨hlow, hz⟩
      exact .inl (Bool.or_eq_true_iff.mpr (.inl hupper))
  rcases hword with hword | hword <;> simp [isUnreserved, isAsciiAlphanumeric, hword]

/-- A character that a segment never holds. -/
theorem IsSegment.not_mem {s : List Char} (h : IsSegment s) {mark : Char}
    (hmark : isUnreserved mark = false) (hpercent : mark ≠ '%') : mark ∉ s := by
  induction h with
  | nil => exact List.not_mem_nil
  | kept hc _ ih =>
    rw [List.mem_cons, not_or]
    refine ⟨fun heq => ?_, ih⟩
    rw [heq, hc] at hmark
    cases hmark
  | escape ha hb _ ih =>
    have hne {d : Char} (hd : (hexValue? d).isSome = true) : mark ≠ d := fun heq => by
      rw [heq, isUnreserved_of_hexValue? hd] at hmark
      cases hmark
    simp only [List.mem_cons, not_or]
    exact ⟨hpercent, hne ha, hne hb, ih⟩

theorem IsSegment.append {s r : List Char} (hs : IsSegment s) (hr : IsSegment r) :
    IsSegment (s ++ r) := by
  induction hs with
  | nil => exact hr
  | kept hc _ ih => exact .kept hc ih
  | escape ha hb _ ih => exact .escape ha hb ih

theorem isSegment_escapedByte (b : UInt8) : IsSegment (escapedByte b) :=
  .escape (by rw [hexValue?_upperHexDigit]; rfl) (by rw [hexValue?_upperHexDigit]; rfl) .nil

theorem isSegment_flatMap {α : Type} {write : α → List Char} (h : ∀ x, IsSegment (write x)) :
    ∀ xs : List α, IsSegment (xs.flatMap write)
  | [] => .nil
  | x :: xs => (h x).append (isSegment_flatMap h xs)

/-- An encoded text is the text of one segment. -/
theorem isSegment_percentEncodedChars (s : List Char) : IsSegment (percentEncodedChars s) := by
  refine isSegment_flatMap (fun c => ?_) s
  unfold escapedChar
  split
  · next hkept => exact .kept hkept .nil
  · exact isSegment_flatMap isSegment_escapedByte _

/-! ### Decoding -/

theorem percentDecodedBytes_escapedByte (b : UInt8) (r : List Char) :
    percentDecodedBytes (escapedByte b ++ r) = b :: percentDecodedBytes r := by
  have hbyte : UInt8.ofNat (16 * (b.toNat / 16 % 16) + b.toNat % 16) = b := by
    have hlt : b.toNat < 256 := b.toNat_lt
    rw [show 16 * (b.toNat / 16 % 16) + b.toNat % 16 = b.toNat by omega, UInt8.ofNat_toNat]
  simp [escapedByte, percentDecodedBytes, hexValue?_upperHexDigit, hbyte]

theorem percentDecodedBytes_escaped (bytes : List UInt8) (r : List Char) :
    percentDecodedBytes (bytes.flatMap escapedByte ++ r) = bytes ++ percentDecodedBytes r := by
  induction bytes with
  | nil => rfl
  | cons b bytes ih =>
    rw [List.flatMap_cons, List.append_assoc, percentDecodedBytes_escapedByte, ih, List.cons_append]

theorem percentDecodedBytes_cons {c : Char} (h : c ≠ '%') (r : List Char) :
    percentDecodedBytes (c :: r) = String.utf8EncodeChar c ++ percentDecodedBytes r := by
  rw [percentDecodedBytes]
  rintro a b r rfl
  exact absurd rfl h

/-- An encoded text gives the bytes of the text. -/
theorem percentDecodedBytes_encoded (s r : List Char) :
    percentDecodedBytes (percentEncodedChars s ++ r) =
      s.flatMap String.utf8EncodeChar ++ percentDecodedBytes r := by
  induction s with
  | nil => rfl
  | cons c s ih =>
    rw [percentEncodedChars, List.flatMap_cons, List.append_assoc, ← percentEncodedChars,
      List.flatMap_cons, List.append_assoc, ← ih, escapedChar]
    split
    · next hkept =>
      have hpercent : c ≠ '%' := by
        rintro rfl
        cases hkept
      exact percentDecodedBytes_cons hpercent _
    · exact percentDecodedBytes_escaped _ _

/-- The text that an escaped text stands for, if its bytes are one. -/
def percentDecoded? (s : String) : Option String :=
  utf8Text? (percentDecodedBytes s.toList)

/-- **An encoded text is read back as it was.** -/
theorem percentDecoded?_percentEncoded (s : String) :
    percentDecoded? (percentEncoded s) = some s := by
  have hbytes : percentDecodedBytes (percentEncoded s).toList = utf8Bytes s := by
    rw [percentEncoded, String.toList_ofList, ← List.append_nil (percentEncodedChars s.toList),
      percentDecodedBytes_encoded, percentDecodedBytes, List.append_nil, utf8Bytes]
  rw [percentDecoded?, hbytes, utf8Text?_utf8Bytes]

end Text
end FormDispatch
