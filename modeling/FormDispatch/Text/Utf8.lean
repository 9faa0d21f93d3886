/-
# UTF-8

Bytes of a text and the text of bytes. Decoding never fails: each maximal run of bytes that begins
a character but does not complete one, and each byte that can begin none, stands for one U+FFFD.

`Pending` is what a reader knows after the first bytes of a character: how many bytes are still
needed, the bits so far, and the range the next byte must fall into. The range of the second byte
depends on the first, which excludes overlong forms, surrogates and values beyond U+10FFFF.
-/

namespace FormDispatch
namespace Text

/-- The UTF-8 bytes of a text. -/
def utf8Bytes (s : String) : List UInt8 :=
  s.toList.flatMap String.utf8EncodeChar

/-- A character whose first bytes have been read. -/
structure Pending where
  /-- bytes still to come -/
  needed : Nat
  /-- bits read so far -/
  bits : Nat
  /-- least value of the next byte -/
  low : Nat
  /-- greatest value of the next byte -/
  high : Nat

/-- What a byte at the start of a character begins: `inl` a whole character, or nothing at all when
it is `none`, or `inr` a character with more bytes to come. -/
def beginChar (b : UInt8) : Option Char ⊕ Pending :=
  let n := b.toNat
  if n < 0x80 then .inl (some (Char.ofNat n))
  else if n < 0xC2 then .inl none
  else if n < 0xE0 then .inr ⟨1, n - 0xC0, 0x80, 0xBF⟩
  else if n == 0xE0 then .inr ⟨2, 0, 0xA0, 0xBF⟩
  else if n == 0xED then .inr ⟨2, 0xD, 0x80, 0x9F⟩
  else if n < 0xF0 then .inr ⟨2, n - 0xE0, 0x80, 0xBF⟩
  else if n == 0xF0 then .inr ⟨3, 0, 0x90, 0xBF⟩
  else if n < 0xF4 then .inr ⟨3, n - 0xF0, 0x80, 0xBF⟩
  else if n == 0xF4 then .inr ⟨3, 4, 0x80, 0x8F⟩
  else .inl none

/-- Characters of a byte sequence, `none` for each maximal run that is none. -/
def decodeFrom : Option Pending → List UInt8 → List (Option Char)
  | none, [] => []
  | some _, [] => [none]
  | none, b :: r =>
    match beginChar b with
    | .inl c => c :: decodeFrom none r
    | .inr p => decodeFrom (some p) r
  | some p, b :: r =>
    if p.low ≤ b.toNat && b.toNat ≤ p.high then
      let bits := p.bits * 64 + b.toNat % 64
      if p.needed ≤ 1 then some (Char.ofNat bits) :: decodeFrom none r
      else decodeFrom (some ⟨p.needed - 1, bits, 0x80, 0xBF⟩) r
    else
      match beginChar b with
      | .inl c => none :: c :: decodeFrom none r
      | .inr q => none :: decodeFrom (some q) r

/-- The text of a byte sequence, with U+FFFD for whatever is not UTF-8. -/
def utf8Text (bytes : List UInt8) : String :=
  String.ofList ((decodeFrom none bytes).map fun c => c.getD '\uFFFD')

/-- The text of a byte sequence that is UTF-8 throughout. -/
def utf8Text? (bytes : List UInt8) : Option String :=
  ((decodeFrom none bytes).mapM id).map String.ofList

/-- A truncated character counts once, the bytes that can begin none count singly. -/
example : decodeFrom none [0xE2, 0x82, 0x28, 0xC0, 0xAF] =
    [none, some '(', none, none] := by
  decide

end Text
end FormDispatch
