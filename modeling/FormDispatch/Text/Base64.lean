/-
# Bytes as letters

Three bytes are written as four characters of an alphabet of sixty-four (RFC 4648); equals signs
fill the last four up.
-/

namespace FormDispatch
namespace Text

/-- The characters that stand for six bits each. -/
def sixBitLetters : Array Char :=
  "ABCDEFGHIJKLMNOPQRSTUVWXYZabcdefghijklmnopqrstuvwxyz0123456789+/".toList.toArray

/-- The character of the six bits of a number above some others. -/
def sixBits (n shift : Nat) : Char :=
  sixBitLetters.getD ((n >>> shift) % 64) '='

/-- Bytes as letters. -/
def lettersOf : List UInt8 → List Char
  | a :: b :: c :: rest =>
    let n := a.toNat * 65536 + b.toNat * 256 + c.toNat
    sixBits n 18 :: sixBits n 12 :: sixBits n 6 :: sixBits n 0 :: lettersOf rest
  | [a, b] =>
    let n := a.toNat * 65536 + b.toNat * 256
    [sixBits n 18, sixBits n 12, sixBits n 6, '=']
  | [a] =>
    let n := a.toNat * 65536
    [sixBits n 18, sixBits n 12, '=', '=']
  | [] => []

example : lettersOf [102, 111, 111, 98] = ['Z', 'm', '9', 'v', 'Y', 'g', '=', '='] := by
  decide

end Text
end FormDispatch
