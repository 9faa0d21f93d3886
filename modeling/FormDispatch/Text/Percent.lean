/-
# Percent-encoded text

Text as it stands in one segment of a URL: letters, digits and `_ . - ~` stand for themselves, and
every other character is written as the bytes of its UTF-8 form, each a percent sign and two
hexadecimal digits in upper case. `formEncoded` is the variant of form bodies and query strings,
in which a blank is written as a plus sign.
-/

import FormDispatch.Text.Utf8

namespace FormDispatch
namespace Text

/-- Letters and digits of ASCII. -/
def isAsciiAlphanumeric (c : Char) : Bool :=
  c.isAlpha || c.isDigit

/-- A character that stands for itself in every part of a URL. -/
def isUnreserved (c : Char) : Bool :=
  isAsciiAlphanumeric c || c == '_' || c == '.' || c == '-' || c == '~'

/-- The hexadecimal digit of a value below sixteen, in upper case. -/
def upperHexDigit (n : Nat) : Char :=
  (Nat.digitChar (n % 16)).toUpper

/-- A byte as a percent sign and two hexadecimal digits. -/
def escapedByte (b : UInt8) : List Char :=
  ['%', upperHexDigit (b.toNat / 16), upperHexDigit b.toNat]

/-- A character that is either kept or written as the escaped bytes of its UTF-8 form. -/
def escapedChar (keep : Char → Bool) (c : Char) : List Char :=
  if keep c then [c] else (String.utf8EncodeChar c).flatMap escapedByte

/-- A text with all but the unreserved characters escaped. -/
def percentEncodedChars (s : List Char) : List Char :=
  s.flatMap (escapedChar isUnreserved)

/-- A text with all but the unreserved characters escaped. -/
def percentEncoded (s : String) : String :=
  String.ofList (percentEncodedChars s.toList)

/-- A text as a name or value of a query string, with blanks as plus signs. -/
def formEncoded (s : String) : String :=
  String.ofList (s.toList.flatMap fun c =>
    if c == ' ' then ['+'] else escapedChar isUnreserved c)

/-- The value of a hexadecimal digit. -/
def hexValue? (c : Char) : Option Nat :=
  if '0' ≤ c && c ≤ '9' then some (c.toNat - 48)
  else if 'a' ≤ c && c ≤ 'f' then some (c.toNat - 87)
  else if 'A' ≤ c && c ≤ 'F' then some (c.toNat - 55)
  else none

/-- The bytes of an escaped text, read back: escapes give their byte, all else its UTF-8 form. -/
def percentDecodedBytes : List Char → List UInt8
  | '%' :: a :: b :: r =>
    match hexValue? a, hexValue? b with
    | some x, some y => UInt8.ofNat (16 * x + y) :: percentDecodedBytes r
    | _, _ => String.utf8EncodeChar '%' ++ percentDecodedBytes (a :: b :: r)
  | c :: r => String.utf8EncodeChar c ++ percentDecodedBytes r
  | [] => []

/-- Keeping whatever is already a well-formed escape, all characters outside the kept set are
escaped. -/
def escapedUnlessEscaped (keep : Char → Bool) : List Char → List Char
  | '%' :: a :: b :: r =>
    if (hexValue? a).isSome && (hexValue? b).isSome then
      '%' :: a :: b :: escapedUnlessEscaped keep r
    else escapedChar keep '%' ++ escapedUnlessEscaped keep (a :: b :: r)
  | c :: r => escapedChar keep c ++ escapedUnlessEscaped keep r
  | [] => []

end Text
end FormDispatch
