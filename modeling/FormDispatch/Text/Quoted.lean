/-
# Quoted display of a text

Messages show a text between quotes so that its ends and its invisible characters can be seen.
The quote is the single one, unless the text holds a single quote and no double one. Inside, the
quote and the backslash are escaped by a backslash, line feed, carriage return and tab by their
letters, and all other characters that are not printable by their code point in two, four or
eight hexadecimal digits.
-/

import FormDispatch.Text.Printable

namespace FormDispatch
namespace Text

/-- The hexadecimal digit of a value below sixteen, in lower case. -/
def hexDigit (n : Nat) : Char :=
  Nat.digitChar (n % 16)

/-- The lowest `width` hexadecimal digits of a number, highest first. -/
def hexDigits : (width : Nat) → (n : Nat) → List Char
  | 0, _ => []
  | width + 1, n => hexDigits width (n / 16) ++ [hexDigit n]

/-- The quote that shows a text. -/
def displayQuote (s : List Char) : Char :=
  if s.contains '\'' && !s.contains '"' then '"' else '\''

/-- A character as it is shown between the given quotes. -/
def displayChar (quote c : Char) : List Char :=
  if c == quote || c == '\\' then ['\\', c]
  else if c == '\n' then ['\\', 'n']
  else if c == '\r' then ['\\', 'r']
  else if c == '\t' then ['\\', 't']
  else if isPrintable c then [c]
  else if c.toNat < 0x100 then '\\' :: 'x' :: hexDigits 2 c.toNat
  else if c.toNat < 0x10000 then '\\' :: 'u' :: hexDigits 4 c.toNat
  else '\\' :: 'U' :: hexDigits 8 c.toNat

/-- A text shown between quotes. -/
def quotedChars (s : List Char) : List Char :=
  let quote := displayQuote s
  quote :: s.flatMap (displayChar quote) ++ [quote]

/-- A text shown between quotes. -/
def quoted (s : String) : String :=
  String.ofList (quotedChars s.toList)

/-- A single quote inside is shown between double quotes. -/
example : quotedChars ['a', '\'', 'b'] = ['"', 'a', '\'', 'b', '"'] := by
  decide

/-- With both quotes inside, the single ones are escaped. -/
example : quotedChars ['\'', '"'] = ['\'', '\\', '\'', '"', '\''] := by
  decide

end Text
end FormDispatch
