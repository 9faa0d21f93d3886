/-
# Decimal texts

Which texts name a decimal number: an optional sign, then digits with at most one point and an
optional exponent, or the name of an infinity, or that of a number that is none with further digits
behind it. Blanks around the text and underscores anywhere in it do not count, letters may have
either case, and digits may come from every script. The number must fit a format of at most
`greatestExponent` for its first digit and at least `leastExponent` for its last one.

Specification, section E8.
-/

import FormDispatch.Number.Numeral

namespace FormDispatch
namespace Query
namespace DecimalText

/-- The greatest power of ten of a first digit. -/
def greatestExponent : Int := 999999999999999999

/-- The least power of ten of a last digit. -/
def leastExponent : Int := -1999999999999999997

/-- The text without what does not count. -/
def essence (s : List Char) : List Char :=
  ((Text.trim s).filter (· != '_')).map Char.toLower

/-- A text without its sign. -/
def unsigned : List Char → List Char
  | '+' :: r => r
  | '-' :: r => r
  | r => r

/-- Digits, which may be missing. -/
def isDigits (s : List Char) : Bool :=
  s.all Text.isDecimalDigit

/-- The name of an infinity, or of a number that is none. -/
def isName : List Char → Bool
  | ['i', 'n', 'f'] => true
  | ['i', 'n', 'f', 'i', 'n', 'i', 't', 'y'] => true
  | 'n' :: 'a' :: 'n' :: r => isDigits r
  | 's' :: 'n' :: 'a' :: 'n' :: r => isDigits r
  | _ => false

/-- Digits that count: those after the zeros in front, but at least one. -/
def significant (digits : List Char) : Nat :=
  max 1 (digits.dropWhile fun c => Text.digitValue? c == some 0).length

/-- A decimal of the given digits, scaled by a power of ten, fits the format. -/
def fits (digits : List Char) (exponent : Int) : Bool :=
  leastExponent ≤ exponent && exponent + significant digits - 1 ≤ greatestExponent

/-- Digits with at most one point and an optional exponent. -/
def isNumber (s : List Char) : Bool :=
  let whole := s.takeWhile Text.isDecimalDigit
  let rest := s.drop whole.length
  let (fraction, rest) := match rest with
    | '.' :: r => (r.takeWhile Text.isDecimalDigit, r.dropWhile Text.isDecimalDigit)
    | r => ([], r)
  let digits := whole ++ fraction
  !digits.isEmpty &&
    match rest with
    | [] => fits digits (-fraction.length)
    | 'e' :: r =>
      match Numeral.signed? r with
      | some (negative, power) =>
        fits digits (Numeral.withSign negative (Numeral.ofDigits power) - fraction.length)
      | none => false
    | _ => false

/-- A text names a decimal number. -/
def isDecimal (s : List Char) : Bool :=
  let s := unsigned (essence s)
  isName s || isNumber s

example : isDecimal " -1_0.5E+3".toList = true ∧ isDecimal "1e".toList = false ∧
    isDecimal "sNaN12".toList = true ∧ isDecimal ".".toList = false := by decide

end DecimalText
end Query
end FormDispatch
