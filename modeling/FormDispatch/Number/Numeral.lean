/-
# Numerals of integers

Decimal numerals of unlimited size. A numeral is read digit by digit, and the digits may come from
any script that counts in tens. Conversion between numerals and numbers is refused beyond
`longestNumeral` digits: reading reports how many digits there were, writing only that there are
too many. Leading zeros count, a sign does not.
-/

import FormDispatch.Text.Blank
import FormDispatch.Text.Digit

namespace FormDispatch
namespace Numeral

/-- The greatest number of digits that is converted. -/
def longestNumeral : Nat := 4300

/-- The number that digits form, the most significant first. -/
def ofDigits (digits : List Char) : Nat :=
  digits.foldl (fun n c => 10 * n + (Text.digitValue? c).getD 0) 0

/-- The power of ten that a digit counts with so many places behind it. -/
def tenTo (places : Nat) : Nat :=
  Nat.pow 10 places

/-- The number that digits form; too many of them are an error that tells how many. -/
def read (digits : List Char) : Except Nat Nat :=
  if digits.length > longestNumeral then .error digits.length else .ok (ofDigits digits)

/-- A sign and digits, when the whole text is an optional sign and at least one decimal digit. -/
def signed? (s : List Char) : Option (Bool × List Char) :=
  let (negative, digits) := match s with
    | '-' :: r => (true, r)
    | '+' :: r => (false, r)
    | r => (false, r)
  if digits.isEmpty || !digits.all Text.isDecimalDigit then none else some (negative, digits)

/-- A number with a sign. -/
def withSign (negative : Bool) (n : Nat) : Int :=
  if negative then -(n : Int) else n

/-- The number that a sign and digits form. -/
def readSigned (numeral : Bool × List Char) : Except Nat Int :=
  (read numeral.2).map (withSign numeral.1)

/-- The shortest ASCII digits of a natural number. -/
def digits (n : Nat) : List Char :=
  Nat.toDigits 10 n

/-- The numeral of an integer: a minus sign for negative ones, then the digits. -/
def chars (n : Int) : List Char :=
  if n < 0 then '-' :: digits n.natAbs else digits n.natAbs

/-- The numeral of an integer, whatever its length. -/
def text (n : Int) : String :=
  String.ofList (chars n)

/-- The numeral of an integer of at most `longestNumeral` digits. -/
def text? (n : Int) : Option String :=
  if (digits n.natAbs).length > longestNumeral then none else some (text n)

example : signed? ['+', '٣', '4'] = some (false, ['٣', '4']) := by decide

example : ofDigits ['٣', '4'] = 34 := by decide

end Numeral
end FormDispatch
