/-
# Integers from outside

Where an integer is wanted it need not come as one. A text may spell it, with white space around it,
zeros in front of it and underscores inside; a floating-point number without a fraction is taken for
it, and a boolean counts as zero or one. What is too large to be read is told apart from what is no
integer.
-/

import FormDispatch.Document.Reader
import FormDispatch.Text.Blank
import FormDispatch.Validation

namespace FormDispatch
namespace Checked

/-- A text without its underscores, if they stand singly and inside. -/
def withoutUnderscores? (s : List Char) : Option (List Char) :=
  let rec inner : List Char → Bool
    | '_' :: '_' :: _ => false
    | ['_'] => false
    | _ :: r => inner r
    | [] => true
  if s.head? == some '_' || !inner s then none else some (s.filter (· != '_'))

/-- A numeral from its first digit that counts on. Zeros in front of it do not, nor underscores
among them; of nothing but zeros the last character stays. A numeral begins with a digit. -/
def withoutLeadingZeros? : List Char → Option (List Char)
  | '0' :: r => afterZero '0' r
  | c :: r => if c.isDigit then some (c :: r) else none
  | [] => none
where
  /-- The numeral after a character that does not count, if another one follows. -/
  afterZero (last : Char) : List Char → Option (List Char)
    | [] => some [last]
    | '.' :: r => some (last :: '.' :: r)
    | c :: r =>
      if c == '0' || c == '_' then afterZero c r else if c.isDigit then some (c :: r) else none

/-- A numeral without a point that only zeros stand behind. -/
def withoutZerosBehind (s : List Char) : List Char :=
  let whole := s.takeWhile (· != '.')
  match s.drop whole.length with
  | '.' :: '0' :: zeros => if zeros.all (· == '0') then whole else s
  | _ => s

/-- The integer that a sign and a numeral without needless characters name. The sign counts towards
the length that a numeral may have. -/
def intOfNumeral (negative : Bool) (s : List Char) : Except IssueKind Int :=
  let digits := s.takeWhile Char.isDigit
  if digits.length + (if negative then 1 else 0) > Numeral.longestNumeral then
    .error .intParsingSize
  else if digits.isEmpty || digits.length < s.length || (s.head? == some '0' && s != ['0']) then
    .error .intParsing
  else .ok (Numeral.withSign negative (Numeral.ofDigits digits))

/-- The integer that a text names. Around it there may be white space, in front of it a plus sign or
a minus sign, and before it zeros; a point with zeros behind it does not count, nor do underscores
that stand singly and inside. -/
def intOfText (s : List Char) : Except IssueKind Int :=
  let s := Text.trimOf Text.isWhiteSpace s
  let (plus, s) := match s with
    | '+' :: r => (true, r)
    | r => (false, r)
  let (negative, s) := match s with
    | '-' :: r => (true, r)
    | r => (false, r)
  if plus && negative then .error .intParsing
  else
    match withoutLeadingZeros? s with
    | none => .error .intParsing
    | some s =>
      let s := withoutZerosBehind s
      intOfNumeral negative ((withoutUnderscores? s).getD s)

/-- The least number that is too large for a floating-point number to be taken as an integer, and
the size of the greatest one that is too small: two to the power of sixty-three. -/
def wholeLimit : Int := 9223372036854775808

/-- The integer that a floating-point number is. -/
def intOfFloat (x : Binary64) : Except IssueKind Int :=
  match x.truncated? with
  | none => .error .finiteNumber
  | some n =>
    if x != Binary64.ofInt n && !x.isZero then .error .intFromFloat
    else if -wholeLimit < n && n < wholeLimit then .ok n
    else .error .intParsingSize

/-- An integer. -/
def integer (place : List String) (d : Document) : Checked Int :=
  let value : Except IssueKind Int := match d with
    | .int n => .ok n
    | .bool b => .ok (if b then 1 else 0)
    | .float x => intOfFloat x
    | .str s => intOfText s.toList
    | _ => .error .intType
  value.mapError fun kind => [⟨place, kind⟩]

example : (intOfText " +0_042.00 ".toList).toOption = some 42 := by decide

example : (intOfText "4__2".toList).toOption = none := by decide

end Checked
end FormDispatch
