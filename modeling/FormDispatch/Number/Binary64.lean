/-
# Floating-point numbers of 64 bits

The values of IEEE 754 binary64, without the payloads of not-a-number. A finite value is a sign and
a *rank*: the finite magnitudes in increasing order are numbered from 0, so neighbours have
neighbouring ranks and every rank below `rankCount` is exactly one magnitude. Rank `r` stands for
`significand r · 2 ^ exponent r`.

`ofRatio` is rounding to nearest with ties to the even rank; everything that reads a number goes
through it. The subnormal numbers and the first binade are the ranks themselves, counted in the
smallest unit.
-/

namespace FormDispatch

/-- How many finite magnitudes there are. -/
def rankCount : Nat := 0x7FF0000000000000

/-- A floating-point number. -/
inductive Binary64 where
  /-- not a number -/
  | nan
  /-- an infinity -/
  | infinite (negative : Bool)
  /-- the finite number of the given sign and rank -/
  | finite (negative : Bool) (rank : Fin rankCount)
deriving DecidableEq

namespace Binary64

/-- How many ranks there are from one power of two to the next: two to the power of fifty-two. -/
def binade : Nat := 1 <<< 52

/-- The integer significand of a rank. -/
def significand (rank : Nat) : Nat :=
  if rank < binade then rank else binade + rank % binade

/-- The power of two that scales the significand of a rank. -/
def exponent (rank : Nat) : Int :=
  (max (rank / binade) 1 : Nat) - 1075

/-- Numerator and denominator of a magnitude. -/
def ratio (rank : Nat) : Nat × Nat :=
  match exponent rank with
  | .ofNat e => (significand rank <<< e, 1)
  | .negSucc e => (significand rank, 1 <<< (e + 1))

/-- A quotient rounded to the nearest integer, a half to the even one. -/
def roundedQuotient (num den : Nat) : Nat :=
  let q := num / den
  let r := num % den
  if 2 * r < den then q
  else if den < 2 * r then q + 1
  else if q % 2 = 0 then q else q + 1

/-- The ratio `num / den` divided by `2 ^ (power - 1074)`, as a ratio. -/
def scaled (num den power : Nat) : Nat × Nat :=
  (num <<< 1074, den <<< power)

/-- The scale at which `num / den` has a significand below twice the hidden bit. -/
def scale (num den : Nat) : Nat :=
  let power := (num.log2 + 1074) - (den.log2 + 53)
  let (n, d) := scaled num den power
  if n / d < 2 * binade then power else power + 1

/-- The rank nearest to `num / den`, an even one at a tie; it may lie beyond all finite ranks. -/
def nearestRank (num den : Nat) : Nat :=
  if num = 0 then 0
  else
    let power := scale num den
    let (n, d) := scaled num den power
    power * binade + roundedQuotient n d

/-- The number nearest to a ratio; beyond the finite ones, infinity. -/
def ofRatio (negative : Bool) (num den : Nat) : Binary64 :=
  let rank := nearestRank num den
  if h : rank < rankCount then .finite negative ⟨rank, h⟩ else .infinite negative

/-- Zero, with a sign. -/
def zero (negative : Bool) : Binary64 :=
  .finite negative ⟨0, by decide⟩

/-- The number nearest to an integer. -/
def ofInt (n : Int) : Binary64 :=
  ofRatio (decide (n < 0)) n.natAbs 1

/-- A number that is zero, of either sign. -/
def isZero : Binary64 → Bool
  | .finite _ rank => rank.val == 0
  | _ => false

/-- The number one. -/
def one : Binary64 :=
  .finite false ⟨1023 * binade, by decide⟩

/-- The integer part of a finite number, towards zero. -/
def truncated? : Binary64 → Option Int
  | .finite negative rank =>
    let (n, d) := ratio rank.val
    some (if negative then -((n / d : Nat) : Int) else ((n / d : Nat) : Int))
  | _ => none

/-- A number above zero. -/
def isPositive : Binary64 → Bool
  | .finite negative rank => !negative && rank.val != 0
  | .infinite negative => !negative
  | .nan => false

example : ofInt 1 = one ∧ ofInt 0 = zero false := by decide +kernel

example : ofInt (2 * binade + 1) = ofInt (2 * binade) := by decide +kernel

/-- The smallest number: all that is at most half of it is zero. -/
example : nearestRank 1 (1 <<< 1074) = 1 ∧ nearestRank 1 (1 <<< 1075) = 0 := by
  decide +kernel

end Binary64
end FormDispatch
