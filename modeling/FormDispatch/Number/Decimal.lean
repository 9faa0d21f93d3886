/-
# Decimal text of floating-point numbers

Reading takes a decimal `digits · 10 ^ exponent` to the nearest number. Writing chooses the fewest
digits that read back as the number, and of those the decimal nearest to it: on the grids of 1, 2,
… 17 significant digits it tries the two neighbours of the value, and the first grid with a
neighbour that reads back wins. Whatever is chosen has been read back before it is used; were there
none, the exact decimal expansion would stand in.

`shortest_reads_back` is the law that follows from the test itself.
-/

import FormDispatch.Number.Binary64
import FormDispatch.Number.Numeral

namespace FormDispatch
namespace Binary64

/-- The number nearest to `digits · 10 ^ exponent`. Beyond 400 places on either side of the point
only the sign matters. -/
def ofDecimal (negative : Bool) (digits : Nat) (exponent : Int) : Binary64 :=
  if digits = 0 then zero negative
  else
    let point := exponent + (Numeral.digits digits).length
    if point > 400 then .infinite negative
    else if point < -400 then zero negative
    else
      match exponent with
      | .ofNat e => ofRatio negative (digits * Numeral.tenTo e) 1
      | .negSucc e => ofRatio negative digits (Numeral.tenTo (e + 1))

/-- A decimal `digits · 10 ^ exponent`. -/
structure Decimal where
  digits : Nat
  exponent : Int
deriving DecidableEq

/-- The place of the first digit of a positive ratio: its value lies in `[10 ^ p, 10 ^ (p + 1))`. -/
def leadingPlace (num den : Nat) : Int :=
  (Numeral.digits (num * Numeral.tenTo 400 / den)).length - 401

/-- The two neighbours of a ratio on the grid of multiples of `10 ^ place`, the nearer first, and
the even one first when both are equally near. -/
def neighbours (num den : Nat) (place : Int) : List Decimal :=
  let (n, d) := match place with
    | .ofNat e => (num, den * Numeral.tenTo e)
    | .negSucc e => (num * Numeral.tenTo (e + 1), den)
  let below := n / d
  let nearest := roundedQuotient n d
  [⟨nearest, place⟩, ⟨2 * below + 1 - nearest, place⟩]

/-- The exact decimal expansion of a magnitude. -/
def expansion (rank : Nat) : Decimal :=
  match exponent rank with
  | .ofNat e => ⟨significand rank <<< e, 0⟩
  | .negSucc e => ⟨significand rank * (Numeral.tenTo (e + 1) >>> (e + 1)), .negSucc e⟩

/-- A decimal reads back as the magnitude of the given rank. -/
def readsBack (rank : Fin rankCount) (c : Decimal) : Bool :=
  ofDecimal false c.digits c.exponent == .finite false rank

/-- The neighbour on the first of the grids of 1 to 17 significant digits that reads back. -/
def roundTripping? (rank : Fin rankCount) : Option Decimal :=
  let (num, den) := ratio rank.val
  let lead := leadingPlace num den
  (List.range 17).findSome? fun (n : Nat) =>
    (neighbours num den (lead - n)).find? (readsBack rank)

/-- The fewest digits that read back as the magnitude. -/
def shortest (rank : Fin rankCount) : Decimal :=
  (roundTripping? rank).getD (expansion rank.val)

/-- What is written reads back, unless no decimal of 17 digits does. -/
theorem shortest_reads_back {rank : Fin rankCount} (h : (roundTripping? rank).isSome) :
    readsBack rank (shortest rank) = true := by
  obtain ⟨c, hc⟩ := Option.isSome_iff_exists.1 h
  rw [shortest, hc]
  obtain ⟨n, _, hn⟩ := List.exists_of_findSome?_eq_some hc
  exact List.find?_some hn

/-- Digits without the zeros at their end, and how many zeros there were. -/
def withoutZeros : (fuel : Nat) → Nat → Nat × Nat
  | 0, n => (n, 0)
  | fuel + 1, n =>
    if n ≠ 0 ∧ n % 10 = 0 then
      let (m, k) := withoutZeros fuel (n / 10)
      (m, k + 1)
    else (n, 0)

/-- How decimals are laid out as text. -/
structure DecimalStyle where
  /-- the least place of the first digit that is written without exponent -/
  leastPlace : Int
  /-- the least place of the first digit that is written with exponent again -/
  firstScientific : Int
  /-- digits of an exponent at least -/
  exponentWidth : Nat

/-- Numbers are written without exponent from a ten-thousandth up to below ten to the sixteenth,
with a digit after the point at least; an exponent has a sign and two digits at least. -/
def plainStyle : DecimalStyle := ⟨-4, 16, 2⟩

/-- Digits filled up with zeros in front. -/
def padded (width : Nat) (digits : List Char) : List Char :=
  List.replicate (width - digits.length) '0' ++ digits

/-- The text of a nonzero decimal. -/
def layout (style : DecimalStyle) (c : Decimal) : List Char :=
  let (n, zeros) := withoutZeros (Numeral.digits c.digits).length c.digits
  let digits := Numeral.digits n
  let place := c.exponent + zeros + digits.length - 1
  if style.leastPlace ≤ place ∧ place < style.firstScientific then
    match place with
    | .ofNat p =>
      let whole := digits.take (p + 1)
      let rest := digits.drop (p + 1)
      whole ++ List.replicate (p + 1 - whole.length) '0' ++ '.' ::
        (if rest.isEmpty then ['0'] else rest)
    | .negSucc p => '0' :: '.' :: List.replicate p '0' ++ digits
  else
    let point := match digits with
      | [] => []
      | [d] => [d]
      | d :: rest => d :: '.' :: rest
    let sign := if place < 0 then '-' else '+'
    point ++ 'e' :: sign :: padded style.exponentWidth (Numeral.digits place.natAbs)

/-- The text of a finite number: its sign, then the shortest digits that read back. -/
def finiteChars (negative : Bool) (rank : Fin rankCount) : List Char :=
  let body := if rank.val = 0 then ['0', '.', '0'] else layout plainStyle (shortest rank)
  if negative then '-' :: body else body

example : finiteChars false ⟨1, by decide⟩ = ['5', 'e', '-', '3', '2', '4'] := by
  decide +kernel

end Binary64
end FormDispatch
