/-
# Columns

Columns are counted from zero and named by letters: `A` to `Z`, then `AA` to `ZZ`, and so on, the
numbering in base 26 whose digits go from one to twenty-six. `letters n` is the name of the `n`-th
column counted from one, the empty word for none.

`value_letters` says that the letters of a number read back as the number.

Specification, section E7.
-/

namespace FormDispatch
namespace Sheet

/-- The letter of a digit below 26. -/
def letter (digit : Nat) : Char :=
  Char.ofNat (65 + digit)

/-- The digits of a number from one to twenty-six as letters, the first digit first. Every step
divides the number by 26, which cannot be done more often than the number says. -/
def lettersWithin : (fuel : Nat) → Nat → List Char
  | 0, _ => []
  | _ + 1, 0 => []
  | fuel + 1, n + 1 => lettersWithin fuel (n / 26) ++ [letter (n % 26)]

/-- The letters of a number. -/
def letters (n : Nat) : List Char :=
  lettersWithin n n

/-- The number that letters stand for. -/
def value (s : List Char) : Nat :=
  s.foldl (fun n c => 26 * n + (c.toNat - 64)) 0

/-- The name of the column of an index; an index below zero has none. -/
def columnName (index : Int) : String :=
  String.ofList (letters (index + 1).toNat)

private theorem toNat_letter {d : Nat} (h : d < 26) : (letter d).toNat = 65 + d := by
  unfold letter
  have : (65 + d).isValidChar := Or.inl (by omega)
  rw [Char.ofNat, dif_pos this]
  rfl

/-- The letters of a number read back as the number. -/
theorem value_lettersWithin {fuel n : Nat} (h : n ≤ fuel) : value (lettersWithin fuel n) = n := by
  induction fuel generalizing n with
  | zero =>
    have : n = 0 := by omega
    subst this
    rfl
  | succ fuel ih =>
    cases n with
    | zero => rfl
    | succ n =>
      have hq : n / 26 ≤ fuel := by omega
      have hd := toNat_letter (Nat.mod_lt n (by decide : 0 < 26))
      have hv : value (lettersWithin fuel (n / 26) ++ [letter (n % 26)]) =
          26 * value (lettersWithin fuel (n / 26)) + ((letter (n % 26)).toNat - 64) := by
        simp [value, List.foldl_append]
      rw [lettersWithin, hv, ih hq, hd]
      omega

/-- The letters of a number read back as the number. -/
theorem value_letters (n : Nat) : value (letters n) = n :=
  value_lettersWithin (Nat.le_refl n)

example : columnName 0 = "A" ∧ columnName 26 = "AA" ∧ columnName 18277 = "ZZZ" := by
  decide

end Sheet
end FormDispatch
