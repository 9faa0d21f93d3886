/-
# The numbering of columns

The names of columns are all words of capital letters, each for one column, the shorter before the
longer and words of one length in alphabetical order (`columnName_numbering`).

A word is a number in base 26 with digits from one to twenty-six. There is no digit for nothing, so
the last digit of `n + 1` is that of `n` counted from zero, and dropping it leaves `n / 26`
(`letters_succ`); the loop that finds the digits one after the other, the last one first, does that
as long as a number is left (`turn`). What is left and the letters found are always a name of the
same column (`letters_turn`).

Numbers are compared from the front: a greater number in front is greater whatever words of one
length follow (`foldl_lt_of_lt`).
-/

import Mathlib.Logic.Function.Iterate
import Mathlib.Data.List.Induction
import Mathlib.Data.Char
import FormDispatch.Proofs.Sheet.Keys

namespace FormDispatch
namespace Sheet

/-! ### The loop -/

/-- Where fuel is enough, more of it makes no difference. -/
theorem lettersWithin_congr {fuel other n : Nat} (h : n ≤ fuel) (h' : n ≤ other) :
    lettersWithin fuel n = lettersWithin other n := by
  induction fuel generalizing other n with
  | zero =>
    obtain rfl := Nat.le_zero.mp h
    cases other <;> rfl
  | succ fuel ih =>
    cases n with
    | zero => cases other <;> rfl
    | succ n =>
      obtain ⟨other, rfl⟩ := Nat.exists_eq_add_one_of_ne_zero (Nat.ne_zero_of_lt h')
      have hleft : n / 26 ≤ n := Nat.div_le_self n 26
      rw [lettersWithin, lettersWithin, @ih other (n / 26) (by omega) (by omega)]

/-- **The last letter of a number, behind the letters of what is left of it.** -/
theorem letters_succ (n : Nat) : letters (n + 1) = letters (n / 26) ++ [letter (n % 26)] := by
  rw [letters, lettersWithin, letters,
    lettersWithin_congr (Nat.div_le_self n 26) (Nat.le_refl (n / 26))]

/-- One turn of the loop: the last digit of the number that is left becomes a letter in front of
those found. Without a number nothing happens. -/
def turn : Nat × List Char → Nat × List Char
  | (0, found) => (0, found)
  | (n + 1, found) => (n / 26, letter (n % 26) :: found)

/-- A turn keeps the name that is being found. -/
theorem letters_turn (s : Nat × List Char) :
    letters (turn s).1 ++ (turn s).2 = letters s.1 ++ s.2 := by
  obtain ⟨_ | n, found⟩ := s
  · rfl
  · rw [turn, letters_succ, List.append_assoc]
    rfl

/-- A turn takes one letter from the number that is left. -/
theorem length_letters_turn (s : Nat × List Char) :
    (letters (turn s).1).length = (letters s.1).length - 1 := by
  obtain ⟨_ | n, found⟩ := s
  · rfl
  · rw [turn, letters_succ, List.length_append, List.length_singleton, Nat.add_sub_cancel]

/-- Turns keep the name that is being found, and each takes one of its letters. -/
theorem letters_iterate_turn (s : Nat × List Char) (k : Nat) :
    letters (turn^[k] s).1 ++ (turn^[k] s).2 = letters s.1 ++ s.2 ∧
      (letters (turn^[k] s).1).length = (letters s.1).length - k := by
  induction k with
  | zero => exact ⟨rfl, rfl⟩
  | succ k ih =>
    rw [Function.iterate_succ_apply', letters_turn, length_letters_turn, ih.1, ih.2]
    exact ⟨rfl, Nat.sub_sub _ k 1⟩

/-- Only the number zero has no letters. -/
theorem letters_eq_nil_iff {n : Nat} : letters n = [] ↔ n = 0 := by
  refine ⟨fun h => ?_, fun h => h ▸ rfl⟩
  rw [← value_letters n, h]
  rfl

/-- **The loop ends after as many turns as the name has letters, and with the name.** -/
theorem iterate_turn (n : Nat) :
    turn^[(letters n).length] (n, []) = (0, letters n) ∧
      ∀ k, (turn^[k] (n, [])).1 = 0 ↔ (letters n).length ≤ k := by
  have hleft : ∀ k, (turn^[k] (n, [])).1 = 0 ↔ (letters n).length ≤ k := fun k => by
    rw [← letters_eq_nil_iff, ← List.length_eq_zero_iff, (letters_iterate_turn (n, []) k).2,
      Nat.sub_eq_zero_iff_le]
  refine ⟨?_, hleft⟩
  have hended := (hleft (letters n).length).mpr (Nat.le_refl _)
  have hfound := (letters_iterate_turn (n, []) (letters n).length).1
  rw [hended, List.append_nil] at hfound
  exact Prod.ext hended hfound

/-! ### Words as numbers -/

/-- The number that a word stands for behind another number. -/
def valueBehind (n : Nat) (s : List Char) : Nat :=
  s.foldl (fun n c => 26 * n + (c.toNat - 64)) n

theorem value_append (s t : List Char) : value (s ++ t) = valueBehind (value s) t :=
  List.foldl_append

/-- A letter stands for a digit from one to twenty-six. -/
theorem digit_bounds {c : Char} (h : c.isUpper = true) : 65 ≤ c.toNat ∧ c.toNat ≤ 90 :=
  of_decide_eq_true h

theorem letter_of_isUpper {c : Char} (h : c.isUpper = true) : letter (c.toNat - 65) = c := by
  have hc : 65 + (c.toNat - 65) = c.toNat := Nat.add_sub_cancel' (digit_bounds h).1
  rw [letter, hc, Char.ofNat_toNat]

/-- **The number of a word has that word for its letters.** -/
theorem letters_value {s : List Char} (h : AreLetters s) : letters (value s) = s := by
  induction s using List.reverseRecOn with
  | nil => rfl
  | append_singleton s c ih =>
    obtain ⟨hs, hc⟩ := List.forall_mem_append.mp h
    rw [List.forall_mem_singleton] at hc
    have hbounds := digit_bounds hc
    have hvalue : value (s ++ [c]) = 26 * value s + (c.toNat - 65) + 1 := by
      rw [value_append]
      simp only [valueBehind, List.foldl_cons, List.foldl_nil]
      omega
    have hleft : (26 * value s + (c.toNat - 65)) / 26 = value s := by omega
    have hlast : (26 * value s + (c.toNat - 65)) % 26 = c.toNat - 65 := by omega
    rw [hvalue, letters_succ, hleft, hlast, ih hs, letter_of_isUpper hc]

section Order

variable {s t : List Char}

/-- **A greater number in front is greater whatever words of one length follow.** -/
theorem valueBehind_lt_of_lt (hs : AreLetters s) (ht : AreLetters t) (hlength : s.length = t.length)
    {m n : Nat} (h : m < n) : valueBehind m s < valueBehind n t := by
  induction s generalizing t m n with
  | nil =>
    obtain rfl := List.length_eq_zero_iff.mp hlength.symm
    exact h
  | cons c s ih =>
    cases t with
    | nil => cases hlength
    | cons d t =>
      obtain ⟨hc, hs⟩ := List.forall_mem_cons.mp hs
      obtain ⟨hd, ht⟩ := List.forall_mem_cons.mp ht
      have hfirst := digit_bounds hc
      have hother := digit_bounds hd
      have hfront : 26 * m + (c.toNat - 64) < 26 * n + (d.toNat - 64) := by omega
      exact ih hs ht (Nat.succ.inj hlength) hfront

/-- Words of one length behind one number are as great as they are late in the alphabet. -/
theorem valueBehind_lt_iff (hs : AreLetters s) (ht : AreLetters t) (hlength : s.length = t.length)
    (n : Nat) : valueBehind n s < valueBehind n t ↔ s < t := by
  induction s generalizing t n with
  | nil =>
    obtain rfl := List.length_eq_zero_iff.mp hlength.symm
    exact iff_of_false (Nat.lt_irrefl _) (List.lt_irrefl _)
  | cons c s ih =>
    cases t with
    | nil => cases hlength
    | cons d t =>
      have hrest : s.length = t.length := Nat.succ.inj hlength
      obtain ⟨hc, hs'⟩ := List.forall_mem_cons.mp hs
      obtain ⟨hd, ht'⟩ := List.forall_mem_cons.mp ht
      have hfirst := digit_bounds hc
      have hother := digit_bounds hd
      rw [List.cons_lt_cons_iff]
      obtain hlt | rfl | hlt := lt_trichotomy c d
      · have hdigit : c.toNat < d.toNat := hlt
        have hfront : 26 * n + (c.toNat - 64) < 26 * n + (d.toNat - 64) := by omega
        exact iff_of_true (valueBehind_lt_of_lt hs' ht' hrest hfront) (.inl hlt)
      · rw [eq_self_iff_true, true_and, or_iff_right (lt_irrefl c)]
        exact ih hs' ht' hrest _
      · have hdigit : d.toNat < c.toNat := hlt
        have hfront : 26 * n + (d.toNat - 64) < 26 * n + (c.toNat - 64) := by omega
        refine iff_of_false (Nat.lt_asymm (valueBehind_lt_of_lt ht' hs' hrest.symm hfront)) ?_
        rintro (h | ⟨rfl, -⟩)
        · exact lt_asymm hlt h
        · exact lt_irrefl c hlt

/-- A longer word is greater than a shorter one. -/
theorem value_lt_of_length_lt (hs : AreLetters s) (ht : AreLetters t)
    (h : s.length < t.length) : value s < value t := by
  -- the letters that the longer word has in front are a number of their own
  rw [← List.take_append_drop (t.length - s.length) t] at ht ⊢
  obtain ⟨hfront, hbehind⟩ := List.forall_mem_append.mp ht
  have hpos : 0 < value (t.take (t.length - s.length)) := by
    refine Nat.pos_of_ne_zero fun hzero => ?_
    have hempty : t.take (t.length - s.length) = [] := by
      rw [← letters_value hfront, hzero]
      rfl
    have hnone := congrArg List.length hempty
    rw [List.length_take, List.length_nil] at hnone
    omega
  rw [value_append]
  refine valueBehind_lt_of_lt hs hbehind ?_ hpos
  rw [List.length_drop]
  omega

/-- **Words are ordered by their lengths, and words of one length by the alphabet.** -/
theorem value_lt_iff (hs : AreLetters s) (ht : AreLetters t) :
    value s < value t ↔ s.length < t.length ∨ s.length = t.length ∧ s < t := by
  obtain hlt | heq | hlt := Nat.lt_trichotomy s.length t.length
  · exact iff_of_true (value_lt_of_length_lt hs ht hlt) (.inl hlt)
  · have hsame : value s < value t ↔ s < t := valueBehind_lt_iff hs ht heq 0
    rw [hsame, heq, eq_self_iff_true, true_and, or_iff_right (Nat.lt_irrefl _)]
  · refine iff_of_false (Nat.lt_asymm (value_lt_of_length_lt ht hs hlt)) ?_
    omega

end Order

/-! ### The names of columns -/

theorem toList_columnName (n : Nat) : (columnName n).toList = letters (n + 1) :=
  String.toList_ofList

/-- **The names of columns are the words of capital letters in their order.** The loop that finds
a name ends, after one turn for each letter; the name is a word with the number of the column,
counted from one, for its value; every word is the name of just one column; and columns come in the
order of the lengths of their names, those with names of one length in alphabetical order. -/
theorem columnName_numbering :
    (∀ n : Nat, turn^[(columnName n).length] (n + 1, []) = (0, (columnName n).toList) ∧
      ∀ k, (turn^[k] (n + 1, [])).1 = 0 ↔ (columnName n).length ≤ k) ∧
    (∀ n : Nat, columnName n ≠ "" ∧ AreLetters (columnName n).toList ∧
      value (columnName n).toList = n + 1) ∧
    (∀ w : String, (∃! n : Nat, columnName n = w) ↔ w ≠ "" ∧ AreLetters w.toList) ∧
    ∀ m n : Nat, m < n ↔ (columnName m).length < (columnName n).length ∨
      (columnName m).length = (columnName n).length ∧ columnName m < columnName n := by
  have hname : ∀ n : Nat, columnName n ≠ "" ∧ AreLetters (columnName n).toList ∧
      value (columnName n).toList = n + 1 := fun n => by
    have hvalue : value (columnName n).toList = n + 1 := by
      rw [toList_columnName, value_letters]
    refine ⟨fun hempty => ?_, areLetters_columnName n, hvalue⟩
    rw [hempty] at hvalue
    cases hvalue
  refine ⟨fun n => ?_, hname, fun w => ⟨?_, ?_⟩, fun m n => ?_⟩
  · rw [← String.length_toList, toList_columnName]
    exact iterate_turn (n + 1)
  · rintro ⟨n, rfl, -⟩
    exact ⟨(hname n).1, (hname n).2.1⟩
  · rintro ⟨hne, hw⟩
    have hletters := letters_value hw
    have hpos : value w.toList ≠ 0 := fun hzero => by
      rw [hzero] at hletters
      exact hne (String.toList_inj.mp hletters.symm)
    obtain ⟨n, hn⟩ := Nat.exists_eq_add_one_of_ne_zero hpos
    refine ⟨n, ?_, fun m hm => ?_⟩
    · dsimp only
      rw [← String.toList_inj, toList_columnName, ← hn, hletters]
    · have hvalue := (hname m).2.2
      rw [hm, hn] at hvalue
      exact (Nat.succ.inj hvalue).symm
  · have horder := value_lt_iff (hname m).2.1 (hname n).2.1
    rw [(hname m).2.2, (hname n).2.2, Nat.add_lt_add_iff_right] at horder
    rw [horder, String.length_toList, String.length_toList, ← String.lt_iff]

end Sheet
end FormDispatch
