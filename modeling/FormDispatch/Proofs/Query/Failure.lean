/-
# Why query text is not read

Reading fails by a flaw or by an integer numeral that is too long to be converted. In the second
case the failure tells how many digits there were, and they were more than
`Numeral.longestNumeral` (`failsOnLength_read`). The reader's functions call each other, so
this is shown of all of them at once, by induction on their fuel.
-/

import FormDispatch.Proofs.Number.Digits
import FormDispatch.Proofs.Query.Lexeme
import FormDispatch.Proofs.Result
import FormDispatch.Query

namespace FormDispatch
namespace Query

/-- A reading that fails by a numeral only if that has too many digits. -/
def FailsOnLength {α : Type} (x : Except ReadError α) : Prop :=
  ∀ n, x = .error (.numeralTooLong n) → Numeral.longestNumeral < n

namespace FailsOnLength

variable {α β : Type}

theorem ok (a : α) : FailsOnLength (.ok a : Except ReadError α) := nofun

theorem flaw (what : Flaw) (left : Nat) :
    FailsOnLength (.error (.flaw what left) : Except ReadError α) := nofun

theorem map {x : Except ReadError α} (h : FailsOnLength x) (f : α → β) :
    FailsOnLength (x.map f) := by
  intro n hn
  cases x with
  | ok a => cases hn
  | error e =>
    cases hn
    exact h n rfl

theorem bind {x : Except ReadError α} (h : FailsOnLength x) {f : α → Except ReadError β}
    (hf : ∀ a, FailsOnLength (f a)) : FailsOnLength (x >>= f) := by
  cases x with
  | ok a => exact hf a
  | error e =>
    intro n hn
    cases hn
    exact h n rfl

end FailsOnLength

namespace Reader

open FailsOnLength

theorem failsOnLength_flawAt {α : Type} (waiting : Option (Nat × Nat)) (what : Flaw) (left : Nat) :
    FailsOnLength (flawAt waiting what left : Except ReadError α) := by
  cases waiting <;> exact nofun

theorem failsOnLength_withUnit (held : List Char) (waiting : Option (Nat × Nat)) (unit left : Nat) :
    FailsOnLength (withUnit held waiting unit left) := by
  unfold withUnit
  split
  · split
    · exact ok _
    · exact flaw _ _
  · split
    · exact flaw _ _
    · split <;> exact ok _

theorem failsOnLength_text (quote : Char) (held : List Char) (waiting : Option (Nat × Nat))
    (s : List Char) : FailsOnLength (text quote held waiting s) := by
  fun_induction text quote held waiting s
  case case4 =>
    next hunit =>
    intro n hn
    cases hn
    exact failsOnLength_withUnit _ _ _ _ n hunit
  all_goals first
    | assumption
    | exact ok _
    | exact flaw _ _
    | exact failsOnLength_flawAt _ _ _

/-- A numeral fails to be a number by its length only. -/
theorem numeralTooLong_of_number {parts : Document.Reader.NumeralParts} {e : Document.ReadError}
    (h : parts.number = .error e) : ∃ n, e = .numeralTooLong n ∧ Numeral.longestNumeral < n := by
  unfold Document.Reader.NumeralParts.number at h
  split at h
  · split at h
    · cases h
    · next n hn =>
      cases h
      exact ⟨n, rfl, (Numeral.readSigned_eq_error.mp hn).2⟩
  · cases h

theorem failsOnLength_number (s : List Char) : FailsOnLength (number s) := by
  unfold number
  split
  · exact flaw _ _
  · split
    · exact ok _
    · next digits hdigits =>
      intro n hn
      obtain ⟨m, hm, hlong⟩ := numeralTooLong_of_number hdigits
      cases hm
      cases hn
      exact hlong
    · exact flaw _ _

theorem longestNumeral_lt_of_integer {call : Call} {d : Document} {n : Nat}
    (h : call.integer d = .error (.numeralTooLong n)) : Numeral.longestNumeral < n := by
  unfold Call.integer at h
  split at h
  · cases h
  · split at h
    · cases h
    · split at h
      · cases h
      · next hn =>
        cases h
        exact (Numeral.readSigned_eq_error.mp hn).2
  · cases h

/-- A call fails by a numeral only where its argument is the text of an integer. -/
theorem longestNumeral_lt_of_value {call : Call} {held : List Document} {n : Nat}
    (h : call.value held = .error (.numeralTooLong n)) : Numeral.longestNumeral < n := by
  unfold Call.value at h
  split at h
  · next d =>
    unfold Call.ofArgument at h
    split at h
    · split at h <;> cases h
    · cases h
    · split at h <;> cases h
    · cases h
    · obtain hinteger | ⟨m, -, hm⟩ := Result.bind_eq_error.mp h
      · exact longestNumeral_lt_of_integer hinteger
      · cases hm
    · obtain hinteger | ⟨m, -, hm⟩ := Result.bind_eq_error.mp h
      · exact longestNumeral_lt_of_integer hinteger
      · split at hm <;> cases hm
    · split at h
      · cases h
      · split at h <;> cases h
  · cases h

theorem failsOnLength_called (call : Call) (left : Nat) (held : List Document) :
    FailsOnLength (called call left held) := by
  unfold called
  split
  · exact ok _
  · exact flaw _ _
  · next hn =>
    intro n h
    cases h
    exact longestNumeral_lt_of_value hn

theorem failsOnLength_keyText (s : List Char) : FailsOnLength (keyText s) := by
  unfold keyText
  split
  · split
    · exact failsOnLength_text _ _ _ _
    · split
      · exact ok _
      · exact flaw _ _
  · exact flaw _ _

/-- With so much fuel, the four functions that read values fail on the length of a numeral only. -/
structure ReadersFailOnLength (fuel : Nat) : Prop where
  value : ∀ room s, FailsOnLength (Reader.value fuel room s)
  items : ∀ room s, FailsOnLength (Reader.items fuel room s)
  memberPairs : ∀ room s, FailsOnLength (Reader.memberPairs fuel room s)
  arguments : ∀ room s, FailsOnLength (Reader.arguments fuel room s)

namespace ReadersFailOnLength

variable {fuel : Nat}

theorem zero : ReadersFailOnLength 0 where
  value _ _ := by
    rw [Reader.value]
    exact flaw _ _
  items _ _ := by
    rw [Reader.items]
    exact flaw _ _
  memberPairs _ _ := by
    rw [Reader.memberPairs]
    exact flaw _ _
  arguments _ _ := by
    rw [Reader.arguments]
    exact flaw _ _

theorem value_succ (h : ReadersFailOnLength fuel) (room : Nat) (s : List Char) :
    FailsOnLength (Reader.value (fuel + 1) room s) := by
  rw [Reader.value]
  split
  · exact flaw _ _
  · split
    · exact flaw _ _
    · split
      · exact ok _
      · exact (h.memberPairs _ _).map _
  · split
    · exact flaw _ _
    · split
      · exact ok _
      · exact (h.items _ _).map _
  · split
    · exact (failsOnLength_text _ _ _ _).map _
    · split
      · exact failsOnLength_number _
      · split
        · exact flaw _ _
        · split
          · exact ok _
          · split
            · split
              · exact (failsOnLength_called _ _ _).map _
              · refine (h.arguments _ _).bind fun (_, _) => ?_
                exact (failsOnLength_called _ _ _).bind fun _ => ok _
            · exact flaw _ _

theorem items_succ (h : ReadersFailOnLength fuel) (room : Nat) (s : List Char) :
    FailsOnLength (Reader.items (fuel + 1) room s) := by
  rw [Reader.items]
  refine (h.value _ _).bind fun (_, _) => ?_
  dsimp only
  split
  · exact ok _
  · split
    · exact ok _
    · exact (h.items _ _).bind fun _ => ok _
  · exact flaw _ _

theorem memberPairs_succ (h : ReadersFailOnLength fuel) (room : Nat) (s : List Char) :
    FailsOnLength (Reader.memberPairs (fuel + 1) room s) := by
  rw [Reader.memberPairs]
  refine (failsOnLength_keyText _).bind fun (_, _) => ?_
  dsimp only
  split
  · refine (h.value _ _).bind fun (_, _) => ?_
    dsimp only
    split
    · exact ok _
    · split
      · exact ok _
      · exact (h.memberPairs _ _).bind fun _ => ok _
    · exact flaw _ _
  · exact flaw _ _

theorem arguments_succ (h : ReadersFailOnLength fuel) (room : Nat) (s : List Char) :
    FailsOnLength (Reader.arguments (fuel + 1) room s) := by
  rw [Reader.arguments]
  refine (h.value _ _).bind fun (_, _) => ?_
  dsimp only
  split
  · exact ok _
  · exact (h.arguments _ _).bind fun _ => ok _
  · exact flaw _ _

end ReadersFailOnLength

/-- However much fuel there is, values are not read for the length of a numeral only. -/
theorem readersFailOnLength (fuel : Nat) : ReadersFailOnLength fuel := by
  induction fuel with
  | zero => exact .zero
  | succ fuel ih => exact ⟨ih.value_succ, ih.items_succ, ih.memberPairs_succ, ih.arguments_succ⟩

end Reader

/-- **A text that is not read for a numeral has one of too many digits.** -/
theorem failsOnLength_read (s : List Char) : FailsOnLength (read s) := by
  unfold read
  refine ((Reader.readersFailOnLength _).value _ _).bind fun (_, _) => ?_
  dsimp only
  split
  · exact .ok _
  · exact .flaw _ _

end Query
end FormDispatch
