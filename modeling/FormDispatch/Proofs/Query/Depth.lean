/-
# Which query texts are too deep

The depth of a text counts braces, brackets and the opening brackets of calls, as many as are open
at once outside of quoted texts (`depth`). The reader counts braces and brackets alone: it reads a
text that spells a value just when these nest no deeper than `deepest`, and a text that it finds too
deep is (`read_within_depth`). Calls it does not count, so the depth of what it reads has no bound:
`nestedCalls` gives a text for every number of calls in each other.

The three numbers are maxima over the places of a text, of one count each (`peakOf`).
-/

import FormDispatch.Proofs.Query.Progress

namespace FormDispatch
namespace Query

/-- What is open at a place of a text. -/
structure Openings where
  place : Place
  /-- how many calls are open -/
  calls : Nat

namespace Openings

/-- What is open where a text starts. -/
def none : Openings :=
  ⟨⟨.outside, 0⟩, 0⟩

/-- How many calls are open after a character outside of quotes. -/
def callsAfter (calls : Nat) (c : Char) : Nat :=
  if c = '(' then calls + 1 else if c = ')' then calls - 1 else calls

/-- What is open after a character. -/
def after (o : Openings) (c : Char) : Openings :=
  ⟨o.place.after c,
    match o.place.quotation with
    | .outside => callsAfter o.calls c
    | .inside .. => o.calls⟩

/-- What is open after some characters. -/
def afterAll (o : Openings) (s : List Char) : Openings :=
  s.foldl after o

/-- The greatest count at a place and after each of some characters. -/
def peakOf (count : Openings → Nat) : Openings → List Char → Nat
  | o, [] => count o
  | o, c :: r => max (count o) (peakOf count (o.after c) r)

/-- The count at the place where a text starts. -/
theorem count_le_peakOf (count : Openings → Nat) (o : Openings) (s : List Char) :
    count o ≤ peakOf count o s := by
  cases s with
  | nil => exact Nat.le_refl _
  | cons c r => exact Nat.le_max_left _ _

/-- The start of a text counts no more than the text. -/
theorem peakOf_left_le (count : Openings → Nat) (o : Openings) (s t : List Char) :
    peakOf count o s ≤ peakOf count o (s ++ t) := by
  induction s generalizing o with
  | nil => exact count_le_peakOf count o t
  | cons c r ih =>
    exact Nat.max_le.2 ⟨Nat.le_max_left _ _, Nat.le_trans (ih (o.after c)) (Nat.le_max_right _ _)⟩

/-- What is left of a text counts no more than the text. -/
theorem peakOf_right_le (count : Openings → Nat) (o : Openings) (s t : List Char) :
    peakOf count (o.afterAll s) t ≤ peakOf count o (s ++ t) := by
  induction s generalizing o with
  | nil => exact Nat.le_refl _
  | cons c r ih => exact Nat.le_trans (ih (o.after c)) (Nat.le_max_right _ _)

theorem peakOf_mono {count count' : Openings → Nat} (h : ∀ o, count o ≤ count' o) (o : Openings)
    (s : List Char) : peakOf count o s ≤ peakOf count' o s := by
  induction s generalizing o with
  | nil => exact h o
  | cons c r ih =>
    exact Nat.max_le.2 ⟨Nat.le_trans (h o) (Nat.le_max_left _ _),
      Nat.le_trans (ih (o.after c)) (Nat.le_max_right _ _)⟩

/-- Two counts together are at most what they are apart. -/
theorem peakOf_add_le (count count' : Openings → Nat) (o : Openings) (s : List Char) :
    peakOf (fun o => count o + count' o) o s ≤ peakOf count o s + peakOf count' o s := by
  induction s generalizing o with
  | nil => exact Nat.le_refl _
  | cons c r ih =>
    have hrest := ih (o.after c)
    simp only [peakOf]
    omega

/-- Braces and brackets alone are counted by the peak of a place. -/
theorem peakOf_depth (o : Openings) (s : List Char) :
    peakOf (fun o => o.place.depth) o s = o.place.peak s := by
  induction s generalizing o with
  | nil => rfl
  | cons c r ih => rw [peakOf, ih, Place.peak]; rfl

end Openings

open Openings (peakOf)

/-- How many braces, brackets and calls of a text are open at once at most. -/
def depth (s : List Char) : Nat :=
  peakOf (fun o => o.place.depth + o.calls) .none s

/-- How many calls of a text are open at once at most. -/
def callNesting (s : List Char) : Nat :=
  peakOf (fun o => o.calls) .none s

/-- Braces and brackets alone are no deeper than all together. -/
theorem nesting_le_depth (s : List Char) : nesting s ≤ depth s := by
  have hcount := Openings.peakOf_depth .none s
  have hmono := Openings.peakOf_mono (fun o => Nat.le_add_right o.place.depth o.calls) .none s
  rw [hcount] at hmono
  exact hmono

/-- A text is no deeper than its braces and brackets and its calls together. -/
theorem depth_le (s : List Char) : depth s ≤ nesting s + callNesting s := by
  have hcount := Openings.peakOf_depth .none s
  have hadd := Openings.peakOf_add_le (fun o => o.place.depth) Openings.calls .none s
  rw [hcount] at hadd
  exact hadd

/-! ### Braces and brackets are counted -/

/-- Every text that is read nests no deeper than it may. -/
theorem nesting_le_of_read {s : List Char} {d : Document} (h : read s = .ok d) :
    nesting s ≤ deepest := by
  unfold read at h
  obtain ⟨⟨held, rest⟩, hvalue, hmore⟩ := Result.bind_eq_ok.1 h
  have hpass := ((Reader.accounts_whole s).passes held rest hvalue).trans
    (.trimFront (Nat.zero_le _) rest)
  dsimp only at hmore
  split at hmore
  · next hend =>
    rw [hend] at hpass
    obtain ⟨t, rfl, hpeak, -⟩ := hpass
    rwa [List.append_nil]
  · cases hmore

/-- Every text that is found too deep nests deeper than it may. -/
theorem deepest_lt_of_read {s : List Char} {left : Nat}
    (h : read s = .error (.flaw .tooDeep left)) : deepest < nesting s := by
  unfold read at h
  rcases Result.bind_eq_error.1 h with hvalue | ⟨⟨held, rest⟩, -, hmore⟩
  · exact (Reader.accounts_whole s).deeper left hvalue
  · dsimp only at hmore
    split at hmore <;> cases hmore

theorem head?_toList_append {s : String} {c : Char} (h : s.toList.head? = some c) (t : String) :
    (s ++ t).toList.head? = some c := by
  rw [String.toList_append, List.head?_append, h]
  rfl

/-- No other flaw is worded like the depth: none starts with the same letter. -/
theorem eq_tooDeep_of_wording {what : Flaw} (h : what.wording = Flaw.tooDeep.wording) :
    what = .tooDeep := by
  have first : what.wording.toList.head? = some 'd' := by
    rw [h]
    decide
  have clash : ∀ {s t : String} {c : Char}, what.wording = s ++ t → s.toList.head? = some c →
      c ≠ 'd' → what = .tooDeep := by
    intro s t c hst hs hc
    rw [hst, head?_toList_append hs] at first
    exact absurd (Option.some.inj first) hc
  cases what with
  | tooDeep => rfl
  | unexpected | unknownName =>
    exact clash rfl (head?_toList_append (c := 'u') (by decide) _) (by decide)
  | escape | date | decimal =>
    exact clash rfl (head?_toList_append (c := 'i') (by decide) _) (by decide)
  | expected =>
    exact clash rfl (head?_toList_append (c := 'e')
      (head?_toList_append (head?_toList_append (by decide) _) _) _) (by decide)
  | argumentCount call | integerKind call => cases call <;> exact absurd h (by decide)
  | _ => exact absurd h (by decide)

theorem document_eq_ok {field text : String} {members : Members} :
    document field text = .ok members ↔ read text.toList = .ok (.obj members) := by
  rw [document, Result.bind_eq_ok]
  constructor
  · rintro ⟨d, hd, h⟩
    cases d <;> cases h
    exact value_eq_ok.mp hd
  · intro h
    exact ⟨_, value_eq_ok.mpr h, rfl⟩

/-- Every text of a field that is turned down for its depth nests deeper than it may. -/
theorem deepest_lt_of_value {field text fragment : String}
    (h : value field text =
      .error (.problem (.unreadableText field fragment Flaw.tooDeep.wording))) :
    deepest < nesting text.toList := by
  unfold value at h
  split at h
  · cases h
  · next cause hread =>
    cases cause with
    | flaw what left =>
      obtain ⟨-, -, hwording⟩ :=
        Problem.unreadableText.inj (Failure.problem.inj (Except.error.inj h))
      rw [eq_tooDeep_of_wording hwording] at hread
      exact deepest_lt_of_read hread
    | numeralTooLong digits => cases h

/-! ### Calls are not -/

/-- A number in so many calls. -/
def nestedCalls : Nat → List Char
  | 0 => ['1']
  | n + 1 => "NumberInt(".toList ++ (nestedCalls n ++ [')'])

theorem spells_nestedCalls (n : Nat) : Spells (.value (.int 1)) (nestedCalls n) := by
  induction n with
  | zero =>
    have hone : Document.Reader.NumeralText Text.isDecimalDigit Document.Reader.isLeadingDigit
        ⟨false, ['1'], none, none⟩ ['1'] :=
      .parts (@Document.Reader.WholePart.digits _ _ '1' [] (by decide) nofun) .none .none
    exact .numeral hone rfl
  | succ n ih =>
    exact @Spells.call .numberInt (.int 1) (.int 1) [] [] _ [] .nil .nil ih .nil rfl

/-- Calls are made of neutral characters. -/
theorem nesting_nestedCalls (n : Nat) : nesting (nestedCalls n) = 0 := by
  refine Place.peak_of_isNeutral (fun c hc => ?_) 0
  induction n with
  | zero =>
    rw [List.mem_singleton.1 hc]
    decide
  | succ n ih =>
    rcases List.mem_append.1 hc with hc | hc
    · exact List.all_eq_true.1 (by decide) c hc
    · rcases List.mem_append.1 hc with hc | hc
      · exact ih hc
      · rw [List.mem_singleton.1 hc]
        decide

theorem le_depth_nestedCalls (n : Nat) : n ≤ depth (nestedCalls n) := by
  have open_calls : ∀ calls, calls + n ≤
      peakOf (fun o => o.place.depth + o.calls) ⟨⟨.outside, 0⟩, calls⟩ (nestedCalls n) := by
    induction n with
    | zero =>
      intro calls
      have hcount := Openings.count_le_peakOf (fun o => o.place.depth + o.calls)
        ⟨⟨.outside, 0⟩, calls⟩ (nestedCalls 0)
      dsimp only at hcount
      omega
    | succ n ih =>
      intro calls
      have hopened : Openings.afterAll ⟨⟨.outside, 0⟩, calls⟩ "NumberInt(".toList =
          ⟨⟨.outside, 0⟩, calls + 1⟩ := rfl
      calc calls + (n + 1)
        _ = calls + 1 + n := by omega
        _ ≤ peakOf _ ⟨⟨.outside, 0⟩, calls + 1⟩ (nestedCalls n) := ih (calls + 1)
        _ ≤ peakOf _ ⟨⟨.outside, 0⟩, calls + 1⟩ (nestedCalls n ++ [')']) :=
          Openings.peakOf_left_le ..
        _ ≤ _ := hopened ▸ Openings.peakOf_right_le ..
  have hcalls := open_calls 0
  rw [Nat.zero_add] at hcalls
  exact hcalls

/-! ### Which texts are too deep -/

/-- **A text is read just when it spells a value and its braces and brackets are within bounds, and
a text that is found too deep is.** Calls are not counted, so what is read can be deeper by as many
of them as are open at once, and there is no bound on that. -/
theorem read_within_depth (field : String) :
    (∀ text d, value field text = .ok d ↔
      SpellsAlone d text.toList ∧ nesting text.toList ≤ deepest) ∧
    (∀ text d, value field text = .ok d →
      depth text.toList ≤ deepest + callNesting text.toList) ∧
    (∀ text fragment, value field text =
        .error (.problem (.unreadableText field fragment Flaw.tooDeep.wording)) →
      deepest < depth text.toList) ∧
    ∀ n, ∃ text d, value field text = .ok d ∧ n ≤ depth text.toList := by
  have accepted : ∀ text d, value field text = .ok d ↔
      SpellsAlone d text.toList ∧ nesting text.toList ≤ deepest := by
    intro text d
    rw [value_eq_ok]
    constructor
    · intro hread
      exact ⟨spellsAlone_of_read hread, nesting_le_of_read hread⟩
    · rintro ⟨spelled, hnesting⟩
      exact (read_eq_ok hnesting).2 spelled
  refine ⟨accepted, fun text d hvalue => ?_, fun text fragment herror => ?_, fun n => ?_⟩
  · have hnesting := ((accepted text d).1 hvalue).2
    exact Nat.le_trans (depth_le text.toList) (Nat.add_le_add_right hnesting _)
  · exact Nat.lt_of_lt_of_le (deepest_lt_of_value herror) (nesting_le_depth text.toList)
  · refine ⟨String.ofList (nestedCalls n), .int 1, (accepted _ _).2 ?_, ?_⟩ <;>
      rw [String.toList_ofList]
    · have spelled : SpellsAlone (.int 1) (nestedCalls n) :=
        ⟨[], nestedCalls n, [], by simp, .nil, spells_nestedCalls n, .nil⟩
      exact ⟨spelled, by rw [nesting_nestedCalls]; exact Nat.zero_le _⟩
    · exact le_depth_nestedCalls n

end Query
end FormDispatch
