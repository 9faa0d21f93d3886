/-
# Which query texts come to an integer that is too long

An integer of too many digits is not converted, and reading fails for its length. `MeetsLong` says
which texts come to such an integer, without the reader: one is next, as a numeral or as the text in
a call, and all that stands in front of it is spelled and within bounds. The reader fails for the
length of an integer on these texts and on no others (`read_eq_long_iff`).

That it does on them is shown by induction on how the text comes to its integer. That it does on no
others is shown of the functions of the reader all at once, by induction on their fuel
(`readersMeetLong`); what these have read before they fail is spelled (`readers_readSpelled`) and
within bounds (`readers_account`).
-/

import FormDispatch.Proofs.Query.Progress

namespace FormDispatch
namespace Query

open Document.Reader (NumeralParts isLeadingDigit)

/-! ### Integers of too many digits -/

/-- A text that starts with the numeral of an integer of `n` digits. -/
def StartsInteger (n : Nat) (s : List Char) : Prop :=
  ∃ parts rest, Document.Reader.numeral? Text.isDecimalDigit isLeadingDigit s = some (parts, rest) ∧
    parts.fraction = none ∧ parts.exponent = none ∧ parts.whole.length = n

/-- The first character of an integer. -/
theorem StartsInteger.head {n : Nat} {s : List Char} (h : StartsInteger n s) :
    ∃ c r, s = c :: r ∧ (c = '-' ∨ c = '0' ∨ isLeadingDigit c = true) := by
  obtain ⟨parts, rest, hparts, -⟩ := h
  obtain ⟨t, rfl, ht⟩ := Document.Reader.numeral?_sound hparts
  obtain ⟨c, r, rfl, hc⟩ := NumeralText.head ht
  exact ⟨c, r ++ rest, rfl, hc⟩

/-- A text that is an integer of `n` digits. -/
def IsIntegerText (n : Nat) (d : Document) : Prop :=
  ∃ s, d = .str s ∧ (Numeral.signed? (Text.trim s.toList)).map (fun p => p.2.length) = some n

/-- A call that takes its argument for an integer. -/
def Call.TakesInteger (call : Call) : Prop :=
  call = .numberLong ∨ call = .numberInt

theorem numberOf_eq_long {parts : NumeralParts} {n : Nat} :
    parts.number = .error (.numeralTooLong n) ↔
      (parts.fraction = none ∧ parts.exponent = none ∧ parts.whole.length = n) ∧
        Numeral.longestNumeral < n := by
  unfold NumeralParts.number
  split
  · next hfraction hexponent =>
    have hread := @Numeral.readSigned_eq_error (parts.negative, parts.whole) n
    cases hsigned : Numeral.readSigned (parts.negative, parts.whole) with
    | ok i =>
      rw [hsigned] at hread
      simpa [hfraction, hexponent] using hread
    | error m =>
      rw [hsigned] at hread
      simpa [hfraction, hexponent] using hread
  · next hparts =>
    constructor
    · nofun
    · rintro ⟨⟨hfraction, hexponent, -⟩, -⟩
      exact absurd hexponent (hparts hfraction)

/-- A numeral is not converted just when it is that of an integer of too many digits. -/
theorem number_eq_long {s : List Char} {n : Nat} :
    Reader.number s = .error (.numeralTooLong n) ↔
      StartsInteger n s ∧ Numeral.longestNumeral < n := by
  have split_long : Reader.number s = .error (.numeralTooLong n) ↔ ∃ parts rest,
      Document.Reader.numeral? Text.isDecimalDigit isLeadingDigit s = some (parts, rest) ∧
        parts.number = .error (.numeralTooLong n) := by
    unfold Reader.number
    split
    · next hnone => simp [hnone]
    · next parts rest hparts =>
      rw [hparts]
      cases hnumber : parts.number with
      | ok d => simp [hnumber]
      | error e => cases e <;> simp [hnumber]
  simp only [split_long, numberOf_eq_long, StartsInteger]
  constructor
  · rintro ⟨parts, rest, hparts, hinteger, hlong⟩
    exact ⟨⟨parts, rest, hparts, hinteger⟩, hlong⟩
  · rintro ⟨⟨parts, rest, hparts, hinteger⟩, hlong⟩
    exact ⟨parts, rest, hparts, hinteger, hlong⟩

theorem isIntegerText_str {s : String} {n : Nat} : IsIntegerText n (.str s) ↔
    (Numeral.signed? (Text.trim s.toList)).map (fun p => p.2.length) = some n := by
  unfold IsIntegerText
  constructor
  · rintro ⟨_, ⟨⟩, h⟩
    exact h
  · exact fun h => ⟨s, rfl, h⟩

theorem integer_eq_long {call : Call} {d : Document} {n : Nat} :
    call.integer d = .error (.numeralTooLong n) ↔
      IsIntegerText n d ∧ Numeral.longestNumeral < n := by
  unfold Call.integer
  split
  · simp [IsIntegerText]
  · next s =>
    rw [isIntegerText_str]
    split
    · next hnone =>
      rw [hnone]
      simp
    · next numeral hsigned =>
      have hread := @Numeral.readSigned_eq_error numeral n
      rw [hsigned, Option.map_some, Option.some.injEq]
      cases hvalue : Numeral.readSigned numeral with
      | ok i =>
        rw [hvalue] at hread
        simpa using hread
      | error m =>
        rw [hvalue] at hread
        simpa using hread
  · next hstr =>
    constructor
    · nofun
    · rintro ⟨⟨s, rfl, -⟩, -⟩
      exact absurd rfl (hstr s)

/-- A call fails for the length of an integer just when its argument is the text of one. -/
theorem ofArgument_eq_long {call : Call} {argument : Document} {n : Nat} :
    call.ofArgument argument = .error (.numeralTooLong n) ↔
      (call.TakesInteger ∧ IsIntegerText n argument) ∧ Numeral.longestNumeral < n := by
  unfold Call.TakesInteger
  cases call with
  | objectId =>
    cases argument <;> simp only [Call.ofArgument] <;> try split
    all_goals simp
  | isoDate =>
    cases argument <;> simp only [Call.ofArgument] <;> try split
    all_goals simp
  | numberLong =>
    rw [Call.ofArgument, Result.bind_eq_error, integer_eq_long]
    simp [pure, Except.pure]
  | numberInt =>
    rw [Call.ofArgument, Result.bind_eq_error, integer_eq_long]
    have hrange : ∀ i : Int, (if -2147483648 ≤ i ∧ i ≤ 2147483647 then
        (.ok (.int i) : Except Refusal Document) else .error (.flaw .integerRange)) ≠
          .error (.numeralTooLong n) := by
      intro i
      split <;> simp
    simp [pure, Except.pure, hrange]
  | numberDecimal =>
    rw [Call.ofArgument]
    split
    · simp
    · split <;> simp

/-! ### Texts that come to an integer of too many digits -/

/-- What a text starts with, blanks in front left aside. -/
inductive Part where
  | value
  /-- items of an array, or arguments of a call -/
  | list
  /-- members of an object -/
  | members

/-- **The texts that come to an integer of `n` digits, more than are converted**, where `depth`
brackets are open: all that stands in front of it is spelled and within bounds. -/
inductive MeetsLong (n : Nat) : (depth : Nat) → Part → List Char → Prop
  | numeral {depth : Nat} {s : List Char} (digits : StartsInteger n s)
      (long : Numeral.longestNumeral < n) : MeetsLong n depth .value s
  | argument {depth : Nat} {call : Call} {argument : Document} {w w₁ t w₂ rest : List Char}
      (hw : Blanks w) (hw₁ : Blanks w₁) (h : Spells (.value argument) t)
      (within : (Place.mk .outside depth).peak t ≤ deepest) (hw₂ : Blanks w₂)
      (takes : call.TakesInteger) (digits : IsIntegerText n argument)
      (long : Numeral.longestNumeral < n) :
      MeetsLong n depth .value
        (call.name.toList ++ (w ++ '(' :: (w₁ ++ (t ++ (w₂ ++ ')' :: rest)))))
  | call {depth : Nat} {call : Call} {w s : List Char} (hw : Blanks w)
      (h : MeetsLong n depth .list s) :
      MeetsLong n depth .value (call.name.toList ++ (w ++ '(' :: s))
  | arr {depth : Nat} {s : List Char} (within : depth < deepest)
      (h : MeetsLong n (depth + 1) .list s) : MeetsLong n depth .value ('[' :: s)
  | obj {depth : Nat} {s : List Char} (within : depth < deepest)
      (h : MeetsLong n (depth + 1) .members s) : MeetsLong n depth .value ('\x7b' :: s)
  | first {depth : Nat} {w s : List Char} (hw : Blanks w) (h : MeetsLong n depth .value s) :
      MeetsLong n depth .list (w ++ s)
  | later {depth : Nat} {d : Document} {w t w' s : List Char} (hw : Blanks w)
      (h : Spells (.value d) t) (within : (Place.mk .outside depth).peak t ≤ deepest)
      (hw' : Blanks w') (hs : MeetsLong n depth .list s) :
      MeetsLong n depth .list (w ++ (t ++ (w' ++ ',' :: s)))
  | firstMember {depth : Nat} {key : String} {w k w₁ w₂ s : List Char} (hw : Blanks w)
      (hk : SpelledKey key k) (hw₁ : Blanks w₁) (hw₂ : Blanks w₂)
      (h : MeetsLong n depth .value s) :
      MeetsLong n depth .members (w ++ (k ++ (w₁ ++ ':' :: (w₂ ++ s))))
  | laterMember {depth : Nat} {key : String} {d : Document} {w k w₁ w₂ t w' s : List Char}
      (hw : Blanks w) (hk : SpelledKey key k) (hw₁ : Blanks w₁) (hw₂ : Blanks w₂)
      (h : Spells (.value d) t) (within : (Place.mk .outside depth).peak t ≤ deepest)
      (hw' : Blanks w') (hs : MeetsLong n depth .members s) :
      MeetsLong n depth .members (w ++ (k ++ (w₁ ++ ':' :: (w₂ ++ (t ++ (w' ++ ',' :: s))))))

/-- Blanks in front of a text that starts a word are dropped. -/
theorem StartsWord.trimFront_blanks {w t : List Char} (ht : StartsWord t) (hw : Blanks w) :
    Text.trimFront (w ++ t) = t := by
  have hfront := ht.trimFront_append hw []
  rwa [List.append_nil] at hfront

theorem StartsWord.append {t : List Char} (h : StartsWord t) (s : List Char) :
    StartsWord (t ++ s) := by
  obtain ⟨c, r, rfl, hc⟩ := h
  exact ⟨c, r ++ s, rfl, hc⟩

/-- The name of a call starts a word. -/
theorem startsWord_name (call : Call) : StartsWord call.name.toList := by
  cases call <;> exact ⟨_, _, rfl, by decide⟩

namespace MeetsLong

variable {n depth : Nat} {s v : List Char}

/-- A value that comes to a long integer starts a word. -/
theorem head_value (h : MeetsLong n depth .value s) : StartsWord s := by
  cases h with
  | numeral digits _ =>
    obtain ⟨c, r, rfl, hc⟩ := digits.head
    refine ⟨c, r, rfl, ?_⟩
    rcases hc with rfl | rfl | lead
    · decide
    · decide
    · exact isStop_eq_false_of_isLeadingDigit lead
  | argument _ _ _ _ _ _ _ _ => exact (startsWord_name _).append _
  | call _ _ => exact (startsWord_name _).append _
  | arr _ _ => exact ⟨_, _, rfl, by decide⟩
  | obj _ _ => exact ⟨_, _, rfl, by decide⟩

/-- Items that come to a long integer start a word behind blanks. -/
theorem head_list (h : MeetsLong n depth .list s) : StartsWord (Text.trimFront s) := by
  cases h with
  | first hw h =>
    rw [h.head_value.trimFront_blanks hw]
    exact h.head_value
  | later hw h _ _ _ =>
    rw [h.head_value.trimFront_append hw]
    exact h.head_value.append _

/-- Members that come to a long integer start a word behind blanks. -/
theorem head_members (h : MeetsLong n depth .members s) : StartsWord (Text.trimFront s) := by
  cases h with
  | firstMember hw hk _ _ _ | laterMember hw hk _ _ _ _ _ _ =>
    rw [hk.head.trimFront_append hw]
    exact hk.head.append _

/-- More blanks in front of items. -/
theorem blanks_list (hv : Blanks v) (h : MeetsLong n depth .list s) :
    MeetsLong n depth .list (v ++ s) := by
  cases h with
  | first hw h => exact List.append_assoc v _ _ ▸ .first (hv.append hw) h
  | later hw h within hw' hs =>
    exact List.append_assoc v _ _ ▸ .later (hv.append hw) h within hw' hs

/-- More blanks in front of members. -/
theorem blanks_members (hv : Blanks v) (h : MeetsLong n depth .members s) :
    MeetsLong n depth .members (v ++ s) := by
  cases h with
  | firstMember hw hk hw₁ hw₂ h =>
    exact List.append_assoc v _ _ ▸ .firstMember (hv.append hw) hk hw₁ hw₂ h
  | laterMember hw hk hw₁ hw₂ h within hw' hs =>
    exact List.append_assoc v _ _ ▸ .laterMember (hv.append hw) hk hw₁ hw₂ h within hw' hs

/-- Items that come to a long integer behind blanks. -/
theorem of_trimFront_list (h : MeetsLong n depth .list (Text.trimFront s)) :
    MeetsLong n depth .list s := by
  obtain ⟨w, hs, hw⟩ := trimFront_spec s
  exact hs ▸ h.blanks_list hw

/-- Members that come to a long integer behind blanks. -/
theorem of_trimFront_members (h : MeetsLong n depth .members (Text.trimFront s)) :
    MeetsLong n depth .members s := by
  obtain ⟨w, hs, hw⟩ := trimFront_spec s
  exact hs ▸ h.blanks_members hw

end MeetsLong

/-! ### The reader fails on them -/

/-- The functions of the reader that read such a part of a text fail for the length of an integer of
`n` digits, with fuel for the text's length, where `depth` brackets are open. -/
def Part.Fails (n depth : Nat) (s : List Char) : Part → Prop
  | value => ∀ fuel room front, 2 * s.length ≤ fuel → depth + room = deepest →
      Text.trimFront front = s → Reader.value fuel room front = .error (.numeralTooLong n)
  | list => ∀ fuel room front, 2 * s.length + 1 ≤ fuel → depth + room = deepest →
      Text.trimFront front = Text.trimFront s →
      Reader.items fuel room front = .error (.numeralTooLong n) ∧
        Reader.arguments fuel room front = .error (.numeralTooLong n)
  | members => ∀ fuel room, 2 * s.length + 1 ≤ fuel → depth + room = deepest →
      Reader.memberPairs fuel room (Text.trimFront s) = .error (.numeralTooLong n)

namespace Part.Fails

variable {n depth : Nat} {d : Document} {key : String}
variable {w w' w₁ w₂ k t s rest : List Char}

/-- A value that is within bounds is read. -/
theorem value_spelled (fuel : Nat) (h : Spells (.value d) t)
    (within : (Place.mk .outside depth).peak t ≤ deepest) {room : Nat} {front : List Char}
    (hfuel : 2 * t.length ≤ fuel) (hroom : depth + room = deepest) (hrest : Stops rest)
    (hfront : Text.trimFront front = t ++ rest) : Reader.value fuel room front = .ok (d, rest) :=
  h.isReadFrom fuel room depth rest front hfuel (hroom ▸ within) hrest hfront

/-- A numeral of too many digits fails. -/
theorem numeral (digits : StartsInteger n s) (long : Numeral.longestNumeral < n) :
    value.Fails n depth s := by
  intro fuel room front hfuel _ hfront
  obtain ⟨c, r, rfl, hc⟩ := digits.head
  obtain ⟨fuel, rfl⟩ : ∃ m, fuel = m + 1 := ⟨fuel - 1, by simp at hfuel; omega⟩
  rw [Reader.value_number hc hfront]
  exact number_eq_long.2 ⟨digits, long⟩

/-- A call with the text of such a numeral fails. -/
theorem argument {call : Call} (hw : Blanks w) (hw₁ : Blanks w₁)
    (h : Spells (.value d) t) (within : (Place.mk .outside depth).peak t ≤ deepest)
    (hw₂ : Blanks w₂) (takes : call.TakesInteger) (digits : IsIntegerText n d)
    (long : Numeral.longestNumeral < n) :
    value.Fails n depth (call.name.toList ++ (w ++ '(' :: (w₁ ++ (t ++ (w₂ ++ ')' :: rest))))) := by
  intro fuel room front hfuel hroom hfront
  simp only [List.length_append, List.length_cons] at hfuel
  obtain ⟨fuel, rfl⟩ : ∃ m, fuel = m + 2 := ⟨fuel - 2, by omega⟩
  have hr := h.head_value.trimFront_append hw₁ (w₂ ++ ')' :: rest)
  have hstops : Stops (w₂ ++ ')' :: rest) := .blanks hw₂ (.cons (by decide) rest)
  have hread := value_spelled fuel h within (by omega) hroom hstops
    ((Text.trimFront_trimFront _).trans hr)
  obtain ⟨c, r, hcr, hc⟩ := h.head_value.append (w₂ ++ ')' :: rest)
  have hlong := ofArgument_eq_long.2 ⟨⟨takes, digits⟩, long⟩
  rw [value_call hw hfront (hr.trans hcr) hc, arguments_single hw₂ hread]
  simp only [bind, Except.bind, Reader.called, Call.value, hlong]
  rfl

/-- A call fails with its arguments. -/
theorem call {call : Call} (ih : list.Fails n depth s) (hw : Blanks w)
    (h : MeetsLong n depth .list s) :
    value.Fails n depth (call.name.toList ++ (w ++ '(' :: s)) := by
  intro fuel room front hfuel hroom hfront
  simp only [List.length_append, List.length_cons] at hfuel
  obtain ⟨fuel, rfl⟩ : ∃ m, fuel = m + 1 := ⟨fuel - 1, by omega⟩
  obtain ⟨c, r, hs, hc⟩ := h.head_list
  have hfails := (ih fuel room _ (by omega) hroom (Text.trimFront_trimFront s)).2
  rw [value_call hw hfront hs hc, hfails]
  rfl

/-- An array fails with its items. -/
theorem arr (ih : list.Fails n (depth + 1) s) (within : depth < deepest)
    (h : MeetsLong n (depth + 1) .list s) : value.Fails n depth ('[' :: s) := by
  intro fuel room front hfuel hroom hfront
  rw [List.length_cons] at hfuel
  obtain ⟨fuel, rfl⟩ : ∃ m, fuel = m + 1 := ⟨fuel - 1, by omega⟩
  obtain ⟨room, rfl⟩ : ∃ m, room = m + 1 := ⟨room - 1, by omega⟩
  obtain ⟨c, r, hs, hc⟩ := h.head_list
  have hfails := (ih fuel room _ (by omega) (by omega) (Text.trimFront_trimFront s)).1
  rw [Reader.value_items hfront hs hc, hfails]
  rfl

/-- An object fails with its members. -/
theorem obj (ih : members.Fails n (depth + 1) s) (within : depth < deepest)
    (h : MeetsLong n (depth + 1) .members s) : value.Fails n depth ('\x7b' :: s) := by
  intro fuel room front hfuel hroom hfront
  rw [List.length_cons] at hfuel
  obtain ⟨fuel, rfl⟩ : ∃ m, fuel = m + 1 := ⟨fuel - 1, by omega⟩
  obtain ⟨room, rfl⟩ : ∃ m, room = m + 1 := ⟨room - 1, by omega⟩
  obtain ⟨c, r, hs, hc⟩ := h.head_members
  rw [Reader.value_members hfront hs hc, ih fuel room (by omega) (by omega)]
  rfl

/-- Items fail with the first. -/
theorem first (ih : value.Fails n depth s) (hw : Blanks w) (h : MeetsLong n depth .value s) :
    list.Fails n depth (w ++ s) := by
  intro fuel room front hfuel hroom hfront
  rw [List.length_append] at hfuel
  obtain ⟨fuel, rfl⟩ : ∃ m, fuel = m + 1 := ⟨fuel - 1, by omega⟩
  rw [h.head_value.trimFront_blanks hw] at hfront
  have hvalue := ih fuel room front (by omega) hroom hfront
  rw [Reader.items, Reader.arguments, hvalue]
  exact ⟨rfl, rfl⟩

/-- Items fail with those behind the first. -/
theorem later (ih : list.Fails n depth s) (hw : Blanks w) (h : Spells (.value d) t)
    (within : (Place.mk .outside depth).peak t ≤ deepest) (hw' : Blanks w')
    (hs : MeetsLong n depth .list s) : list.Fails n depth (w ++ (t ++ (w' ++ ',' :: s))) := by
  intro fuel room front hfuel hroom hfront
  simp only [List.length_append, List.length_cons] at hfuel
  obtain ⟨fuel, rfl⟩ : ∃ m, fuel = m + 1 := ⟨fuel - 1, by omega⟩
  rw [h.head_value.trimFront_append hw] at hfront
  have hstops : Stops (w' ++ ',' :: s) := .blanks hw' (.cons (by decide) s)
  have hvalue := value_spelled fuel h within (by omega) hroom hstops hfront
  obtain ⟨c, r, hr, hc⟩ := hs.head_list
  constructor
  · have hitems := (ih fuel room _ (by omega) hroom (Text.trimFront_trimFront s)).1
    rw [items_more hw' hvalue hr hc, hitems]
    rfl
  · have harguments := (ih fuel room s (by omega) hroom rfl).2
    rw [Reader.arguments, hvalue]
    simp only [bind, Except.bind, trimFront_mark hw' ',' (by decide), harguments]

/-- Members fail with the first. -/
theorem firstMember (ih : value.Fails n depth s) (hw : Blanks w) (hk : SpelledKey key k)
    (hw₁ : Blanks w₁) (hw₂ : Blanks w₂) (h : MeetsLong n depth .value s) :
    members.Fails n depth (w ++ (k ++ (w₁ ++ ':' :: (w₂ ++ s)))) := by
  intro fuel room hfuel hroom
  simp only [List.length_append, List.length_cons] at hfuel
  obtain ⟨fuel, rfl⟩ : ∃ m, fuel = m + 1 := ⟨fuel - 1, by omega⟩
  have hvalue := ih fuel room (w₂ ++ s) (by omega) hroom (h.head_value.trimFront_blanks hw₂)
  have hcolon : Stops (w₁ ++ ':' :: (w₂ ++ s)) := .blanks hw₁ (.cons (by decide) _)
  rw [hk.head.trimFront_append hw, Reader.memberPairs, keyText_append hk hcolon]
  simp only [bind, Except.bind, trimFront_mark hw₁ ':' (by decide), hvalue]

/-- Members fail with those behind the first. -/
theorem laterMember (ih : members.Fails n depth s) (hw : Blanks w) (hk : SpelledKey key k)
    (hw₁ : Blanks w₁) (hw₂ : Blanks w₂) (h : Spells (.value d) t)
    (within : (Place.mk .outside depth).peak t ≤ deepest) (hw' : Blanks w')
    (hs : MeetsLong n depth .members s) :
    members.Fails n depth (w ++ (k ++ (w₁ ++ ':' :: (w₂ ++ (t ++ (w' ++ ',' :: s)))))) := by
  intro fuel room hfuel hroom
  simp only [List.length_append, List.length_cons] at hfuel
  obtain ⟨fuel, rfl⟩ : ∃ m, fuel = m + 1 := ⟨fuel - 1, by omega⟩
  have hstops : Stops (w' ++ ',' :: s) := .blanks hw' (.cons (by decide) s)
  have hvalue := value_spelled fuel h within (by omega) hroom hstops
    (h.head_value.trimFront_append hw₂ (w' ++ ',' :: s))
  have hcolon : Stops (w₁ ++ ':' :: (w₂ ++ (t ++ (w' ++ ',' :: s)))) :=
    .blanks hw₁ (.cons (by decide) _)
  obtain ⟨c, r, hr, hc⟩ := hs.head_members
  rw [hk.head.trimFront_append hw, memberPairs_more (keyText_append hk hcolon) hw₁ hw' hvalue hr hc,
    ih fuel room (by omega) hroom]
  rfl

end Part.Fails

/-- **On a text that comes to an integer of too many digits the reader fails for its length.** -/
theorem MeetsLong.fails {n depth : Nat} {part : Part} {s : List Char}
    (h : MeetsLong n depth part s) : part.Fails n depth s := by
  induction h with
  | numeral digits long => exact .numeral digits long
  | argument hw hw₁ h within hw₂ takes digits long =>
    exact .argument hw hw₁ h within hw₂ takes digits long
  | call hw h ih => exact .call ih hw h
  | arr within h ih => exact .arr ih within h
  | obj within h ih => exact .obj ih within h
  | first hw h ih => exact .first ih hw h
  | later hw h within hw' hs ih => exact .later ih hw h within hw' hs
  | firstMember hw hk hw₁ hw₂ h ih => exact .firstMember ih hw hk hw₁ hw₂ h
  | laterMember hw hk hw₁ hw₂ h within hw' hs ih =>
    exact .laterMember ih hw hk hw₁ hw₂ h within hw' hs

/-! ### The reader fails for the length on no others -/

/-- A part of what is passed is within bounds. -/
theorem Passes.part_le {cap depth depth' : Nat} {w t u rest : List Char}
    (h : Passes cap depth depth' (w ++ (t ++ (u ++ rest))) rest) (hw : Blanks w) :
    (Place.mk .outside depth).peak t ≤ cap := by
  obtain ⟨v, hv, hpeak, -⟩ := h
  have hpassed : w ++ (t ++ u) = v := by
    rw [← List.append_assoc t, ← List.append_assoc w] at hv
    exact List.append_cancel_right hv
  calc (Place.mk .outside depth).peak t
    _ ≤ _ := Place.peak_left_le _ t u
    _ ≤ _ := Place.peak_tail_le (hw.afterAll depth) _
    _ ≤ _ := hpassed ▸ hpeak

namespace Reader

variable {fuel depth room n : Nat} {s rest : List Char}

/-- A value that is read is spelled and within bounds. -/
theorem spelled_of_value {d : Document} (hroom : depth + room = deepest)
    (h : value fuel room s = .ok (d, rest)) :
    ∃ w t, s = w ++ (t ++ rest) ∧ Blanks w ∧ Spells (.value d) t ∧
      (Place.mk .outside depth).peak t ≤ deepest := by
  obtain ⟨w, t, rfl, hw, ht⟩ := (readers_readSpelled fuel).value h
  have hpass := ((readers_account _ _ fuel).value (Nat.le_refl _) hroom).passes d rest h
  exact ⟨w, t, rfl, hw, ht, @Passes.part_le _ _ _ _ t [] _ hpass hw⟩

/-- A single argument that is read is spelled and within bounds. -/
theorem spelled_of_arguments {d : Document} (hroom : depth + room = deepest)
    (h : arguments fuel room s = .ok ([d], rest)) :
    ∃ w t w', s = w ++ (t ++ (w' ++ ')' :: rest)) ∧ Blanks w ∧ Spells (.value d) t ∧
      (Place.mk .outside depth).peak t ≤ deepest ∧ Blanks w' := by
  obtain ⟨u, rfl, hu⟩ := (readers_readSpelled fuel).arguments h
  have hpass := ((readers_account _ _ fuel).arguments (Nat.le_refl _) hroom).passes _ rest h
  cases hu with
  | @last _ w t w' hw ht hw' =>
    have hsplit : (w ++ (t ++ w')) ++ ')' :: rest = w ++ (t ++ (w' ++ ')' :: rest)) := by simp
    refine ⟨w, t, w', hsplit, hw, ht, @Passes.part_le _ _ depth _ t (w' ++ [')']) rest ?_ hw, hw'⟩
    simpa using hpass
  | more _ _ _ hs => cases hs

/-- A call with its arguments fails for a length just when its one argument does. -/
theorem called_eq_long {call : Call} {left : Nat} {held : List Document} :
    called call left held = .error (.numeralTooLong n) ↔
      ∃ d, held = [d] ∧ call.ofArgument d = .error (.numeralTooLong n) := by
  unfold called
  match held with
  | [] => simp [Call.value]
  | [d] =>
    rw [Call.value]
    cases hd : call.ofArgument d with
    | ok found => simp [hd]
    | error cause => cases cause <;> simp [hd]
  | _ :: _ :: _ => simp [Call.value]

/-- A key does not fail for a length. -/
theorem keyText_ne_long : keyText s ≠ .error (.numeralTooLong n) := by
  unfold keyText
  split
  · split
    · intro h
      obtain ⟨_, _, he, -⟩ := flaw_of_text h
      cases he
    · split <;> simp
  · simp

/-- With so much fuel, the four functions that read values fail for the length of an integer on
texts that come to one only. -/
structure ReadersMeetLong (fuel : Nat) : Prop where
  value : ∀ {depth room n s}, depth + room = deepest →
    Reader.value fuel room s = .error (.numeralTooLong n) →
      MeetsLong n depth .value (Text.trimFront s)
  items : ∀ {depth room n s}, depth + room = deepest →
    Reader.items fuel room s = .error (.numeralTooLong n) → MeetsLong n depth .list s
  memberPairs : ∀ {depth room n s}, depth + room = deepest →
    Reader.memberPairs fuel room s = .error (.numeralTooLong n) → MeetsLong n depth .members s
  arguments : ∀ {depth room n s}, depth + room = deepest →
    Reader.arguments fuel room s = .error (.numeralTooLong n) → MeetsLong n depth .list s

namespace ReadersMeetLong

theorem zero : ReadersMeetLong 0 where
  value _ h := by
    rw [Reader.value] at h
    cases h
  items _ h := by
    rw [Reader.items] at h
    cases h
  memberPairs _ h := by
    rw [Reader.memberPairs] at h
    cases h
  arguments _ h := by
    rw [Reader.arguments] at h
    cases h

theorem value_succ (ih : ReadersMeetLong fuel) (hroom : depth + room = deepest)
    (h : Reader.value (fuel + 1) room s = .error (.numeralTooLong n)) :
    MeetsLong n depth .value (Text.trimFront s) := by
  rw [Reader.value] at h
  generalize Text.trimFront s = front at h ⊢
  split at h
  · cases h
  · split at h
    · cases h
    · next room =>
      split at h
      · cases h
      · have hdeeper : depth + 1 + room = deepest := by omega
        have hmembers := ih.memberPairs hdeeper (Result.map_eq_error.1 h)
        exact .obj (by omega) hmembers.of_trimFront_members
  · split at h
    · cases h
    · next room =>
      split at h
      · cases h
      · have hdeeper : depth + 1 + room = deepest := by omega
        have hitems := ih.items hdeeper (Result.map_eq_error.1 h)
        exact .arr (by omega) hitems.of_trimFront_list
  · split at h
    · obtain ⟨_, _, he, -⟩ := flaw_of_text (Result.map_eq_error.1 h)
      cases he
    · split at h
      · obtain ⟨digits, long⟩ := number_eq_long.1 h
        exact .numeral digits long
      · split at h
        · cases h
        · next name behind hname =>
          obtain ⟨c, cs, hs, rfl, -, -⟩ := name?_sound hname
          rw [hs]
          split at h
          · cases h
          · split at h
            · next call opened hcall hopen =>
              have hcalled : c :: cs = call.name.toList := by
                rw [Call.name_of_ofName? hcall, String.toList_ofList]
              obtain ⟨w, rfl, hw⟩ := trimFront_eq_cons hopen
              rw [← List.cons_append, hcalled]
              split at h
              · obtain ⟨d, hnil, -⟩ := called_eq_long.1 (Result.map_eq_error.1 h)
                cases hnil
              · rcases Result.bind_eq_error.1 h with harguments | ⟨⟨held, rest⟩, hheld, hmore⟩
                · exact .call hw (ih.arguments hroom harguments).of_trimFront_list
                · rcases Result.bind_eq_error.1 hmore with hfails | ⟨d, -, hok⟩
                  · obtain ⟨d, rfl, hd⟩ := called_eq_long.1 hfails
                    obtain ⟨⟨takes, digits⟩, long⟩ := ofArgument_eq_long.1 hd
                    obtain ⟨w₁, t, w₂, ht, hw₁, hspells, within, hw₂⟩ :=
                      spelled_of_arguments hroom hheld
                    obtain ⟨v, hv, blank⟩ := trimFront_spec opened
                    rw [ht, ← List.append_assoc] at hv
                    rw [hv]
                    exact .argument hw (blank.append hw₁) hspells within hw₂ takes digits long
                  · cases hok
            · cases h

theorem items_succ (ih : ReadersMeetLong fuel) (hroom : depth + room = deepest)
    (h : Reader.items (fuel + 1) room s = .error (.numeralTooLong n)) :
    MeetsLong n depth .list s := by
  rw [Reader.items] at h
  rcases Result.bind_eq_error.1 h with hvalue | ⟨⟨first, behind⟩, hfirst, hmore⟩
  · obtain ⟨w, hs, hw⟩ := trimFront_spec s
    exact hs ▸ .first hw (ih.value hroom hvalue)
  · obtain ⟨w, t, rfl, hw, ht, within⟩ := spelled_of_value hroom hfirst
    dsimp only at hmore
    split at hmore
    · cases hmore
    · next tail hcomma =>
      obtain ⟨w', rfl, hw'⟩ := trimFront_eq_cons hcomma
      split at hmore
      · cases hmore
      · rcases Result.bind_eq_error.1 hmore with hothers | ⟨others, -, hok⟩
        · exact .later hw ht within hw' (ih.items hroom hothers).of_trimFront_list
        · cases hok
    · cases hmore

theorem memberPairs_succ (ih : ReadersMeetLong fuel) (hroom : depth + room = deepest)
    (h : Reader.memberPairs (fuel + 1) room s = .error (.numeralTooLong n)) :
    MeetsLong n depth .members s := by
  rw [Reader.memberPairs] at h
  rcases Result.bind_eq_error.1 h with hkey | ⟨⟨key, behind⟩, hkey, hmore⟩
  · exact absurd hkey keyText_ne_long
  · obtain ⟨k, rfl, hk⟩ := keyText_sound hkey
    dsimp only at hmore
    split at hmore
    · next tail hcolon =>
      obtain ⟨w₁, rfl, hw₁⟩ := trimFront_eq_cons hcolon
      rcases Result.bind_eq_error.1 hmore with hvalue | ⟨⟨held, behind⟩, hheld, hbehind⟩
      · obtain ⟨w₂, hs, hw₂⟩ := trimFront_spec tail
        rw [hs]
        exact .firstMember .nil hk hw₁ hw₂ (ih.value hroom hvalue)
      · obtain ⟨w₂, t, rfl, hw₂, ht, within⟩ := spelled_of_value hroom hheld
        dsimp only at hbehind
        split at hbehind
        · cases hbehind
        · next tail hcomma =>
          obtain ⟨w', rfl, hw'⟩ := trimFront_eq_cons hcomma
          split at hbehind
          · cases hbehind
          · rcases Result.bind_eq_error.1 hbehind with hothers | ⟨others, -, hok⟩
            · exact .laterMember .nil hk hw₁ hw₂ ht within hw'
                (ih.memberPairs hroom hothers).of_trimFront_members
            · cases hok
        · cases hbehind
    · cases hmore

theorem arguments_succ (ih : ReadersMeetLong fuel) (hroom : depth + room = deepest)
    (h : Reader.arguments (fuel + 1) room s = .error (.numeralTooLong n)) :
    MeetsLong n depth .list s := by
  rw [Reader.arguments] at h
  rcases Result.bind_eq_error.1 h with hvalue | ⟨⟨first, behind⟩, hfirst, hmore⟩
  · obtain ⟨w, hs, hw⟩ := trimFront_spec s
    exact hs ▸ .first hw (ih.value hroom hvalue)
  · obtain ⟨w, t, rfl, hw, ht, within⟩ := spelled_of_value hroom hfirst
    dsimp only at hmore
    split at hmore
    · cases hmore
    · next tail hcomma =>
      obtain ⟨w', rfl, hw'⟩ := trimFront_eq_cons hcomma
      rcases Result.bind_eq_error.1 hmore with hothers | ⟨others, -, hok⟩
      · exact .later hw ht within hw' (ih.arguments hroom hothers)
      · cases hok
    · cases hmore

end ReadersMeetLong

/-- However much fuel there is, values fail for the length of an integer where they come to one
only. -/
theorem readersMeetLong (fuel : Nat) : ReadersMeetLong fuel := by
  induction fuel with
  | zero => exact .zero
  | succ fuel ih => exact ⟨ih.value_succ, ih.items_succ, ih.memberPairs_succ, ih.arguments_succ⟩

end Reader

/-- **Reading fails for the length of an integer just on the texts that come to one.** -/
theorem read_eq_long_iff {s : List Char} {n : Nat} :
    read s = .error (.numeralTooLong n) ↔ MeetsLong n 0 .value (Text.trimFront s) := by
  unfold read
  constructor
  · intro h
    rcases Result.bind_eq_error.1 h with hvalue | ⟨⟨held, rest⟩, -, hmore⟩
    · exact (Reader.readersMeetLong _).value (Nat.zero_add deepest) hvalue
    · dsimp only at hmore
      split at hmore <;> cases hmore
  · intro h
    have hlength : (Text.trimFront s).length ≤ s.length :=
      (Passes.trimFront (Nat.le_refl 0) s).length_le
    have hvalue := h.fails (2 * s.length + 2) deepest s (by omega) (Nat.zero_add deepest) rfl
    rw [hvalue]
    rfl

/-- A text of ones, more than are converted, comes to an integer of too many digits. -/
theorem meetsLong_ones {n : Nat} (long : Numeral.longestNumeral < n) (depth : Nat) :
    MeetsLong n depth .value (List.replicate n '1') := by
  obtain ⟨n, rfl⟩ : ∃ m, n = m + 1 := ⟨n - 1, by omega⟩
  have hdigits : ∀ c ∈ List.replicate n '1', Text.isDecimalDigit c = true := by
    intro c hc
    rw [List.eq_of_mem_replicate hc]
    decide
  have hlead : isLeadingDigit '1' = true := by decide
  have htext := @Document.Reader.NumeralText.parts _ _ false _ [] [] none none
    (.digits hlead hdigits) .none .none
  have hread := Document.Reader.numeral?_append numeralClasses htext Stops.nil.endsNumeral
  simp only [List.append_nil] at hread
  have hlength : ('1' :: List.replicate n '1').length = n + 1 :=
    congrArg (· + 1) List.length_replicate
  exact .numeral ⟨_, [], hread, rfl, rfl, hlength⟩ long

end Query
end FormDispatch
