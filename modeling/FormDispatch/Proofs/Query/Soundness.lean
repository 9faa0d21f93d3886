/-
# What is read is spelled

Whatever the reader of query text reads, the grammar spells (`readers_readSpelled`); with
completeness, the reader accepts a text as a value just when the grammar has the text for that value
(`reads_exactly_the_grammar`).

Each function of the reader leaves a rest of the text, and what lies before the rest is a phrase.
Gaps go to the phrase behind them, so only a value has blanks of its own in front. A text between
quotes is read with a surrogate waiting for its partner now and then; as nothing but the partner may
come next, a pair is read in one step (`text_waiting_pair`). The arguments of a call are spelled
with commas between, but every call wants just one.
-/

import FormDispatch.Proofs.Query.Completeness
import FormDispatch.Proofs.Query.Failure
import FormDispatch.Proofs.Query.StandardText

namespace FormDispatch
namespace Query

open Document.Reader (unit? isHighSurrogate isLowSurrogate pairedChar isLeadingDigit
  numeral?_sound)

/-! ### Words -/

/-- The blanks that are dropped in front are blanks. -/
theorem trimFront_spec (s : List Char) : ∃ w, s = w ++ Text.trimFront s ∧ Blanks w :=
  ⟨s.takeWhile Text.isBlank, List.takeWhile_append_dropWhile.symm,
    List.all_eq_true.1 List.all_takeWhile⟩

/-- A mark that blanks are dropped for has them before it. -/
theorem trimFront_eq_cons {s r : List Char} {c : Char} (h : Text.trimFront s = c :: r) :
    ∃ w, s = w ++ c :: r ∧ Blanks w := by
  obtain ⟨w, hw, blank⟩ := trimFront_spec s
  rw [h] at hw
  exact ⟨w, hw, blank⟩

/-- What is read as a numeral is the text of one that has a value. -/
theorem number_spec {s rest : List Char} {d : Document} (h : Reader.number s = .ok (d, rest)) :
    ∃ parts t, s = t ++ rest ∧
      Document.Reader.NumeralText Text.isDecimalDigit isLeadingDigit parts t ∧
        parts.number = .ok d := by
  unfold Reader.number at h
  split at h
  · cases h
  · next parts rest' hparts =>
    obtain ⟨t, hs, ht⟩ := numeral?_sound hparts
    split at h
    · next hd =>
      cases h
      exact ⟨parts, t, hs, ht, hd⟩
    · cases h
    · cases h

/-- A numeral that is read is one of the grammar. -/
theorem number_sound {s rest : List Char} {d : Document} (h : Reader.number s = .ok (d, rest)) :
    ∃ t, s = t ++ rest ∧ Spells (.value d) t := by
  obtain ⟨parts, t, hs, ht, hd⟩ := number_spec h
  exact ⟨t, hs, .numeral ht hd⟩

/-- A name that is read is one of the grammar. -/
theorem name?_sound {s rest : List Char} {name : String} (h : Reader.name? s = some (name, rest)) :
    ∃ c cs, s = c :: (cs ++ rest) ∧ name = String.ofList (c :: cs) ∧
      Reader.startsName c = true ∧ ∀ d ∈ cs, Reader.continuesName d = true := by
  unfold Reader.name? at h
  split at h
  · next c r =>
    split at h
    · next start =>
      cases h
      exact ⟨c, _, by rw [List.takeWhile_append_dropWhile], rfl, start,
        List.all_eq_true.1 List.all_takeWhile⟩
    · cases h
  · cases h

/-- After the first unit of a pair, nothing but the second one is read. -/
theorem text_waiting_pair {q : Char} {high place : Nat} {str : String} {held s rest : List Char}
    (h : Reader.text q held (some (high, place)) s = .ok (str, rest)) :
    ∃ a b c d low r, s = '\\' :: 'u' :: a :: b :: c :: d :: r ∧ unit? a b c d = some low ∧
      isLowSurrogate low = true ∧
      Reader.text q (pairedChar high low :: held) none r = .ok (str, rest) := by
  rw [Reader.text.eq_def] at h
  split at h
  · cases h
  · next a b c d r =>
    split at h
    · cases h
    · next low hunit =>
      cases hlow : isLowSurrogate low with
      | true =>
        simp only [Reader.withUnit, hlow, if_true] at h
        exact ⟨a, b, c, d, low, r, rfl, hunit, hlow, h⟩
      | false => simp [Reader.withUnit, hlow] at h
  · cases h
  · cases h
  · cases h
  · cases h

/-- **A text that is read between quotes is spelled there.** -/
theorem text_sound {q : Char} {str : String} {held s rest : List Char}
    (h : Reader.text q held none s = .ok (str, rest)) :
    ∃ cs u, s = u ++ q :: rest ∧ SpelledText q cs u ∧ str = String.ofList (held.reverse ++ cs) := by
  induction hn : s.length using Nat.strongRecOn generalizing s held with
  | ind n ih =>
    subst hn
    -- the characters behind the first spelling are fewer, so they are spelled too
    have step : ∀ {x : Char} {u r : List Char}, s = u ++ r → SpelledChar q x u → u ≠ [] →
        Reader.text q (x :: held) none r = .ok (str, rest) →
        ∃ cs u, s = u ++ q :: rest ∧ SpelledText q cs u ∧
          str = String.ofList (held.reverse ++ cs) := by
      intro x u r hs hx hu hr
      have hlt : r.length < s.length := by
        have := List.length_pos_iff.2 hu
        rw [hs, List.length_append]
        omega
      obtain ⟨cs, v, hv, hspelled, hstr⟩ := ih _ hlt hr rfl
      refine ⟨x :: cs, u ++ v, ?_, .cons hx hspelled, ?_⟩
      · rw [hs, hv, List.append_assoc]
      · simpa using hstr
    rw [Reader.text.eq_def] at h
    split at h
    · cases h
    · next a b c d r =>
      split at h
      · cases h
      · next unit hunit =>
        cases hlow : isLowSurrogate unit with
        | true => simp [Reader.withUnit, hlow] at h
        | false =>
          cases hhigh : isHighSurrogate unit with
          | true =>
            simp only [Reader.withUnit, hlow, hhigh, Bool.false_eq_true, if_false, if_true] at h
            obtain ⟨e, f, g, k, low, r, rfl, hsecond, hlow', h⟩ := text_waiting_pair h
            exact step rfl (.pair hunit hhigh hsecond hlow') (by simp) h
          | false =>
            simp only [Reader.withUnit, hlow, hhigh, Bool.false_eq_true, if_false] at h
            exact step rfl (.unit hunit hhigh hlow) (by simp) h
    · cases h
    · next c r _ _ =>
      split at h
      · next x _ hx =>
        exact step rfl (.escape hx) (by simp) h
      · cases h
    · cases h
    · next c r _ _ hescape hback =>
      have hb : c ≠ '\\' := by
        intro e
        cases r with
        | nil => exact hback e rfl
        | cons d t => exact hescape d t e rfl
      dsimp only at h
      split at h
      · next hq =>
        cases h
        rw [beq_iff_eq] at hq
        exact ⟨[], [], by rw [hq]; rfl, .nil, by simp⟩
      · next hq =>
        rw [beq_iff_eq] at hq
        split at h
        · cases h
        · next hcontrol => exact step rfl (.plain hq hb (by omega)) (by simp) h

/-- A key that is read is one of the grammar. -/
theorem keyText_sound {s rest : List Char} {key : String}
    (h : Reader.keyText s = .ok (key, rest)) : ∃ k, s = k ++ rest ∧ SpelledKey key k := by
  unfold Reader.keyText at h
  split at h
  · next c r =>
    split at h
    · next hq =>
      obtain ⟨cs, u, hr, hu, hkey⟩ := text_sound h
      rw [hkey]
      exact ⟨c :: (u ++ [c]), by simp [hr], .quoted hq hu⟩
    · split at h
      · next found hname =>
        cases h
        obtain ⟨c, cs, hs, hkey, start, hcs⟩ := name?_sound hname
        rw [hkey]
        exact ⟨c :: cs, hs, .name start hcs⟩
      · cases h
  · cases h

/-- The values that have names are those of the grammar. -/
theorem spells_constant {name : String} {d : Document} (h : Reader.constant? name = some d) :
    Spells (.value d) name.toList := by
  unfold Reader.constant? at h
  split at h
  · cases h
    exact .yes
  · cases h
    exact .no
  · cases h
    exact .null
  · cases h

/-! ### Calls -/

/-- The arguments of a call with commas between, and a spelling of them. -/
inductive SpelledArguments : List Document → List Char → Prop
  | last {d : Document} {w t w' : List Char} (hw : Blanks w) (h : Spells (.value d) t)
      (hw' : Blanks w') : SpelledArguments [d] (w ++ (t ++ w'))
  | more {d : Document} {held : List Document} {w t w' s : List Char} (hw : Blanks w)
      (h : Spells (.value d) t) (hw' : Blanks w') (hs : SpelledArguments held s) :
      SpelledArguments (d :: held) (w ++ (t ++ (w' ++ ',' :: s)))

/-- More blanks in front of the arguments of a call. -/
theorem SpelledArguments.blanks {held : List Document} {v t : List Char} (hv : Blanks v)
    (h : SpelledArguments held t) : SpelledArguments held (v ++ t) := by
  cases h with
  | last hw h hw' => exact List.append_assoc v _ _ ▸ .last (hv.append hw) h hw'
  | more hw h hw' hs => exact List.append_assoc v _ _ ▸ .more (hv.append hw) h hw' hs

/-- A call with a value has one argument, and its kind is right. -/
theorem Call.value_eq_ok {call : Call} {held : List Document} {d : Document} :
    call.value held = .ok d ↔ ∃ argument, held = [argument] ∧ call.ofArgument argument = .ok d := by
  unfold Call.value
  split
  · simp
  · next hone =>
    constructor
    · nofun
    · rintro ⟨argument, rfl, -⟩
      exact absurd rfl (hone argument)

/-- A call whose arguments have a value spells that value. -/
theorem SpelledArguments.call {call : Call} {held : List Document} {d : Document}
    {w t : List Char} (h : SpelledArguments held t) (hw : Blanks w)
    (hd : call.value held = .ok d) :
    Spells (.value d) (call.name.toList ++ (w ++ '(' :: (t ++ [')']))) := by
  obtain ⟨argument, rfl, hargument⟩ := Call.value_eq_ok.1 hd
  cases h with
  | last hw₁ h hw₂ => simpa using Spells.call hw hw₁ h hw₂ hargument
  | more _ _ _ hs => cases hs

/-- A call that is read has a value. -/
theorem called_eq_ok {call : Call} {left : Nat} {held : List Document} {d : Document}
    (h : Reader.called call left held = .ok d) : call.value held = .ok d := by
  unfold Reader.called at h
  split at h
  · next hd =>
    cases h
    exact hd
  · cases h
  · cases h

/-- The call of a name has that name. -/
theorem Call.name_of_ofName? {name : String} {call : Call} (h : Call.ofName? name = some call) :
    call.name = name := by
  unfold Call.ofName? at h
  have found := List.find?_some h
  exact beq_iff_eq.1 found

/-! ### Values, items, members and arguments -/

/-- With so much fuel, what the four functions that read values have read is spelled. -/
structure ReadersReadSpelled (fuel : Nat) : Prop where
  value : ∀ {room : Nat} {s rest : List Char} {d : Document},
    Reader.value fuel room s = .ok (d, rest) →
      ∃ w t, s = w ++ (t ++ rest) ∧ Blanks w ∧ Spells (.value d) t
  items : ∀ {room : Nat} {s rest : List Char} {held : List Document},
    Reader.items fuel room s = .ok (held, rest) → ∃ t, s = t ++ rest ∧ Spells (.items held) t
  memberPairs : ∀ {room : Nat} {s rest : List Char} {held : List (String × Document)},
    Reader.memberPairs fuel room s = .ok (held, rest) →
      ∃ t, s = t ++ rest ∧ Spells (.members held) t
  arguments : ∀ {room : Nat} {s rest : List Char} {held : List Document},
    Reader.arguments fuel room s = .ok (held, rest) →
      ∃ t, s = t ++ ')' :: rest ∧ SpelledArguments held t

namespace ReadersReadSpelled

variable {fuel room : Nat} {s rest : List Char}

theorem zero : ReadersReadSpelled 0 where
  value := nofun
  items := nofun
  memberPairs := nofun
  arguments := nofun

theorem value_succ (ih : ReadersReadSpelled fuel) {d : Document}
    (h : Reader.value (fuel + 1) room s = .ok (d, rest)) :
    ∃ w t, s = w ++ (t ++ rest) ∧ Blanks w ∧ Spells (.value d) t := by
  obtain ⟨w, hs, hw⟩ := trimFront_spec s
  rw [Reader.value] at h
  -- the blanks in front are set aside, and the value starts with what is left
  suffices ∃ t, Text.trimFront s = t ++ rest ∧ Spells (.value d) t by
    obtain ⟨t, ht, hspelled⟩ := this
    exact ⟨w, t, ht ▸ hs, hw, hspelled⟩
  generalize Text.trimFront s = front at h
  clear hs hw
  split at h
  · cases h
  · split at h
    · cases h
    · split at h
      · next hclose =>
        cases h
        obtain ⟨w, hr, hw⟩ := trimFront_eq_cons hclose
        exact ⟨_, by simp [hr], .emptyObj hw⟩
      · next r _ _ _ _ =>
        obtain ⟨⟨held, rest'⟩, hheld, heq⟩ := Result.map_eq_ok.1 h
        cases heq
        obtain ⟨v, hr, hv⟩ := trimFront_spec r
        obtain ⟨t, ht, hspelled⟩ := ih.memberPairs hheld
        exact ⟨'\x7b' :: (v ++ t), by rw [hr, ht]; simp, .obj (hspelled.blanks_members hv)⟩
  · split at h
    · cases h
    · split at h
      · next hclose =>
        cases h
        obtain ⟨w, hr, hw⟩ := trimFront_eq_cons hclose
        exact ⟨_, by simp [hr], .emptyArr hw⟩
      · next r _ _ _ _ =>
        obtain ⟨⟨held, rest'⟩, hheld, heq⟩ := Result.map_eq_ok.1 h
        cases heq
        obtain ⟨v, hr, hv⟩ := trimFront_spec r
        obtain ⟨t, ht, hspelled⟩ := ih.items hheld
        exact ⟨'[' :: (v ++ t), by rw [hr, ht]; simp, .arr (hspelled.blanks_items hv)⟩
  · split at h
    · next hq =>
      obtain ⟨⟨str, rest'⟩, hstr, heq⟩ := Result.map_eq_ok.1 h
      cases heq
      obtain ⟨cs, u, hr, hu, rfl⟩ := text_sound hstr
      exact ⟨_, by simp [hr], .text hq hu⟩
    · split at h
      · exact number_sound h
      · split at h
        · cases h
        · next name behind hname =>
          obtain ⟨c, cs, hs, rfl, -, -⟩ := name?_sound hname
          rw [hs]
          split at h
          · next hd =>
            cases h
            exact ⟨c :: cs, rfl, by simpa using spells_constant hd⟩
          · split at h
            · next call opened hcall hopen =>
              have hcalled := Call.name_of_ofName? hcall
              obtain ⟨w, rfl, hw⟩ := trimFront_eq_cons hopen
              split at h
              · obtain ⟨d, hd, -⟩ := Result.map_eq_ok.1 h
                cases called_eq_ok hd
              · obtain ⟨⟨held, rest'⟩, hheld, h⟩ := Result.bind_eq_ok.1 h
                obtain ⟨d', hd, heq⟩ := Result.bind_eq_ok.1 h
                cases heq
                obtain ⟨v, hv, blank⟩ := trimFront_spec opened
                obtain ⟨t, ht, harguments⟩ := ih.arguments hheld
                refine ⟨_, ?_, (harguments.blanks blank).call hw (called_eq_ok hd)⟩
                rw [hv, ht, hcalled]
                simp
            · cases h

theorem items_succ (ih : ReadersReadSpelled fuel) {held : List Document}
    (h : Reader.items (fuel + 1) room s = .ok (held, rest)) :
    ∃ t, s = t ++ rest ∧ Spells (.items held) t := by
  rw [Reader.items] at h
  obtain ⟨⟨first, behind⟩, hfirst, hmore⟩ := Result.bind_eq_ok.1 h
  obtain ⟨w, t, rfl, hw, ht⟩ := ih.value hfirst
  dsimp only at hmore
  split at hmore
  · next hclose =>
    cases hmore
    obtain ⟨v, rfl, hv⟩ := trimFront_eq_cons hclose
    exact ⟨_, by simp, .lastItem hw ht (.plain hv)⟩
  · next tail hcomma =>
    obtain ⟨v, rfl, hv⟩ := trimFront_eq_cons hcomma
    split at hmore
    · next hclose =>
      cases hmore
      obtain ⟨v', rfl, hv'⟩ := trimFront_eq_cons hclose
      exact ⟨_, by simp, .lastItem hw ht (.comma hv hv')⟩
    · obtain ⟨⟨others, rest'⟩, hothers, heq⟩ := Result.bind_eq_ok.1 hmore
      cases heq
      obtain ⟨v', hr, hv'⟩ := trimFront_spec tail
      obtain ⟨u, hu, hspelled⟩ := ih.items hothers
      exact ⟨_, by rw [hr, hu]; simp, .item hw ht hv (hspelled.blanks_items hv')⟩
  · cases hmore

theorem memberPairs_succ (ih : ReadersReadSpelled fuel) {held : List (String × Document)}
    (h : Reader.memberPairs (fuel + 1) room s = .ok (held, rest)) :
    ∃ t, s = t ++ rest ∧ Spells (.members held) t := by
  rw [Reader.memberPairs] at h
  obtain ⟨⟨key, behind⟩, hkey, hmore⟩ := Result.bind_eq_ok.1 h
  obtain ⟨k, rfl, hk⟩ := keyText_sound hkey
  dsimp only at hmore
  split at hmore
  · next hcolon =>
    obtain ⟨w₁, rfl, hw₁⟩ := trimFront_eq_cons hcolon
    obtain ⟨⟨first, behind⟩, hfirst, hbehind⟩ := Result.bind_eq_ok.1 hmore
    obtain ⟨w₂, t, rfl, hw₂, ht⟩ := ih.value hfirst
    dsimp only at hbehind
    split at hbehind
    · next hclose =>
      cases hbehind
      obtain ⟨v, rfl, hv⟩ := trimFront_eq_cons hclose
      exact ⟨_, by simp, .lastMember .nil hk hw₁ hw₂ ht (.plain hv)⟩
    · next tail hcomma =>
      obtain ⟨v, rfl, hv⟩ := trimFront_eq_cons hcomma
      split at hbehind
      · next hclose =>
        cases hbehind
        obtain ⟨v', rfl, hv'⟩ := trimFront_eq_cons hclose
        exact ⟨_, by simp, .lastMember .nil hk hw₁ hw₂ ht (.comma hv hv')⟩
      · obtain ⟨⟨others, rest'⟩, hothers, heq⟩ := Result.bind_eq_ok.1 hbehind
        cases heq
        obtain ⟨v', hr, hv'⟩ := trimFront_spec tail
        obtain ⟨u, hu, hspelled⟩ := ih.memberPairs hothers
        exact ⟨_, by rw [hr, hu]; simp,
          .member .nil hk hw₁ hw₂ ht hv (hspelled.blanks_members hv')⟩
    · cases hbehind
  · cases hmore

theorem arguments_succ (ih : ReadersReadSpelled fuel) {held : List Document}
    (h : Reader.arguments (fuel + 1) room s = .ok (held, rest)) :
    ∃ t, s = t ++ ')' :: rest ∧ SpelledArguments held t := by
  rw [Reader.arguments] at h
  obtain ⟨⟨first, behind⟩, hfirst, hmore⟩ := Result.bind_eq_ok.1 h
  obtain ⟨w, t, rfl, hw, ht⟩ := ih.value hfirst
  dsimp only at hmore
  split at hmore
  · next hclose =>
    cases hmore
    obtain ⟨v, rfl, hv⟩ := trimFront_eq_cons hclose
    exact ⟨_, by simp, .last hw ht hv⟩
  · next tail hcomma =>
    obtain ⟨v, rfl, hv⟩ := trimFront_eq_cons hcomma
    obtain ⟨⟨others, rest'⟩, hothers, heq⟩ := Result.bind_eq_ok.1 hmore
    cases heq
    obtain ⟨u, rfl, hspelled⟩ := ih.arguments hothers
    exact ⟨_, by simp, .more hw ht hv hspelled⟩
  · cases hmore

end ReadersReadSpelled

/-- However much fuel there is, what is read is spelled. -/
theorem readers_readSpelled (fuel : Nat) : ReadersReadSpelled fuel := by
  induction fuel with
  | zero => exact .zero
  | succ fuel ih => exact ⟨ih.value_succ, ih.items_succ, ih.memberPairs_succ, ih.arguments_succ⟩

/-! ### Whole texts -/

/-- A text that is a value with nothing but blanks around it. -/
def SpellsAlone (d : Document) (s : List Char) : Prop :=
  ∃ w t w', s = w ++ (t ++ w') ∧ Blanks w ∧ Spells (.value d) t ∧ Blanks w'

/-- **What is read from a whole text is spelled by it.** -/
theorem spellsAlone_of_read {s : List Char} {d : Document} (h : read s = .ok d) :
    SpellsAlone d s := by
  unfold read at h
  obtain ⟨⟨held, rest⟩, hvalue, hmore⟩ := Result.bind_eq_ok.1 h
  obtain ⟨w, t, rfl, hw, ht⟩ := (readers_readSpelled _).value hvalue
  dsimp only at hmore
  split at hmore
  · next hend =>
    cases hmore
    obtain ⟨w', hrest, hw'⟩ := trimFront_spec rest
    rw [hend, List.append_nil] at hrest
    exact ⟨w, t, rest, rfl, hw, ht, hrest ▸ hw'⟩
  · cases hmore

/-- A whole text that nests no deeper than it may is read as a value just when it spells it. -/
theorem read_eq_ok {s : List Char} (hn : nesting s ≤ deepest) {d : Document} :
    read s = .ok d ↔ SpellsAlone d s := by
  constructor
  · exact spellsAlone_of_read
  · rintro ⟨w, t, w', rfl, hw, ht, hw'⟩
    have hinner : nesting t ≤ nesting (w ++ (t ++ w')) :=
      Nat.le_trans (Place.peak_left_le _ t w') (Place.peak_tail_le (hw.afterAll 0) _)
    exact read_spelled hw ht hw' (Nat.le_trans hinner hn)

/-- The value of a field's text is the one that is read. -/
theorem value_eq_ok {field text : String} {d : Document} :
    value field text = .ok d ↔ read text.toList = .ok d := by
  unfold value
  cases read text.toList <;> simp

/-- What cannot be read fails with a flaw at a place of the text, or because the text of an integer
has too many digits. -/
theorem value_eq_error {field text : String} {e : Failure} (h : value field text = .error e) :
    (∃ place what, e = .problem (flawProblem field text.toList place what)) ∨
      ∃ digits, Numeral.longestNumeral < digits ∧ e = .defect (.numeralTooLong digits) := by
  unfold value at h
  split at h
  · cases h
  · next cause hread =>
    cases h
    cases cause with
    | flaw what left => exact .inl ⟨_, what, rfl⟩
    | numeralTooLong digits => exact .inr ⟨digits, failsOnLength_read _ digits hread, rfl⟩

/-- **The reader accepts exactly its grammar.** The text of a field that nests no deeper than it may
is read as a value just when the grammar has the text for that value. Every other text is turned
down: a flaw is told, unless the text of an integer in it has too many digits to be converted. -/
theorem reads_exactly_the_grammar (field text : String) (hn : nesting text.toList ≤ deepest) :
    (∀ d, value field text = .ok d ↔ SpellsAlone d text.toList) ∧
      ((∀ d, ¬SpellsAlone d text.toList) →
        (∃ place what,
          value field text = .error (.problem (flawProblem field text.toList place what))) ∨
        ∃ digits, Numeral.longestNumeral < digits ∧
          value field text = .error (.defect (.numeralTooLong digits))) := by
  have exact_value : ∀ d, value field text = .ok d ↔ SpellsAlone d text.toList := by
    intro d
    rw [value_eq_ok, read_eq_ok hn]
  refine ⟨exact_value, fun none => ?_⟩
  cases hvalue : value field text with
  | ok d => exact absurd ((exact_value d).1 hvalue) (none d)
  | error e =>
    rcases value_eq_error hvalue with ⟨place, what, rfl⟩ | ⟨digits, hlong, rfl⟩
    · exact .inl ⟨place, what, rfl⟩
    · exact .inr ⟨digits, hlong, rfl⟩

/-- A text with single quotes, a name for a key, a call and commas at its ends is one of the
grammar's. -/
theorem reads_exactly_the_grammar_shell :
    SpellsAlone (.obj [("a", .arr [.str "x", .obj [("$numberLong", .str "7")]])])
      "\x7ba: ['x', NumberLong(7),],\x7d".toList :=
  ((reads_exactly_the_grammar "find.query" "\x7ba: ['x', NumberLong(7),],\x7d"
    (by decide +kernel)).1 _).1 (Result.toOption_eq_some.1 (by decide +kernel))

end Query
end FormDispatch
