/-
# How far reading gets

Each function of the reader of query text accounts for the text that it is given (`Accounts`). What
it has read never has more than `cap` brackets open at once. A flaw that it tells lies in the text.
And it turns a text down for its depth only where the text nests deeper than `cap`.

The functions call each other, so this is shown of all of them at once, by induction on their fuel
(`readers_account`). What a function has read is told by the place where it starts and the one where
the rest starts (`Passes`): the brackets open at the start of a text and the levels that are left
make up `cap`, and a bracket takes from the one what it adds to the other.
-/

import FormDispatch.Proofs.Query.Soundness

namespace FormDispatch
namespace Query

/-! ### Words open no brackets -/

/-- Neutral characters outside of quotes open nothing. -/
theorem Place.peak_of_isNeutral {s : List Char} (h : ∀ c ∈ s, isNeutral c = true) (depth : Nat) :
    (Place.mk .outside depth).peak s = depth := by
  induction s with
  | nil => rfl
  | cons c r ih =>
    rw [Place.peak, Place.after_of_isNeutral (h c List.mem_cons_self),
      ih fun d hd => h d (List.mem_cons_of_mem c hd)]
    exact Nat.max_self depth

/-- A numbered escape opens nothing. -/
theorem Place.peak_unit {q a b c d : Char} {n : Nat} (hq : Reader.isQuote q = true)
    (h : Document.Reader.unit? a b c d = some n) (depth : Nat) :
    (Place.mk (.inside q false) depth).peak ['\\', 'u', a, b, c, d] = depth := by
  obtain ⟨i, j, k, l, ha, hb, hc, hd⟩ := hexValue?_of_unit? h
  have apart := fun {c : Char} {n : Nat} (h : Text.hexValue? c = some n) =>
    And.intro (ne_of_hexValue? h).1 ((ne_of_hexValue? h).2 q hq)
  simp [peak, after, Substitution.Quotation.after, apart ha, apart hb, apart hc, apart hd]

/-- A spelled character opens nothing. -/
theorem SpelledChar.peak {q x : Char} {u : List Char} (hq : Reader.isQuote q = true)
    (h : SpelledChar q x u) (depth : Nat) :
    (Place.mk (.inside q false) depth).peak u = depth := by
  cases h with
  | plain hc hb _ => simp [Place.peak, Place.after]
  | escape _ => simp [Place.peak, Place.after, Substitution.Quotation.after]
  | unit h _ _ => exact Place.peak_unit hq h depth
  | @pair a b c d e f g h _ _ first _ second _ =>
    change Place.peak _ (['\\', 'u', a, b, c, d] ++ ['\\', 'u', e, f, g, h]) = _
    rw [Place.peak_append, Place.afterAll_unit hq first, Place.peak_unit hq first,
      Place.peak_unit hq second, Nat.max_self]

/-- A spelled text opens nothing. -/
theorem SpelledText.peak {q : Char} {cs s : List Char} (hq : Reader.isQuote q = true)
    (h : SpelledText q cs s) (depth : Nat) :
    (Place.mk (.inside q false) depth).peak s = depth := by
  induction h with
  | nil => rfl
  | cons head _ ih =>
    rw [Place.peak_append, head.afterAll hq, head.peak hq, ih, Nat.max_self]

/-- A text with its quotes opens nothing. -/
theorem Place.peak_quoted {q : Char} {cs s : List Char} (hq : Reader.isQuote q = true)
    (h : SpelledText q cs s) (depth : Nat) :
    (Place.mk .outside depth).peak (q :: (s ++ [q])) = depth := by
  rw [peak, after_of_isQuote hq, peak_append, h.peak hq, h.afterAll hq]
  simp [peak, after]

/-! ### From a text to its rest -/

/-- What stands in a text before its rest has at most `cap` brackets open at once; `depth` are open
where it starts, and `depth'` where it ends. -/
def Passes (cap depth depth' : Nat) (s rest : List Char) : Prop :=
  ∃ t, s = t ++ rest ∧ (Place.mk .outside depth).peak t ≤ cap ∧
    (Place.mk .outside depth).afterAll t = ⟨.outside, depth'⟩

namespace Passes

variable {cap depth depth' depth'' : Nat} {s t r : List Char}

theorem refl (hd : depth ≤ cap) (s : List Char) : Passes cap depth depth s s :=
  ⟨[], rfl, hd, rfl⟩

theorem trans (h : Passes cap depth depth' s t) (h' : Passes cap depth' depth'' t r) :
    Passes cap depth depth'' s r := by
  obtain ⟨u, rfl, hu, hafter⟩ := h
  obtain ⟨v, rfl, hv, hafter'⟩ := h'
  refine ⟨u ++ v, (List.append_assoc ..).symm, ?_, ?_⟩
  · rw [Place.peak_append, hafter]
    exact Nat.max_le.2 ⟨hu, hv⟩
  · rw [Place.afterAll_append, hafter, hafter']

/-- Neutral characters are passed. -/
theorem neutral (hd : depth ≤ cap) (h : ∀ c ∈ t, isNeutral c = true) :
    Passes cap depth depth (t ++ r) r :=
  ⟨t, rfl, by rwa [Place.peak_of_isNeutral h], Place.afterAll_of_isNeutral h depth⟩

/-- Blanks are passed. -/
theorem blanks (hd : depth ≤ cap) {w : List Char} (hw : Blanks w) :
    Passes cap depth depth (w ++ r) r :=
  neutral hd fun c hc => isNeutral_of_isBlank (hw c hc)

/-- Blanks in front are passed. -/
theorem trimFront (hd : depth ≤ cap) (s : List Char) :
    Passes cap depth depth s (Text.trimFront s) := by
  obtain ⟨w, hs, hw⟩ := trimFront_spec s
  have hpass := blanks (r := Text.trimFront s) hd hw
  rwa [← hs] at hpass

/-- A text with its quotes is passed. -/
theorem quoted {q : Char} (hq : Reader.isQuote q = true) (hd : depth ≤ cap) {cs u : List Char}
    (hu : SpelledText q cs u) : Passes cap depth depth (q :: (u ++ q :: r)) r :=
  ⟨q :: (u ++ [q]), by simp, by rwa [Place.peak_quoted hq hu], Place.afterAll_quoted hq hu depth⟩

/-- A character is passed. -/
theorem cons {c : Char} (hd : depth ≤ cap) (hd' : depth' ≤ cap)
    (hc : (Place.mk .outside depth).after c = ⟨.outside, depth'⟩) :
    Passes cap depth depth' (c :: r) r := by
  refine ⟨[c], rfl, ?_, hc⟩
  rw [Place.peak, hc]
  exact Nat.max_le.2 ⟨hd, hd'⟩

/-- A neutral mark with blanks in front is passed. -/
theorem mark {c : Char} (hd : depth ≤ cap) (hc : isNeutral c = true)
    (hs : Text.trimFront s = c :: r) : Passes cap depth depth s r :=
  (trimFront hd s).trans (hs ▸ cons hd hd (Place.after_of_isNeutral hc depth))

/-- A bracket is passed and opens a level. -/
theorem opening {c : Char} (hc : c = '[' ∨ c = '\x7b') (hd : depth + 1 ≤ cap) :
    Passes cap depth (depth + 1) (c :: r) r := by
  refine cons (Nat.le_of_succ_le hd) hd ?_
  rcases hc with rfl | rfl <;> rfl

/-- A bracket is passed and closes a level. -/
theorem closing {c : Char} (hc : c = ']' ∨ c = '\x7d') (hd : depth + 1 ≤ cap) :
    Passes cap (depth + 1) depth (c :: r) r := by
  refine cons hd (Nat.le_of_succ_le hd) ?_
  rcases hc with rfl | rfl <;> rfl

/-- The end of an array or object with blanks in front is passed. -/
theorem close {c : Char} (hd : depth + 1 ≤ cap) (hc : c = ']' ∨ c = '\x7d')
    (hs : Text.trimFront s = c :: r) : Passes cap (depth + 1) depth s r :=
  (trimFront hd s).trans (hs ▸ closing hc hd)

theorem length_le (h : Passes cap depth depth' s r) : r.length ≤ s.length := by
  obtain ⟨t, rfl, -, -⟩ := h
  rw [List.length_append]
  exact Nat.le_add_left ..

/-- What nests in the rest nests in the text. -/
theorem peak_le (h : Passes cap depth depth' s r) :
    (Place.mk .outside depth').peak r ≤ (Place.mk .outside depth).peak s := by
  obtain ⟨t, rfl, -, hafter⟩ := h
  exact Place.peak_tail_le hafter r

/-- Where all of a text is passed, no more than `cap` brackets are open at once. -/
theorem nesting_le (h : Passes cap 0 depth s []) : nesting s ≤ cap := by
  obtain ⟨t, rfl, hpeak, -⟩ := h
  rwa [List.append_nil]

end Passes

/-! ### What a reading accounts for -/

/-- A reading of a text accounts for it, where `depth` brackets are open: what it has read is
passed, up to a place where `depth'` are open; it tells a flaw with at most `total` characters left;
and it finds a text too deep only where more than `cap` brackets are open at once. -/
structure Accounts (total cap depth depth' : Nat) (s : List Char) {α : Type}
    (x : Except ReadError (α × List Char)) : Prop where
  passes : ∀ a rest, x = .ok (a, rest) → Passes cap depth depth' s rest
  within : ∀ what left, x = .error (.flaw what left) → left ≤ total
  deeper : ∀ left, x = .error (.flaw .tooDeep left) → cap < (Place.mk .outside depth).peak s

namespace Accounts

variable {total cap depth depth' depth'' : Nat} {s t rest : List Char} {α β : Type}
  {x : Except ReadError (α × List Char)}

theorem ok (a : α) (h : Passes cap depth depth' s rest) :
    Accounts total cap depth depth' s (.ok (a, rest)) where
  passes := by
    rintro _ _ ⟨⟩
    exact h
  within := nofun
  deeper := nofun

theorem flaw {what : Flaw} (hne : what ≠ .tooDeep) {left : Nat} (h : left ≤ total) :
    Accounts total cap depth depth' s
      (.error (.flaw what left) : Except ReadError (α × List Char)) where
  passes := nofun
  within := by
    rintro _ _ ⟨⟩
    exact h
  deeper := by
    rintro _ ⟨⟩
    exact absurd rfl hne

theorem long (n : Nat) :
    Accounts total cap depth depth' s
      (.error (.numeralTooLong n) : Except ReadError (α × List Char)) where
  passes := nofun
  within := nofun
  deeper := nofun

/-- A reading goes on from a place that has been reached. -/
theorem behind (h : Passes cap depth depth' s t) (hx : Accounts total cap depth' depth'' t x) :
    Accounts total cap depth depth'' s x where
  passes a rest hok := h.trans (hx.passes a rest hok)
  within := hx.within
  deeper left herror := Nat.lt_of_lt_of_le (hx.deeper left herror) h.peak_le

theorem map (hx : Accounts total cap depth depth' s x) (f : α → β) :
    Accounts total cap depth depth' s (x.map fun (a, rest) => (f a, rest)) where
  passes b rest hok := by
    obtain ⟨⟨a, rest'⟩, ha, heq⟩ := Result.map_eq_ok.1 hok
    cases heq
    exact hx.passes a _ ha
  within what left herror := hx.within what left (Result.map_eq_error.1 herror)
  deeper left herror := hx.deeper left (Result.map_eq_error.1 herror)

/-- A text that starts with a bracket too many is too deep. -/
theorem tooDeep {c : Char} {left : Nat} (h : left ≤ total)
    (hc : (Place.mk .outside depth).after c = ⟨.outside, depth + 1⟩) (hcap : depth = cap) :
    Accounts total cap depth depth' (c :: s)
      (.error (.flaw .tooDeep left) : Except ReadError (α × List Char)) where
  passes := nofun
  within := by
    rintro _ _ ⟨⟩
    exact h
  deeper := by
    rintro _ ⟨⟩
    have hnext := Place.peak_next_le (Place.mk .outside depth) c s
    rw [hc] at hnext
    have hle := Place.depth_le_peak ⟨.outside, depth + 1⟩ s
    exact hcap ▸ Nat.lt_of_lt_of_le (Nat.lt_of_succ_le hle) hnext

/-- Two readings in sequence. -/
theorem bind (hx : Accounts total cap depth depth' s x)
    {f : α × List Char → Except ReadError (β × List Char)}
    (hf : ∀ a rest, rest.length ≤ s.length → Accounts total cap depth' depth'' rest (f (a, rest))) :
    Accounts total cap depth depth'' s (x >>= f) := by
  cases x with
  | ok result =>
    obtain ⟨a, rest⟩ := result
    have hpass := hx.passes a rest rfl
    exact behind hpass (hf a rest hpass.length_le)
  | error e =>
    exact ⟨nofun, fun what left herror => hx.within what left (by cases herror; rfl),
      fun left herror => hx.deeper left (by cases herror; rfl)⟩

end Accounts

namespace Reader

variable {total cap depth : Nat} {s rest : List Char}

/-! ### Words are accounted for -/

/-- A flaw of a text between quotes, told with so many characters left: it lies among the last
`length` ones, or where a surrogate waits. -/
def IsOfText (waiting : Option (Nat × Nat)) (length : Nat) (what : Flaw) (left : Nat) : Prop :=
  what ≠ .tooDeep ∧ (left ≤ length ∨ ∃ high, waiting = some (high, left))

theorem IsOfText.mono {waiting : Option (Nat × Nat)} {length length' : Nat} {what : Flaw}
    {left : Nat} (h : IsOfText waiting length what left) (hle : length ≤ length') :
    IsOfText waiting length' what left :=
  ⟨h.1, h.2.imp_left (Nat.le_trans · hle)⟩

/-- Where nothing waits, a flaw lies among the last characters. -/
theorem IsOfText.left_le {length left : Nat} {what : Flaw} (h : IsOfText none length what left) :
    left ≤ length :=
  h.2.resolve_right fun ⟨_, hnone⟩ => nomatch hnone

theorem flaw_of_flawAt {α : Type} {waiting : Option (Nat × Nat)} {flaw : Flaw} {place : Nat}
    {e : ReadError} (hne : flaw ≠ .tooDeep)
    (h : (flawAt waiting flaw place : Except ReadError α) = .error e) :
    ∃ what left, e = .flaw what left ∧ IsOfText waiting place what left := by
  unfold flawAt at h
  split at h
  · next high left =>
    cases h
    exact ⟨_, left, rfl, by simp, .inr ⟨high, rfl⟩⟩
  · cases h
    exact ⟨_, _, rfl, hne, .inl (Nat.le_refl _)⟩

theorem flaw_of_withUnit {held : List Char} {waiting : Option (Nat × Nat)} {unit place : Nat}
    {e : ReadError} (h : withUnit held waiting unit place = .error e) :
    ∃ what left, e = .flaw what left ∧ IsOfText waiting place what left := by
  unfold withUnit at h
  split at h
  · next high left =>
    split at h
    · cases h
    · cases h
      exact ⟨_, left, rfl, by simp, .inr ⟨high, rfl⟩⟩
  · split at h
    · cases h
      exact ⟨_, _, rfl, by simp, .inl (Nat.le_refl _)⟩
    · split at h <;> cases h

/-- After a unit, a surrogate waits at that unit if one does. -/
theorem waiting_of_withUnit {held held' : List Char} {waiting : Option (Nat × Nat)}
    {unit place high left : Nat}
    (h : withUnit held waiting unit place = .ok (held', some (high, left))) : left = place := by
  unfold withUnit at h
  split at h
  · split at h <;> cases h
  · split at h
    · cases h
    · split at h
      · cases h
        rfl
      · cases h

/-- A text between quotes is not read for a flaw in it only. -/
theorem flaw_of_text {q : Char} {held : List Char} {waiting : Option (Nat × Nat)} {s : List Char}
    {e : ReadError} (h : text q held waiting s = .error e) :
    ∃ what left, e = .flaw what left ∧ IsOfText waiting s.length what left := by
  have wider : ∀ {waiting length length'}, length ≤ length' →
      (∃ what left, e = .flaw what left ∧ IsOfText waiting length what left) →
      ∃ what left, e = .flaw what left ∧ IsOfText waiting length' what left := by
    rintro _ _ _ hle ⟨what, left, he, hflaw⟩
    exact ⟨what, left, he, hflaw.mono hle⟩
  have here : ∀ {waiting what left length}, ReadError.flaw what left = e → what ≠ .tooDeep →
      left ≤ length → ∃ what left, e = .flaw what left ∧ IsOfText waiting length what left :=
    fun he hne hle => ⟨_, _, he.symm, hne, .inl hle⟩
  fun_induction text q held waiting s with
  | case1 => exact flaw_of_flawAt (by simp) h
  | case2 => exact here (Except.error.inj h) (by simp) (by simp)
  | case3 held waiting a b c d r unit hunit held' waiting' hok ih =>
    obtain ⟨what, left, he, hne, hleft | ⟨high, rfl⟩⟩ := ih h
    · exact here he.symm hne (by simp only [List.length_cons]; omega)
    · exact here he.symm hne (by rw [waiting_of_withUnit hok]; simp)
  | case4 held waiting a b c d r unit hunit cause hcause =>
    exact wider (by simp) (flaw_of_withUnit (Except.error.inj h ▸ hcause))
  | case5 => exact here (Except.error.inj h) (by simp) (by simp)
  | case6 held c r _ _ x _ ih => exact wider (by simp only [List.length_cons]; omega) (ih h)
  | case7 => exact wider (by simp) (flaw_of_flawAt (by simp) h)
  | case8 => exact wider (Nat.zero_le _) (flaw_of_flawAt (by simp) h)
  | case9 held c r _ _ _ _ high place =>
    exact ⟨_, _, (Except.error.inj h).symm, by simp, .inr ⟨high, rfl⟩⟩
  | case10 => cases h
  | case11 => exact here (Except.error.inj h) (by simp) (by simp)
  | case12 held c r _ _ _ _ _ _ ih => exact wider (by simp) (ih h)

/-- A text between quotes is accounted for. -/
theorem accounts_text {q : Char} (hq : isQuote q = true) (hd : depth ≤ cap)
    (hs : (q :: s).length ≤ total) :
    Accounts total cap depth depth (q :: s) (text q [] none s) where
  passes str rest hok := by
    obtain ⟨cs, u, rfl, hu, -⟩ := text_sound hok
    exact .quoted hq hd hu
  within what left herror := by
    obtain ⟨_, _, he, hflaw⟩ := flaw_of_text herror
    cases he
    exact Nat.le_trans (Nat.le_succ_of_le hflaw.left_le) hs
  deeper left herror := by
    obtain ⟨_, _, he, hne, -⟩ := flaw_of_text herror
    cases he
    exact absurd rfl hne

/-- A numeral is accounted for. -/
theorem accounts_number (hd : depth ≤ cap) (hs : s.length ≤ total) :
    Accounts total cap depth depth s (number s) := by
  unfold number
  split
  · exact .flaw (by simp) hs
  · next parts rest hparts =>
    obtain ⟨t, rfl, ht⟩ := Document.Reader.numeral?_sound hparts
    split
    · exact .ok _ (.neutral hd fun c hc => isNeutral_of_isOfNumeral (isOfNumeral_of_mem ht c hc))
    · exact .long _
    · next herror =>
      obtain ⟨n, hn, -⟩ := numeralTooLong_of_number herror
      cases hn

/-- A name is passed. -/
theorem passes_name {name : String} (hd : depth ≤ cap) (h : name? s = some (name, rest)) :
    Passes cap depth depth s rest := by
  obtain ⟨c, cs, rfl, -, start, hcs⟩ := name?_sound h
  exact .neutral (t := c :: cs) hd (isNeutral_of_name start hcs)

/-- A key is accounted for. -/
theorem accounts_keyText (hd : depth ≤ cap) (hs : s.length ≤ total) :
    Accounts total cap depth depth s (keyText s) := by
  unfold keyText
  split
  · split
    · next hq => exact accounts_text hq hd hs
    · split
      · next hname => exact .ok _ (passes_name hd hname)
      · exact .flaw (by simp) hs
  · exact .flaw (by simp) (Nat.zero_le _)

/-- The depth is no flaw of a call. -/
theorem ne_tooDeep_of_value {call : Call} {held : List Document} {what : Flaw}
    (h : call.value held = .error (.flaw what)) : what ≠ .tooDeep := by
  rintro rfl
  have integer : ∀ {call : Call} {d : Document}, call.integer d ≠ .error (.flaw .tooDeep) := by
    intro call d h
    unfold Call.integer at h
    split at h
    · cases h
    · split at h
      · cases h
      · split at h <;> cases h
    · cases h
  unfold Call.value at h
  split at h
  · next d =>
    unfold Call.ofArgument at h
    split at h
    · split at h <;> cases h
    · cases h
    · split at h <;> cases h
    · cases h
    · obtain hinteger | ⟨n, -, hn⟩ := Result.bind_eq_error.mp h
      · exact integer hinteger
      · cases hn
    · obtain hinteger | ⟨n, -, hn⟩ := Result.bind_eq_error.mp h
      · exact integer hinteger
      · split at hn <;> cases hn
    · split at h
      · cases h
      · split at h <;> cases h
  · cases h

/-- A call is accounted for when its closing bracket has been read. -/
theorem accounts_called (call : Call) {left : Nat} (hleft : left ≤ total) (held : List Document)
    {depth' : Nat} (h : Passes cap depth depth' s rest) :
    Accounts total cap depth depth' s ((called call left held).map fun d => (d, rest)) := by
  unfold called
  split
  · exact .ok _ h
  · next what hwhat => exact .flaw (ne_tooDeep_of_value hwhat) hleft
  · exact .long _

/-! ### Values, items, members and arguments are accounted for -/

/-- With so much fuel, the four functions that read values account for their texts. -/
structure ReadersAccount (total cap fuel : Nat) : Prop where
  value : ∀ {depth room s}, s.length ≤ total → depth + room = cap →
    Accounts total cap depth depth s (Reader.value fuel room s)
  items : ∀ {depth room s}, s.length ≤ total → depth + 1 + room = cap →
    Accounts total cap (depth + 1) depth s (Reader.items fuel room s)
  memberPairs : ∀ {depth room s}, s.length ≤ total → depth + 1 + room = cap →
    Accounts total cap (depth + 1) depth s (Reader.memberPairs fuel room s)
  arguments : ∀ {depth room s}, s.length ≤ total → depth + room = cap →
    Accounts total cap depth depth s (Reader.arguments fuel room s)

namespace ReadersAccount

variable {fuel room : Nat}

theorem zero : ReadersAccount total cap 0 where
  value hs _ := by
    rw [Reader.value]
    exact .flaw (by simp) hs
  items hs _ := by
    rw [Reader.items]
    exact .flaw (by simp) hs
  memberPairs hs _ := by
    rw [Reader.memberPairs]
    exact .flaw (by simp) hs
  arguments hs _ := by
    rw [Reader.arguments]
    exact .flaw (by simp) hs

theorem value_succ (ih : ReadersAccount total cap fuel) (hs : s.length ≤ total)
    (hroom : depth + room = cap) :
    Accounts total cap depth depth s (Reader.value (fuel + 1) room s) := by
  have hd : depth ≤ cap := by omega
  have hfront := Passes.trimFront hd s
  have hlength := Nat.le_trans hfront.length_le hs
  refine .behind hfront ?_
  rw [Reader.value]
  generalize Text.trimFront s = front at hlength ⊢
  clear hfront hs
  split
  · exact .flaw (by simp) (Nat.zero_le _)
  · next r =>
    have hopen : (Place.mk .outside depth).after '\x7b' = ⟨.outside, depth + 1⟩ := rfl
    split
    · exact .tooDeep hlength hopen hroom
    · next room =>
      have hinside : depth + 1 ≤ cap := by omega
      have hpass := Passes.cons (r := r) hd hinside hopen
      split
      · next hclose => exact .ok _ (hpass.trans (.close hinside (.inr rfl) hclose))
      · have hskip := hpass.trans (.trimFront hinside r)
        have hskipped := Nat.le_trans hskip.length_le hlength
        have hdeeper : depth + 1 + room = cap := by omega
        exact ((ih.memberPairs hskipped hdeeper).behind hskip).map fun held =>
          Document.obj (Entries.ofPairs held)
  · next r =>
    have hopen : (Place.mk .outside depth).after '[' = ⟨.outside, depth + 1⟩ := rfl
    split
    · exact .tooDeep hlength hopen hroom
    · next room =>
      have hinside : depth + 1 ≤ cap := by omega
      have hpass := Passes.cons (r := r) hd hinside hopen
      split
      · next hclose => exact .ok _ (hpass.trans (.close hinside (.inl rfl) hclose))
      · have hskip := hpass.trans (.trimFront hinside r)
        have hskipped := Nat.le_trans hskip.length_le hlength
        have hdeeper : depth + 1 + room = cap := by omega
        exact ((ih.items hskipped hdeeper).behind hskip).map _
  · next c r _ _ =>
    split
    · next hq => exact (accounts_text hq hd hlength).map _
    · split
      · exact accounts_number hd hlength
      · split
        · exact .flaw (by simp) hlength
        · next name behind hname =>
          have hword := passes_name hd hname
          split
          · exact .ok _ hword
          · split
            · next call opened _ hopen =>
              have hpass := hword.trans (.mark hd (by decide) hopen)
              split
              · next hclose =>
                exact accounts_called call hlength [] (hpass.trans (.mark hd (by decide) hclose))
              · have hskip := hpass.trans (.trimFront hd opened)
                have hskipped := Nat.le_trans hskip.length_le hlength
                refine .behind hskip ((ih.arguments hskipped hroom).bind fun held rest _ => ?_)
                exact accounts_called call hlength held (.refl hd rest)
            · exact .flaw (by simp) hlength

theorem items_succ (ih : ReadersAccount total cap fuel) (hs : s.length ≤ total)
    (hroom : depth + 1 + room = cap) :
    Accounts total cap (depth + 1) depth s (Reader.items (fuel + 1) room s) := by
  have hd : depth + 1 ≤ cap := by omega
  rw [Reader.items]
  refine (ih.value hs hroom).bind fun first rest hle => ?_
  have hrest := Nat.le_trans hle hs
  have hfront := Nat.le_trans (Passes.trimFront hd rest).length_le hrest
  dsimp only
  split
  · next hclose => exact .ok _ (.close hd (.inl rfl) hclose)
  · next tail hcomma =>
    have hpass := Passes.mark hd (by decide) hcomma
    split
    · next hclose => exact .ok _ (hpass.trans (.close hd (.inl rfl) hclose))
    · have hskip := hpass.trans (.trimFront hd tail)
      have hskipped := Nat.le_trans hskip.length_le hrest
      exact ((ih.items hskipped hroom).behind hskip).map _
  · exact .flaw (by simp) hfront

theorem memberPairs_succ (ih : ReadersAccount total cap fuel) (hs : s.length ≤ total)
    (hroom : depth + 1 + room = cap) :
    Accounts total cap (depth + 1) depth s (Reader.memberPairs (fuel + 1) room s) := by
  have hd : depth + 1 ≤ cap := by omega
  rw [Reader.memberPairs]
  refine (accounts_keyText hd hs).bind fun key rest hle => ?_
  have hrest := Nat.le_trans hle hs
  have hfront := Nat.le_trans (Passes.trimFront hd rest).length_le hrest
  dsimp only
  split
  · next colon hcolon =>
    have hpass := Passes.mark hd (by decide) hcolon
    have hcolonLength := Nat.le_trans hpass.length_le hrest
    refine .behind hpass ((ih.value hcolonLength hroom).bind fun held rest hle => ?_)
    have hrest := Nat.le_trans hle hcolonLength
    have hfront := Nat.le_trans (Passes.trimFront hd rest).length_le hrest
    dsimp only
    split
    · next hclose => exact .ok _ (.close hd (.inr rfl) hclose)
    · next tail hcomma =>
      have hpass := Passes.mark hd (by decide) hcomma
      split
      · next hclose => exact .ok _ (hpass.trans (.close hd (.inr rfl) hclose))
      · have hskip := hpass.trans (.trimFront hd tail)
        have hskipped := Nat.le_trans hskip.length_le hrest
        exact ((ih.memberPairs hskipped hroom).behind hskip).map _
    · exact .flaw (by simp) hfront
  · exact .flaw (by simp) hfront

theorem arguments_succ (ih : ReadersAccount total cap fuel) (hs : s.length ≤ total)
    (hroom : depth + room = cap) :
    Accounts total cap depth depth s (Reader.arguments (fuel + 1) room s) := by
  have hd : depth ≤ cap := by omega
  rw [Reader.arguments]
  refine (ih.value hs hroom).bind fun first rest hle => ?_
  have hrest := Nat.le_trans hle hs
  have hfront := Nat.le_trans (Passes.trimFront hd rest).length_le hrest
  dsimp only
  split
  · next hclose => exact .ok _ (.mark hd (by decide) hclose)
  · next tail hcomma =>
    have hpass := Passes.mark hd (by decide) hcomma
    have htail := Nat.le_trans hpass.length_le hrest
    exact ((ih.arguments htail hroom).behind hpass).map _
  · exact .flaw (by simp) hfront

end ReadersAccount

/-- **The functions that read values account for their texts**, however much fuel there is. -/
theorem readers_account (total cap fuel : Nat) : ReadersAccount total cap fuel := by
  induction fuel with
  | zero => exact .zero
  | succ fuel ih => exact ⟨ih.value_succ, ih.items_succ, ih.memberPairs_succ, ih.arguments_succ⟩

/-- A whole text is accounted for by the value that it starts with. -/
theorem accounts_whole (s : List Char) :
    Accounts s.length deepest 0 0 s (value (2 * s.length + 2) deepest s) :=
  (readers_account _ _ _).value (Nat.le_refl _) (Nat.zero_add _)

end Reader
end Query
end FormDispatch
