/-
# Where calls stand in query text

A call is known from the characters of a text alone: its name and an opening bracket stand outside
of quotes, and the name is no part of a longer one (`CallAt`). Wherever that is so in a text that
spells a value, the argument and the closing bracket follow, and the whole call can be replaced by
any other spelling of the value it stands for (`SpellsAlone.wholeCall`).

No call starts in blanks, marks, numerals, constants and keys, nor in quotes (`Silent`). So of two
texts side by side a call starts in the one or in the other (`Holds.append`), and the rest is an
induction on how the value is spelled.
-/

import FormDispatch.Proofs.Query.Soundness

namespace FormDispatch
namespace Query

open Substitution (Quotation)

/-- The name of a call and an opening bracket stand in a text behind `before`, outside of quotes,
and the name does not go on with another; `behind` is what follows the bracket. -/
structure CallAt (call : Call) (before behind s : List Char) : Prop where
  split : ∃ w, Blanks w ∧ s = before ++ (call.name.toList ++ (w ++ '(' :: behind))
  outside : Quotation.outside.afterAll before = .outside
  apart : ∀ c ∈ before.getLast?, Reader.continuesName c = false

variable {call : Call} {before behind rest a b t : List Char}

/-- A call that starts behind a part of a text starts in what follows that part. -/
theorem CallAt.skip (h : CallAt call before behind (a ++ rest))
    (settled : Quotation.outside.afterAll a = .outside) (hlength : a.length ≤ before.length) :
    ∃ inner, before = a ++ inner ∧ CallAt call inner behind rest := by
  obtain ⟨w, hw, hsplit⟩ := h.split
  have hstart : a <+: before :=
    List.prefix_of_prefix_length_le (List.prefix_append a rest) ⟨_, hsplit.symm⟩ hlength
  obtain ⟨inner, rfl⟩ := hstart
  rw [List.append_assoc] at hsplit
  have houtside := h.outside
  rw [Quotation.afterAll_append, settled] at houtside
  refine ⟨inner, rfl, ⟨w, hw, List.append_cancel_left hsplit⟩, houtside, fun c hc => h.apart c ?_⟩
  rw [List.getLast?_append, hc]
  rfl

/-! ### Texts without quotes -/

/-- A text without quotes. -/
def Unquoted (a : List Char) : Prop :=
  ∀ c ∈ a, Reader.isQuote c = false

/-- Places of a text without quotes lie outside of quotes. -/
theorem Unquoted.afterAll (ha : Unquoted a) : Quotation.outside.afterAll a = .outside := by
  induction a with
  | nil => rfl
  | cons c r ih =>
    obtain ⟨hc, hr⟩ := List.forall_mem_cons.mp ha
    simp only [Reader.isQuote, Bool.or_eq_false_iff, beq_eq_false_iff_ne] at hc
    rw [Quotation.afterAll, List.foldl_cons, Quotation.after, if_neg (by simp [hc])]
    exact ih hr

/-! ### Where no call starts -/

/-- A text that ends outside of quotes, and in which no call starts whatever follows. -/
structure Silent (a : List Char) : Prop where
  settled : Quotation.outside.afterAll a = .outside
  passed : ∀ {call : Call} {before behind rest : List Char},
    CallAt call before behind (a ++ rest) → a.length ≤ before.length

theorem Silent.skip (ha : Silent a) (h : CallAt call before behind (a ++ rest)) :
    ∃ inner, before = a ++ inner ∧ CallAt call inner behind rest :=
  h.skip ha.settled (ha.passed h)

theorem Silent.append (ha : Silent a) (hb : Silent b) : Silent (a ++ b) where
  settled := by rw [Quotation.afterAll_append, ha.settled, hb.settled]
  passed h := by
    rw [List.append_assoc] at h
    obtain ⟨inner, rfl, hinner⟩ := ha.skip h
    rw [List.length_append, List.length_append]
    exact Nat.add_le_add_left (hb.passed hinner) _

/-- A character that is no quote, and that no name of a call starts with. -/
def isSilent (c : Char) : Bool :=
  !(['"', '\'', 'O', 'I', 'N'].contains c)

theorem isSilent_of {p : Char → Bool} (none_in : ['"', '\'', 'O', 'I', 'N'].any p = false)
    {c : Char} (h : p c = true) : isSilent c = true := by
  simp only [isSilent, Bool.not_eq_true', Bool.eq_false_iff, ne_eq, List.contains_iff_mem]
  exact fun hc => List.any_eq_false.mp none_in c hc h

/-- The name of a call starts with one of three letters. -/
theorem Call.head_name (call : Call) : ∃ c r, call.name.toList = c :: r ∧ isSilent c = false ∧
    Reader.startsName c = true ∧ ∀ d ∈ r, Reader.continuesName d = true := by
  cases call <;> exact ⟨_, _, rfl, by decide, by decide, List.all_eq_true.mp (by decide)⟩

/-- No call starts with a silent character. -/
theorem Silent.of_isSilent (h : ∀ c ∈ a, isSilent c = true) : Silent a where
  settled := Unquoted.afterAll fun c hc => by
    have hsilent := h c hc
    simp only [isSilent, Bool.not_eq_true', Bool.eq_false_iff, ne_eq, List.contains_iff_mem,
      List.mem_cons, not_or] at hsilent
    simp [Reader.isQuote, hsilent]
  passed {call before behind rest} hcall := by
    obtain ⟨w, -, hsplit⟩ := hcall.split
    obtain ⟨c, r, hname, hc, -⟩ := call.head_name
    by_contra hlength
    have hget : (a ++ rest)[before.length]? = some c := by
      rw [hsplit, hname, List.getElem?_append_right (Nat.le_refl _), Nat.sub_self]
      rfl
    rw [List.getElem?_append_left (Nat.lt_of_not_le hlength)] at hget
    rw [h c (List.mem_of_getElem? hget)] at hc
    cases hc

theorem Silent.blanks {w : List Char} (hw : Blanks w) : Silent w :=
  .of_isSilent fun c hc => isSilent_of (by decide) (hw c hc)

theorem Silent.mark {c : Char} (hc : isSilent c = true) : Silent [c] :=
  .of_isSilent (by simpa using hc)

/-- No call starts in a numeral. -/
theorem Silent.numeral {parts : Document.Reader.NumeralParts}
    (h : Document.Reader.NumeralText Text.isDecimalDigit Document.Reader.isLeadingDigit parts t) :
    Silent t :=
  .of_isSilent fun c hc => isSilent_of (by decide) (isOfNumeral_of_mem h c hc)

/-- No call starts in the end of an array or object. -/
theorem Silent.ending {close : Char} (hclose : isSilent close = true) {e : List Char}
    (h : Ending close e) : Silent e := by
  cases h with
  | plain hw => exact (Silent.blanks hw).append (.mark hclose)
  | comma hw hw' =>
    exact (Silent.blanks hw).append
      ((Silent.mark (by decide)).append ((Silent.blanks hw').append (.mark hclose)))

/-! ### Quotes -/

/-- Every place of a text lies in quotes. -/
def StaysInside : Quotation → List Char → Prop
  | q, [] => q ≠ .outside
  | q, c :: r => q ≠ .outside ∧ StaysInside (q.after c) r

theorem StaysInside.append {q : Quotation} (ha : StaysInside q a)
    (hb : StaysInside (q.afterAll a) b) : StaysInside q (a ++ b) := by
  induction a generalizing q with
  | nil => exact hb
  | cons c r ih => exact ⟨ha.1, ih ha.2 hb⟩

theorem StaysInside.of_append {q : Quotation} (h : StaysInside q (a ++ b)) :
    q.afterAll a ≠ .outside := by
  induction a generalizing q with
  | nil =>
    cases b with
    | nil => exact h
    | cons c r => exact h.1
  | cons c r ih => exact ih h.2

/-- A spelled character lies in its quotes. -/
theorem SpelledChar.staysInside {q x : Char} {u : List Char} (hq : Reader.isQuote q = true)
    (h : SpelledChar q x u) : StaysInside (.inside q false) u := by
  have hslash := ne_backslash_of_isQuote hq
  have unit : ∀ {a b c d : Char} {n : Nat}, Document.Reader.unit? a b c d = some n →
      StaysInside (.inside q false) ['\\', 'u', a, b, c, d] := by
    intro a b c d n hunit
    obtain ⟨i, j, k, l, ha, hb, hc, hd⟩ := hexValue?_of_unit? hunit
    have apart := fun {c : Char} {n : Nat} (h : Text.hexValue? c = some n) =>
      And.intro (ne_of_hexValue? h).1 ((ne_of_hexValue? h).2 q hq)
    simp [StaysInside, Quotation.after, apart ha, apart hb, apart hc, apart hd]
  cases h with
  | plain hc hb _ => simp [StaysInside, Quotation.after, hc, hb]
  | escape _ => simp [StaysInside, Quotation.after]
  | unit h _ _ => exact unit h
  | @pair a b c d e f g h _ _ first _ second _ =>
    refine StaysInside.append (a := ['\\', 'u', a, b, c, d]) (unit first) ?_
    rw [← Place.afterAll_quotation ⟨.inside q false, 0⟩, Place.afterAll_unit hq first]
    exact unit second

/-- A spelled text lies in its quotes. -/
theorem SpelledText.staysInside {q : Char} {cs s : List Char} (hq : Reader.isQuote q = true)
    (h : SpelledText q cs s) : StaysInside (.inside q false) s := by
  induction h with
  | nil => exact nofun
  | cons head _ ih =>
    refine (head.staysInside hq).append ?_
    rw [← Place.afterAll_quotation ⟨.inside q false, 0⟩, head.afterAll hq]
    exact ih

/-- No call starts in a text between quotes. -/
theorem Silent.quoted {q : Char} {cs s : List Char} (hq : Reader.isQuote q = true)
    (h : SpelledText q cs s) : Silent (q :: (s ++ [q])) where
  settled := by
    rw [← Place.afterAll_quotation ⟨.outside, 0⟩, Place.afterAll_quoted hq h]
  passed {call before behind rest} hcall := by
    obtain ⟨w, -, hsplit⟩ := hcall.split
    by_contra hlength
    rw [List.length_cons, List.length_append, List.length_singleton, Nat.not_le] at hlength
    cases before with
    | nil =>
      obtain ⟨c, r, hname, -, hstart, -⟩ := call.head_name
      rw [hname] at hsplit
      obtain ⟨rfl, -⟩ := List.cons.inj hsplit
      simp only [Reader.isQuote, Bool.or_eq_true, beq_iff_eq] at hq
      rcases hq with rfl | rfl <;> exact absurd hstart (by decide)
    | cons c inner =>
      -- what stands before the call is the opening quote and a part of the text
      obtain ⟨rfl, hinner⟩ := List.cons.inj hsplit
      have hstart : inner <+: s := by
        simp only [List.append_eq, List.append_assoc] at hinner
        refine List.prefix_of_prefix_length_le ⟨_, hinner.symm⟩ (List.prefix_append s _) ?_
        rw [List.length_cons] at hlength
        omega
      obtain ⟨others, rfl⟩ := hstart
      have houtside := hcall.outside
      rw [Quotation.afterAll, List.foldl_cons, after_outside_of_isQuote hq] at houtside
      exact (h.staysInside hq).of_append houtside

/-! ### Names -/

/-- A call that starts in a name starts where the name does. -/
theorem CallAt.eq_nil {c : Char} {cs : List Char} (start : Reader.startsName c = true)
    (others : ∀ d ∈ cs, Reader.continuesName d = true)
    (h : CallAt call before behind (c :: cs ++ rest)) (hlength : before.length < (c :: cs).length) :
    before = [] := by
  obtain ⟨w, -, hsplit⟩ := h.split
  have hstart : before <+: c :: cs :=
    List.prefix_of_prefix_length_le ⟨_, hsplit.symm⟩ (List.prefix_append _ _) (Nat.le_of_lt hlength)
  refine List.getLast?_eq_none_iff.mp (Option.eq_none_iff_forall_not_mem.mpr fun d hd => ?_)
  have hcontinues : Reader.continuesName d = true := by
    rcases List.mem_cons.mp (hstart.subset (List.mem_of_getLast? hd)) with rfl | hd
    · rw [Reader.continuesName, start, Bool.true_or, Bool.true_or]
    · exact others d hd
  rw [h.apart d hd] at hcontinues
  cases hcontinues

/-- A call that starts with a name has that name, and its bracket follows. -/
theorem CallAt.of_name {c : Char} {cs : List Char} (start : Reader.startsName c = true)
    (others : ∀ d ∈ cs, Reader.continuesName d = true) (hrest : Stops rest)
    (h : CallAt call [] behind (c :: cs ++ rest)) :
    call.name = String.ofList (c :: cs) ∧ ∃ w, Blanks w ∧ rest = w ++ '(' :: behind := by
  obtain ⟨w, hw, hsplit⟩ := h.split
  obtain ⟨n, ns, hname, -, hn, hns⟩ := call.head_name
  have hread := name?_append start others hrest
  have hcalled := name?_append hn hns
    (.blanks hw (.cons (by decide) behind) : Stops (w ++ '(' :: behind))
  rw [hname] at hsplit
  simp only [List.nil_append, List.cons_append] at hsplit
  rw [hsplit, hcalled] at hread
  obtain ⟨hsame, hbehind⟩ := Prod.mk.inj (Option.some_inj.mp hread)
  refine ⟨?_, w, hw, hbehind.symm⟩
  rw [← hsame, ← hname, String.ofList_toList]

/-- No call starts in a key and the colon behind it. -/
theorem Silent.key {key : String} {k w : List Char} (h : SpelledKey key k) (hw : Blanks w) :
    Silent (k ++ (w ++ [':'])) := by
  have hcolon : Silent (w ++ [':']) := (Silent.blanks hw).append (.mark (by decide))
  have settled : Quotation.outside.afterAll k = .outside := by
    rw [← Place.afterAll_quotation ⟨.outside, 0⟩, h.afterAll]
  cases h with
  | quoted hq h => exact (Silent.quoted hq h).append hcolon
  | @name first cs start others =>
    refine ⟨by rw [Quotation.afterAll_append, settled, hcolon.settled],
      fun {call before behind rest} hcall => ?_⟩
    rw [List.append_assoc] at hcall
    rcases Nat.lt_or_ge before.length (first :: cs).length with hlength | hlength
    · -- a colon follows the key, and a bracket the name of a call
      obtain rfl := hcall.eq_nil start others hlength
      have hstops : Stops (w ++ [':'] ++ rest) := by
        rw [List.append_assoc]
        exact .blanks hw (.cons (by decide) rest)
      obtain ⟨-, v, hv, hbehind⟩ := hcall.of_name start others hstops
      have hmarks := congrArg Text.trimFront hbehind
      rw [List.append_assoc, List.singleton_append, trimFront_mark hw ':' (by decide),
        trimFront_mark hv '(' (by decide)] at hmarks
      exact absurd (List.cons.inj hmarks).1 (by decide)
    · obtain ⟨inner, rfl, hinner⟩ := hcall.skip settled hlength
      have hpassed := hcolon.passed hinner
      have hall : (first :: cs ++ inner).length = (first :: cs).length + inner.length :=
        List.length_append
      rw [hall, List.length_append]
      exact Nat.add_le_add_left hpassed _

/-! ### Where calls start -/

/-- A call that starts behind `before` is whole, with `rest` somewhere behind it, and any other
spelling of its value can stand in its place. -/
def Whole (good : List Char → Prop) (call : Call) (before behind rest : List Char) : Prop :=
  ∃ (w u w' after : List Char) (argument d : Document),
    behind = w ++ (u ++ (w' ++ ')' :: (after ++ rest))) ∧ Blanks w ∧ Blanks w' ∧
      Spells (.value argument) u ∧ call.ofArgument argument = .ok d ∧
      ∀ v, Spells (.value d) v → good (before ++ (v ++ after))

/-- Every call that starts in the text is whole in it. -/
def Holds (good : List Char → Prop) (t : List Char) : Prop :=
  ∀ (call : Call) (before behind rest : List Char), Stops rest →
    CallAt call before behind (t ++ rest) → before.length < t.length →
      Whole good call before behind rest

variable {good goodLeft goodRight : List Char → Prop}

/-- A call that is whole in a part of a text is whole in the text. -/
theorem Whole.lift (h : Whole goodLeft call before behind (b ++ rest))
    (lift : ∀ x, goodLeft x → good (a ++ (x ++ b))) :
    Whole good call (a ++ before) behind rest := by
  obtain ⟨w, u, w', after, argument, d, rfl, hw, hw', hu, hd, hv⟩ := h
  refine ⟨w, u, w', after ++ b, argument, d, by rw [List.append_assoc], hw, hw', hu, hd,
    fun v hspelled => ?_⟩
  have hgood := lift _ (hv v hspelled)
  simpa only [List.append_assoc] using hgood

theorem Holds.of_silent (ha : Silent a) : Holds good a :=
  fun _ _ _ _ _ hcall hlength => absurd (ha.passed hcall) (Nat.not_le_of_lt hlength)

/-- A text in which no call starts stands before one that holds its calls. -/
theorem Holds.prepend (ha : Silent a) (hb : Holds goodRight b)
    (lift : ∀ x, goodRight x → good (a ++ x)) : Holds good (a ++ b) := by
  intro call before behind rest hrest hcall hlength
  rw [List.append_assoc] at hcall
  obtain ⟨inner, rfl, hinner⟩ := ha.skip hcall
  simp only [List.length_append, Nat.add_lt_add_iff_left] at hlength
  exact (hb _ _ _ _ hrest hinner hlength).lift (b := []) fun x hx => by
    rw [List.append_nil]
    exact lift x hx

/-- Two texts side by side hold the calls that each of them holds. -/
theorem Holds.append (ha : Holds goodLeft a) (settled : Quotation.outside.afterAll a = .outside)
    (hb : Holds goodRight b) (stops : ∀ rest, Stops rest → Stops (b ++ rest))
    (liftLeft : ∀ x, goodLeft x → good (x ++ b)) (liftRight : ∀ x, goodRight x → good (a ++ x)) :
    Holds good (a ++ b) := by
  intro call before behind rest hrest hcall hlength
  rw [List.append_assoc] at hcall
  rcases Nat.lt_or_ge before.length a.length with hleft | hright
  · exact (ha _ _ _ _ (stops rest hrest) hcall hleft).lift (a := []) liftLeft
  · obtain ⟨inner, rfl, hinner⟩ := hcall.skip settled hright
    simp only [List.length_append, Nat.add_lt_add_iff_left] at hlength
    exact (hb _ _ _ _ hrest hinner hlength).lift (b := []) fun x hx => by
      rw [List.append_nil]
      exact liftRight x hx

/-- A value ends outside of quotes. -/
theorem Spells.settled {d : Document} (h : Spells (.value d) t) :
    Quotation.outside.afterAll t = .outside := by
  have hplace : (Place.mk .outside 0).afterAll t = ⟨.outside, 0⟩ := h.settles 0
  rw [← Place.afterAll_quotation ⟨.outside, 0⟩, hplace]

/-- A value holds its calls where only silent text follows it. -/
theorem Holds.silently {d : Document} (h : Spells (.value d) t)
    (ih : Holds (Spells (.value d)) t) (hb : Silent b)
    (stops : ∀ rest, Stops rest → Stops (b ++ rest))
    (lift : ∀ x, Spells (.value d) x → good (x ++ b)) : Holds good (t ++ b) :=
  ih.append h.settled (.of_silent hb : Holds (fun _ => False) b) stops lift nofun

/-- A value holds its calls where a comma and more text that holds its calls follow. -/
theorem Holds.more {d : Document} {w s : List Char} (h : Spells (.value d) t)
    (ih : Holds (Spells (.value d)) t) (hw : Blanks w) (ihs : Holds goodRight s)
    (liftLeft : ∀ x, Spells (.value d) x → good (x ++ (w ++ ',' :: s)))
    (liftRight : ∀ x, goodRight x → good (t ++ (w ++ ',' :: x))) :
    Holds good (t ++ (w ++ ',' :: s)) := by
  have hcomma : Holds (fun x => good (t ++ (w ++ x))) ([','] ++ s) :=
    ihs.prepend (.mark (by decide)) liftRight
  have hbehind : Holds (fun x => good (t ++ x)) (w ++ ',' :: s) :=
    hcomma.prepend (.blanks hw) fun x hx => hx
  refine ih.append h.settled hbehind (fun rest _ => ?_) liftLeft fun x hx => hx
  rw [List.append_assoc]
  exact .blanks hw (.cons (by decide) _)

/-- A key stands before a text that holds its calls. -/
theorem Holds.key {key : String} {k w : List Char} (hk : SpelledKey key k) (hw : Blanks w)
    (hb : Holds goodRight b) (lift : ∀ x, goodRight x → good (k ++ (w ++ ':' :: x))) :
    Holds good (k ++ (w ++ ':' :: b)) := by
  have hall : Holds good (k ++ (w ++ [':']) ++ b) := hb.prepend (.key hk hw) fun x hx => by
    simpa only [List.append_assoc, List.singleton_append] using lift x hx
  simpa only [List.append_assoc, List.singleton_append] using hall

/-- A name tells its call. -/
theorem Call.name_injective {call other : Call} (h : call.name = other.name) : call = other := by
  revert h
  cases call <;> cases other <;> decide

/-- A call holds itself, and the calls in its argument. -/
theorem Holds.called {argument d : Document} {w w₁ w₂ : List Char} (hw : Blanks w)
    (hw₁ : Blanks w₁) (h : Spells (.value argument) t) (hw₂ : Blanks w₂)
    (hd : call.ofArgument argument = .ok d) (ih : Holds (Spells (.value argument)) t) :
    Holds (Spells (.value d)) (call.name.toList ++ (w ++ '(' :: (w₁ ++ (t ++ (w₂ ++ [')']))))) := by
  obtain ⟨c, r, hname, -, start, others⟩ := call.head_name
  have settled : Quotation.outside.afterAll call.name.toList = .outside := by
    cases call <;> rfl
  have hclose : Silent (w₂ ++ [')']) := (Silent.blanks hw₂).append (.mark (by decide))
  have hstops : ∀ rest, Stops rest → Stops (w₂ ++ [')'] ++ rest) := fun rest _ => by
    rw [List.append_assoc]
    exact .blanks hw₂ (.cons (by decide) rest)
  have hopen : Silent (w ++ ['(']) := (Silent.blanks hw).append (.mark (by decide))
  have hinside : Holds (fun x => Spells (.value d) (call.name.toList ++ (w ++ '(' :: x)))
      (w₁ ++ (t ++ (w₂ ++ [')']))) :=
    (Holds.silently h ih hclose hstops fun x hx => Spells.call hw hw₁ hx hw₂ hd).prepend
      (.blanks hw₁) fun x hx => hx
  intro other before behind rest hrest hcall hlength
  rw [List.append_assoc] at hcall
  rcases Nat.lt_or_ge before.length call.name.toList.length with hleft | hright
  · -- the call itself
    rw [hname] at hcall hleft
    obtain rfl := hcall.eq_nil start others hleft
    have hbracket : Stops (w ++ '(' :: (w₁ ++ (t ++ (w₂ ++ [')']))) ++ rest) := by
      rw [List.append_assoc]
      exact .blanks hw (.cons (by decide) _)
    obtain ⟨hsame, v, hv, hbehind⟩ := hcall.of_name start others hbracket
    rw [← hname, String.ofList_toList] at hsame
    obtain rfl := Call.name_injective hsame
    have hmarks := congrArg Text.trimFront hbehind
    rw [List.append_assoc, List.cons_append, trimFront_mark hw '(' (by decide),
      trimFront_mark hv '(' (by decide)] at hmarks
    obtain rfl := (List.cons.inj hmarks).2
    refine ⟨w₁, t, w₂, [], argument, d, by simp, hw₁, hw₂, h, hd, fun v hv => ?_⟩
    simpa using hv
  · obtain ⟨inner, rfl, hinner⟩ := hcall.skip settled hright
    have hwhole : Holds (fun x => Spells (.value d) (call.name.toList ++ x))
        (w ++ ['('] ++ (w₁ ++ (t ++ (w₂ ++ [')'])))) :=
      hinside.prepend hopen fun x hx => by
        simpa only [List.append_assoc, List.singleton_append] using hx
    simp only [List.append_assoc, List.singleton_append] at hwhole
    rw [List.length_append, List.length_append, Nat.add_lt_add_iff_left] at hlength
    have hfound := hwhole _ _ _ _ hrest hinner hlength
    exact hfound.lift (b := []) fun x hx => by
      rw [List.append_nil]
      exact hx

/-- **Every text of the grammar holds its calls.** -/
theorem Spells.holds {p : Phrase} {t : List Char} (h : Spells p t) : Holds (Spells p) t := by
  induction h with
  | null => exact .of_silent (.of_isSilent (List.all_eq_true.mp (by decide)))
  | yes => exact .of_silent (.of_isSilent (List.all_eq_true.mp (by decide)))
  | no => exact .of_silent (.of_isSilent (List.all_eq_true.mp (by decide)))
  | numeral h _ => exact .of_silent (.numeral h)
  | text hq h => exact .of_silent (.quoted hq h)
  | emptyArr hw | emptyObj hw =>
    exact .of_silent ((Silent.mark (by decide)).append
      ((Silent.blanks hw).append (.mark (by decide))))
  | arr _ ih => exact ih.prepend (.mark (by decide)) fun x hx => .arr hx
  | obj _ ih => exact ih.prepend (.mark (by decide)) fun x hx => .obj hx
  | call hw hw₁ h hw₂ hd ih => exact .called hw hw₁ h hw₂ hd ih
  | lastItem hw h he ih =>
    refine (Holds.silently h ih (.ending (by decide) he) (fun rest _ => he.stops (by decide) rest)
      fun x hx => ?_).prepend (.blanks hw) fun x hx => hx
    exact .lastItem hw hx he
  | item hw h hw' hs ih ihs =>
    refine (Holds.more h ih hw' ihs (fun x hx => ?_) fun x hx => ?_).prepend (.blanks hw)
      fun x hx => hx
    · exact .item hw hx hw' hs
    · exact .item hw h hw' hx
  | lastMember hw hk hw₁ hw₂ h he ih =>
    refine (Holds.key hk hw₁ ((Holds.silently h ih (.ending (by decide) he)
      (fun rest _ => he.stops (by decide) rest) fun x hx => ?_).prepend (.blanks hw₂)
        fun x hx => hx) fun x hx => hx).prepend (.blanks hw) fun x hx => hx
    exact .lastMember hw hk hw₁ hw₂ hx he
  | member hw hk hw₁ hw₂ h hw' hs ih ihs =>
    refine (Holds.key hk hw₁ ((Holds.more h ih hw' ihs (fun x hx => ?_) fun x hx => ?_).prepend
      (.blanks hw₂) fun x hx => hx) fun x hx => hx).prepend (.blanks hw) fun x hx => hx
    · exact .member hw hk hw₁ hw₂ hx hw' hs
    · exact .member hw hk hw₁ hw₂ h hw' hx

/-- **A call in a text that spells a value is whole, and stands for a value of its own**: whatever
else spells that value can stand in its place. -/
theorem SpellsAlone.wholeCall {document : Document} {s : List Char} (h : SpellsAlone document s)
    (hcall : CallAt call before behind s) :
    ∃ (w u w' after : List Char) (argument d : Document),
      behind = w ++ (u ++ (w' ++ ')' :: after)) ∧ Blanks w ∧ Blanks w' ∧
        Spells (.value argument) u ∧ call.ofArgument argument = .ok d ∧
        ∀ v, Spells (.value d) v → SpellsAlone document (before ++ (v ++ after)) := by
  obtain ⟨w, t, w', rfl, hw, ht, hw'⟩ := h
  have hstops : ∀ rest, Stops rest → Stops (w' ++ rest) := fun rest hrest => .blanks hw' hrest
  have hvalue : Holds (fun x => SpellsAlone document (w ++ x)) (t ++ w') :=
    .silently ht ht.holds (.blanks hw') hstops fun x hx => ⟨w, x, w', rfl, hw, hx, hw'⟩
  have hholds : Holds (SpellsAlone document) (w ++ (t ++ w')) :=
    hvalue.prepend (.blanks hw) fun x hx => hx
  obtain ⟨v, -, hsplit⟩ := hcall.split
  have hlength : before.length < (w ++ (t ++ w')).length := by
    rw [hsplit]
    simp only [List.length_append, List.length_cons]
    omega
  have hwhole := hholds call before behind [] .nil (by rwa [List.append_nil]) hlength
  simpa only [Whole, List.append_nil] using hwhole

end Query
end FormDispatch
