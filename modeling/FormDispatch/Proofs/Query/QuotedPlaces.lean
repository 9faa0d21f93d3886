/-
# Quoted places of query text

Whether a place of a text lies between quotes is told in two ways. The reader of query text comes to
a quote where a value or a key starts, and reads a literal from there; going where the reader goes
finds all of them (`literals`). The quotation of a place knows nothing but the quotes and
backslashes before it. In a text that is read the two agree (`quoteBefore_read`): the quote around a
place is that of the literal that has the place in its content or at its closing quote, and there is
none where no literal is or where one opens.

Outside of literals a text that is read holds no quotes at all, and in a literal every quote but the
last is escaped or of the other kind. So it is made of parts without quotes and of literals, and two
such texts side by side have the literals of both (`LiteralsOf.append`). The rest follows the reader
from part to part (`Finds.trans`).
-/

import Mathlib.Data.List.Pairwise
import FormDispatch.Proofs.Query.CallPlace

namespace FormDispatch
namespace Query

open Substitution (Quotation quoteBefore)

/-! ### Literals -/

/-- A literal that is read: its quote, and how many characters are left behind the opening quote and
behind the closing one. -/
structure Literal where
  quote : Char
  opened : Nat
  closed : Nat
deriving DecidableEq

namespace Literal

/-- The place at which so many characters are left lies in the content or at the closing quote. -/
def Encloses (l : Literal) (left : Nat) : Prop :=
  l.closed < left ∧ left ≤ l.opened

/-- The opening quote is at the place at which so many characters are left. -/
def OpensAt (l : Literal) (left : Nat) : Prop :=
  left = l.opened + 1

/-- The quote stands in the text, and what stands behind it is read as far as the literal goes. -/
def IsReadIn (l : Literal) (s : List Char) : Prop :=
  ∃ before behind held rest, s = before ++ l.quote :: behind ∧ behind.length = l.opened ∧
    Reader.text l.quote [] none behind = .ok (held, rest) ∧ rest.length = l.closed

instance (l : Literal) (left : Nat) : Decidable (l.Encloses left) :=
  inferInstanceAs (Decidable (_ ∧ _))

instance (l : Literal) (left : Nat) : Decidable (l.OpensAt left) :=
  inferInstanceAs (Decidable (_ = _))

end Literal

/-- The literal that is read behind an opening quote. -/
def literalBehind (quote : Char) (s : List Char) : List Literal :=
  match Reader.text quote [] none s with
  | .ok (_, rest) => [⟨quote, s.length, rest.length⟩]
  | .error _ => []

/-- The literal that a key is, if it is one. -/
def keyLiterals : List Char → List Literal
  | c :: r => if Reader.isQuote c then literalBehind c r else []
  | [] => []

/-- Where the first part of a list is looked for: behind the blanks, unless the list closes
there. -/
def listed? (close : Char) (s : List Char) : Option (List Char) :=
  if (Text.trimFront s).head? = some close then none else some (Text.trimFront s)

/-- What is behind a mark, if it comes next. -/
def behindMark? (mark : Char) (s : List Char) : Option (List Char) :=
  if (Text.trimFront s).head? = some mark then some (Text.trimFront s).tail else none

mutual

/-- The literals that are read for a value. -/
def valueLiterals (fuel room : Nat) (s : List Char) : List Literal :=
  match fuel with
  | 0 => []
  | fuel + 1 =>
    match Text.trimFront s with
    | [] => []
    | c :: r =>
      if c = '\x7b' then
        match room with
        | 0 => []
        | room + 1 => (listed? '\x7d' r).elim [] fun r => memberLiterals fuel room r
      else if c = '[' then
        match room with
        | 0 => []
        | room + 1 => (listed? ']' r).elim [] fun r => itemLiterals fuel room r
      else if Reader.isQuote c then literalBehind c r
      else if c == '-' || Text.isDigit c then []
      else
        match Reader.name? (c :: r) with
        | none => []
        | some (name, rest) =>
          match Reader.constant? name with
          | some _ => []
          | none =>
            ((behindMark? '(' rest).bind (listed? ')')).elim [] fun r =>
              argumentLiterals fuel room r
termination_by structural fuel

/-- The literals that are read for the items of an array. -/
def itemLiterals (fuel room : Nat) (s : List Char) : List Literal :=
  match fuel with
  | 0 => []
  | fuel + 1 =>
    match Reader.value fuel room s with
    | .error _ => []
    | .ok (_, rest) =>
      valueLiterals fuel room s ++
        ((behindMark? ',' rest).bind (listed? ']')).elim [] fun r => itemLiterals fuel room r
termination_by structural fuel

/-- The literals that are read for the members of an object, keys and values. -/
def memberLiterals (fuel room : Nat) (s : List Char) : List Literal :=
  match fuel with
  | 0 => []
  | fuel + 1 =>
    match Reader.keyText s with
    | .error _ => []
    | .ok (_, rest) =>
      match behindMark? ':' rest with
      | none => []
      | some r =>
        match Reader.value fuel room r with
        | .error _ => []
        | .ok (_, rest) =>
          keyLiterals s ++ (valueLiterals fuel room r ++
            ((behindMark? ',' rest).bind (listed? '\x7d')).elim [] fun r =>
              memberLiterals fuel room r)
termination_by structural fuel

/-- The literals that are read for the arguments of a call. -/
def argumentLiterals (fuel room : Nat) (s : List Char) : List Literal :=
  match fuel with
  | 0 => []
  | fuel + 1 =>
    match Reader.value fuel room s with
    | .error _ => []
    | .ok (_, rest) =>
      valueLiterals fuel room s ++
        (behindMark? ',' rest).elim [] fun r => argumentLiterals fuel room r
termination_by structural fuel

end

/-- The literals that are read in a text, from front to back. -/
def literals (s : List Char) : List Literal :=
  valueLiterals (2 * s.length + 2) deepest s

/-! ### Parts of a text -/

theorem Unquoted.of_isNeutral {a : List Char} (h : ∀ c ∈ a, isNeutral c = true) : Unquoted a := by
  intro c hc
  have hneutral := h c hc
  simp only [isNeutral, Bool.not_eq_true', Bool.eq_false_iff, ne_eq, List.contains_iff_mem,
    List.mem_cons, not_or] at hneutral
  simp [Reader.isQuote, hneutral]

theorem Unquoted.blanks {w : List Char} (hw : Blanks w) : Unquoted w :=
  .of_isNeutral fun c hc => isNeutral_of_isBlank (hw c hc)

/-- The literals of a text with `rest` behind it. It ends outside of quotes; the literals are read
in it, one behind the other; and the quote around a place of the text is that of the literal that
encloses the place. -/
structure LiteralsOf (ls : List Literal) (t rest : List Char) : Prop where
  settled : Quotation.outside.afterAll t = .outside
  areRead : ∀ l ∈ ls, l.IsReadIn (t ++ rest)
  within : ∀ l ∈ ls, rest.length ≤ l.closed ∧ l.closed < l.opened ∧
    l.opened < t.length + rest.length
  apart : ls.Pairwise fun l l' => l'.opened < l.closed
  quote_iff : ∀ place < t.length, ∀ q,
    (Quotation.outside.afterAll (t.take place)).quote? = some q ↔
      ∃ l ∈ ls, l.quote = q ∧ l.Encloses (t.length + rest.length - place)

namespace LiteralsOf

variable {ls ms : List Literal} {a b t rest : List Char}

/-- A text without quotes has no literals. -/
theorem unquoted (ha : Unquoted a) : LiteralsOf [] a rest where
  settled := ha.afterAll
  areRead := nofun
  within := nofun
  apart := .nil
  quote_iff place _ q := by
    have houtside : Unquoted (a.take place) := fun c hc => ha c (List.mem_of_mem_take hc)
    simp [houtside.afterAll, Quotation.quote?]

/-- The literals of two texts side by side. -/
theorem append (ha : LiteralsOf ls a (b ++ rest)) (hb : LiteralsOf ms b rest) :
    LiteralsOf (ls ++ ms) (a ++ b) rest where
  settled := by rw [Quotation.afterAll_append, ha.settled, hb.settled]
  areRead l hl := by
    rw [List.append_assoc]
    rcases List.mem_append.mp hl with hl | hl
    · exact ha.areRead l hl
    · obtain ⟨before, behind, held, end', hsplit, hread⟩ := hb.areRead l hl
      exact ⟨a ++ before, behind, held, end', by rw [hsplit, List.append_assoc], hread⟩
  within l hl := by
    rw [List.length_append]
    rcases List.mem_append.mp hl with hl | hl
    · have := ha.within l hl
      rw [List.length_append] at this
      omega
    · have := hb.within l hl
      omega
  apart := by
    refine List.pairwise_append.mpr ⟨ha.apart, hb.apart, fun l hl l' hl' => ?_⟩
    have hfirst := ha.within l hl
    have hsecond := hb.within l' hl'
    rw [List.length_append] at hfirst
    omega
  quote_iff place hplace q := by
    rw [List.length_append] at hplace
    simp only [List.length_append, List.mem_append, or_and_right, exists_or, Nat.add_assoc]
    rcases Nat.lt_or_ge place a.length with hfirst | hsecond
    · -- the literals of the second text lie behind the place
      rw [List.take_append_of_le_length (Nat.le_of_lt hfirst), ha.quote_iff place hfirst,
        List.length_append]
      refine (or_iff_left ?_).symm
      rintro ⟨l, hl, -, -, hopened⟩
      have := hb.within l hl
      omega
    · -- the literals of the first text lie before the place
      obtain ⟨inner, rfl⟩ := Nat.exists_eq_add_of_le hsecond
      have hleft : a.length + (b.length + rest.length) - (a.length + inner) =
        b.length + rest.length - inner := by omega
      rw [List.take_length_add_append, Quotation.afterAll_append, ha.settled,
        hb.quote_iff inner (by omega), hleft]
      refine (or_iff_right ?_).symm
      rintro ⟨l, hl, -, hclosed, -⟩
      have := ha.within l hl
      rw [List.length_append] at this
      omega

end LiteralsOf

/-- A character inside of a string closes it or leaves it with the quote that it has. -/
theorem after_inside_cases (q c : Char) (escaped : Bool) :
    (Quotation.inside q escaped).after c = .outside ∨
      ∃ escaped', (Quotation.inside q escaped).after c = .inside q escaped' := by
  cases escaped with
  | true => exact .inr ⟨false, rfl⟩
  | false =>
    rw [Quotation.after]
    split
    · exact .inr ⟨true, rfl⟩
    · split
      · exact .inl rfl
      · exact .inr ⟨false, rfl⟩

/-- As long as a text stays in quotes they are those that were opened. -/
theorem StaysInside.quote? {q : Char} {escaped : Bool} {a b : List Char}
    (h : StaysInside (.inside q escaped) (a ++ b)) :
    ((Quotation.inside q escaped).afterAll a).quote? = some q := by
  induction a generalizing escaped with
  | nil => rfl
  | cons c r ih =>
    have hnext : StaysInside ((Quotation.inside q escaped).after c) (r ++ b) := h.2
    rw [Quotation.afterAll, List.foldl_cons]
    rcases after_inside_cases q c escaped with hclosed | ⟨escaped', hafter⟩
    · rw [hclosed] at hnext
      exact absurd rfl (hnext.of_append (a := []))
    · rw [hafter] at hnext ⊢
      exact ih hnext

/-- A text between quotes is one literal. -/
theorem LiteralsOf.quoted {q : Char} {cs u rest : List Char} (hq : Reader.isQuote q = true)
    (hu : SpelledText q cs u) :
    LiteralsOf [⟨q, (u ++ q :: rest).length, rest.length⟩] (q :: (u ++ [q])) rest where
  settled := by rw [← Place.afterAll_quotation ⟨.outside, 0⟩, Place.afterAll_quoted hq hu]
  areRead := List.forall_mem_singleton.mpr
    ⟨[], u ++ q :: rest, _, rest, by simp, rfl, text_spelledText hq hu [] rest, rfl⟩
  within := List.forall_mem_singleton.mpr <| by
    simp only [List.length_append, List.length_cons, List.length_nil]
    omega
  apart := List.pairwise_singleton ..
  quote_iff place hplace quote := by
    simp only [List.length_cons, List.length_append, List.length_nil] at hplace
    simp only [List.mem_singleton, exists_eq_left, Literal.Encloses, List.length_cons,
      List.length_append, List.length_nil]
    cases place with
    | zero =>
      refine iff_of_false (by simp [Quotation.afterAll, Quotation.quote?]) ?_
      rintro ⟨-, -, hopened⟩
      omega
    | succ inner =>
      -- behind the opening quote the place is in the content or at the closing quote
      have hinner : inner ≤ u.length := by omega
      have hstays : StaysInside (.inside q false) (u.take inner ++ u.drop inner) := by
        rw [List.take_append_drop]
        exact hu.staysInside hq
      rw [List.take_succ_cons, List.take_append_of_le_length hinner, Quotation.afterAll,
        List.foldl_cons, after_outside_of_isQuote hq]
      have hquote := hstays.quote?
      rw [Quotation.afterAll] at hquote
      rw [hquote, Option.some_inj]
      exact ⟨fun heq => ⟨heq, by omega, by omega⟩, fun h => h.1⟩

/-! ### What the reader reads -/

/-- What is read of a text, up to the rest, has these literals. -/
def Finds (ls : List Literal) (s rest : List Char) : Prop :=
  ∃ t, s = t ++ rest ∧ LiteralsOf ls t rest

namespace Finds

variable {ls ms : List Literal} {s r rest : List Char}

/-- What is read in two steps has the literals of both. -/
theorem trans (h : Finds ls s r) (h' : Finds ms r rest) : Finds (ls ++ ms) s rest := by
  obtain ⟨a, rfl, ha⟩ := h
  obtain ⟨b, rfl, hb⟩ := h'
  exact ⟨a ++ b, (List.append_assoc ..).symm, ha.append hb⟩

/-- What is read without literals first does not count. -/
theorem behind (h : Finds [] s r) (h' : Finds ms r rest) : Finds ms s rest :=
  h.trans h'

theorem unquoted {a : List Char} (ha : Unquoted a) : Finds [] (a ++ rest) rest :=
  ⟨a, rfl, .unquoted ha⟩

/-- Nothing is read. -/
theorem refl (s : List Char) : Finds [] s s :=
  unquoted (a := []) nofun

/-- One character that is no quote. -/
theorem mark {c : Char} (hc : Reader.isQuote c = false) : Finds [] (c :: rest) rest :=
  unquoted (a := [c]) (List.forall_mem_singleton.mpr hc)

/-- The blanks that are dropped in front. -/
theorem blanks (s : List Char) : Finds [] s (Text.trimFront s) := by
  obtain ⟨w, hs, hw⟩ := trimFront_spec s
  exact ⟨w, hs, .unquoted (.blanks hw)⟩

/-- A mark that blanks are dropped for. -/
theorem blanks_mark {c : Char} (h : Text.trimFront s = c :: r) (hc : Reader.isQuote c = false) :
    Finds [] s r :=
  (h ▸ blanks s).behind (mark hc)

/-- What is read behind an opening quote is one literal with it. -/
theorem literal {q : Char} {str : String} (hq : Reader.isQuote q = true)
    (h : Reader.text q [] none s = .ok (str, rest)) :
    Finds (literalBehind q s) (q :: s) rest := by
  rw [literalBehind, h]
  obtain ⟨cs, u, rfl, hu, -⟩ := text_sound h
  exact ⟨q :: (u ++ [q]), by simp, .quoted hq hu⟩

/-- A name has no quotes. -/
theorem name {found : String} (h : Reader.name? s = some (found, rest)) : Finds [] s rest := by
  obtain ⟨c, cs, rfl, -, start, hcs⟩ := name?_sound h
  exact unquoted (a := c :: cs) (.of_isNeutral (isNeutral_of_name start hcs))

/-- A numeral has no quotes. -/
theorem numeral {d : Document} (h : Reader.number s = .ok (d, rest)) : Finds [] s rest := by
  obtain ⟨parts, t, rfl, ht, -⟩ := number_spec h
  exact unquoted (.of_isNeutral fun c hc => isNeutral_of_isOfNumeral (isOfNumeral_of_mem ht c hc))

/-- A key is a literal, or a name. -/
theorem key {found : String} (h : Reader.keyText s = .ok (found, rest)) :
    Finds (keyLiterals s) s rest := by
  unfold Reader.keyText at h
  split at h
  · next c r =>
    rw [keyLiterals]
    split at h
    · next hq =>
      rw [if_pos hq]
      exact literal hq h
    · next hq =>
      rw [if_neg hq]
      split at h
      · next hname =>
        cases h
        exact name hname
      · cases h
  · cases h

end Finds

/-! ### Readers -/

section Lists

variable {c mark close : Char} {s r rest : List Char} {partsOf : List Char → List Literal}

theorem behindMark?_self (h : Text.trimFront s = c :: r) : behindMark? c s = some r := by
  rw [behindMark?, h, List.head?_cons, if_pos rfl, List.tail_cons]

theorem behindMark?_other (h : Text.trimFront s = c :: r) (hne : c ≠ mark) :
    behindMark? mark s = none := by
  rw [behindMark?, h, List.head?_cons, if_neg (by simpa using hne)]

/-- A list that closes has no further parts. -/
theorem Finds.closed (h : Text.trimFront s = close :: rest)
    (hclose : Reader.isQuote close = false) :
    Finds ((listed? close s).elim [] partsOf) s rest := by
  rw [listed?, h, List.head?_cons, if_pos rfl]
  exact .blanks_mark h hclose

/-- A list that does not close has the literals of its parts. -/
theorem Finds.parts (hopen : ∀ r, Text.trimFront s = close :: r → False)
    (h : Finds (partsOf (Text.trimFront s)) (Text.trimFront s) rest) :
    Finds ((listed? close s).elim [] partsOf) s rest := by
  have hhead : (Text.trimFront s).head? ≠ some close := fun hhead => by
    obtain ⟨r, hr⟩ := List.head?_eq_some_iff.mp hhead
    exact hopen r hr
  rw [listed?, if_neg hhead]
  exact (Finds.blanks s).behind h

end Lists

/-- With so much fuel, what the four functions that read values have read has the literals that are
listed for it. -/
structure ReadersFind (fuel : Nat) : Prop where
  value : ∀ {room : Nat} {s rest : List Char} {d : Document},
    Reader.value fuel room s = .ok (d, rest) → Finds (valueLiterals fuel room s) s rest
  items : ∀ {room : Nat} {s rest : List Char} {held : List Document},
    Reader.items fuel room s = .ok (held, rest) → Finds (itemLiterals fuel room s) s rest
  memberPairs : ∀ {room : Nat} {s rest : List Char} {held : List (String × Document)},
    Reader.memberPairs fuel room s = .ok (held, rest) →
      Finds (memberLiterals fuel room s) s rest
  arguments : ∀ {room : Nat} {s rest : List Char} {held : List Document},
    Reader.arguments fuel room s = .ok (held, rest) →
      Finds (argumentLiterals fuel room s) s rest

namespace ReadersFind

variable {fuel room : Nat} {s rest : List Char}

theorem zero : ReadersFind 0 where
  value := nofun
  items := nofun
  memberPairs := nofun
  arguments := nofun

/-- An object. -/
theorem object_succ (ih : ReadersFind fuel) {r : List Char} {d : Document}
    (hs : Text.trimFront s = '\x7b' :: r) (h : Reader.value (fuel + 1) room s = .ok (d, rest)) :
    Finds (valueLiterals (fuel + 1) room s) ('\x7b' :: r) rest := by
  rw [Reader.value, hs] at h
  cases room with
  | zero => cases h
  | succ room =>
    have hliterals : valueLiterals (fuel + 1) (room + 1) s =
        (listed? '\x7d' r).elim [] fun r => memberLiterals fuel room r := by
      rw [valueLiterals, hs]
      rfl
    rw [hliterals]
    refine (Finds.mark (by decide)).behind ?_
    simp only at h
    split at h
    · next hclose =>
      cases h
      exact .closed hclose (by decide)
    · next hopen =>
      obtain ⟨⟨held, rest'⟩, hheld, heq⟩ := Result.map_eq_ok.1 h
      cases heq
      exact .parts hopen (ih.memberPairs hheld)

/-- An array. -/
theorem array_succ (ih : ReadersFind fuel) {r : List Char} {d : Document}
    (hs : Text.trimFront s = '[' :: r) (h : Reader.value (fuel + 1) room s = .ok (d, rest)) :
    Finds (valueLiterals (fuel + 1) room s) ('[' :: r) rest := by
  rw [Reader.value, hs] at h
  cases room with
  | zero => cases h
  | succ room =>
    have hliterals : valueLiterals (fuel + 1) (room + 1) s =
        (listed? ']' r).elim [] fun r => itemLiterals fuel room r := by
      rw [valueLiterals, hs]
      rfl
    rw [hliterals]
    refine (Finds.mark (by decide)).behind ?_
    simp only at h
    split at h
    · next hclose =>
      cases h
      exact .closed hclose (by decide)
    · next hopen =>
      obtain ⟨⟨held, rest'⟩, hheld, heq⟩ := Result.map_eq_ok.1 h
      cases heq
      exact .parts hopen (ih.items hheld)

/-- A value that is no array or object. -/
theorem word_succ (ih : ReadersFind fuel) {c : Char} {r : List Char} {d : Document}
    (hs : Text.trimFront s = c :: r) (hobj : c ≠ '\x7b') (harr : c ≠ '[')
    (h : Reader.value (fuel + 1) room s = .ok (d, rest)) :
    Finds (valueLiterals (fuel + 1) room s) (c :: r) rest := by
  rw [Reader.value, hs] at h
  rw [valueLiterals, hs]
  dsimp only
  rw [if_neg hobj, if_neg harr]
  simp only at h
  split at h
  · next hq =>
    obtain ⟨⟨str, rest'⟩, hstr, heq⟩ := Result.map_eq_ok.1 h
    cases heq
    rw [if_pos hq]
    exact .literal hq hstr
  · next hq =>
    rw [if_neg hq]
    split at h
    · next hdigit =>
      rw [if_pos hdigit]
      exact .numeral h
    · next hdigit =>
      rw [if_neg hdigit]
      cases hname : Reader.name? (c :: r) with
      | none =>
        rw [hname] at h
        cases h
      | some found =>
        obtain ⟨name, behind⟩ := found
        rw [hname] at h
        refine (Finds.name hname).behind ?_
        dsimp only at h ⊢
        cases hconstant : Reader.constant? name with
        | some d' =>
          rw [hconstant] at h
          cases h
          exact .refl rest
        | none =>
          rw [hconstant] at h
          dsimp only at h ⊢
          split at h
          · next call opened _ hopen =>
            rw [behindMark?_self hopen, Option.bind_some]
            refine (Finds.blanks_mark hopen (by decide)).behind ?_
            split at h
            · obtain ⟨d, hd, -⟩ := Result.map_eq_ok.1 h
              cases called_eq_ok hd
            · next hclose =>
              obtain ⟨⟨held, rest'⟩, hheld, h⟩ := Result.bind_eq_ok.1 h
              obtain ⟨d', hd, heq⟩ := Result.bind_eq_ok.1 h
              cases heq
              exact .parts hclose (ih.arguments hheld)
          · cases h

theorem value_succ (ih : ReadersFind fuel) {d : Document}
    (h : Reader.value (fuel + 1) room s = .ok (d, rest)) :
    Finds (valueLiterals (fuel + 1) room s) s rest := by
  -- the blanks in front are set aside, and the value starts with what is left
  refine (Finds.blanks s).behind ?_
  cases hs : Text.trimFront s with
  | nil =>
    rw [Reader.value, hs] at h
    cases h
  | cons c r =>
    by_cases hobj : c = '\x7b'
    · subst hobj
      exact ih.object_succ hs h
    · by_cases harr : c = '['
      · subst harr
        exact ih.array_succ hs h
      · exact ih.word_succ hs hobj harr h

theorem items_succ (ih : ReadersFind fuel) {held : List Document}
    (h : Reader.items (fuel + 1) room s = .ok (held, rest)) :
    Finds (itemLiterals (fuel + 1) room s) s rest := by
  rw [Reader.items] at h
  obtain ⟨⟨first, behind⟩, hfirst, hmore⟩ := Result.bind_eq_ok.1 h
  rw [itemLiterals, hfirst]
  dsimp only at hmore ⊢
  refine (ih.value hfirst).trans ?_
  split at hmore
  · next hclose =>
    cases hmore
    rw [behindMark?_other hclose (by decide)]
    exact .blanks_mark hclose (by decide)
  · next tail hcomma =>
    rw [behindMark?_self hcomma, Option.bind_some]
    refine (Finds.blanks_mark hcomma (by decide)).behind ?_
    split at hmore
    · next hclose =>
      cases hmore
      exact .closed hclose (by decide)
    · next hopen =>
      obtain ⟨⟨others, rest'⟩, hothers, heq⟩ := Result.bind_eq_ok.1 hmore
      cases heq
      exact .parts hopen (ih.items hothers)
  · cases hmore

theorem memberPairs_succ (ih : ReadersFind fuel) {held : List (String × Document)}
    (h : Reader.memberPairs (fuel + 1) room s = .ok (held, rest)) :
    Finds (memberLiterals (fuel + 1) room s) s rest := by
  rw [Reader.memberPairs] at h
  obtain ⟨⟨key, behind⟩, hkey, hmore⟩ := Result.bind_eq_ok.1 h
  rw [memberLiterals, hkey]
  dsimp only at hmore ⊢
  split at hmore
  · next hcolon =>
    obtain ⟨⟨first, behind⟩, hfirst, hbehind⟩ := Result.bind_eq_ok.1 hmore
    rw [behindMark?_self hcolon]
    dsimp only
    rw [hfirst]
    refine (Finds.key hkey).trans ?_
    refine (Finds.blanks_mark hcolon (by decide)).behind ((ih.value hfirst).trans ?_)
    dsimp only at hbehind
    split at hbehind
    · next hclose =>
      cases hbehind
      rw [behindMark?_other hclose (by decide)]
      exact .blanks_mark hclose (by decide)
    · next tail hcomma =>
      rw [behindMark?_self hcomma, Option.bind_some]
      refine (Finds.blanks_mark hcomma (by decide)).behind ?_
      split at hbehind
      · next hclose =>
        cases hbehind
        exact .closed hclose (by decide)
      · next hopen =>
        obtain ⟨⟨others, rest'⟩, hothers, heq⟩ := Result.bind_eq_ok.1 hbehind
        cases heq
        exact .parts hopen (ih.memberPairs hothers)
    · cases hbehind
  · cases hmore

theorem arguments_succ (ih : ReadersFind fuel) {held : List Document}
    (h : Reader.arguments (fuel + 1) room s = .ok (held, rest)) :
    Finds (argumentLiterals (fuel + 1) room s) s rest := by
  rw [Reader.arguments] at h
  obtain ⟨⟨first, behind⟩, hfirst, hmore⟩ := Result.bind_eq_ok.1 h
  rw [argumentLiterals, hfirst]
  dsimp only at hmore ⊢
  refine (ih.value hfirst).trans ?_
  split at hmore
  · next hclose =>
    cases hmore
    rw [behindMark?_other hclose (by decide)]
    exact .blanks_mark hclose (by decide)
  · next tail hcomma =>
    obtain ⟨⟨others, rest'⟩, hothers, heq⟩ := Result.bind_eq_ok.1 hmore
    cases heq
    rw [behindMark?_self hcomma]
    exact (Finds.blanks_mark hcomma (by decide)).behind (ih.arguments hothers)
  · cases hmore

end ReadersFind

/-- However much fuel there is, what is read has the literals that are listed for it. -/
theorem readersFind (fuel : Nat) : ReadersFind fuel := by
  induction fuel with
  | zero => exact .zero
  | succ fuel ih => exact ⟨ih.value_succ, ih.items_succ, ih.memberPairs_succ, ih.arguments_succ⟩

/-- A whole text that is read has the literals that are listed for it. -/
theorem literalsOf_read {s : List Char} {d : Document} (h : read s = .ok d) :
    LiteralsOf (literals s) s [] := by
  unfold read at h
  obtain ⟨⟨held, rest⟩, hvalue, hmore⟩ := Result.bind_eq_ok.1 h
  have hfinds : Finds (literals s) s rest := (readersFind _).value hvalue
  dsimp only at hmore
  split at hmore
  · next hend =>
    obtain ⟨t, ht, hliterals⟩ := hfinds.trans (hend ▸ Finds.blanks rest)
    rw [List.append_nil] at ht hliterals
    exact ht ▸ hliterals
  · cases hmore

/-! ### Places -/

namespace LiteralsOf

variable {ls : List Literal} {s : List Char}

/-- The quote around a place is that of the literal that encloses it. -/
theorem quoteBefore_eq_some_iff (h : LiteralsOf ls s []) {place : Nat} {q : Char} :
    quoteBefore (s.take place) = some q ↔
      ∃ l ∈ ls, l.quote = q ∧ l.Encloses (s.length - place) := by
  rw [quoteBefore]
  rcases Nat.lt_or_ge place s.length with hplace | hplace
  · exact h.quote_iff place hplace q
  · -- behind the text there is nothing left to be enclosed
    rw [List.take_of_length_le hplace, h.settled, Nat.sub_eq_zero_of_le hplace]
    refine iff_of_false nofun ?_
    rintro ⟨l, -, -, hclosed, -⟩
    exact Nat.not_lt_zero _ hclosed

/-- Where a literal opens none encloses the place. -/
theorem not_encloses_of_opensAt {t rest : List Char} (h : LiteralsOf ls t rest) {l l' : Literal}
    {left : Nat} (hl : l ∈ ls) (hl' : l' ∈ ls) (hopens : l.OpensAt left) : ¬l'.Encloses left := by
  rintro ⟨hclosed, hopened⟩
  rw [Literal.OpensAt] at hopens
  have hlong := h.within l hl
  rcases eq_or_ne l l' with rfl | hne
  · omega
  · -- one of the two lies behind the other
    have symmetric : Std.Symm fun l l' : Literal =>
        l'.opened < l.closed ∨ l.opened < l'.closed := ⟨fun _ _ => Or.symm⟩
    have heither : ls.Pairwise fun l l' => l'.opened < l.closed ∨ l.opened < l'.closed :=
      h.apart.imp Or.inl
    have hapart := heither.forall hl hl' hne
    omega

/-- There is no quote around a place just when it lies in no literal, or where one opens. -/
theorem quoteBefore_eq_none_iff (h : LiteralsOf ls s []) {place : Nat} :
    quoteBefore (s.take place) = none ↔
      (∀ l ∈ ls, ¬l.OpensAt (s.length - place) ∧ ¬l.Encloses (s.length - place)) ∨
        ∃ l ∈ ls, l.OpensAt (s.length - place) := by
  have hnone : quoteBefore (s.take place) = none ↔ ∀ l ∈ ls, ¬l.Encloses (s.length - place) := by
    simp only [Option.eq_none_iff_forall_ne_some, ne_eq, h.quoteBefore_eq_some_iff]
    exact ⟨fun hq l hl hencloses => hq l.quote ⟨l, hl, rfl, hencloses⟩,
      fun hl q ⟨l, hmem, _, hencloses⟩ => hl l hmem hencloses⟩
  rw [hnone]
  constructor
  · intro hencloses
    by_cases hopens : ∃ l ∈ ls, l.OpensAt (s.length - place)
    · exact .inr hopens
    · exact .inl fun l hl => ⟨fun hl' => hopens ⟨l, hl, hl'⟩, hencloses l hl⟩
  · rintro (hapart | ⟨l, hl, hopens⟩) l' hl'
    · exact (hapart l' hl').2
    · exact h.not_encloses_of_opensAt hl hl' hopens

end LiteralsOf

/-- **The quotation of a place is what the reader makes of it.** In a text of a field that is read,
the reader reads each of the listed literals, values and keys; at every place the quote around it is
the one that opened the literal that has the place in its content or at its closing quote; and there
is none just where the place lies in no literal, or at the opening quote of one. -/
theorem quoteBefore_read {field text : String} {d : Document} (h : value field text = .ok d)
    (place : Nat) :
    (∀ l ∈ literals text.toList, l.IsReadIn text.toList) ∧
    (∀ q, quoteBefore (text.toList.take place) = some q ↔
      ∃ l ∈ literals text.toList, l.quote = q ∧ l.Encloses (text.toList.length - place)) ∧
    (quoteBefore (text.toList.take place) = none ↔
      (∀ l ∈ literals text.toList, ¬l.OpensAt (text.toList.length - place) ∧
        ¬l.Encloses (text.toList.length - place)) ∨
      ∃ l ∈ literals text.toList, l.OpensAt (text.toList.length - place)) := by
  have hliterals := literalsOf_read (value_eq_ok.mp h)
  refine ⟨fun l hl => ?_, fun q => hliterals.quoteBefore_eq_some_iff,
    hliterals.quoteBefore_eq_none_iff⟩
  have hl := hliterals.areRead l hl
  rwa [List.append_nil] at hl

/-- A quote of the other kind in a literal, and an escaped one in a key. -/
theorem quoteBefore_read_escaped :
    value "find.query" "\x7b'k\\'': [\"it's\", 1]\x7d" =
        .ok (.obj [("k'", .arr [.str "it's", .int 1])]) ∧
      literals "\x7b'k\\'': [\"it's\", 1]\x7d".toList = [⟨'\'', 18, 14⟩, ⟨'"', 10, 5⟩] ∧
      quoteBefore ("\x7b'k\\'': [\"it's\", 1]\x7d".toList.take 5) = some '\'' ∧
      quoteBefore ("\x7b'k\\'': [\"it's\", 1]\x7d".toList.take 13) = some '"' ∧
      quoteBefore ("\x7b'k\\'': [\"it's\", 1]\x7d".toList.take 9) = none := by
  have h : value "find.query" "\x7b'k\\'': [\"it's\", 1]\x7d" =
      .ok (.obj [("k'", .arr [.str "it's", .int 1])]) :=
    Result.toOption_eq_some.1 (by decide +kernel)
  have hliterals : literals "\x7b'k\\'': [\"it's\", 1]\x7d".toList =
      [⟨'\'', 18, 14⟩, ⟨'"', 10, 5⟩] := by decide +kernel
  refine ⟨h, hliterals, ((quoteBefore_read h 5).2.1 '\'').mpr ⟨⟨'\'', 18, 14⟩, ?_⟩,
    ((quoteBefore_read h 13).2.1 '"').mpr ⟨⟨'"', 10, 5⟩, ?_⟩,
    (quoteBefore_read h 9).2.2.mpr (.inr ⟨⟨'"', 10, 5⟩, ?_⟩)⟩ <;> rw [hliterals] <;> decide

end Query
end FormDispatch
