/-
# Spelled values are read

The reader of query text reads every text of the grammar as the value that the text spells, provided
that it has room for the text's nesting (`read_spelled`).

The induction is on how the value is spelled. It needs to know where a phrase starts: no word is
stopped by its own first character (`Spells.head_value`), so the blanks in front of a value are told
from it, and an array or object that holds something is not taken for an empty one. No phrase ends
with a blank either (`Spells.endsWord`), so a value is what trimming leaves of it and the blanks
around it.
-/

import FormDispatch.Proofs.Query.Nesting

namespace FormDispatch
namespace Query

open Document.Reader (NumeralParts NumeralText isLeadingDigit)

/-! ### How phrases start -/

/-- The text does not start with a character that stops words. -/
def StartsWord (t : List Char) : Prop :=
  ∃ c r, t = c :: r ∧ isStop c = false

theorem isStop_eq_false_of_isLeadingDigit {c : Char} (h : isLeadingDigit c = true) :
    isStop c = false := by
  rw [Bool.eq_false_iff]
  intro hstop
  have hdigit := isDecimalDigit_of_isLeadingDigit h
  rw [not_isDecimalDigit_of_isStop hstop] at hdigit
  cases hdigit

theorem isStop_eq_false_of_startsName {c : Char} (h : Reader.startsName c = true) :
    isStop c = false := by
  rw [Bool.eq_false_iff]
  intro hstop
  have hname : Reader.continuesName c = true := by
    rw [Reader.continuesName, h, Bool.true_or, Bool.true_or]
  rw [not_continuesName_of_isStop hstop] at hname
  cases hname

theorem isStop_eq_false_of_isQuote {q : Char} (hq : Reader.isQuote q = true) :
    isStop q = false := by
  simp only [Reader.isQuote, Bool.or_eq_true, beq_iff_eq] at hq
  rcases hq with rfl | rfl <;> decide

/-- The first character of a numeral. -/
theorem NumeralText.head {parts : NumeralParts} {t : List Char}
    (h : NumeralText Text.isDecimalDigit isLeadingDigit parts t) :
    ∃ c r, t = c :: r ∧ (c = '-' ∨ c = '0' ∨ isLeadingDigit c = true) := by
  cases h with
  | @parts negative whole f x fraction exponent hw _ _ =>
    cases negative with
    | true => exact ⟨'-', _, rfl, .inl rfl⟩
    | false =>
      cases hw with
      | zero => exact ⟨'0', _, rfl, .inr (.inl rfl)⟩
      | digits lead _ => exact ⟨_, _, rfl, .inr (.inr lead)⟩

/-- A value starts a word. -/
theorem Spells.head_value {d : Document} {t : List Char} (h : Spells (.value d) t) :
    StartsWord t := by
  cases h with
  | null => exact ⟨_, _, rfl, by decide⟩
  | yes => exact ⟨_, _, rfl, by decide⟩
  | no => exact ⟨_, _, rfl, by decide⟩
  | numeral h _ =>
    obtain ⟨c, r, rfl, hc⟩ := NumeralText.head h
    refine ⟨c, r, rfl, ?_⟩
    rcases hc with rfl | rfl | lead
    · decide
    · decide
    · exact isStop_eq_false_of_isLeadingDigit lead
  | text hq _ => exact ⟨_, _, rfl, isStop_eq_false_of_isQuote hq⟩
  | emptyArr _ => exact ⟨_, _, rfl, by decide⟩
  | arr _ => exact ⟨_, _, rfl, by decide⟩
  | emptyObj _ => exact ⟨_, _, rfl, by decide⟩
  | obj _ => exact ⟨_, _, rfl, by decide⟩
  | @call call => cases call <;> exact ⟨_, _, rfl, by decide⟩

/-- A key starts a word. -/
theorem SpelledKey.head {key : String} {k : List Char} (h : SpelledKey key k) : StartsWord k := by
  cases h with
  | quoted hq _ => exact ⟨_, _, rfl, isStop_eq_false_of_isQuote hq⟩
  | name start _ => exact ⟨_, _, rfl, isStop_eq_false_of_startsName start⟩

/-- Blanks in front of a word are dropped, and nothing of the word. -/
theorem StartsWord.trimFront_append {w t : List Char} (ht : StartsWord t) (hw : Blanks w)
    (s : List Char) : Text.trimFront (w ++ (t ++ s)) = t ++ s := by
  obtain ⟨c, r, rfl, hc⟩ := ht
  have hblank : Text.isBlank c = false := by
    simp only [isStop, Bool.or_eq_false_iff] at hc
    exact hc.1
  rw [Text.trimFront_append hw, List.cons_append, Text.trimFront_cons hblank]

/-- Nothing is dropped in front of a word. -/
theorem StartsWord.trimFront {t : List Char} (ht : StartsWord t) (s : List Char) :
    Text.trimFront (t ++ s) = t ++ s :=
  ht.trimFront_append (w := []) nofun s

/-- Blanks in front of a mark are dropped. -/
theorem trimFront_mark {w : List Char} (hw : Blanks w) (c : Char) (hc : Text.isBlank c = false)
    (s : List Char) : Text.trimFront (w ++ c :: s) = c :: s := by
  rw [Text.trimFront_append hw, Text.trimFront_cons hc]

/-- What stands between the brackets of an array starts a word. -/
theorem Spells.head_items {held : List Document} {t : List Char} (h : Spells (.items held) t) :
    ∀ s, ∃ c r, Text.trimFront (t ++ s) = c :: r ∧ isStop c = false := by
  intro s
  cases h with
  | lastItem hw h _ | item hw h _ _ =>
    have head := h.head_value
    simp only [List.append_assoc, head.trimFront_append hw]
    obtain ⟨c, r, rfl, hc⟩ := head
    exact ⟨c, _, rfl, hc⟩

/-- What stands between the brackets of an object starts a word. -/
theorem Spells.head_members {held : List (String × Document)} {t : List Char}
    (h : Spells (.members held) t) :
    ∀ s, ∃ c r, Text.trimFront (t ++ s) = c :: r ∧ isStop c = false := by
  intro s
  cases h with
  | lastMember hw hk _ _ _ _ | member hw hk _ _ _ _ _ =>
    have head := hk.head
    simp only [List.append_assoc, head.trimFront_append hw]
    obtain ⟨c, r, rfl, hc⟩ := head
    exact ⟨c, _, rfl, hc⟩

/-! ### How phrases end -/

/-- The text does not end with a blank. -/
def EndsWord (t : List Char) : Prop :=
  ∃ s c, t = s ++ [c] ∧ Text.isBlank c = false

theorem EndsWord.append {t : List Char} (h : EndsWord t) (s : List Char) : EndsWord (s ++ t) := by
  obtain ⟨r, c, rfl, hc⟩ := h
  exact ⟨s ++ r, c, (List.append_assoc s r [c]).symm, hc⟩

theorem EndsWord.cons {t : List Char} (h : EndsWord t) (c : Char) : EndsWord (c :: t) :=
  h.append [c]

theorem EndsWord.mark {c : Char} (hc : Text.isBlank c = false) : EndsWord [c] :=
  ⟨[], c, rfl, hc⟩

/-- No character of a numeral is blank. -/
theorem not_isBlank_of_isOfNumeral {c : Char} (h : isOfNumeral c = true) :
    Text.isBlank c = false := by
  simp only [isOfNumeral, Bool.or_eq_true, List.contains_iff_mem] at h
  rcases h with h | h
  · rw [Bool.eq_false_iff]
    intro hblank
    rw [Text.not_isDecimalDigit_of_isBlank hblank] at h
    cases h
  · have none_blank : ['-', '+', '.', 'e', 'E'].any Text.isBlank = false := by decide
    exact Bool.eq_false_iff.mpr (List.any_eq_false.mp none_blank c h)

/-- The end of an array or object ends with its bracket. -/
theorem Ending.endsWord {close : Char} (hclose : Text.isBlank close = false) {e : List Char}
    (h : Ending close e) : EndsWord e := by
  cases h with
  | plain _ => exact (EndsWord.mark hclose).append _
  | comma _ _ => exact (((EndsWord.mark hclose).append _).cons ',').append _

/-- No phrase ends with a blank. -/
theorem Spells.endsWord {p : Phrase} {t : List Char} (h : Spells p t) : EndsWord t := by
  induction h with
  | null => exact ⟨['n', 'u', 'l'], 'l', rfl, by decide⟩
  | yes => exact ⟨['t', 'r', 'u'], 'e', rfl, by decide⟩
  | no => exact ⟨['f', 'a', 'l', 's'], 'e', rfl, by decide⟩
  | numeral h _ =>
    obtain ⟨c, r, rfl, -⟩ := NumeralText.head h
    have hne : c :: r ≠ [] := List.cons_ne_nil c r
    exact ⟨_, _, (List.dropLast_concat_getLast hne).symm,
      not_isBlank_of_isOfNumeral (isOfNumeral_of_mem h _ (List.getLast_mem hne))⟩
  | text hq _ =>
    have hblank := isStop_eq_false_of_isQuote hq
    simp only [isStop, Bool.or_eq_false_iff] at hblank
    exact ((EndsWord.mark hblank.1).append _).cons _
  | emptyArr _ | emptyObj _ => exact ((EndsWord.mark (by decide)).append _).cons _
  | arr _ ih | obj _ ih => exact ih.cons _
  | call _ _ _ _ _ _ =>
    exact (((((EndsWord.mark (by decide)).append _).append _).append _).cons _).append _ |>.append _
  | lastItem _ _ he _ => exact ((he.endsWord (by decide)).append _).append _
  | item _ _ _ _ _ ih => exact (((ih.cons _).append _).append _).append _
  | lastMember _ _ _ _ _ he _ =>
    exact ((((((he.endsWord (by decide)).append _).append _).cons _).append _).append _).append _
  | member _ _ _ _ _ _ _ _ ih =>
    exact (((((((ih.cons _).append _).append _).append _).cons _).append _).append _).append _

/-- A word is what trimming leaves of it and the blanks around it. -/
theorem trim_word {w t w' : List Char} (hw : Blanks w) (head : StartsWord t) (last : EndsWord t)
    (hw' : Blanks w') : Text.trim (w ++ (t ++ w')) = t := by
  obtain ⟨s, c, rfl, hc⟩ := last
  have hback : Blanks w'.reverse := fun c hc => hw' c (List.mem_reverse.1 hc)
  rw [Text.trim, head.trimFront_append hw, Text.trimBack, List.reverse_append,
    List.dropWhile_append_of_pos hback]
  simp [hc]

/-! ### The reader, by the first character -/

namespace Reader

/-- A text between quotes. -/
theorem value_text {fuel room : Nat} {q : Char} {s r : List Char} (hq : isQuote q = true)
    (hs : Text.trimFront s = q :: r) :
    value (fuel + 1) room s = (text q [] none r).map fun p => (.str p.1, p.2) := by
  simp only [isQuote, Bool.or_eq_true, beq_iff_eq] at hq
  rw [value, hs]
  rcases hq with rfl | rfl <;> rfl

/-- A numeral. -/
theorem value_number {fuel room : Nat} {c : Char} {s r : List Char}
    (hc : c = '-' ∨ c = '0' ∨ isLeadingDigit c = true) (hs : Text.trimFront s = c :: r) :
    value (fuel + 1) room s = number (c :: r) := by
  have hlead : c = '-' ∨ c.isDigit = true := by
    rcases hc with rfl | rfl | h
    · exact .inl rfl
    · exact .inr (by decide)
    · simp only [isLeadingDigit, Bool.and_eq_true] at h
      exact .inr h.1
  have hbrackets : c ≠ '\x7b' ∧ c ≠ '[' ∧ isQuote c = false := by
    refine ⟨?_, ?_, Bool.eq_false_iff.2 fun hq => ?_⟩
    · rintro rfl; revert hlead; decide
    · rintro rfl; revert hlead; decide
    · simp only [isQuote, Bool.or_eq_true, beq_iff_eq] at hq
      rcases hq with rfl | rfl <;> (revert hlead; decide)
  have hnumber : (c == '-' || Text.isDigit c) = true := by
    rcases hlead with rfl | h
    · rfl
    · simp [Text.isDigit, Text.isDecimalDigit_of_isDigit h]
  rw [value, hs]
  split
  · next h => cases h
  · next h => cases h; exact absurd rfl hbrackets.1
  · next h => cases h; exact absurd rfl hbrackets.2.1
  · next h => cases h; simp only [hbrackets.2.2, hnumber]; rfl

/-- A name: that of a value, or of a call. -/
theorem value_name {fuel room : Nat} {c : Char} {s r rest : List Char} {name : String}
    (hc : c ∈ ['n', 't', 'f', 'O', 'I', 'N']) (hs : Text.trimFront s = c :: r)
    (hname : name? (c :: r) = some (name, rest)) :
    value (fuel + 1) room s =
      match constant? name with
      | some d => .ok (d, rest)
      | none =>
        match Call.ofName? name, Text.trimFront rest with
        | some call, '(' :: rest =>
          match Text.trimFront rest with
          | ')' :: rest => (called call (r.length + 1) []).map fun d => (d, rest)
          | rest => do
            let (held, rest) ← arguments fuel room rest
            let d ← called call (r.length + 1) held
            return (d, rest)
        | _, _ => .error (.flaw (.unknownName name) (r.length + 1)) := by
  obtain ⟨hquote, hnumber, hbrace, hbracket⟩ : isQuote c = false ∧
      (c == '-' || Text.isDigit c) = false ∧ c ≠ '\x7b' ∧ c ≠ '[' := by
    simp only [List.mem_cons, List.not_mem_nil, or_false] at hc
    rcases hc with rfl | rfl | rfl | rfl | rfl | rfl <;> decide
  rw [value, hs]
  split
  · next h => cases h
  · next h => cases h; exact absurd rfl hbrace
  · next h => cases h; exact absurd rfl hbracket
  · next h =>
    cases h
    simp only [hquote, hnumber, hname]
    rfl

/-- An array that holds something. -/
theorem value_items {fuel room : Nat} {c : Char} {s r t : List Char}
    (hs : Text.trimFront s = '[' :: r) (hr : Text.trimFront r = c :: t) (hc : isStop c = false) :
    value (fuel + 1) (room + 1) s =
      (items fuel room (Text.trimFront r)).map fun p => (.arr p.1, p.2) := by
  have hne : c ≠ ']' := by
    rintro rfl
    exact absurd hc (by decide)
  rw [value, hs]
  simp only [hr]
  split
  · next h => cases h; exact absurd rfl hne
  · rfl

/-- An object that holds something. -/
theorem value_members {fuel room : Nat} {c : Char} {s r t : List Char}
    (hs : Text.trimFront s = '\x7b' :: r) (hr : Text.trimFront r = c :: t)
    (hc : isStop c = false) :
    value (fuel + 1) (room + 1) s =
      (memberPairs fuel room (Text.trimFront r)).map fun p =>
        (.obj (Entries.ofPairs p.1), p.2) := by
  have hne : c ≠ '\x7d' := by
    rintro rfl
    exact absurd hc (by decide)
  rw [value, hs]
  simp only [hr]
  split
  · next h => cases h; exact absurd rfl hne
  · rfl

end Reader

/-! ### Phrases are read whole -/

/-- A text of a phrase is read whole, with fuel for its length and room for its nesting, when it
stands where `depth` brackets are open. -/
def Phrase.IsReadFrom (t : List Char) : Phrase → Prop
  | value d => ∀ (fuel room depth : Nat) (rest s : List Char), 2 * t.length ≤ fuel →
      (Place.mk .outside depth).peak t ≤ depth + room → Stops rest →
      Text.trimFront s = t ++ rest → Reader.value fuel room s = .ok (d, rest)
  | items held => ∀ (fuel room depth : Nat) (rest : List Char), 2 * t.length ≤ fuel →
      (Place.mk .outside depth).peak t ≤ depth + room →
      Reader.items fuel room (Text.trimFront (t ++ rest)) = .ok (held, rest)
  | members held => ∀ (fuel room depth : Nat) (rest : List Char), 2 * t.length ≤ fuel →
      (Place.mk .outside depth).peak t ≤ depth + room →
      Reader.memberPairs fuel room (Text.trimFront (t ++ rest)) = .ok (held, rest)

/-- A call reads its one argument. -/
theorem arguments_single {fuel room : Nat} {d : Document} {s w rest : List Char} (hw : Blanks w)
    (h : Reader.value fuel room s = .ok (d, w ++ ')' :: rest)) :
    Reader.arguments (fuel + 1) room s = .ok ([d], rest) := by
  rw [Reader.arguments, h]
  simp only [bind, Except.bind, trimFront_mark hw ')' (by decide)]
  rfl

/-- The last item of an array is followed by the array's end. -/
theorem items_last {fuel room : Nat} {d : Document} {s e rest : List Char} (he : Ending ']' e)
    (h : Reader.value fuel room s = .ok (d, e ++ rest)) :
    Reader.items (fuel + 1) room s = .ok ([d], rest) := by
  rw [Reader.items, h]
  cases he with
  | plain hw =>
    simp only [bind, Except.bind, List.append_assoc, List.singleton_append,
      trimFront_mark hw ']' (by decide)]
    rfl
  | comma hw hw' =>
    simp only [bind, Except.bind, List.append_assoc, List.cons_append, List.nil_append,
      trimFront_mark hw ',' (by decide), trimFront_mark hw' ']' (by decide)]
    rfl

/-- Another item of an array is followed by a comma. -/
theorem items_more {fuel room : Nat} {d : Document} {c : Char} {s w t r : List Char}
    (hw : Blanks w) (h : Reader.value fuel room s = .ok (d, w ++ ',' :: t))
    (ht : Text.trimFront t = c :: r) (hc : isStop c = false) :
    Reader.items (fuel + 1) room s =
      (Reader.items fuel room (Text.trimFront t)).map fun p => (d :: p.1, p.2) := by
  have hne : c ≠ ']' := by
    rintro rfl
    exact absurd hc (by decide)
  rw [Reader.items, h]
  simp only [bind, Except.bind, trimFront_mark hw ',' (by decide), ht]
  split
  · next h => cases h; exact absurd rfl hne
  · rfl

/-- The last member of an object is followed by the object's end. -/
theorem memberPairs_last {fuel room : Nat} {key : String} {d : Document}
    {s w t e rest : List Char} (hk : Reader.keyText s = .ok (key, w ++ ':' :: t)) (hw : Blanks w)
    (he : Ending '\x7d' e) (h : Reader.value fuel room t = .ok (d, e ++ rest)) :
    Reader.memberPairs (fuel + 1) room s = .ok ([(key, d)], rest) := by
  rw [Reader.memberPairs, hk]
  simp only [bind, Except.bind, trimFront_mark hw ':' (by decide), h]
  cases he with
  | plain hw =>
    simp only [List.append_assoc, List.singleton_append, trimFront_mark hw '\x7d' (by decide)]
    rfl
  | comma hw hw' =>
    simp only [List.append_assoc, List.cons_append, List.nil_append,
      trimFront_mark hw ',' (by decide), trimFront_mark hw' '\x7d' (by decide)]
    rfl

/-- Another member of an object is followed by a comma. -/
theorem memberPairs_more {fuel room : Nat} {key : String} {d : Document} {c : Char}
    {s w w' t u r : List Char} (hk : Reader.keyText s = .ok (key, w ++ ':' :: t)) (hw : Blanks w)
    (hw' : Blanks w') (h : Reader.value fuel room t = .ok (d, w' ++ ',' :: u))
    (hu : Text.trimFront u = c :: r) (hc : isStop c = false) :
    Reader.memberPairs (fuel + 1) room s =
      (Reader.memberPairs fuel room (Text.trimFront u)).map fun p => ((key, d) :: p.1, p.2) := by
  have hne : c ≠ '\x7d' := by
    rintro rfl
    exact absurd hc (by decide)
  rw [Reader.memberPairs, hk]
  simp only [bind, Except.bind, trimFront_mark hw ':' (by decide), h,
    trimFront_mark hw' ',' (by decide), hu]
  split
  · next h => cases h; exact absurd rfl hne
  · rfl

/-- The end of an array or object stops words. -/
theorem Ending.stops {close : Char} (hclose : isStop close = true) {e : List Char}
    (h : Ending close e) (rest : List Char) : Stops (e ++ rest) := by
  cases h with
  | plain hw =>
    rw [List.append_assoc]
    exact .blanks hw (.cons hclose _)
  | comma hw _ =>
    rw [List.append_assoc]
    exact .blanks hw (.cons (by decide) _)

/-- The end of an array or object takes up text. -/
theorem Ending.length_pos {close : Char} {e : List Char} (h : Ending close e) : 0 < e.length := by
  cases h with
  | plain _ => simp
  | comma _ _ =>
    simp only [List.length_append, List.length_cons]
    omega

/-- The values that have names are read. -/
theorem value_constant {fuel room : Nat} {s rest : List Char} {d : Document} (c : Char)
    (cs : List Char) (hc : c ∈ ['n', 't', 'f', 'O', 'I', 'N'])
    (hcs : ∀ c ∈ cs, Reader.continuesName c = true)
    (hd : Reader.constant? (String.ofList (c :: cs)) = some d) (hrest : Stops rest)
    (hs : Text.trimFront s = c :: (cs ++ rest)) :
    Reader.value (fuel + 1) room s = .ok (d, rest) := by
  have start : ∀ c ∈ ['n', 't', 'f', 'O', 'I', 'N'], Reader.startsName c = true :=
    List.all_eq_true.mp (by decide)
  rw [Reader.value_name hc hs (name?_append (start c hc) hcs hrest), hd]

/-- A call is read with its arguments. -/
theorem value_call {call : Call} {fuel room : Nat} {c : Char} {s w r t : List Char}
    (hw : Blanks w) (hs : Text.trimFront s = call.name.toList ++ (w ++ '(' :: r))
    (hr : Text.trimFront r = c :: t) (hc : isStop c = false) :
    Reader.value (fuel + 1) room s =
      Reader.arguments fuel room (Text.trimFront r) >>= fun p =>
        (Reader.called call (Text.trimFront s).length p.1).map fun d => (d, p.2) := by
  have hne : c ≠ ')' := by
    rintro rfl
    exact absurd hc (by decide)
  obtain ⟨n, ns, hname, hn, hns, hconstant, hcall⟩ : ∃ n ns, call.name.toList = n :: ns ∧
      n ∈ ['n', 't', 'f', 'O', 'I', 'N'] ∧ (∀ c ∈ ns, Reader.continuesName c = true) ∧
      Reader.constant? (String.ofList (n :: ns)) = none ∧
      Call.ofName? (String.ofList (n :: ns)) = some call := by
    cases call <;> exact ⟨_, _, rfl, by decide, List.all_eq_true.mp (by decide),
      by decide, by decide⟩
  have start : ∀ c ∈ ['n', 't', 'f', 'O', 'I', 'N'], Reader.startsName c = true :=
    List.all_eq_true.mp (by decide)
  have hrest : Stops (w ++ '(' :: r) := .blanks hw (.cons (by decide) _)
  rw [hname] at hs
  rw [Reader.value_name hn hs (name?_append (start n hn) hns hrest), hconstant, hcall, hs]
  simp only [trimFront_mark hw '(' (by decide), hr]
  split
  · next h => cases h; exact absurd rfl hne
  · rfl

/-- A bracket that is opened takes one level of the room. -/
theorem room_of_opening {c : Char} (hc : c = '[' ∨ c = '\x7b') {t : List Char} {depth room : Nat}
    (h : (Place.mk .outside depth).peak (c :: t) ≤ depth + room) :
    ∃ n, room = n + 1 ∧ (Place.mk .outside (depth + 1)).peak t ≤ depth + 1 + n := by
  have opened : (Place.mk .outside depth).after c = ⟨.outside, depth + 1⟩ := by
    rcases hc with rfl | rfl <;> rfl
  have inner := Nat.le_trans (Place.peak_next_le _ c t) h
  rw [opened] at inner
  have below := Place.depth_le_peak ⟨.outside, depth + 1⟩ t
  simp only at below
  exact ⟨room - 1, by omega, by omega⟩

section Parts

variable {d argument : Document} {held : List Document} {members : List (String × Document)}
variable {key : String} {w w' w₁ w₂ k t e s : List Char}

/-- What stands behind a value and a comma nests no deeper than the value and it together. -/
theorem Spells.peak_behind_le (h : Spells (.value d) t) (hw' : Blanks w') (depth : Nat)
    (s : List Char) :
    (Place.mk .outside depth).peak s ≤ (Place.mk .outside depth).peak (t ++ (w' ++ ',' :: s)) :=
  calc (Place.mk .outside depth).peak s
    _ ≤ _ := Place.peak_neutral_le (by decide) depth s
    _ ≤ _ := Place.peak_tail_le (hw'.afterAll depth) _
    _ ≤ _ := Place.peak_tail_le (h.settles depth) _

/-- What stands behind a key and a colon nests no deeper than the key and it together. -/
theorem SpelledKey.peak_behind_le (hk : SpelledKey key k) (hw : Blanks w) (hw₁ : Blanks w₁)
    (hw₂ : Blanks w₂) (depth : Nat) (t : List Char) :
    (Place.mk .outside depth).peak t ≤
      (Place.mk .outside depth).peak (w ++ (k ++ (w₁ ++ ':' :: (w₂ ++ t)))) :=
  calc (Place.mk .outside depth).peak t
    _ ≤ _ := Place.peak_tail_le (hw₂.afterAll depth) _
    _ ≤ _ := Place.peak_neutral_le (by decide) depth _
    _ ≤ _ := Place.peak_tail_le (hw₁.afterAll depth) _
    _ ≤ _ := Place.peak_tail_le (hk.afterAll depth) _
    _ ≤ _ := Place.peak_tail_le (hw.afterAll depth) _

namespace Phrase.IsReadFrom

/-- A call is read when its argument is. -/
theorem call {call : Call} (ih : (value argument).IsReadFrom t) (hw : Blanks w) (hw₁ : Blanks w₁)
    (h : Spells (.value argument) t) (hw₂ : Blanks w₂) (hd : call.ofArgument argument = .ok d) :
    (value d).IsReadFrom (call.name.toList ++ (w ++ '(' :: (w₁ ++ (t ++ (w₂ ++ [')']))))) := by
  intro fuel room depth rest s hfuel hpeak _ hs
  simp only [List.length_append, List.length_cons] at hfuel
  obtain ⟨fuel, rfl⟩ : ∃ n, fuel = n + 2 := ⟨fuel - 2, by omega⟩
  have hname : ∀ c ∈ call.name.toList, isNeutral c = true :=
    List.all_eq_true.mp (by cases call <;> decide)
  have hroom : (Place.mk .outside depth).peak t ≤ depth + room :=
    calc (Place.mk .outside depth).peak t
      _ ≤ _ := Place.peak_left_le _ t (w₂ ++ [')'])
      _ ≤ _ := Place.peak_tail_le (hw₁.afterAll depth) _
      _ ≤ _ := Place.peak_neutral_le (by decide) depth _
      _ ≤ _ := Place.peak_tail_le (hw.afterAll depth) _
      _ ≤ _ := Place.peak_tail_le (Place.afterAll_of_isNeutral hname depth) _
      _ ≤ _ := hpeak
  simp only [List.append_assoc, List.cons_append, List.nil_append] at hs
  have hr := h.head_value.trimFront_append hw₁ (w₂ ++ ')' :: rest)
  have hstops : Stops (w₂ ++ ')' :: rest) := .blanks hw₂ (.cons (by decide) rest)
  have hread := ih fuel room depth _ _ (by omega) hroom hstops (h.head_value.trimFront _)
  rw [← hr] at hread
  obtain ⟨c, r, hcr, hc⟩ := h.head_value
  rw [value_call hw hs (hr.trans (by rw [hcr]; rfl)) hc, arguments_single hw₂ hread]
  simp only [bind, Except.bind, Reader.called, Call.value, hd]
  rfl

/-- The items of an array are read when the last one is. -/
theorem lastItem (ih : (value d).IsReadFrom t) (hw : Blanks w) (h : Spells (.value d) t)
    (he : Ending ']' e) : (items [d]).IsReadFrom (w ++ (t ++ e)) := by
  intro fuel room depth rest hfuel hpeak
  simp only [List.length_append] at hfuel
  have hend := he.length_pos
  obtain ⟨fuel, rfl⟩ : ∃ n, fuel = n + 1 := ⟨fuel - 1, by omega⟩
  have hroom : (Place.mk .outside depth).peak t ≤ depth + room :=
    calc (Place.mk .outside depth).peak t
      _ ≤ _ := Place.peak_left_le _ t e
      _ ≤ _ := Place.peak_tail_le (hw.afterAll depth) _
      _ ≤ _ := hpeak
  have hread := ih fuel room depth (e ++ rest) _ (by omega) hroom (he.stops (by decide) rest)
    (h.head_value.trimFront _)
  simp only [List.append_assoc, h.head_value.trimFront_append hw]
  exact items_last he hread

/-- The items of an array are read when one and the others are. -/
theorem item (ih : (value d).IsReadFrom t) (ihs : (items held).IsReadFrom s) (hw : Blanks w)
    (h : Spells (.value d) t) (hw' : Blanks w') (hs : Spells (.items held) s) :
    (items (d :: held)).IsReadFrom (w ++ (t ++ (w' ++ ',' :: s))) := by
  intro fuel room depth rest hfuel hpeak
  simp only [List.length_append, List.length_cons] at hfuel
  obtain ⟨fuel, rfl⟩ : ∃ n, fuel = n + 1 := ⟨fuel - 1, by omega⟩
  have hall := Nat.le_trans (Place.peak_tail_le (hw.afterAll depth) _) hpeak
  have hroom := Nat.le_trans (Place.peak_left_le _ t _) hall
  have hroom' := Nat.le_trans (h.peak_behind_le hw' depth s) hall
  have hstops : Stops (w' ++ ',' :: (s ++ rest)) := .blanks hw' (.cons (by decide) _)
  have hread := ih fuel room depth _ _ (by omega) hroom hstops (h.head_value.trimFront _)
  obtain ⟨c, r, hr, hc⟩ := hs.head_items rest
  simp only [List.append_assoc, List.cons_append, h.head_value.trimFront_append hw]
  rw [items_more hw' hread hr hc, ihs fuel room depth rest (by omega) hroom']
  rfl

/-- The members of an object are read when the last one is. -/
theorem lastMember (ih : (value d).IsReadFrom t) (hw : Blanks w) (hk : SpelledKey key k)
    (hw₁ : Blanks w₁) (hw₂ : Blanks w₂) (h : Spells (.value d) t) (he : Ending '\x7d' e) :
    (Phrase.members [(key, d)]).IsReadFrom (w ++ (k ++ (w₁ ++ ':' :: (w₂ ++ (t ++ e))))) := by
  intro fuel room depth rest hfuel hpeak
  simp only [List.length_append, List.length_cons] at hfuel
  obtain ⟨fuel, rfl⟩ : ∃ n, fuel = n + 1 := ⟨fuel - 1, by omega⟩
  have hall := Nat.le_trans (hk.peak_behind_le hw hw₁ hw₂ depth (t ++ e)) hpeak
  have hroom := Nat.le_trans (Place.peak_left_le _ t e) hall
  have hread := ih fuel room depth (e ++ rest) _ (by omega) hroom (he.stops (by decide) rest)
    (h.head_value.trimFront_append hw₂ _)
  have hcolon : Stops (w₁ ++ ':' :: (w₂ ++ (t ++ (e ++ rest)))) :=
    .blanks hw₁ (.cons (by decide) _)
  simp only [List.append_assoc, List.cons_append, hk.head.trimFront_append hw]
  exact memberPairs_last (keyText_append hk hcolon) hw₁ he hread

/-- The members of an object are read when one and the others are. -/
theorem member (ih : (value d).IsReadFrom t) (ihs : (Phrase.members members).IsReadFrom s)
    (hw : Blanks w) (hk : SpelledKey key k) (hw₁ : Blanks w₁) (hw₂ : Blanks w₂)
    (h : Spells (.value d) t) (hw' : Blanks w') (hs : Spells (.members members) s) :
    (Phrase.members ((key, d) :: members)).IsReadFrom
      (w ++ (k ++ (w₁ ++ ':' :: (w₂ ++ (t ++ (w' ++ ',' :: s)))))) := by
  intro fuel room depth rest hfuel hpeak
  simp only [List.length_append, List.length_cons] at hfuel
  obtain ⟨fuel, rfl⟩ : ∃ n, fuel = n + 1 := ⟨fuel - 1, by omega⟩
  have hall := Nat.le_trans (hk.peak_behind_le hw hw₁ hw₂ depth _) hpeak
  have hroom := Nat.le_trans (Place.peak_left_le _ t _) hall
  have hroom' := Nat.le_trans (h.peak_behind_le hw' depth s) hall
  have hstops : Stops (w' ++ ',' :: (s ++ rest)) := .blanks hw' (.cons (by decide) _)
  have hread := ih fuel room depth _ _ (by omega) hroom hstops
    (h.head_value.trimFront_append hw₂ _)
  have hcolon : Stops (w₁ ++ ':' :: (w₂ ++ (t ++ (w' ++ ',' :: (s ++ rest))))) :=
    .blanks hw₁ (.cons (by decide) _)
  obtain ⟨c, r, hr, hc⟩ := hs.head_members rest
  simp only [List.append_assoc, List.cons_append, hk.head.trimFront_append hw]
  rw [memberPairs_more (keyText_append hk hcolon) hw₁ hw' hread hr hc,
    ihs fuel room depth rest (by omega) hroom']
  rfl

end Phrase.IsReadFrom

end Parts

/-- **Every text of the grammar is read as what it spells.** -/
theorem Spells.isReadFrom {p : Phrase} {t : List Char} (h : Spells p t) : p.IsReadFrom t := by
  induction h with
  | null =>
    intro fuel room depth rest s hfuel _ hrest hs
    obtain ⟨fuel, rfl⟩ : ∃ n, fuel = n + 1 := ⟨fuel - 1, by simp at hfuel; omega⟩
    exact value_constant 'n' ['u', 'l', 'l'] (by decide) (List.all_eq_true.mp (by decide)) rfl
      hrest hs
  | yes =>
    intro fuel room depth rest s hfuel _ hrest hs
    obtain ⟨fuel, rfl⟩ : ∃ n, fuel = n + 1 := ⟨fuel - 1, by simp at hfuel; omega⟩
    exact value_constant 't' ['r', 'u', 'e'] (by decide) (List.all_eq_true.mp (by decide)) rfl
      hrest hs
  | no =>
    intro fuel room depth rest s hfuel _ hrest hs
    obtain ⟨fuel, rfl⟩ : ∃ n, fuel = n + 1 := ⟨fuel - 1, by simp at hfuel; omega⟩
    exact value_constant 'f' ['a', 'l', 's', 'e'] (by decide) (List.all_eq_true.mp (by decide)) rfl
      hrest hs
  | numeral h hd =>
    intro fuel room depth rest s hfuel _ hrest hs
    obtain ⟨c, r, rfl, hc⟩ := NumeralText.head h
    obtain ⟨fuel, rfl⟩ : ∃ n, fuel = n + 1 := ⟨fuel - 1, by simp at hfuel; omega⟩
    rw [Reader.value_number hc hs]
    exact number_append h hd hrest
  | text hq h =>
    intro fuel room depth rest s hfuel _ _ hs
    obtain ⟨fuel, rfl⟩ : ∃ n, fuel = n + 1 := ⟨fuel - 1, by simp at hfuel; omega⟩
    have hread := text_spelledText hq h [] rest
    rw [Reader.value_text hq hs]
    simp only [List.append_eq, List.append_assoc, List.singleton_append, hread]
    rfl
  | emptyArr hw =>
    intro fuel room depth rest s hfuel hpeak _ hs
    obtain ⟨fuel, rfl⟩ : ∃ n, fuel = n + 1 := ⟨fuel - 1, by simp at hfuel; omega⟩
    obtain ⟨room, rfl, -⟩ := room_of_opening (.inl rfl) hpeak
    rw [Reader.value, hs]
    simp only [List.cons_append, List.append_assoc, List.nil_append,
      trimFront_mark hw ']' (by decide)]
  | arr h ih =>
    intro fuel room depth rest s hfuel hpeak _ hs
    obtain ⟨fuel, rfl⟩ : ∃ n, fuel = n + 1 := ⟨fuel - 1, by simp at hfuel; omega⟩
    obtain ⟨room, rfl, hroom⟩ := room_of_opening (.inl rfl) hpeak
    obtain ⟨c, r, hr, hc⟩ := h.head_items rest
    simp only [List.length_cons] at hfuel
    have hread := ih fuel room (depth + 1) rest (by omega) hroom
    rw [Reader.value_items hs hr hc, List.append_eq, hread]
    rfl
  | emptyObj hw =>
    intro fuel room depth rest s hfuel hpeak _ hs
    obtain ⟨fuel, rfl⟩ : ∃ n, fuel = n + 1 := ⟨fuel - 1, by simp at hfuel; omega⟩
    obtain ⟨room, rfl, -⟩ := room_of_opening (.inr rfl) hpeak
    rw [Reader.value, hs]
    simp only [List.cons_append, List.append_assoc, List.nil_append,
      trimFront_mark hw '\x7d' (by decide)]
  | obj h ih =>
    intro fuel room depth rest s hfuel hpeak _ hs
    obtain ⟨fuel, rfl⟩ : ∃ n, fuel = n + 1 := ⟨fuel - 1, by simp at hfuel; omega⟩
    obtain ⟨room, rfl, hroom⟩ := room_of_opening (.inr rfl) hpeak
    obtain ⟨c, r, hr, hc⟩ := h.head_members rest
    simp only [List.length_cons] at hfuel
    have hread := ih fuel room (depth + 1) rest (by omega) hroom
    rw [Reader.value_members hs hr hc, List.append_eq, hread]
    rfl
  | call hw hw₁ h hw₂ hd ih => exact ih.call hw hw₁ h hw₂ hd
  | lastItem hw h he ih => exact ih.lastItem hw h he
  | item hw h hw' hs ih ihs => exact ih.item ihs hw h hw' hs
  | lastMember hw hk hw₁ hw₂ h he ih => exact ih.lastMember hw hk hw₁ hw₂ h he
  | member hw hk hw₁ hw₂ h hw' hs ih ihs => exact ih.member ihs hw hk hw₁ hw₂ h hw' hs

/-- **A query text that spells a value holds it**, if it nests no deeper than it may. -/
theorem read_spelled {d : Document} {w t w' : List Char} (hw : Blanks w)
    (h : Spells (.value d) t) (hw' : Blanks w') (hn : nesting t ≤ deepest) :
    read (w ++ (t ++ w')) = .ok d := by
  have hlength : 2 * t.length ≤ 2 * (w ++ (t ++ w')).length + 2 := by
    simp only [List.length_append]
    omega
  have hroom : (Place.mk .outside 0).peak t ≤ 0 + deepest := by
    rw [Nat.zero_add]
    exact hn
  have hstops : Stops w' := by
    simpa using Stops.blanks hw' .nil
  have hread := h.isReadFrom _ deepest 0 w' _ hlength hroom hstops
    (h.head_value.trimFront_append hw w')
  have hend : Text.trimFront w' = [] := by
    simpa [Text.trimFront] using Text.trimFront_append hw' []
  rw [read, hread]
  simp only [bind, Except.bind, hend]
  rfl

end Query
end FormDispatch
