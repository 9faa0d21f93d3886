/-
# Written documents read back

The JSON text of a document, in any layout, is read as that document (`read_chars`), if all its
integers can be told and no object in it has a key twice.

Every part of a text has its own lemma: the characters between quotes (`text_escaped`), numerals
and names (`value_numeral`), and the items and members behind a bracket, which read back when each
of them does (`items_chars`, `memberPairs_chars`). A value may be followed by anything that does not
go on with its numeral.
-/

import FormDispatch.Document.Told
import FormDispatch.Proofs.Entries
import FormDispatch.Proofs.Number.DecimalText
import FormDispatch.Proofs.Query.Escaping
import FormDispatch.Proofs.Result

namespace FormDispatch
namespace Document

open Query (SpelledChar)
open Reader (isGap skipGap unit? isHighSurrogate isLowSurrogate NumeralParts NumeralText
  isLeadingDigit EndsNumeral AreNumeralClasses)

/-! ### Texts -/

section Texts

variable {opened : Nat} {held r : List Char}

/-- A character as query text spells it between double quotes is read, unless it is a single quote
that is escaped. -/
theorem text_spelledChar {x : Char} {u : List Char} (h : SpelledChar '"' x u)
    (hu : u ≠ ['\\', '\'']) (hr : r ≠ []) :
    Reader.text opened held none (u ++ r) = Reader.text opened (x :: held) none r := by
  cases h with
  | plain hq hb hc =>
    rw [List.singleton_append, Reader.text.eq_def]
    split
    all_goals simp_all [Reader.settled]
  | @escape c x h =>
    have hc : c ≠ '\'' := fun e => hu (by rw [e])
    have hplain : Reader.plainEscape? c = some x := by
      simpa [Query.Reader.plainEscape?, hc] using h
    have hletter : c ≠ 'u' := by
      rintro rfl
      cases hplain
    rw [List.cons_append, List.singleton_append, Reader.text.eq_def]
    split <;> grind [Reader.settled]
  | unit h high low => simp [Reader.text, h, hr, Reader.withUnit, Reader.settled, high, low]
  | @pair _ _ _ _ _ _ _ _ _ n first high second low =>
    have hlow : isHighSurrogate n = false := by
      rw [Bool.eq_false_iff]
      intro hhigh
      rw [Query.not_isLowSurrogate_of_isHighSurrogate hhigh] at low
      cases low
    simp [Reader.text, first, second, hr, Reader.withUnit, Reader.settled, high, low, hlow]

/-- **A written character is read back.** -/
theorem text_escaped (ascii : Bool) (c : Char) (hr : r ≠ []) :
    Reader.text opened held none (escaped ascii c ++ r) =
      Reader.text opened (c :: held) none r := by
  refine text_spelledChar (Query.spelledChar_escaped ascii rfl fun h => absurd h (by decide)) ?_ hr
  unfold escaped
  split
  · next h =>
    simp only [Bool.or_eq_true, beq_iff_eq] at h
    rcases h with rfl | rfl <;> decide
  · repeat (split; decide)
    split
    · unfold unicodeEscape
      dsimp only
      split <;> simp [unitEscape, Text.hexDigits]
    · simp

/-- A text between quotes is read back. -/
theorem text_quoted (ascii : Bool) (s : List Char) :
    Reader.text opened held none (s.flatMap (escaped ascii) ++ '"' :: r) =
      .ok (String.ofList (held.reverse ++ s), r) := by
  induction s generalizing held with
  | nil => simp [Reader.text, Reader.settled]
  | cons c s ih =>
    rw [List.flatMap_cons, List.append_assoc, text_escaped ascii c (by simp), ih]
    simp

end Texts

/-! ### Numerals and names -/

/-- A numeral starts with a digit, or with a sign before a digit. -/
theorem numeral_start {parts : NumeralParts} {t : List Char}
    (h : NumeralText Char.isDigit isLeadingDigit parts t) :
    ∃ c r, c.isDigit = true ∧ (t = c :: r ∨ t = '-' :: c :: r) := by
  cases h with
  | @parts negative whole f x _ _ hw _ _ =>
    have hwhole : ∃ c r, c.isDigit = true ∧ whole = c :: r := by
      cases hw with
      | zero => exact ⟨'0', [], by decide, rfl⟩
      | @digits c s lead _ =>
        simp only [isLeadingDigit, Bool.and_eq_true] at lead
        exact ⟨c, s, lead.1, rfl⟩
    obtain ⟨c, r, hc, rfl⟩ := hwhole
    cases negative with
    | true => exact ⟨c, r ++ (f ++ x), hc, .inr rfl⟩
    | false => exact ⟨c, r ++ (f ++ x), hc, .inl rfl⟩

/-- What starts a numeral of ASCII digits starts nothing else. -/
theorem numeralClasses : AreNumeralClasses Char.isDigit isLeadingDigit where
  point := by decide
  mark := by decide
  sign := by decide
  lead c h := by
    simp only [isLeadingDigit, Bool.and_eq_true, bne_iff_ne] at h
    exact ⟨h.2, fun e => by simp [e] at h⟩

/-- A numeral is read whole. -/
theorem value_numeral {parts : NumeralParts} {d : Document} {t rest : List Char} {fuel : Nat}
    (h : NumeralText Char.isDigit isLeadingDigit parts t) (hd : parts.number = .ok d)
    (hrest : EndsNumeral Char.isDigit rest) :
    Reader.value true (fuel + 1) (t ++ rest) = .ok (d, rest) := by
  have hnumber : Reader.number (t ++ rest) = .ok (d, rest) := by
    rw [Reader.number, Reader.numeral?_append numeralClasses h hrest]
    simp [hd, Except.map]
  -- neither a name nor a bracket nor a quote starts with a digit, or with a sign before one
  obtain ⟨c, r, hc, hshape⟩ := numeral_start h
  have hnamed : Reader.named? true (t ++ rest) = none := by
    rcases hshape with rfl | rfl <;>
      unfold Reader.named? <;>
      split <;>
      simp_all
  unfold Reader.value
  dsimp only
  split
  · rcases hshape with rfl | rfl <;> simp_all
  · rcases hshape with rfl | rfl <;> simp_all
  · rcases hshape with rfl | rfl <;> simp_all
  · rw [hnamed]
    exact hnumber

/-! ### Gaps -/

/-- Nothing but a gap. -/
def Gaps (w : List Char) : Prop :=
  ∀ c ∈ w, isGap c = true

theorem Gaps.nil : Gaps [] :=
  nofun

theorem Gaps.append {v w : List Char} (hv : Gaps v) (hw : Gaps w) : Gaps (v ++ w) :=
  fun c hc => (List.mem_append.1 hc).elim (hv c) (hw c)

/-- A gap is skipped. -/
theorem Gaps.skip {w : List Char} (hw : Gaps w) (s : List Char) : skipGap (w ++ s) = skipGap s := by
  rw [skipGap, List.dropWhile_append_of_pos hw]
  rfl

/-- Nothing but gaps follows the commas and colons of a layout. -/
structure Layout.Spaced (layout : Layout) : Prop where
  comma : Gaps layout.afterComma
  colon : Gaps layout.afterColon

/-- An item of its own line is led by a gap. -/
theorem gaps_lead (layout : Layout) (depth : Nat) : Gaps (layout.lead depth) := by
  intro c hc
  unfold Layout.lead at hc
  split at hc
  · rcases List.mem_cons.1 hc with rfl | hc
    · decide
    · rw [List.eq_of_mem_replicate hc]
      decide
  · cases hc

/-- A character that stands before a value or behind one, but starts none. -/
def isBetween (c : Char) : Bool :=
  isGap c || [',', ']', '\x7d', '\uFEFF'].contains c

/-- What stands between values does not go on with a numeral. -/
theorem endsNumeral_of_isBetween {c : Char} (h : isBetween c = true) :
    c.isDigit = false ∧ c ≠ '.' ∧ c ≠ 'e' ∧ c ≠ 'E' := by
  simp only [isBetween, isGap, Bool.or_eq_true, beq_iff_eq, List.contains_iff_mem, List.mem_cons,
    List.not_mem_nil, or_false] at h
  rcases h with (((rfl | rfl) | rfl) | rfl) | rfl | rfl | rfl | rfl <;> decide

/-- The text of a document starts with none of the characters between values. -/
theorem chars_start (layout : Layout) (depth : Nat) (d : Document) :
    ∃ c r, d.chars layout depth = c :: r ∧ isBetween c = false := by
  have numeral : ∀ {parts t}, NumeralText Char.isDigit isLeadingDigit parts t →
      ∃ c r, t = c :: r ∧ isBetween c = false := by
    intro parts t h
    obtain ⟨c, r, hc, rfl | rfl⟩ := numeral_start h
    · refine ⟨c, r, rfl, ?_⟩
      rw [Bool.eq_false_iff]
      intro hbetween
      rw [(endsNumeral_of_isBetween hbetween).1] at hc
      cases hc
    · exact ⟨'-', c :: r, rfl, by decide⟩
  cases d with
  | null => exact ⟨'n', _, rfl, by decide⟩
  | bool b => cases b <;> exact ⟨_, _, rfl, by decide⟩
  | int n => exact numeral (Numeral.numeralText_chars n)
  | float x =>
    cases x with
    | nan => exact ⟨'N', _, rfl, by decide⟩
    | infinite negative => cases negative <;> exact ⟨_, _, rfl, by decide⟩
    | finite negative rank =>
      obtain ⟨parts, h, -⟩ := Binary64.number_finiteChars negative rank
      exact numeral h
  | str s => exact ⟨'"', _, rfl, by decide⟩
  | arr items => cases items <;> exact ⟨'[', _, rfl, by decide⟩
  | obj members =>
    rcases members with _ | ⟨⟨key, value⟩, rest⟩ <;> exact ⟨'\x7b', _, rfl, by decide⟩

/-- A gap in front of a document is skipped, and nothing of its text. -/
theorem skipGap_chars {layout : Layout} {depth : Nat} {d : Document} {w : List Char} (hw : Gaps w)
    (s : List Char) : skipGap (w ++ (d.chars layout depth ++ s)) = d.chars layout depth ++ s := by
  obtain ⟨c, r, hc, hbetween⟩ := chars_start layout depth d
  simp only [isBetween, Bool.or_eq_false_iff] at hbetween
  rw [hw.skip, hc]
  simp [skipGap, hbetween.1]

/-- A gap before a mark is skipped, and the mark is left. -/
theorem skipGap_before {c : Char} {w : List Char} (hw : Gaps w) (hc : isGap c = false)
    (s : List Char) : skipGap (w ++ c :: s) = c :: s := by
  rw [hw.skip]
  simp [skipGap, hc]

/-- A mark without a gap before it is left as it is. -/
theorem skipGap_mark {c : Char} (hc : isGap c = false) (s : List Char) :
    skipGap (c :: s) = c :: s :=
  skipGap_before .nil hc s

/-- A gap and what stands between values end a numeral. -/
theorem endsNumeral_between {c : Char} {w : List Char} (hw : Gaps w) (hc : isBetween c = true)
    (s : List Char) : EndsNumeral Char.isDigit (w ++ c :: s) := by
  intro x hx
  cases w with
  | nil =>
    cases hx
    exact endsNumeral_of_isBetween hc
  | cons y w =>
    cases hx
    exact endsNumeral_of_isBetween (by simp [isBetween, hw x (by simp)])

/-- What stands between values ends a numeral. -/
theorem endsNumeral_mark {c : Char} (hc : isBetween c = true) (s : List Char) :
    EndsNumeral Char.isDigit (c :: s) :=
  endsNumeral_between .nil hc s

/-! ### Items and members -/

/-- The text of a document is read as the document, whatever follows. -/
def ReadsBack (layout : Layout) (depth : Nat) (d : Document) : Prop :=
  ∀ (fuel : Nat) (rest : List Char), 2 * (d.chars layout depth).length ≤ fuel →
    EndsNumeral Char.isDigit rest →
      Reader.value true fuel (d.chars layout depth ++ rest) = .ok (d, rest)

section Parts

variable {layout : Layout} {depth : Nat}

/-- An item is read back, and what follows it decides how the items go on. -/
theorem items_step {d : Document} (h : ReadsBack layout depth d) {fuel : Nat} {tail : List Char}
    (hfuel : 2 * (d.chars layout depth).length ≤ fuel) (htail : EndsNumeral Char.isDigit tail) :
    Reader.items true (fuel + 1) (d.chars layout depth ++ tail) =
      match skipGap tail with
      | ']' :: rest => return ([d], rest)
      | ',' :: rest => do
        let (others, rest) ← Reader.items true fuel (skipGap rest)
        return (d :: others, rest)
      | rest => .error (.flaw .missingComma rest.length) := by
  rw [Reader.items, h fuel tail hfuel htail]
  rfl

/-- A member is read back, and what follows it decides how the members go on. -/
theorem memberPairs_step (hlayout : layout.Spaced) {key : String} {d : Document}
    (h : ReadsBack layout depth d) {fuel : Nat} {tail : List Char}
    (hfuel : 2 * (d.chars layout depth).length ≤ fuel) (htail : EndsNumeral Char.isDigit tail) :
    Reader.memberPairs true (fuel + 1) (quotedText layout.ascii key.toList ++
        ':' :: (layout.afterColon ++ (d.chars layout depth ++ tail))) =
      match skipGap tail with
      | '\x7d' :: rest => return ([(key, d)], rest)
      | ',' :: rest => do
        let (others, rest) ← Reader.memberPairs true fuel (skipGap rest)
        return ((key, d) :: others, rest)
      | rest => .error (.flaw .missingComma rest.length) := by
  rw [quotedText, List.cons_append, List.append_assoc, List.singleton_append, Reader.memberPairs,
    text_quoted, List.reverse_nil, List.nil_append, String.ofList_toList]
  have hcolon : isGap ':' = false := by decide
  have hvalue : Reader.value true fuel (skipGap (layout.afterColon ++
      (d.chars layout depth ++ tail))) = .ok (d, tail) := by
    rw [skipGap_chars hlayout.colon, h fuel tail hfuel htail]
  simp only [bind, Except.bind, skipGap_mark hcolon]
  rewrite [hvalue]
  rfl

/-- Items are read back when each of them is. -/
theorem items_chars (hlayout : layout.Spaced) {first : Document} {others : List Document}
    (h : ∀ d ∈ first :: others, ReadsBack layout depth d) {w rest : List Char} {fuel : Nat}
    (hw : Gaps w)
    (hfuel : 2 * (first.chars layout depth ++ itemChars layout depth others).length < fuel) :
    Reader.items true fuel (first.chars layout depth ++
      (itemChars layout depth others ++ (w ++ ']' :: rest))) = .ok (first :: others, rest) := by
  obtain ⟨fuel, rfl⟩ : ∃ n, fuel = n + 1 := ⟨fuel - 1, by omega⟩
  have hfirst := h first (by simp)
  rw [List.length_append] at hfuel
  induction others generalizing first fuel with
  | nil =>
    have hclose : isBetween ']' = true := by decide
    rw [itemChars, List.nil_append, items_step hfirst (by omega) (endsNumeral_between hw hclose _),
      skipGap_before hw (by decide)]
    rfl
  | cons next more ih =>
    have hcomma : isBetween ',' = true := by decide
    have hgap := hlayout.comma.append (gaps_lead layout depth)
    simp only [itemChars, Layout.between, List.length_append, List.length_cons] at hfuel
    obtain ⟨fuel, rfl⟩ : ∃ n, fuel = n + 1 := ⟨fuel - 1, by omega⟩
    have hothers := ih (fun d hd => h d (List.mem_cons_of_mem _ hd)) fuel (by omega)
      (h next (by simp))
    simp only [itemChars, Layout.between, List.append_assoc, List.cons_append]
    rw [items_step hfirst (by omega) (endsNumeral_mark hcomma _), skipGap_mark (by decide)]
    refine Result.bind_eq_ok.2 ⟨(next :: more, rest), ?_, rfl⟩
    rw [← List.append_assoc, skipGap_chars hgap, hothers]

/-- Members are read back when the value of each of them is. -/
theorem memberPairs_chars (hlayout : layout.Spaced) {key : String} {value : Document}
    {others : List (String × Document)}
    (h : ∀ p ∈ (key, value) :: others, ReadsBack layout depth p.2) {w rest : List Char} {fuel : Nat}
    (hw : Gaps w)
    (hfuel : 2 * (value.chars layout depth ++ memberChars layout depth others).length < fuel) :
    Reader.memberPairs true fuel (quotedText layout.ascii key.toList ++ ':' ::
      (layout.afterColon ++ (value.chars layout depth ++
        (memberChars layout depth others ++ (w ++ '\x7d' :: rest))))) =
      .ok ((key, value) :: others, rest) := by
  obtain ⟨fuel, rfl⟩ : ∃ n, fuel = n + 1 := ⟨fuel - 1, by omega⟩
  have hvalue : ReadsBack layout depth value := h (key, value) (by simp)
  rw [List.length_append] at hfuel
  induction others generalizing key value fuel with
  | nil =>
    have hclose : isBetween '\x7d' = true := by decide
    rw [memberChars, List.nil_append,
      memberPairs_step hlayout hvalue (by omega) (endsNumeral_between hw hclose _),
      skipGap_before hw (by decide)]
    rfl
  | cons next more ih =>
    obtain ⟨nextKey, nextValue⟩ := next
    have hcomma : isBetween ',' = true := by decide
    have hgap := hlayout.comma.append (gaps_lead layout depth)
    simp only [memberChars, Layout.between, List.length_append, List.length_cons] at hfuel
    obtain ⟨fuel, rfl⟩ : ∃ n, fuel = n + 1 := ⟨fuel - 1, by omega⟩
    have hothers := ih (fun d hd => h d (List.mem_cons_of_mem _ hd)) fuel (by omega)
      (h (nextKey, nextValue) (by simp))
    simp only [memberChars, Layout.between, List.append_assoc, List.cons_append]
    rw [memberPairs_step hlayout hvalue (by omega) (endsNumeral_mark hcomma _),
      skipGap_mark (by decide)]
    refine Result.bind_eq_ok.2 ⟨((nextKey, nextValue) :: more, rest), ?_, rfl⟩
    rw [← List.append_assoc, hgap.skip, quotedText, List.cons_append, skipGap_mark (by decide),
      ← List.cons_append, ← quotedText, hothers]

end Parts

/-! ### Documents -/

mutual

/-- No object in a value has a key twice. -/
def hasDistinctKeys : Document → Bool
  | arr items => haveDistinctKeys items
  | obj members => decide (Entries.keys members).Nodup && holdDistinctKeys members
  | _ => true

/-- No object in the items has a key twice. -/
def haveDistinctKeys : List Document → Bool
  | [] => true
  | item :: rest => hasDistinctKeys item && haveDistinctKeys rest

/-- No object in the values of members has a key twice. -/
def holdDistinctKeys : List (String × Document) → Bool
  | [] => true
  | (_, value) :: rest => hasDistinctKeys value && holdDistinctKeys rest

end

section Documents

variable {layout : Layout} {depth fuel : Nat}

/-- The text of a document does not start with what stands between values. -/
theorem chars_append_ne (d : Document) {c : Char} (hc : isBetween c = true) (s rest : List Char) :
    d.chars layout depth ++ s ≠ c :: rest := by
  obtain ⟨x, r, hx, hbetween⟩ := chars_start layout depth d
  rw [hx, List.cons_append]
  intro heq
  rw [(List.cons.inj heq).1, hc] at hbetween
  cases hbetween

/-- A text is read back with its quotes. -/
theorem value_quoted (s : String) {rest : List Char} :
    Reader.value true (fuel + 1) (quotedText layout.ascii s.toList ++ rest) =
      .ok (str s, rest) := by
  rw [quotedText, List.cons_append, List.append_assoc, List.singleton_append, Reader.value,
    text_quoted]
  simp [Except.map]

/-- An array that does not end at once has items. -/
theorem value_arr {r : List Char} (hopen : ∀ rest, skipGap r ≠ ']' :: rest) :
    Reader.value true (fuel + 1) ('[' :: r) =
      (Reader.items true fuel (skipGap r)).map fun p => (arr p.1, p.2) := by
  simp only [Reader.value]

/-- An object that does not end at once has members. -/
theorem value_obj {r : List Char} (hopen : ∀ rest, skipGap r ≠ '\x7d' :: rest) :
    Reader.value true (fuel + 1) ('\x7b' :: r) =
      (Reader.memberPairs true fuel (skipGap r)).map fun p =>
        (obj (Entries.ofPairs p.1), p.2) := by
  simp only [Reader.value]

/-- A document is read back when its text is, with any fuel at all. -/
theorem readsBack_of_value {d : Document}
    (h : ∀ fuel rest, EndsNumeral Char.isDigit rest →
      Reader.value true (fuel + 1) (d.chars layout depth ++ rest) = .ok (d, rest)) :
    ReadsBack layout depth d := by
  intro fuel rest hfuel hrest
  obtain ⟨c, r, hc, -⟩ := chars_start layout depth d
  rw [hc, List.length_cons] at hfuel
  obtain ⟨fuel, rfl⟩ : ∃ n, fuel = n + 1 := ⟨fuel - 1, by omega⟩
  exact h fuel rest hrest

/-- An array is read back when its items are. -/
theorem readsBack_arr (hlayout : layout.Spaced) {items : List Document}
    (h : ∀ d ∈ items, ReadsBack layout (depth + 1) d) : ReadsBack layout depth (arr items) := by
  cases items with
  | nil => exact readsBack_of_value fun _ _ _ => rfl
  | cons first others =>
    intro fuel rest hfuel _
    have hlead := gaps_lead layout (depth + 1)
    have hclose : isBetween ']' = true := by decide
    simp only [chars, List.length_cons, List.length_append] at hfuel
    obtain ⟨fuel, rfl⟩ : ∃ n, fuel = n + 1 := ⟨fuel - 1, by omega⟩
    have hitems : Reader.items true fuel (first.chars layout (depth + 1) ++
        (itemChars layout (depth + 1) others ++ (layout.lead depth ++ ']' :: rest))) =
          .ok (first :: others, rest) :=
      items_chars hlayout h (gaps_lead layout depth) (by rw [List.length_append]; omega)
    simp only [chars, List.cons_append, List.append_assoc, List.nil_append]
    rw [value_arr, skipGap_chars hlead, hitems]
    · rfl
    · rw [skipGap_chars hlead]
      exact chars_append_ne first hclose _

/-- An object is read back when the values of its members are, and its keys are distinct. -/
theorem readsBack_obj (hlayout : layout.Spaced) {members : List (String × Document)}
    (hkeys : (Entries.keys members).Nodup)
    (h : ∀ p ∈ members, ReadsBack layout (depth + 1) p.2) :
    ReadsBack layout depth (obj members) := by
  rcases members with _ | ⟨⟨key, value⟩, others⟩
  · exact readsBack_of_value fun _ _ _ => rfl
  · intro fuel rest hfuel _
    have hlead := gaps_lead layout (depth + 1)
    simp only [chars, List.length_cons, List.length_append] at hfuel
    obtain ⟨fuel, rfl⟩ : ∃ n, fuel = n + 1 := ⟨fuel - 1, by omega⟩
    have hmembers : Reader.memberPairs true fuel (quotedText layout.ascii key.toList ++ ':' ::
        (layout.afterColon ++ (value.chars layout (depth + 1) ++
          (memberChars layout (depth + 1) others ++ (layout.lead depth ++ '\x7d' :: rest))))) =
          .ok ((key, value) :: others, rest) :=
      memberPairs_chars hlayout h (gaps_lead layout depth) (by rw [List.length_append]; omega)
    simp only [chars, List.cons_append, List.append_assoc, List.nil_append]
    have hskip : ∀ s,
        skipGap (layout.lead (depth + 1) ++ (quotedText layout.ascii key.toList ++ s)) =
          quotedText layout.ascii key.toList ++ s := by
      intro s
      rw [hlead.skip]
      exact skipGap_mark (by decide) _
    rw [value_obj, hskip, hmembers]
    · simp [Except.map, Entries.ofPairs_of_nodup hkeys]
    · rw [hskip]
      simp [quotedText]

end Documents

/-- An integer that can be told has few enough digits to be read. -/
theorem length_digits_le {n : Int} (h : (int n).isTellable = true) :
    (Numeral.digits n.natAbs).length ≤ Numeral.longestNumeral := by
  by_contra hlong
  simp [isTellable, Numeral.text?, Nat.lt_of_not_le hlong] at h

mutual

/-- **A written document is read back**, whatever follows. -/
theorem readsBack {layout : Layout} (hlayout : layout.Spaced) :
    (d : Document) → d.isTellable = true → d.hasDistinctKeys = true →
      (depth : Nat) → ReadsBack layout depth d
  | null, _, _, _ => readsBack_of_value fun _ _ _ => rfl
  | bool true, _, _, _ => readsBack_of_value fun _ _ _ => rfl
  | bool false, _, _, _ => readsBack_of_value fun _ _ _ => rfl
  | int n, htell, _, _ => readsBack_of_value fun _ _ hrest =>
    value_numeral (Numeral.numeralText_chars n) (Numeral.number_chars (length_digits_le htell))
      hrest
  | float .nan, _, _, _ => readsBack_of_value fun _ _ _ => rfl
  | float (.infinite true), _, _, _ => readsBack_of_value fun _ _ _ => rfl
  | float (.infinite false), _, _, _ => readsBack_of_value fun _ _ _ => rfl
  | float (.finite negative rank), _, _, _ => readsBack_of_value fun _ _ hrest =>
    have ⟨_, htext, hnumber⟩ := Binary64.number_finiteChars negative rank
    value_numeral htext hnumber hrest
  | str s, _, _, _ => readsBack_of_value fun _ _ _ => value_quoted s
  | arr items, htell, hkeys, depth =>
    readsBack_arr hlayout (itemsReadBack hlayout items htell hkeys (depth + 1))
  | obj members, htell, hkeys, depth =>
    have hkeys := Bool.and_eq_true_iff.1 hkeys
    readsBack_obj hlayout (of_decide_eq_true hkeys.1)
      (membersReadBack hlayout members htell hkeys.2 (depth + 1))

/-- Items are read back. -/
theorem itemsReadBack {layout : Layout} (hlayout : layout.Spaced) :
    (items : List Document) → areTellable items = true → haveDistinctKeys items = true →
      (depth : Nat) → ∀ d ∈ items, ReadsBack layout depth d
  | [], _, _, _ => nofun
  | item :: rest, htell, hkeys, depth =>
    have htell := Bool.and_eq_true_iff.1 htell
    have hkeys := Bool.and_eq_true_iff.1 hkeys
    List.forall_mem_cons.2 ⟨readsBack hlayout item htell.1 hkeys.1 depth,
      itemsReadBack hlayout rest htell.2 hkeys.2 depth⟩

/-- The values of members are read back. -/
theorem membersReadBack {layout : Layout} (hlayout : layout.Spaced) :
    (members : List (String × Document)) → holdTellable members = true →
      holdDistinctKeys members = true → (depth : Nat) → ∀ p ∈ members, ReadsBack layout depth p.2
  | [], _, _, _ => nofun
  | (_, value) :: rest, htell, hkeys, depth =>
    have htell := Bool.and_eq_true_iff.1 htell
    have hkeys := Bool.and_eq_true_iff.1 hkeys
    List.forall_mem_cons.2 ⟨readsBack hlayout value htell.1 hkeys.1 depth,
      membersReadBack hlayout rest htell.2 hkeys.2 depth⟩

end

/-- **The text of a document holds the document.** -/
theorem read_chars {layout : Layout} (hlayout : layout.Spaced) {d : Document}
    (htell : d.isTellable = true) (hkeys : d.hasDistinctKeys = true) :
    read (d.chars layout 0) = .ok d := by
  have hread := readsBack hlayout d htell hkeys 0 (2 * (d.chars layout 0).length + 2) [] (by omega)
    nofun
  have hskip : skipGap ([] ++ (d.chars layout 0 ++ [])) = d.chars layout 0 ++ [] :=
    skipGap_chars .nil []
  have hmark : isBetween '\uFEFF' = true := by decide
  have hstart : ∀ rest, d.chars layout 0 ≠ '\uFEFF' :: rest := by
    simpa using chars_append_ne d hmark []
  rw [List.append_nil] at hread hskip
  rw [List.nil_append] at hskip
  unfold read readWith
  split
  · next rest h => exact absurd h (hstart rest)
  · rw [hskip, hread]
    rfl

/-! ### Objects of scalars -/

/-- A value that holds no others. -/
def isScalar : Document → Bool
  | arr _ | obj _ => false
  | _ => true

/-- A scalar has no keys at all. -/
theorem hasDistinctKeys_of_isScalar {d : Document} (h : d.isScalar = true) :
    d.hasDistinctKeys = true := by
  cases d <;> first | rfl | cases h

theorem holdTellable_of_forall {members : Members} (h : ∀ p ∈ members, p.2.isTellable = true) :
    holdTellable members = true := by
  induction members with
  | nil => rfl
  | cons p rest ih =>
    obtain ⟨hp, hrest⟩ := List.forall_mem_cons.1 h
    exact Bool.and_eq_true_iff.2 ⟨hp, ih hrest⟩

theorem holdDistinctKeys_of_forall {members : Members}
    (h : ∀ p ∈ members, p.2.hasDistinctKeys = true) : holdDistinctKeys members = true := by
  induction members with
  | nil => rfl
  | cons p rest ih =>
    obtain ⟨hp, hrest⟩ := List.forall_mem_cons.1 h
    exact Bool.and_eq_true_iff.2 ⟨hp, ih hrest⟩

/-- **An object of scalars is read back.** -/
theorem read_chars_obj (hlayout : layout.Spaced) {members : Members} (hkeys : members.keys.Nodup)
    (h : ∀ p ∈ members, p.2.isScalar = true ∧ p.2.isTellable = true) :
    read ((obj members).chars layout 0) = .ok (obj members) := by
  have htell : (obj members).isTellable = true := holdTellable_of_forall fun p hp => (h p hp).2
  have hdistinct : (obj members).hasDistinctKeys = true := by
    rw [hasDistinctKeys, decide_eq_true hkeys, Bool.true_and]
    exact holdDistinctKeys_of_forall fun p hp => hasDistinctKeys_of_isScalar (h p hp).1
  exact read_chars hlayout htell hdistinct

theorem Layout.spaced_inline : Layout.inline.Spaced where
  comma := List.all_eq_true.1 (by decide)
  colon := List.all_eq_true.1 (by decide)

theorem Layout.spaced_page : Layout.page.Spaced where
  comma := List.all_eq_true.1 (by decide)
  colon := List.all_eq_true.1 (by decide)

end Document
end FormDispatch
