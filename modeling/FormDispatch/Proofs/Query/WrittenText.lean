/-
# Written documents are query text

The text that a document is written as is query text, in every layout whose gaps are blank, and is
read as the document again (`read_chars`). Its numbers must be finite and its integers not too long,
no object in it may have a key twice, and it may nest no deeper than query text may.

Both halves follow the document: its text spells it (`spells_chars`), and opens as many brackets as
the document nests (`passes_chars`).
-/

import FormDispatch.Proofs.Document.RoundTrip
import FormDispatch.Proofs.Query.Depth

namespace FormDispatch

namespace Document

mutual

/-- How many arrays and objects stand in each other at most. -/
def height : Document → Nat
  | arr items => heightOf items + 1
  | obj members => heightIn members + 1
  | _ => 0

/-- The greatest height of the items. -/
def heightOf : List Document → Nat
  | [] => 0
  | item :: rest => max (height item) (heightOf rest)

/-- The greatest height of the values of members. -/
def heightIn : List (String × Document) → Nat
  | [] => 0
  | (_, value) :: rest => max (height value) (heightIn rest)

end

theorem haveFinite_of_forall {members : Members} (h : ∀ p ∈ members, p.2.isFinite = true) :
    haveFinite members = true := by
  induction members with
  | nil => rfl
  | cons p rest ih =>
    obtain ⟨hp, hrest⟩ := List.forall_mem_cons.1 h
    exact Bool.and_eq_true_iff.2 ⟨hp, ih hrest⟩

theorem heightIn_le_of_forall {members : Members} {n : Nat} (h : ∀ p ∈ members, p.2.height ≤ n) :
    heightIn members ≤ n := by
  induction members with
  | nil => exact Nat.zero_le n
  | cons p rest ih =>
    obtain ⟨hp, hrest⟩ := List.forall_mem_cons.1 h
    exact Nat.max_le.2 ⟨hp, ih hrest⟩

end Document

namespace Query

open Document (Layout Gaps quotedText)

/-- A gap is blank. -/
theorem blanks_of_gaps {w : List Char} (hw : Gaps w) : Blanks w := by
  intro c hc
  have hgap := hw c hc
  simp only [Document.Reader.isGap, Bool.or_eq_true, beq_iff_eq] at hgap
  rcases hgap with ((rfl | rfl) | rfl) | rfl <;> decide

variable {layout : Layout} {depth : Nat}

theorem blanks_lead (layout : Layout) (depth : Nat) : Blanks (layout.lead depth) :=
  blanks_of_gaps (Document.gaps_lead layout depth)

/-! ### What is written is spelled -/

/-- The text of an integer that is not too long spells it. -/
theorem spells_int {n : Int} (h : (Document.int n).isTellable = true) :
    Spells (.value (.int n)) (Numeral.chars n) := by
  have numeral := (Numeral.numeralText_chars n).mono
    (fun c => Text.isDecimalDigit_of_isDigit) fun c hc => hc
  exact .numeral numeral (Numeral.number_chars (Document.length_digits_le h))

/-- The text of a finite number spells it. -/
theorem spells_float (negative : Bool) (rank : Fin rankCount) :
    Spells (.value (.float (.finite negative rank))) (Binary64.finiteChars negative rank) := by
  obtain ⟨parts, htext, hnumber⟩ := Binary64.number_finiteChars negative rank
  exact .numeral (htext.mono (fun c => Text.isDecimalDigit_of_isDigit) fun c hc => hc) hnumber

/-- A key as it is written spells it. -/
theorem spelledKey_quotedText (ascii : Bool) (key : String) :
    SpelledKey key (quotedText ascii key.toList) := by
  have char : ∀ c, SpelledChar '"' c (Document.escaped ascii c) := fun c =>
    spelledChar_escaped ascii rfl fun h => absurd h (by decide)
  have hkey := SpelledKey.quoted (q := '"') rfl (spelledText_flatMap char key.toList)
  rwa [String.ofList_toList] at hkey

/-- The items of an array are spelled with its end if each of them is. -/
theorem spells_items (hlayout : layout.Spaced) {item : Document} {rest : List Document}
    (h : ∀ d ∈ item :: rest, Spells (.value d) (d.chars layout depth)) {w e : List Char}
    (hw : Blanks w) (he : Ending ']' e) :
    Spells (.items (item :: rest)) (w ++ (item.chars layout depth ++
      (Document.itemChars layout depth rest ++ e))) := by
  induction rest generalizing item w with
  | nil => exact .lastItem hw (h item List.mem_cons_self) he
  | cons next rest ih =>
    obtain ⟨hitem, hrest⟩ := List.forall_mem_cons.1 h
    have hbetween : Blanks (layout.afterComma ++ layout.lead depth) :=
      (blanks_of_gaps hlayout.comma).append (blanks_lead layout depth)
    have hspelled := Spells.item hw hitem .nil (ih hrest hbetween)
    simpa [Document.itemChars, Layout.between] using hspelled

/-- The members of an object are spelled with its end if each of their values is. -/
theorem spells_members (hlayout : layout.Spaced) {key : String} {value : Document}
    {rest : List (String × Document)}
    (h : ∀ p ∈ (key, value) :: rest, Spells (.value p.2) (p.2.chars layout depth))
    {w e : List Char} (hw : Blanks w) (he : Ending '\x7d' e) :
    Spells (.members ((key, value) :: rest)) (w ++ (quotedText layout.ascii key.toList ++
      ':' :: (layout.afterColon ++ (value.chars layout depth ++
        (Document.memberChars layout depth rest ++ e))))) := by
  have hcolon := blanks_of_gaps hlayout.colon
  induction rest generalizing key value w with
  | nil =>
    have hspelled := Spells.lastMember hw (spelledKey_quotedText layout.ascii key) .nil hcolon
      (h _ List.mem_cons_self) he
    exact hspelled
  | cons next rest ih =>
    -- nothing stands in front of a colon or a comma, and what stands behind is the layout's
    obtain ⟨next, other⟩ := next
    obtain ⟨hvalue, hrest⟩ := List.forall_mem_cons.1 h
    have hbetween : Blanks (layout.afterComma ++ layout.lead depth) :=
      (blanks_of_gaps hlayout.comma).append (blanks_lead layout depth)
    have hkey := spelledKey_quotedText layout.ascii key
    have hspelled := Spells.member hw hkey .nil hcolon hvalue .nil
      (ih hrest hbetween)
    simpa [Document.memberChars, Layout.between] using hspelled

theorem spells_arr (hlayout : layout.Spaced) {items : List Document}
    (h : ∀ d ∈ items, Spells (.value d) (d.chars layout (depth + 1))) :
    Spells (.value (.arr items)) ((Document.arr items).chars layout depth) := by
  cases items with
  | nil => exact .emptyArr (w := []) .nil
  | cons item rest =>
    have hitems := spells_items hlayout h (blanks_lead layout (depth + 1))
      (.plain (blanks_lead layout depth))
    simpa [Document.chars] using Spells.arr hitems

theorem spells_obj (hlayout : layout.Spaced) {members : Members} (hkeys : members.keys.Nodup)
    (h : ∀ p ∈ members, Spells (.value p.2) (p.2.chars layout (depth + 1))) :
    Spells (.value (.obj members)) ((Document.obj members).chars layout depth) := by
  rcases members with _ | ⟨⟨key, value⟩, rest⟩
  · exact .emptyObj (w := []) .nil
  · have hmembers := spells_members hlayout h (blanks_lead layout (depth + 1))
      (.plain (blanks_lead layout depth))
    have hobj := Spells.obj hmembers
    rw [Entries.ofPairs_of_nodup hkeys] at hobj
    simpa [Document.chars] using hobj

mutual

/-- **The text of a document spells it.** -/
theorem spells_chars (hlayout : layout.Spaced) :
    (d : Document) → d.isTellable = true → d.hasDistinctKeys = true → d.isFinite = true →
      (depth : Nat) → Spells (.value d) (d.chars layout depth)
  | .null, _, _, _, _ => .null
  | .bool true, _, _, _, _ => .yes
  | .bool false, _, _, _, _ => .no
  | .int _, htell, _, _, _ => spells_int htell
  | .float (.finite negative rank), _, _, _, _ => spells_float negative rank
  | .str s, _, _, _, _ => by
    simpa [Document.chars] using spells_quotedText layout.ascii s.toList
  | .arr items, htell, hkeys, hfinite, depth =>
    spells_arr hlayout (items_spelled hlayout items htell hkeys hfinite (depth + 1))
  | .obj members, htell, hkeys, hfinite, depth =>
    have hkeys := Bool.and_eq_true_iff.1 hkeys
    spells_obj hlayout (of_decide_eq_true hkeys.1)
      (members_spelled hlayout members htell hkeys.2 hfinite (depth + 1))

/-- Items are spelled. -/
theorem items_spelled (hlayout : layout.Spaced) :
    (items : List Document) → Document.areTellable items = true →
      Document.haveDistinctKeys items = true → Document.areFinite items = true →
      (depth : Nat) → ∀ d ∈ items, Spells (.value d) (d.chars layout depth)
  | [], _, _, _, _ => List.forall_mem_nil _
  | item :: rest, htell, hkeys, hfinite, depth =>
    have htell := Bool.and_eq_true_iff.1 htell
    have hkeys := Bool.and_eq_true_iff.1 hkeys
    have hfinite := Bool.and_eq_true_iff.1 hfinite
    List.forall_mem_cons.2 ⟨spells_chars hlayout item htell.1 hkeys.1 hfinite.1 depth,
      items_spelled hlayout rest htell.2 hkeys.2 hfinite.2 depth⟩

/-- The values of members are spelled. -/
theorem members_spelled (hlayout : layout.Spaced) :
    (members : List (String × Document)) → Document.holdTellable members = true →
      Document.holdDistinctKeys members = true → Document.haveFinite members = true →
      (depth : Nat) → ∀ p ∈ members, Spells (.value p.2) (p.2.chars layout depth)
  | [], _, _, _, _ => List.forall_mem_nil _
  | (_, value) :: rest, htell, hkeys, hfinite, depth =>
    have htell := Bool.and_eq_true_iff.1 htell
    have hkeys := Bool.and_eq_true_iff.1 hkeys
    have hfinite := Bool.and_eq_true_iff.1 hfinite
    List.forall_mem_cons.2 ⟨spells_chars hlayout value htell.1 hkeys.1 hfinite.1 depth,
      members_spelled hlayout rest htell.2 hkeys.2 hfinite.2 depth⟩

end

/-! ### What is written nests as deep as the document -/

namespace Passes

variable {cap k : Nat} {s r : List Char}

/-- A text as it is written is passed with its quotes. -/
theorem quotedText (ascii : Bool) (s : List Char) (hk : k ≤ cap) :
    Passes cap k k (quotedText ascii s ++ r) r := by
  have char : ∀ c, SpelledChar '"' c (Document.escaped ascii c) := fun c =>
    spelledChar_escaped ascii rfl fun h => absurd h (by decide)
  have hpass := quoted (r := r) (by decide) hk (spelledText_flatMap char s)
  simpa [Document.quotedText] using hpass

end Passes

/-- What stands between two items is passed. -/
theorem passes_between (hlayout : layout.Spaced) {cap k : Nat} (hk : k ≤ cap) (r : List Char) :
    Passes cap k k (layout.between depth ++ r) r := by
  have hcomma : isNeutral ',' = true := by decide
  have hgap : Blanks (layout.afterComma ++ layout.lead depth) :=
    (blanks_of_gaps hlayout.comma).append (blanks_lead layout depth)
  exact (Passes.cons hk hk (Place.after_of_isNeutral hcomma k)).trans (.blanks hk hgap)

/-- A numeral is passed. -/
theorem passes_numeral {cap k : Nat} (hk : k ≤ cap)
    {parts : Document.Reader.NumeralParts} {t : List Char} (r : List Char)
    (h : Document.Reader.NumeralText Char.isDigit Document.Reader.isLeadingDigit parts t) :
    Passes cap k k (t ++ r) r := by
  have numeral := h.mono (fun c => Text.isDecimalDigit_of_isDigit) fun c hc => hc
  exact .neutral hk fun c hc => isNeutral_of_isOfNumeral (isOfNumeral_of_mem numeral c hc)

/-- A word is passed. -/
theorem passes_word {cap k : Nat} (hk : k ≤ cap) {t : List Char} (h : t.all isNeutral = true)
    (r : List Char) : Passes cap k k (t ++ r) r :=
  .neutral hk (List.all_eq_true.1 h)

mutual

/-- **The text of a document opens as many brackets as the document nests.** -/
theorem passes_chars (hlayout : layout.Spaced) (cap : Nat) :
    (d : Document) → (depth k : Nat) → k + d.height ≤ cap → (r : List Char) →
      Passes cap k k (d.chars layout depth ++ r) r
  | .null, _, _, hk, r => passes_word hk rfl r
  | .bool true, _, _, hk, r => passes_word hk rfl r
  | .bool false, _, _, hk, r => passes_word hk rfl r
  | .int n, _, _, hk, r => passes_numeral hk r (Numeral.numeralText_chars n)
  | .float .nan, _, _, hk, r => passes_word hk rfl r
  | .float (.infinite true), _, _, hk, r => passes_word hk rfl r
  | .float (.infinite false), _, _, hk, r => passes_word hk rfl r
  | .float (.finite negative rank), _, _, hk, r =>
    have ⟨_, htext, _⟩ := Binary64.number_finiteChars negative rank
    passes_numeral hk r htext
  | .str s, _, _, hk, r => .quotedText layout.ascii s.toList hk
  | .arr [], _, k, hk, r =>
    have hk : k + 1 ≤ cap := hk
    (Passes.opening (.inl rfl) hk).trans (.closing (.inl rfl) hk)
  | .arr (item :: rest), depth, k, hk, r => by
    have hopen : k + 1 ≤ cap := by
      simp only [Document.height] at hk
      omega
    simp only [Document.height, Document.heightOf] at hk
    simp only [Document.chars, List.cons_append, List.append_assoc, List.nil_append]
    refine (Passes.opening (.inl rfl) hopen).trans ?_
    refine (Passes.blanks hopen (blanks_lead _ _)).trans ?_
    refine (passes_chars hlayout cap item (depth + 1) (k + 1) (by omega) _).trans ?_
    refine (passes_itemChars hlayout cap rest (depth + 1) (k + 1) (by omega) _).trans ?_
    exact (Passes.blanks hopen (blanks_lead _ _)).trans (.closing (.inl rfl) hopen)
  | .obj [], _, k, hk, r =>
    have hk : k + 1 ≤ cap := hk
    (Passes.opening (.inr rfl) hk).trans (.closing (.inr rfl) hk)
  | .obj ((key, value) :: rest), depth, k, hk, r => by
    have hopen : k + 1 ≤ cap := by
      simp only [Document.height] at hk
      omega
    simp only [Document.height, Document.heightIn] at hk
    simp only [Document.chars, List.cons_append, List.append_assoc, List.nil_append]
    refine (Passes.opening (.inr rfl) hopen).trans ?_
    refine (Passes.blanks hopen (blanks_lead _ _)).trans ?_
    refine (Passes.quotedText layout.ascii key.toList hopen).trans ?_
    refine (passes_word (t := [':']) hopen (by decide) _).trans ?_
    refine (Passes.blanks hopen (blanks_of_gaps hlayout.colon)).trans ?_
    refine (passes_chars hlayout cap value (depth + 1) (k + 1) (by omega) _).trans ?_
    refine (passes_memberChars hlayout cap rest (depth + 1) (k + 1) (by omega) _).trans ?_
    exact (Passes.blanks hopen (blanks_lead _ _)).trans (.closing (.inr rfl) hopen)

/-- The items after the first are passed. -/
theorem passes_itemChars (hlayout : layout.Spaced) (cap : Nat) :
    (items : List Document) → (depth k : Nat) → k + Document.heightOf items ≤ cap →
      (r : List Char) → Passes cap k k (Document.itemChars layout depth items ++ r) r
  | [], _, _, hk, r => .refl hk r
  | item :: rest, depth, k, hk, r => by
    simp only [Document.heightOf] at hk
    simp only [Document.itemChars, List.append_assoc]
    refine (passes_between hlayout (by omega) _).trans ?_
    exact (passes_chars hlayout cap item depth k (by omega) _).trans
      (passes_itemChars hlayout cap rest depth k (by omega) r)

/-- The members after the first are passed. -/
theorem passes_memberChars (hlayout : layout.Spaced) (cap : Nat) :
    (members : List (String × Document)) → (depth k : Nat) →
      k + Document.heightIn members ≤ cap → (r : List Char) →
      Passes cap k k (Document.memberChars layout depth members ++ r) r
  | [], _, _, hk, r => .refl hk r
  | (key, value) :: rest, depth, k, hk, r => by
    have hk' : k ≤ cap := Nat.le_of_add_right_le hk
    simp only [Document.heightIn] at hk
    simp only [Document.memberChars, List.append_assoc, List.cons_append]
    refine (passes_between hlayout hk' _).trans ?_
    refine (Passes.quotedText layout.ascii key.toList hk').trans ?_
    refine (passes_word (t := [':']) hk' (by decide) _).trans ?_
    refine (Passes.blanks hk' (blanks_of_gaps hlayout.colon)).trans ?_
    exact (passes_chars hlayout cap value depth k (by omega) _).trans
      (passes_memberChars hlayout cap rest depth k (by omega) r)

end

/-- **The text of a document is read as the document,** if the document nests no deeper than query
text may. -/
theorem read_chars (hlayout : layout.Spaced) {d : Document} (htell : d.isTellable = true)
    (hkeys : d.hasDistinctKeys = true) (hfinite : d.isFinite = true)
    (hheight : d.height ≤ deepest) : read (d.chars layout 0) = .ok d := by
  -- the reader is complete for texts that it does not find too deep
  have hpass := passes_chars hlayout deepest d 0 0 (by omega) []
  rw [List.append_nil] at hpass
  refine (read_eq_ok hpass.nesting_le).2 ⟨[], d.chars layout 0, [], by simp, .nil, ?_, .nil⟩
  exact spells_chars hlayout d htell hkeys hfinite 0

/-- So a field that holds the text of a document holds the document. -/
theorem value_written (hlayout : layout.Spaced) {d : Document} (htell : d.isTellable = true)
    (hkeys : d.hasDistinctKeys = true) (hfinite : d.isFinite = true) (hheight : d.height ≤ deepest)
    (field : String) : value field (d.written layout) = .ok d := by
  rw [value_eq_ok, Document.written, String.toList_ofList]
  exact read_chars hlayout htell hkeys hfinite hheight

end Query
end FormDispatch
