/-
# Texts put between quotes as they are

A text that is put between double quotes without being escaped is read back just when it is plain:
it holds no double quote, no backslash and no control character. `memberText` puts a key and a value
between double quotes in this way, and `read_memberText` says that the object of that one member is
read from it just when both are plain.

A spelling is never shorter than the text that it spells (`SpelledText.length_le`), and one of the
same length spells itself (`SpelledText.isPlain`). So a value that is read back leaves no room for
anything else. A key that is read back could only run on past its closing quote if that quote were
escaped, and then the key would have to end in a backslash, which escapes the quote, and in the
blank behind the colon at once.
-/

import FormDispatch.Proofs.Entries
import FormDispatch.Proofs.Query.Depth

namespace FormDispatch
namespace Query

/-- A text that stands for itself between double quotes. -/
def IsPlain (s : List Char) : Prop :=
  ∀ c ∈ s, c ≠ '"' ∧ c ≠ '\\' ∧ 0x20 ≤ c.toNat

instance (s : List Char) : Decidable (IsPlain s) :=
  List.decidableBAll (fun c => c ≠ '"' ∧ c ≠ '\\' ∧ 0x20 ≤ c.toNat) s

/-! ### Spellings -/

section Spellings

variable {q : Char} {cs s : List Char}

/-- A plain text spells itself. -/
theorem IsPlain.spelledText (h : IsPlain s) : SpelledText '"' s s := by
  induction s with
  | nil => exact .nil
  | cons c r ih =>
    obtain ⟨⟨hq, hb, hc⟩, hr⟩ := List.forall_mem_cons.1 h
    exact .cons (.plain hq hb hc) (ih hr)

theorem SpelledChar.length_pos {x : Char} {u : List Char} (h : SpelledChar q x u) :
    1 ≤ u.length := by
  cases h <;> simp

/-- A spelling is not shorter than what it spells. -/
theorem SpelledText.length_le (h : SpelledText q cs s) : cs.length ≤ s.length := by
  induction h with
  | nil => exact Nat.le_refl 0
  | cons head _ ih =>
    have := head.length_pos
    simp only [List.length_cons, List.length_append]
    omega

/-- **A spelling that is no longer than what it spells is plain,** and spells itself. -/
theorem SpelledText.isPlain (h : SpelledText '"' cs s) (hlength : s.length ≤ cs.length) :
    s = cs ∧ IsPlain cs := by
  induction h with
  | nil => exact ⟨rfl, nofun⟩
  | @cons x cs u s head tail ih =>
    have hone := head.length_pos
    have hrest := tail.length_le
    simp only [List.length_cons, List.length_append] at hlength
    obtain ⟨rfl, hplain⟩ := ih (by omega)
    cases head with
    | plain hq hb hc => exact ⟨rfl, List.forall_mem_cons.2 ⟨⟨hq, hb, hc⟩, hplain⟩⟩
    | escape | unit | pair =>
      simp only [List.length_cons, List.length_nil] at hlength
      omega

/-- A quote in the spelling of a character comes behind a backslash. -/
theorem SpelledChar.before_quote (hq : Reader.isQuote q = true) {x : Char} {u v : List Char}
    (h : SpelledChar q x (u ++ q :: v)) : u = ['\\'] := by
  have hback := ne_backslash_of_isQuote hq
  have hu : 'u' ≠ q := by
    rintro rfl
    exact absurd hq (by decide)
  generalize hs : u ++ q :: v = s at h
  have hmem : q ∈ s := hs ▸ by simp
  have digits : ∀ {a b c d : Char} {n : Nat}, Document.Reader.unit? a b c d = some n →
      q ≠ a ∧ q ≠ b ∧ q ≠ c ∧ q ≠ d := by
    intro a b c d n hunit
    obtain ⟨i, j, k, l, ha, hb, hc, hd⟩ := hexValue?_of_unit? hunit
    have apart := fun {c : Char} {n : Nat} (h : Text.hexValue? c = some n) =>
      ((ne_of_hexValue? h).2 q hq).symm
    exact ⟨apart ha, apart hb, apart hc, apart hd⟩
  cases h with
  | plain hne => exact absurd (List.mem_singleton.1 hmem).symm hne
  | @escape c =>
    rcases u with _ | ⟨d, _ | ⟨e, u⟩⟩
    · cases hs
      exact absurd rfl hback
    · cases hs
      rfl
    · simp at hs
  | unit h =>
    obtain ⟨ha, hb, hc, hd⟩ := digits h
    simp [hback, hu.symm, ha, hb, hc, hd] at hmem
  | pair h _ h' =>
    obtain ⟨ha, hb, hc, hd⟩ := digits h
    obtain ⟨ha', hb', hc', hd'⟩ := digits h'
    simp [hback, hu.symm, ha, hb, hc, hd, ha', hb', hc', hd'] at hmem

/-- **A quote in a spelling comes behind a backslash.** -/
theorem SpelledText.before_quote (hq : Reader.isQuote q = true) {u v : List Char}
    (h : SpelledText q cs (u ++ q :: v)) : ∃ w, u = w ++ ['\\'] := by
  generalize hs : u ++ q :: v = s at h
  induction h generalizing u with
  | nil => simp at hs
  | @cons x cs t s head tail ih =>
    obtain ⟨a, rfl, ha⟩ | ⟨a, rfl, ha⟩ := List.append_eq_append_iff.1 hs
    · rcases a with _ | ⟨b, a⟩
      · obtain ⟨w, hw⟩ := ih (u := []) ha
        simp at hw
      · cases ha
        exact ⟨[], head.before_quote hq⟩
    · obtain ⟨w, rfl⟩ := ih ha.symm
      exact ⟨t ++ w, by simp⟩

theorem SpelledChar.last_blank {x : Char} {u : List Char} (h : SpelledChar q x (u ++ [' '])) :
    x = ' ' := by
  generalize hs : u ++ [' '] = s at h
  have hlast : s.getLast? = some ' ' := by rw [← hs, List.getLast?_concat]
  have digit : ∀ {n : Nat}, Text.hexValue? ' ' ≠ some n := fun h => absurd h (by decide +revert)
  cases h with
  | plain => exact Option.some.inj hlast
  | escape h =>
    cases hlast
    cases h
  | unit h =>
    obtain ⟨i, j, k, l, -, -, -, hd⟩ := hexValue?_of_unit? h
    cases hlast
    exact absurd hd digit
  | pair _ _ h =>
    obtain ⟨i, j, k, l, -, -, -, hd⟩ := hexValue?_of_unit? h
    cases hlast
    exact absurd hd digit

/-- A blank at the end of a spelling spells itself. -/
theorem SpelledText.last_blank {u : List Char} (h : SpelledText q cs (u ++ [' '])) :
    ∃ ds, cs = ds ++ [' '] := by
  generalize hs : u ++ [' '] = s at h
  induction h generalizing u with
  | nil => simp at hs
  | @cons x cs t s head tail ih =>
    obtain ⟨a, rfl, ha⟩ | ⟨a, rfl, ha⟩ := List.append_eq_append_iff.1 hs
    · rcases a with _ | ⟨b, a⟩
      · obtain ⟨ds, rfl⟩ := ih (u := []) ha
        exact ⟨x :: ds, rfl⟩
      · obtain ⟨rfl, hnil⟩ := List.cons.inj ha
        obtain ⟨rfl, rfl⟩ := List.append_eq_nil_iff.1 hnil.symm
        obtain rfl := List.length_eq_zero_iff.1 (Nat.le_zero.1 tail.length_le)
        exact ⟨[], by rw [head.last_blank]; rfl⟩
    · obtain ⟨ds, rfl⟩ := ih ha.symm
      exact ⟨x :: ds, rfl⟩

end Spellings

/-! ### What the first character of a phrase tells -/

section Phrases

variable {d : Document} {held : List (String × Document)} {t : List Char}

/-- A number is no text. -/
theorem number_ne_str {parts : Document.Reader.NumeralParts} (h : parts.number = .ok d)
    (s : String) : d ≠ .str s := by
  rintro rfl
  unfold Document.Reader.NumeralParts.number at h
  split at h
  · split at h <;> cases h
  · cases h

/-- No call stands for a text. -/
theorem Call.ofArgument_ne_str {call : Call} {argument : Document}
    (h : call.ofArgument argument = .ok d) (s : String) : d ≠ .str s := by
  rintro rfl
  unfold Call.ofArgument at h
  split at h
  · split at h <;> cases h
  · cases h
  · split at h <;> cases h
  · cases h
  · obtain ⟨n, -, hn⟩ := Result.bind_eq_ok.1 h
    cases hn
  · obtain ⟨n, -, hn⟩ := Result.bind_eq_ok.1 h
    split at hn <;> cases hn
  · split at h
    · cases h
    · split at h <;> cases h

/-- The first character of a value: a quote, a brace, or neither. -/
theorem Spells.value_cases (h : Spells (.value d) t) :
    (∃ q cs u, Reader.isQuote q = true ∧ SpelledText q cs u ∧ d = .str (String.ofList cs) ∧
      t = q :: (u ++ [q])) ∨
    (∃ u, t = '\x7b' :: u ∧
      (d = .obj [] ∨ ∃ held, Spells (.members held) u ∧ d = .obj (Entries.ofPairs held))) ∨
    ∃ c u, t = c :: u ∧ Reader.isQuote c = false ∧ c ≠ '\x7b' ∧ ∀ s, d ≠ .str s := by
  cases h with
  | null | yes | no | emptyArr | arr => exact .inr (.inr ⟨_, _, rfl, by decide, by decide, nofun⟩)
  | numeral h hd =>
    obtain ⟨c, u, rfl, -⟩ := NumeralText.head h
    have hneutral := isNeutral_of_isOfNumeral (isOfNumeral_of_mem h c List.mem_cons_self)
    refine .inr (.inr ⟨c, u, rfl, ?_, ?_, number_ne_str hd⟩)
    · rw [Bool.eq_false_iff]
      intro hq
      simp only [Reader.isQuote, Bool.or_eq_true, beq_iff_eq] at hq
      rcases hq with rfl | rfl <;> exact absurd hneutral (by decide)
    · rintro rfl
      exact absurd hneutral (by decide)
  | @text q cs u hq h => exact .inl ⟨q, cs, u, hq, h, rfl, rfl⟩
  | emptyObj => exact .inr (.inl ⟨_, rfl, .inl rfl⟩)
  | obj h => exact .inr (.inl ⟨_, rfl, .inr ⟨_, h, rfl⟩⟩)
  | @call call argument _ w w₁ t w₂ _ _ _ _ hd =>
    have hstr := Call.ofArgument_ne_str hd
    cases call <;> exact .inr (.inr ⟨_, _, rfl, by decide, by decide, hstr⟩)

/-- A text is spelled between quotes only, with no fewer characters than it has. -/
theorem Spells.length_str_le {v : String} (h : Spells (.value (.str v)) t) :
    v.toList.length + 2 ≤ t.length := by
  obtain ⟨q, cs, u, -, hu, hv, rfl⟩ | ⟨u, -, hv | ⟨held, -, hv⟩⟩ | ⟨c, u, -, -, -, hv⟩ :=
    h.value_cases
  · cases hv
    have := hu.length_le
    simp only [String.toList_ofList, List.length_cons, List.length_append, List.length_nil]
    omega
  · cases hv
  · cases hv
  · exact absurd rfl (hv v)

/-- The first of the members of an object, with what stands behind it: the end of the object, or a
comma and the other members. -/
theorem Spells.members_cases (h : Spells (.members held) t) :
    ∃ key d others k v w w₁ w₂ behind, held = (key, d) :: others ∧ SpelledKey key k ∧
      Spells (.value d) v ∧ Blanks w ∧ Blanks w₁ ∧ Blanks w₂ ∧
      t = w ++ (k ++ (w₁ ++ ':' :: (w₂ ++ (v ++ behind)))) ∧
      (others = [] ∧ behind ≠ [] ∨
        ∃ w' s, behind = w' ++ ',' :: s ∧ Spells (.members others) s) := by
  cases h with
  | lastMember hw hk hw₁ hw₂ h he =>
    have hbehind := List.ne_nil_of_length_pos he.length_pos
    exact ⟨_, _, [], _, _, _, _, _, _, rfl, hk, h, hw, hw₁, hw₂, rfl, .inl ⟨rfl, hbehind⟩⟩
  | member hw hk hw₁ hw₂ h _ hs =>
    exact ⟨_, _, _, _, _, _, _, _, _, rfl, hk, h, hw, hw₁, hw₂, rfl, .inr ⟨_, _, rfl, hs⟩⟩

/-- A text among the members of an object is shorter than what spells them. -/
theorem Spells.length_str_lt {key v : String} (h : Spells (.members held) t)
    (hmem : (key, .str v) ∈ held) : v.toList.length + 2 ≤ t.length := by
  induction held generalizing t with
  | nil => cases hmem
  | cons p rest ih =>
    obtain ⟨k, d, others, _, value, _, _, _, behind, heq, -, hvalue, -, -, -, rfl, hbehind⟩ :=
      h.members_cases
    cases heq
    simp only [List.length_append, List.length_cons]
    rcases List.mem_cons.1 hmem with heq | hmem
    · cases heq
      have := hvalue.length_str_le
      omega
    · obtain ⟨rfl, -⟩ | ⟨w', s, rfl, hs⟩ := hbehind
      · cases hmem
      · have := ih hs hmem
        simp only [List.length_append, List.length_cons]
        omega

end Phrases

/-! ### One member -/

/-- The text of an object of one member whose key and value are put between double quotes as they
are. -/
def memberText (key value : String) : String :=
  "\x7b \"" ++ key ++ "\": \"" ++ value ++ "\"\x7d"

theorem toList_memberText (key value : String) : (memberText key value).toList =
    '\x7b' :: ' ' :: '"' :: (key.toList ++ '"' :: ':' :: ' ' :: '"' ::
      (value.toList ++ ['"', '\x7d'])) := by
  simp [memberText, String.toList_append]

/-- Plain texts in their places spell the object. -/
theorem spellsAlone_memberText {key value : String} (hkey : IsPlain key.toList)
    (hvalue : IsPlain value.toList) :
    SpellsAlone (.obj [(key, .str value)]) (memberText key value).toList := by
  have hblank : Blanks [' '] := List.all_eq_true.1 (by decide)
  have hmember := Spells.lastMember hblank (.quoted rfl hkey.spelledText) .nil hblank
    (.text rfl hvalue.spelledText) (.plain .nil)
  have hobj := Spells.obj hmember
  simp only [String.ofList_toList] at hobj
  refine ⟨[], _, [], ?_, .nil, hobj, .nil⟩
  simp [toList_memberText]

/-- Nothing but the two quoted texts stands between the braces. -/
theorem nesting_memberText {key value : String} (hkey : IsPlain key.toList)
    (hvalue : IsPlain value.toList) : nesting (memberText key value).toList ≤ 1 := by
  have hblank : Blanks [' '] := List.all_eq_true.1 (by decide)
  have hcolon : ∀ c ∈ [':', ' '], isNeutral c = true := List.all_eq_true.1 (by decide)
  have hpass : Passes 1 0 0 (memberText key value).toList [] := by
    rw [toList_memberText]
    refine (Passes.opening (.inr rfl) (Nat.le_refl 1)).trans ?_
    refine (Passes.blanks (w := [' ']) (Nat.le_refl 1) hblank).trans ?_
    refine (Passes.quoted rfl (Nat.le_refl 1) hkey.spelledText).trans ?_
    refine (Passes.neutral (t := [':', ' ']) (Nat.le_refl 1) hcolon).trans ?_
    refine (Passes.quoted rfl (Nat.le_refl 1) hvalue.spelledText).trans ?_
    exact .closing (.inr rfl) (Nat.le_refl 1)
  exact hpass.nesting_le

/-- **A key that is spelled as it is put is plain.** -/
theorem isPlain_of_key {key s r behind : List Char} (h : SpelledText '"' key s)
    (heq : s ++ '"' :: r = key ++ '"' :: ':' :: ' ' :: '"' :: behind) :
    IsPlain key ∧ r = ':' :: ' ' :: '"' :: behind := by
  have hq : Reader.isQuote '"' = true := by decide
  -- the spelling is not shorter than the key, so it is the key and perhaps more
  obtain ⟨v, rfl, hv⟩ : ∃ v, s = key ++ v ∧ v ++ '"' :: r = '"' :: ':' :: ' ' :: '"' :: behind := by
    obtain ⟨v, hs, hv⟩ | ⟨v, hkey, hv⟩ := List.append_eq_append_iff.1 heq.symm
    · exact ⟨v, hs, hv.symm⟩
    · have hlength := h.length_le
      rw [hkey, List.length_append] at hlength
      obtain rfl : v = [] := List.eq_nil_of_length_eq_zero (by omega)
      rw [List.append_nil] at hkey
      exact ⟨[], by rw [hkey, List.append_nil], hv⟩
  rcases v with _ | ⟨c, _ | ⟨c', _ | ⟨c'', v⟩⟩⟩
  · cases hv
    rw [List.append_nil] at h
    exact ⟨(h.isPlain (Nat.le_refl _)).2, rfl⟩
  · cases hv
  · cases hv
  · simp only [List.cons_append, List.cons.injEq] at hv
    obtain ⟨rfl, rfl, rfl, hv⟩ := hv
    obtain ⟨w, rfl⟩ : ∃ w, key = w ++ ['\\'] := h.before_quote hq
    rcases v with _ | ⟨c, v⟩
    · -- the closing quote is escaped, and the key ends with the blank behind the colon
      obtain ⟨ds, hds⟩ := SpelledText.last_blank (u := w ++ ['\\', '"', ':']) (by simpa using h)
      have hlast := congrArg List.getLast? hds
      simp at hlast
    · -- the quote of the value would be escaped by that blank
      obtain ⟨rfl, -⟩ := List.cons.inj hv
      obtain ⟨w', hw'⟩ := SpelledText.before_quote (u := w ++ ['\\', '"', ':', ' ']) hq
        (by simpa using h)
      have hlast := congrArg List.getLast? hw'
      simp at hlast

/-- **A value that is spelled as it is put is plain.** -/
theorem isPlain_of_value {value u behind : List Char} (h : SpelledText '"' value u)
    (heq : u ++ '"' :: behind = value ++ ['"', '\x7d']) (hbehind : behind ≠ []) :
    IsPlain value := by
  have hlength := congrArg List.length heq
  have hpos := List.length_pos_iff.2 hbehind
  simp only [List.length_append, List.length_cons, List.length_nil] at hlength
  exact (h.isPlain (by omega)).2

/-- Members that spell the object of one member start with that member's key, and the member is one
of them. -/
theorem members_of_ofPairs {name key : String} {d value : Document}
    {others : List (String × Document)}
    (h : Entries.ofPairs ((name, d) :: others) = [(key, value)]) :
    name = key ∧ (value = d ∨ (key, value) ∈ others) := by
  have hname : name ∈ (Entries.ofPairs ((name, d) :: others)).keys :=
    Entries.mem_keys_ofPairs List.mem_cons_self
  have hvalue : (Entries.ofPairs ((name, d) :: others)).get? key = some value := by
    rw [h]
    exact if_pos rfl
  rw [h] at hname
  refine ⟨List.mem_singleton.1 hname, ?_⟩
  exact (List.mem_cons.1 (Entries.mem_of_get?_ofPairs hvalue)).imp_left
    fun heq => (Prod.mk.inj heq).2

theorem trimFront_blank_quote (s : List Char) : Text.trimFront (' ' :: '"' :: s) = '"' :: s := by
  have hblank : Blanks [' '] := List.all_eq_true.1 (by decide)
  exact trimFront_mark hblank '"' (by decide) s

/-- Behind the key, the value that is put stands between the first quotes, so it is plain if it is
the value of this member, and no later member has room for it. -/
theorem isPlain_of_behind_key {key value : String} {d : Document}
    {others : List (String × Document)} {v w₁ w₂ behind rest : List Char}
    (hv : Spells (.value d) v) (hw₁ : Blanks w₁) (hw₂ : Blanks w₂)
    (hvalue : .str value = d ∨ (key, .str value) ∈ others)
    (hbehind : others = [] ∧ behind ≠ [] ∨
      ∃ w s, behind = w ++ ',' :: s ∧ Spells (.members others) s)
    (heq : w₁ ++ ':' :: (w₂ ++ (v ++ (behind ++ rest))) =
      ':' :: ' ' :: '"' :: (value.toList ++ ['"', '\x7d'])) : IsPlain value.toList := by
  have hcolon := congrArg Text.trimFront heq
  rw [trimFront_mark hw₁ ':' (by decide), Text.trimFront_cons (by decide)] at hcolon
  have htext := congrArg Text.trimFront (List.cons.inj hcolon).2
  rw [hv.head_value.trimFront_append hw₂, trimFront_blank_quote] at htext
  obtain ⟨q, cs, u, -, hu, hd, rfl⟩ | ⟨u, rfl, -⟩ | ⟨c, u, rfl, hc, -, -⟩ := hv.value_cases
  · simp only [List.cons_append, List.append_assoc, List.nil_append, List.cons.injEq] at htext
    obtain ⟨rfl, htext⟩ := htext
    obtain hfirst | hlater := hvalue
    · cases hd
      cases hfirst
      rw [String.toList_ofList] at htext ⊢
      refine isPlain_of_value hu htext fun hnil => ?_
      obtain ⟨-, hne⟩ | ⟨w, s, rfl, -⟩ := hbehind
      · exact hne (List.append_eq_nil_iff.1 hnil).1
      · simp at hnil
    · obtain ⟨rfl, -⟩ | ⟨w, s, rfl, hs⟩ := hbehind
      · cases hlater
      · have hlength := congrArg List.length htext
        have hlong := hs.length_str_lt hlater
        simp only [List.length_append, List.length_cons, List.length_nil] at hlength
        omega
  · cases (List.cons.inj htext).1
  · rw [(List.cons.inj htext).1] at hc
    cases hc

/-- Members that spell the object of one member in its text put together have a plain key and a
plain value. -/
theorem isPlain_of_members {key value : String} {held : List (String × Document)}
    {u rest : List Char} (h : Spells (.members held) u)
    (hheld : Entries.ofPairs held = [(key, .str value)])
    (heq : u ++ rest = ' ' :: '"' :: (key.toList ++ '"' :: ':' :: ' ' :: '"' ::
      (value.toList ++ ['"', '\x7d']))) : IsPlain key.toList ∧ IsPlain value.toList := by
  obtain ⟨name, d, others, k, v, w, w₁, w₂, behind, rfl, hk, hv, hw, hw₁, hw₂, rfl, hbehind⟩ :=
    h.members_cases
  obtain ⟨rfl, hvalue⟩ := members_of_ofPairs hheld
  have hkeyText := congrArg Text.trimFront heq
  rw [List.append_assoc, List.append_assoc, hk.head.trimFront_append hw,
    trimFront_blank_quote] at hkeyText
  cases hk with
  | name start _ =>
    rw [(List.cons.inj hkeyText).1] at start
    exact absurd start (by decide)
  | @quoted q cs s _ hs =>
    simp only [List.cons_append, List.append_assoc, List.nil_append, String.toList_ofList,
      List.cons.injEq] at hkeyText ⊢
    obtain ⟨rfl, hkeyText⟩ := hkeyText
    obtain ⟨hplain, hcolon⟩ := isPlain_of_key hs hkeyText
    exact ⟨hplain, isPlain_of_behind_key hv hw₁ hw₂ hvalue hbehind hcolon⟩

/-- Whatever spells the object of one member in its text put together, key and value are plain. -/
theorem isPlain_of_spellsAlone {key value : String}
    (h : SpellsAlone (.obj [(key, .str value)]) (memberText key value).toList) :
    IsPlain key.toList ∧ IsPlain value.toList := by
  obtain ⟨w, t, rest, heq, hw, ht, -⟩ := h
  rw [toList_memberText] at heq
  have hfront := congrArg Text.trimFront heq
  rw [ht.head_value.trimFront_append hw, Text.trimFront_cons (by decide)] at hfront
  obtain ⟨q, cs, u, hq, -, -, rfl⟩ | ⟨u, rfl, hd | ⟨held, hmembers, hd⟩⟩ |
    ⟨c, u, rfl, -, hc, -⟩ := ht.value_cases
  · rw [← (List.cons.inj hfront).1] at hq
    cases hq
  · cases hd
  · exact isPlain_of_members hmembers (Document.obj.inj hd).symm (List.cons.inj hfront).2.symm
  · exact absurd (List.cons.inj hfront).1.symm hc

/-- **An object of one member is read from its text put together just when key and value are
plain.** -/
theorem read_memberText {key value : String} :
    read (memberText key value).toList = .ok (.obj [(key, .str value)]) ↔
      IsPlain key.toList ∧ IsPlain value.toList := by
  constructor
  · intro h
    exact isPlain_of_spellsAlone (spellsAlone_of_read h)
  · rintro ⟨hkey, hvalue⟩
    exact (read_eq_ok (Nat.le_trans (nesting_memberText hkey hvalue) (by decide))).2
      (spellsAlone_memberText hkey hvalue)

end Query
end FormDispatch
