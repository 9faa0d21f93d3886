/-
# How deep a text nests

The nesting of a text is the greatest number of braces and brackets that are open at once, those
inside of quoted texts not counted. It is told from the characters alone, one after the other, with
`Substitution.Quotation` to tell what is quoted.

A text that spells a value leaves all brackets as it has found them, and ends outside of quotes
(`Spells.settles`); so the nesting of a text bounds the nesting of every value in it.
-/

import FormDispatch.Proofs.Query.Lexeme
import FormDispatch.Substitution.Quotation

namespace FormDispatch
namespace Query

open Substitution (Quotation)

/-- Where a character of a text stands: in quotes or not, and how many brackets are open. -/
structure Place where
  quotation : Quotation
  depth : Nat

namespace Place

/-- How many brackets are open after a character outside of quotes. -/
def depthAfter (depth : Nat) (c : Char) : Nat :=
  if c = '\x7b' ∨ c = '[' then depth + 1 else if c = '\x7d' ∨ c = ']' then depth - 1 else depth

/-- The place after a character. -/
def after (p : Place) (c : Char) : Place :=
  ⟨p.quotation.after c,
    match p.quotation with
    | .outside => depthAfter p.depth c
    | .inside .. => p.depth⟩

/-- The place after some characters. -/
def afterAll (p : Place) (s : List Char) : Place :=
  s.foldl after p

/-- How many brackets are open at most, at the place and after each of some characters. -/
def peak : Place → List Char → Nat
  | p, [] => p.depth
  | p, c :: r => max p.depth ((p.after c).peak r)

theorem afterAll_append (p : Place) (s t : List Char) :
    p.afterAll (s ++ t) = (p.afterAll s).afterAll t :=
  List.foldl_append

theorem afterAll_quotation (p : Place) (s : List Char) :
    (p.afterAll s).quotation = p.quotation.afterAll s := by
  induction s generalizing p with
  | nil => rfl
  | cons c r ih => exact ih (p.after c)

theorem depth_le_peak (p : Place) (s : List Char) : p.depth ≤ p.peak s := by
  cases s with
  | nil => exact Nat.le_refl _
  | cons c r => exact Nat.le_max_left _ _

/-- The peak over two texts is the greater of their peaks. -/
theorem peak_append (p : Place) (s t : List Char) :
    p.peak (s ++ t) = max (p.peak s) ((p.afterAll s).peak t) := by
  induction s generalizing p with
  | nil => exact (Nat.max_eq_right (depth_le_peak p t)).symm
  | cons c r ih =>
    rw [List.cons_append, peak, ih, peak, Nat.max_assoc]
    rfl

/-- A part of a text nests no deeper than the text. -/
theorem peak_right_le (p : Place) (s t : List Char) : (p.afterAll s).peak t ≤ p.peak (s ++ t) := by
  rw [peak_append]
  exact Nat.le_max_right _ _

theorem peak_left_le (p : Place) (s t : List Char) : p.peak s ≤ p.peak (s ++ t) := by
  rw [peak_append]
  exact Nat.le_max_left _ _

/-- What comes after some characters, from the place where they end. -/
theorem peak_tail_le {p q : Place} {s : List Char} (h : p.afterAll s = q) (t : List Char) :
    q.peak t ≤ p.peak (s ++ t) :=
  h ▸ peak_right_le p s t

theorem peak_next_le (p : Place) (c : Char) (s : List Char) :
    (p.after c).peak s ≤ p.peak (c :: s) :=
  Nat.le_max_right _ _

end Place

/-- The nesting of a text. -/
def nesting (s : List Char) : Nat :=
  (Place.mk .outside 0).peak s

/-! ### Words leave their place as it is -/

/-- A character that neither quotes nor brackets nor escapes. -/
def isNeutral (c : Char) : Bool :=
  !(['"', '\'', '\\', '\x7b', '\x7d', '[', ']'].contains c)

/-- A class of characters that holds no quotes, no brackets and no backslash. -/
theorem isNeutral_of {p : Char → Bool}
    (none_in : ['"', '\'', '\\', '\x7b', '\x7d', '[', ']'].any p = false) {c : Char}
    (h : p c = true) : isNeutral c = true := by
  simp only [isNeutral, Bool.not_eq_true', Bool.eq_false_iff, ne_eq, List.contains_iff_mem]
  intro hc
  exact List.any_eq_false.mp none_in c hc h

theorem isNeutral_of_isBlank {c : Char} (h : Text.isBlank c = true) : isNeutral c = true :=
  isNeutral_of (by decide) h

/-- A digit that leads a numeral is a digit. -/
theorem isDecimalDigit_of_isLeadingDigit {c : Char}
    (h : Document.Reader.isLeadingDigit c = true) : Text.isDecimalDigit c = true := by
  simp only [Document.Reader.isLeadingDigit, Bool.and_eq_true] at h
  exact Text.isDecimalDigit_of_isDigit h.1

theorem isNeutral_of_continuesName {c : Char} (h : Reader.continuesName c = true) :
    isNeutral c = true :=
  isNeutral_of (by decide) h

/-- A neutral character outside of quotes changes nothing. -/
theorem Place.after_of_isNeutral {c : Char} (h : isNeutral c = true) (depth : Nat) :
    (Place.mk .outside depth).after c = ⟨.outside, depth⟩ := by
  simp only [isNeutral, Bool.not_eq_true', Bool.eq_false_iff, ne_eq, List.contains_iff_mem,
    List.mem_cons, List.not_mem_nil, or_false, not_or] at h
  simp [Place.after, Quotation.after, depthAfter, h]

/-- A neutral character in front of a text adds nothing to its nesting. -/
theorem Place.peak_neutral_le {c : Char} (h : isNeutral c = true) (depth : Nat) (s : List Char) :
    (Place.mk .outside depth).peak s ≤ (Place.mk .outside depth).peak (c :: s) := by
  have next := peak_next_le (Place.mk .outside depth) c s
  rwa [after_of_isNeutral h] at next

/-- Neutral characters outside of quotes change nothing. -/
theorem Place.afterAll_of_isNeutral {s : List Char} (h : ∀ c ∈ s, isNeutral c = true)
    (depth : Nat) : (Place.mk .outside depth).afterAll s = ⟨.outside, depth⟩ := by
  induction s with
  | nil => rfl
  | cons c r ih =>
    rw [Place.afterAll, List.foldl_cons, Place.after_of_isNeutral (h c (by simp))]
    exact ih fun d hd => h d (by simp [hd])

/-- A hexadecimal digit is neither a quote nor a backslash. -/
theorem ne_of_hexValue? {c : Char} {n : Nat} (h : Text.hexValue? c = some n) :
    c ≠ '\\' ∧ ∀ q, Reader.isQuote q = true → c ≠ q := by
  refine ⟨?_, fun q hq => ?_⟩
  · rintro rfl
    exact absurd h (by simp [Text.hexValue?])
  · rintro rfl
    simp only [Reader.isQuote, Bool.or_eq_true, beq_iff_eq] at hq
    rcases hq with rfl | rfl <;> exact absurd h (by simp [Text.hexValue?])

/-- The four digits of a code unit are hexadecimal. -/
theorem hexValue?_of_unit? {a b c d : Char} {n : Nat}
    (h : Document.Reader.unit? a b c d = some n) :
    ∃ i j k l, Text.hexValue? a = some i ∧ Text.hexValue? b = some j ∧
      Text.hexValue? c = some k ∧ Text.hexValue? d = some l := by
  simp only [Document.Reader.unit?, bind, Option.bind_eq_some_iff] at h
  obtain ⟨i, hi, j, hj, k, hk, l, hl, -⟩ := h
  exact ⟨i, j, k, l, hi, hj, hk, hl⟩

/-- A numbered escape leaves a quoted place as it is. -/
theorem Place.afterAll_unit {q a b c d : Char} {n : Nat} (hq : Reader.isQuote q = true)
    (h : Document.Reader.unit? a b c d = some n) (depth : Nat) :
    (Place.mk (.inside q false) depth).afterAll ['\\', 'u', a, b, c, d] =
      ⟨.inside q false, depth⟩ := by
  obtain ⟨i, j, k, l, ha, hb, hc, hd⟩ := hexValue?_of_unit? h
  have apart := fun {c : Char} {n : Nat} (h : Text.hexValue? c = some n) =>
    And.intro (ne_of_hexValue? h).1 ((ne_of_hexValue? h).2 q hq)
  simp [afterAll, after, Quotation.after, apart ha, apart hb, apart hc, apart hd]

/-- A spelled character leaves a quoted place as it is. -/
theorem SpelledChar.afterAll {q x : Char} {u : List Char} (hq : Reader.isQuote q = true)
    (h : SpelledChar q x u) (depth : Nat) :
    (Place.mk (.inside q false) depth).afterAll u = ⟨.inside q false, depth⟩ := by
  cases h with
  | plain hc hb _ => simp [Place.afterAll, Place.after, Quotation.after, hc, hb]
  | escape _ => simp [Place.afterAll, Place.after, Quotation.after]
  | unit h _ _ => exact Place.afterAll_unit hq h depth
  | @pair a b c d e f g h _ _ first _ second _ =>
    change Place.afterAll _ (['\\', 'u', a, b, c, d] ++ ['\\', 'u', e, f, g, h]) = _
    rw [Place.afterAll_append, Place.afterAll_unit hq first, Place.afterAll_unit hq second]

/-- A spelled text leaves a quoted place as it is. -/
theorem SpelledText.afterAll {q : Char} {cs s : List Char} (hq : Reader.isQuote q = true)
    (h : SpelledText q cs s) (depth : Nat) :
    (Place.mk (.inside q false) depth).afterAll s = ⟨.inside q false, depth⟩ := by
  induction h with
  | nil => rfl
  | cons head _ ih => rw [Place.afterAll_append, head.afterAll hq, ih]

/-- A quote opens a string. -/
theorem after_outside_of_isQuote {q : Char} (hq : Reader.isQuote q = true) :
    Quotation.outside.after q = .inside q false := by
  simp only [Reader.isQuote, Bool.or_eq_true, beq_iff_eq] at hq
  rcases hq with rfl | rfl <;> rfl

/-- A quote opens a string, and no bracket. -/
theorem Place.after_of_isQuote {q : Char} (hq : Reader.isQuote q = true) (depth : Nat) :
    (Place.mk .outside depth).after q = ⟨.inside q false, depth⟩ := by
  rw [after, after_outside_of_isQuote hq]
  simp only [Reader.isQuote, Bool.or_eq_true, beq_iff_eq] at hq
  rcases hq with rfl | rfl <;> rfl

/-- A text with its quotes ends outside of quotes. -/
theorem Place.afterAll_quoted {q : Char} {cs s : List Char} (hq : Reader.isQuote q = true)
    (h : SpelledText q cs s) (depth : Nat) :
    (Place.mk .outside depth).afterAll (q :: (s ++ [q])) = ⟨.outside, depth⟩ := by
  have closed : (Place.mk (.inside q false) depth).after q = ⟨.outside, depth⟩ := by
    simp [after, Quotation.after, ne_backslash_of_isQuote hq]
  calc (Place.mk .outside depth).afterAll (q :: (s ++ [q]))
      = ((Place.mk .outside depth).after q).afterAll (s ++ [q]) := rfl
    _ = (Place.mk (.inside q false) depth).after q := by
      rw [after_of_isQuote hq, afterAll_append, h.afterAll hq]
      rfl
    _ = ⟨.outside, depth⟩ := closed

/-! ### Phrases leave their place as it is -/

/-- A character that numerals are made of. -/
def isOfNumeral (c : Char) : Bool :=
  Text.isDecimalDigit c || ['-', '+', '.', 'e', 'E'].contains c

/-- A numeral is made of digits, signs, a point, and the mark of an exponent. -/
theorem isOfNumeral_of_mem {parts : Document.Reader.NumeralParts} {t : List Char}
    (h : Document.Reader.NumeralText Text.isDecimalDigit Document.Reader.isLeadingDigit parts t) :
    ∀ c ∈ t, isOfNumeral c = true := by
  have digit : ∀ {s : List Char}, (∀ c ∈ s, Text.isDecimalDigit c = true) →
      ∀ c ∈ s, isOfNumeral c = true := fun h c hc => by simp [isOfNumeral, h c hc]
  have sign : ∀ negative, ∀ c ∈ Document.Reader.signText negative, isOfNumeral c = true :=
    fun negative => List.all_eq_true.mp (by cases negative <;> decide)
  have mark : ∀ {e : Char}, e = 'e' ∨ e = 'E' → isOfNumeral e = true := by
    rintro e (rfl | rfl) <;> decide
  have plus : isOfNumeral '+' = true := by decide
  have minus : isOfNumeral '-' = true := by decide
  have point : isOfNumeral '.' = true := by decide
  cases h with
  | @parts negative whole f x fraction exponent hw hf hx =>
    have hwhole : ∀ c ∈ whole, isOfNumeral c = true := by
      cases hw with
      | zero => exact List.all_eq_true.mp (by decide)
      | digits lead rest =>
        have hlead := isDecimalDigit_of_isLeadingDigit lead
        exact digit (List.forall_mem_cons.2 ⟨hlead, rest⟩)
    have hfraction : ∀ c ∈ f, isOfNumeral c = true := by
      cases hf with
      | none => nofun
      | some h => exact List.forall_mem_cons.2 ⟨point, digit h.2⟩
    have hexponent : ∀ c ∈ x, isOfNumeral c = true := by
      cases hx with
      | none => nofun
      | unsigned he h => exact List.forall_mem_cons.2 ⟨mark he, digit h.2⟩
      | plus he h =>
        exact List.forall_mem_cons.2 ⟨mark he, List.forall_mem_cons.2 ⟨plus, digit h.2⟩⟩
      | minus he h =>
        exact List.forall_mem_cons.2 ⟨mark he, List.forall_mem_cons.2 ⟨minus, digit h.2⟩⟩
    simp only [List.forall_mem_append]
    exact ⟨sign negative, hwhole, hfraction, hexponent⟩

/-- The characters of numerals are neutral. -/
theorem isNeutral_of_isOfNumeral {c : Char} (h : isOfNumeral c = true) : isNeutral c = true :=
  isNeutral_of (by decide) h

/-- Blanks outside of quotes change nothing. -/
theorem Blanks.afterAll {w : List Char} (hw : Blanks w) (depth : Nat) :
    (Place.mk .outside depth).afterAll w = ⟨.outside, depth⟩ :=
  Place.afterAll_of_isNeutral (fun c hc => isNeutral_of_isBlank (hw c hc)) depth

/-- The characters of a name are neutral. -/
theorem isNeutral_of_name {c : Char} {cs : List Char} (start : Reader.startsName c = true)
    (rest : ∀ d ∈ cs, Reader.continuesName d = true) : ∀ d ∈ c :: cs, isNeutral d = true := by
  have hstart : Reader.continuesName c = true := by
    rw [Reader.continuesName, start, Bool.true_or, Bool.true_or]
  exact List.forall_mem_cons.2 ⟨isNeutral_of_continuesName hstart,
    fun d hd => isNeutral_of_continuesName (rest d hd)⟩

/-- A key leaves its place as it is. -/
theorem SpelledKey.afterAll {key : String} {k : List Char} (h : SpelledKey key k) (depth : Nat) :
    (Place.mk .outside depth).afterAll k = ⟨.outside, depth⟩ := by
  cases h with
  | quoted hq h => exact Place.afterAll_quoted hq h depth
  | name start rest => exact Place.afterAll_of_isNeutral (isNeutral_of_name start rest) depth

/-- One character outside of quotes. -/
theorem Place.afterAll_cons (p : Place) (c : Char) (s : List Char) :
    p.afterAll (c :: s) = (p.after c).afterAll s :=
  rfl

/-- The end of an array or object closes one bracket. -/
theorem Ending.afterAll {close : Char} (hclose : close = ']' ∨ close = '\x7d') {e : List Char}
    (h : Ending close e) (depth : Nat) :
    (Place.mk .outside (depth + 1)).afterAll e = ⟨.outside, depth⟩ := by
  have closed : (Place.mk .outside (depth + 1)).afterAll [close] = ⟨.outside, depth⟩ := by
    rcases hclose with rfl | rfl <;> rfl
  cases h with
  | plain hw => rw [Place.afterAll_append, hw.afterAll, closed]
  | comma hw hw' =>
    rw [Place.afterAll_append, hw.afterAll, Place.afterAll_cons,
      Place.after_of_isNeutral (by decide), Place.afterAll_append, hw'.afterAll, closed]

/-- What a text of a phrase does to its place: a value nothing, and what stands between brackets
closes one. -/
def Phrase.Settles (t : List Char) (depth : Nat) : Phrase → Prop
  | value _ => (Place.mk .outside depth).afterAll t = ⟨.outside, depth⟩
  | _ => (Place.mk .outside (depth + 1)).afterAll t = ⟨.outside, depth⟩

/-- **A phrase leaves all brackets as it has found them**, but for the one that it closes. -/
theorem Spells.settles {p : Phrase} {t : List Char} (h : Spells p t) (depth : Nat) :
    p.Settles t depth := by
  have comma : isNeutral ',' = true := by decide
  have colon : isNeutral ':' = true := by decide
  induction h generalizing depth with
  | null => rfl
  | yes => rfl
  | no => rfl
  | numeral h _ =>
    exact Place.afterAll_of_isNeutral
      (fun c hc => isNeutral_of_isOfNumeral (isOfNumeral_of_mem h c hc)) depth
  | text hq h => exact Place.afterAll_quoted hq h depth
  | emptyArr hw | emptyObj hw =>
    change Place.afterAll ⟨.outside, depth + 1⟩ _ = _
    rw [Place.afterAll_append, hw.afterAll]
    rfl
  | arr _ ih | obj _ ih => exact ih depth
  | @call call _ _ w w₁ t w₂ hw hw₁ _ hw₂ _ ih =>
    have hname : ∀ c ∈ call.name.toList, isNeutral c = true :=
      List.all_eq_true.mp (by cases call <;> decide)
    simp only [Phrase.Settles] at ih ⊢
    rw [Place.afterAll_append, Place.afterAll_of_isNeutral hname, Place.afterAll_append,
      hw.afterAll, Place.afterAll_cons, Place.after_of_isNeutral (by decide),
      Place.afterAll_append, hw₁.afterAll, Place.afterAll_append, ih, Place.afterAll_append,
      hw₂.afterAll]
    rfl
  | lastItem hw _ he ih =>
    simp only [Phrase.Settles] at ih ⊢
    rw [Place.afterAll_append, hw.afterAll, Place.afterAll_append, ih, he.afterAll (.inl rfl)]
  | item hw _ hw' _ ih ihs =>
    simp only [Phrase.Settles] at ih ihs ⊢
    rw [Place.afterAll_append, hw.afterAll, Place.afterAll_append, ih, Place.afterAll_append,
      hw'.afterAll, Place.afterAll_cons, Place.after_of_isNeutral comma]
    exact ihs depth
  | lastMember hw hk hw₁ hw₂ _ he ih =>
    simp only [Phrase.Settles] at ih ⊢
    rw [Place.afterAll_append, hw.afterAll, Place.afterAll_append, hk.afterAll,
      Place.afterAll_append, hw₁.afterAll, Place.afterAll_cons, Place.after_of_isNeutral colon,
      Place.afterAll_append, hw₂.afterAll, Place.afterAll_append, ih, he.afterAll (.inr rfl)]
  | member hw hk hw₁ hw₂ _ hw' _ ih ihs =>
    simp only [Phrase.Settles] at ih ihs ⊢
    rw [Place.afterAll_append, hw.afterAll, Place.afterAll_append, hk.afterAll,
      Place.afterAll_append, hw₁.afterAll, Place.afterAll_cons, Place.after_of_isNeutral colon,
      Place.afterAll_append, hw₂.afterAll, Place.afterAll_append, ih, Place.afterAll_append,
      hw'.afterAll, Place.afterAll_cons, Place.after_of_isNeutral comma]
    exact ihs depth

end Query
end FormDispatch
