/-
# Texts that escape surrogates in pairs

JSON lets a text escape one unit of a surrogate pair without the other. No text holds such a unit,
so the reader puts U+FFFD in its place, and texts that differ in such units alone are read alike.
Whether a text escapes surrogates in pairs only is told from its characters (`isPaired`); what is
said of a document that stands for a text is said of texts like these.

The text of a document is one of them (`isPaired_written`).
-/

import FormDispatch.Proofs.Document.RoundTrip
import FormDispatch.Proofs.Query.Nesting

namespace FormDispatch
namespace Document

open Query (SpelledChar)
open Reader (unit? isHighSurrogate isLowSurrogate NumeralText isLeadingDigit)

/-- Every escaped first unit of a surrogate pair is followed by an escaped second unit, and every
second one follows a first one; `waiting` tells that a first unit has just been escaped. -/
def isPairedFrom : (waiting : Bool) → List Char → Bool
  | waiting, [] => !waiting
  | waiting, '\\' :: 'u' :: a :: b :: c :: d :: r =>
    match unit? a b c d with
    | some unit => waiting == isLowSurrogate unit && isPairedFrom (isHighSurrogate unit) r
    | none => !waiting && isPairedFrom false r
  | waiting, '\\' :: _ :: r => !waiting && isPairedFrom false r
  | waiting, _ :: r => !waiting && isPairedFrom false r

/-- No surrogate is escaped without its partner. -/
def isPaired (s : List Char) : Bool :=
  isPairedFrom false s

/-- A pair of escapes is one character, a first unit alone is none. -/
example : isPaired "\\ud83d\\ude00".toList = true ∧ isPaired "\\ud83d".toList = false := by
  decide

/-- A character that is no backslash escapes nothing. -/
theorem isPairedFrom_cons {c : Char} (hc : c ≠ '\\') (r : List Char) :
    isPairedFrom false (c :: r) = isPairedFrom false r := by
  rw [isPairedFrom.eq_def]
  split <;> simp_all

/-- A one-letter escape is no surrogate. -/
theorem isPairedFrom_escape {c : Char} (hc : c ≠ 'u') (r : List Char) :
    isPairedFrom false ('\\' :: c :: r) = isPairedFrom false r := by
  rw [isPairedFrom.eq_def]
  split <;> grind

/-- Characters that are no backslashes escape nothing. -/
theorem isPairedFrom_append {s : List Char} (hs : ∀ c ∈ s, c ≠ '\\') (r : List Char) :
    isPairedFrom false (s ++ r) = isPairedFrom false r := by
  induction s with
  | nil => rfl
  | cons c t ih =>
    rw [List.cons_append, isPairedFrom_cons (hs c (by simp)), ih fun d hd => hs d (by simp [hd])]

/-- After a first unit comes a second one. -/
theorem isPairedFrom_true {s : List Char} (h : isPairedFrom true s = true) :
    ∃ a b c d unit r, s = '\\' :: 'u' :: a :: b :: c :: d :: r ∧ unit? a b c d = some unit ∧
      isLowSurrogate unit = true ∧ isPairedFrom false r = true := by
  rw [isPairedFrom.eq_def] at h
  split at h
  · cases h
  · next a b c d r =>
    split at h
    · next unit hunit =>
      simp only [Bool.and_eq_true, beq_iff_eq] at h
      obtain ⟨hlow, hr⟩ := h
      have hhigh : isHighSurrogate unit = false := by
        rw [Bool.eq_false_iff]
        intro hhigh
        rw [Query.not_isLowSurrogate_of_isHighSurrogate hhigh] at hlow
        cases hlow
      rw [hhigh] at hr
      exact ⟨a, b, c, d, unit, r, rfl, hunit, hlow.symm, hr⟩
    · cases h
  · cases h
  · cases h

/-! ### Written documents -/

/-- A text leaves no unit behind that waits for its partner, and none that misses it: it does not
matter to what follows. -/
def IsClosed (s : List Char) : Prop :=
  ∀ r, isPairedFrom false (s ++ r) = isPairedFrom false r

namespace IsClosed

variable {s t : List Char}

theorem nil : IsClosed [] :=
  fun _ => rfl

theorem append (hs : IsClosed s) (ht : IsClosed t) : IsClosed (s ++ t) := fun r => by
  rw [List.append_assoc, hs, ht]

theorem plain (h : ∀ c ∈ s, c ≠ '\\') : IsClosed s :=
  isPairedFrom_append h

theorem cons {c : Char} (hc : c ≠ '\\') (hs : IsClosed s) : IsClosed (c :: s) := fun r => by
  rw [List.cons_append, isPairedFrom_cons hc, hs]

theorem word (h : s.all Query.isNeutral = true) : IsClosed s :=
  plain fun c hc hback => by
    have hneutral := List.all_eq_true.1 h c hc
    rw [hback] at hneutral
    exact absurd hneutral (by decide)

theorem gaps (h : Gaps s) : IsClosed s :=
  plain fun c hc hback => by
    have hgap := h c hc
    rw [hback] at hgap
    exact absurd hgap (by decide)

theorem numeral {parts : Reader.NumeralParts}
    (h : NumeralText Char.isDigit isLeadingDigit parts s) : IsClosed s := by
  have hnumeral := h.mono (fun c => Text.isDecimalDigit_of_isDigit) fun c hc => hc
  refine plain fun c hc hback => ?_
  have hof := Query.isOfNumeral_of_mem hnumeral c hc
  rw [hback] at hof
  exact absurd hof (by decide)

/-- A spelled character is escaped as itself or as a pair. -/
theorem spelledChar {x : Char} (h : SpelledChar '"' x s) : IsClosed s := by
  intro r
  cases h with
  | plain _ hb _ => exact isPairedFrom_cons hb r
  | @escape c _ h =>
    have hc : c ≠ 'u' := by
      rintro rfl
      exact absurd h (by simp [Query.Reader.plainEscape?, Reader.plainEscape?])
    exact isPairedFrom_escape hc r
  | unit h high low => simp [isPairedFrom, h, high, low]
  | @pair _ _ _ _ _ _ _ _ _ n first high second low =>
    have hlow : isHighSurrogate n = false := by
      rw [Bool.eq_false_iff]
      intro hhigh
      rw [Query.not_isLowSurrogate_of_isHighSurrogate hhigh] at low
      cases low
    have hfirst := Query.not_isLowSurrogate_of_isHighSurrogate high
    simp [isPairedFrom, first, second, high, low, hlow, hfirst]

theorem quotedText (ascii : Bool) (s : List Char) : IsClosed (quotedText ascii s) := by
  have hquote : '"' ≠ '\\' := by decide
  have hinside : IsClosed (s.flatMap (escaped ascii)) := by
    induction s with
    | nil => exact nil
    | cons c s ih =>
      rw [List.flatMap_cons]
      exact (spelledChar (Query.spelledChar_escaped ascii rfl fun h => absurd h (by decide))).append
        ih
  exact cons hquote (hinside.append (cons hquote nil))

end IsClosed

section Written

variable {layout : Layout}

theorem isClosed_between (hlayout : layout.Spaced) (depth : Nat) :
    IsClosed (layout.between depth) :=
  .cons (by decide) ((IsClosed.gaps hlayout.comma).append (.gaps (gaps_lead layout depth)))

mutual

/-- **A document is written with surrogates in pairs.** -/
theorem isClosed_chars (hlayout : layout.Spaced) :
    (d : Document) → (depth : Nat) → IsClosed (d.chars layout depth)
  | null, _ => .word rfl
  | bool true, _ => .word rfl
  | bool false, _ => .word rfl
  | int n, _ => .numeral (Numeral.numeralText_chars n)
  | float .nan, _ => .word rfl
  | float (.infinite true), _ => .word rfl
  | float (.infinite false), _ => .word rfl
  | float (.finite negative rank), _ =>
    have ⟨_, htext, _⟩ := Binary64.number_finiteChars negative rank
    .numeral htext
  | str s, _ => .quotedText layout.ascii s.toList
  | arr [], _ => .cons (by decide) (.cons (by decide) .nil)
  | arr (item :: rest), depth =>
    have hlead := fun depth => IsClosed.gaps (gaps_lead layout depth)
    .cons (by decide) (((((hlead (depth + 1)).append
      (isClosed_chars hlayout item (depth + 1))).append
        (isClosed_items hlayout rest (depth + 1))).append (hlead depth)).append
          (.cons (by decide) .nil))
  | obj [], _ => .cons (by decide) (.cons (by decide) .nil)
  | obj ((key, value) :: rest), depth =>
    have hlead := fun depth => IsClosed.gaps (gaps_lead layout depth)
    .cons (by decide) (((hlead (depth + 1)).append (.quotedText layout.ascii key.toList)).append
      (.cons (by decide) (((((IsClosed.gaps hlayout.colon).append
        (isClosed_chars hlayout value (depth + 1))).append
          (isClosed_members hlayout rest (depth + 1))).append (hlead depth)).append
            (.cons (by decide) .nil))))

theorem isClosed_items (hlayout : layout.Spaced) :
    (items : List Document) → (depth : Nat) → IsClosed (itemChars layout depth items)
  | [], _ => .nil
  | item :: rest, depth =>
    ((isClosed_between hlayout depth).append (isClosed_chars hlayout item depth)).append
      (isClosed_items hlayout rest depth)

theorem isClosed_members (hlayout : layout.Spaced) :
    (members : List (String × Document)) → (depth : Nat) →
      IsClosed (memberChars layout depth members)
  | [], _ => .nil
  | (key, value) :: rest, depth =>
    ((isClosed_between hlayout depth).append (.quotedText layout.ascii key.toList)).append
      (.cons (by decide) (((IsClosed.gaps hlayout.colon).append
        (isClosed_chars hlayout value depth)).append (isClosed_members hlayout rest depth)))

end

/-- **The text of a document escapes surrogates in pairs only.** -/
theorem isPaired_written (d : Document) : isPaired (d.written .inline).toList = true := by
  have hclosed := isClosed_chars Layout.spaced_inline d 0 []
  rw [List.append_nil] at hclosed
  rw [written, String.toList_ofList, isPaired, hclosed]
  rfl

end Written

end Document
end FormDispatch
