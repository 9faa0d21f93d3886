/-
# Escaped texts are spelled

Whatever character stands between quotes, its escaped form is a spelling of it: with double quotes
as documents are written (`spelledChar_escaped`), and with either quote as values are put into a
text (`spelledChar_insideChar`). So nothing in a value can end the quotes around it.
-/

import FormDispatch.Proofs.Query.Grammar
import FormDispatch.Proofs.Query.Lexeme
import FormDispatch.Substitution.Value

namespace FormDispatch

namespace Document

open Reader (unit? isHighSurrogate isLowSurrogate pairedChar)

/-- A hexadecimal digit has the value it shows. -/
theorem hexValue?_hexDigit (n : Nat) : Text.hexValue? (Text.hexDigit n) = some (n % 16) := by
  have shown : ∀ d ∈ List.range 16, Text.hexValue? d.digitChar = some d := by decide
  exact shown _ (List.mem_range.2 (Nat.mod_lt n (by decide)))

/-- The escape of a code unit is made of four digits that form it. -/
theorem unitEscape_spec {n : Nat} (h : n < 0x10000) :
    ∃ a b c d, unitEscape n = ['\\', 'u', a, b, c, d] ∧ unit? a b c d = some n := by
  refine ⟨_, _, _, _, rfl, ?_⟩
  simp only [unit?, hexValue?_hexDigit, Option.bind_eq_bind, Option.bind_some, Option.pure_def,
    Option.some.injEq]
  omega

/-- A character is not a surrogate. -/
theorem not_surrogate (c : Char) :
    isHighSurrogate c.toNat = false ∧ isLowSurrogate c.toNat = false := by
  have hvalid := c.valid
  simp only [UInt32.isValidChar, Nat.isValidChar] at hvalid
  simp only [isHighSurrogate, isLowSurrogate, Bool.and_eq_false_iff, decide_eq_false_iff_not,
    Char.toNat]
  omega

/-- A character beyond the sixteen-bit range is the pair of its surrogates. -/
theorem surrogates_spec {c : Char} (h : 0x10000 ≤ c.toNat) :
    0xD800 + (c.toNat - 0x10000) / 0x400 < 0x10000 ∧
      0xDC00 + (c.toNat - 0x10000) % 0x400 < 0x10000 ∧
      isHighSurrogate (0xD800 + (c.toNat - 0x10000) / 0x400) = true ∧
      isLowSurrogate (0xDC00 + (c.toNat - 0x10000) % 0x400) = true ∧
      pairedChar (0xD800 + (c.toNat - 0x10000) / 0x400) (0xDC00 + (c.toNat - 0x10000) % 0x400) =
        c := by
  have hvalid : c.toNat < 0x110000 := by
    have := c.valid
    simp only [UInt32.isValidChar, Nat.isValidChar] at this
    simp only [Char.toNat]
    omega
  have hn : 0x10000 + (0xD800 + (c.toNat - 0x10000) / 0x400 - 0xD800) * 0x400 +
      (0xDC00 + (c.toNat - 0x10000) % 0x400 - 0xDC00) = c.toNat := by omega
  refine ⟨by omega, by omega, ?_, ?_, by rw [pairedChar, hn, Char.ofNat_toNat]⟩
  all_goals
    simp only [isHighSurrogate, isLowSurrogate, Bool.and_eq_true, decide_eq_true_eq]
    omega

end Document

namespace Query

open Document (unitEscape_spec unicodeEscape not_surrogate surrogates_spec escaped)

/-- The number of a character spells it, with two units if it needs them. -/
theorem spelledChar_unicodeEscape (q c : Char) : SpelledChar q c (unicodeEscape c) := by
  unfold unicodeEscape
  dsimp only
  split
  · next hlt =>
    obtain ⟨x, y, z, w, he, hunit⟩ := unitEscape_spec hlt
    obtain ⟨high, low⟩ := not_surrogate c
    have spelled : SpelledChar q _ _ := .unit hunit high low
    rw [he]
    simpa using spelled
  · next hge =>
    obtain ⟨hfirst, hsecond, high, low, hpair⟩ := surrogates_spec (Nat.not_lt.1 hge)
    obtain ⟨x, y, z, w, he, hunit⟩ := unitEscape_spec hfirst
    obtain ⟨x', y', z', w', he', hunit'⟩ := unitEscape_spec hsecond
    have spelled : SpelledChar q _ _ := .pair hunit high hunit' low
    rw [hpair] at spelled
    rw [he, he']
    exact spelled

/-- A character as documents are written spells it between double quotes, and between single ones
unless it is the quote. -/
theorem spelledChar_escaped {q : Char} (ascii : Bool) {c : Char} (hq : Reader.isQuote q = true)
    (hc : q = '\'' → c ≠ '\'') : SpelledChar q c (escaped ascii c) := by
  have letter : ∀ {x e : Char}, Reader.plainEscape? e = some x → (c == x) = true →
      SpelledChar q c ['\\', e] := by
    intro x e he hx
    rw [beq_iff_eq] at hx
    exact hx ▸ .escape he
  unfold escaped
  split
  · next h =>
    simp only [Bool.or_eq_true, beq_iff_eq] at h
    rcases h with rfl | rfl <;> exact .escape rfl
  · next h =>
    simp only [Bool.or_eq_true, beq_iff_eq, not_or] at h
    split
    · next hx => exact letter rfl hx
    · split
      · next hx => exact letter rfl hx
      · split
        · next hx => exact letter rfl hx
        · split
          · next hx => exact letter rfl hx
          · split
            · next hx => exact letter rfl hx
            · split
              · exact spelledChar_unicodeEscape q c
              · next hcontrol =>
                simp only [Bool.or_eq_true, not_or, decide_eq_true_eq] at hcontrol
                refine .plain ?_ h.2 (by omega)
                simp only [Reader.isQuote, Bool.or_eq_true, beq_iff_eq] at hq
                rcases hq with rfl | rfl
                · exact h.1
                · exact hc rfl

/-- **A character put between quotes is spelled there**, whichever the quote. -/
theorem spelledChar_insideChar {q : Char} (hq : Reader.isQuote q = true) (c : Char) :
    SpelledChar q c (Substitution.insideChar q c) := by
  unfold Substitution.insideChar
  split
  · next h =>
    obtain ⟨rfl, rfl⟩ := h
    exact .escape rfl
  · next h => exact spelledChar_escaped true hq fun hq hc => h ⟨hq, hc⟩

/-- Texts are spelled character by character. -/
theorem spelledText_flatMap {q : Char} {f : Char → List Char} (hf : ∀ c, SpelledChar q c (f c))
    (s : List Char) : SpelledText q s (s.flatMap f) := by
  induction s with
  | nil => exact .nil
  | cons c r ih => exact .cons (hf c) ih

/-- Spelled texts side by side spell the texts side by side. -/
theorem SpelledText.append {q : Char} {cs ds s t : List Char} (h : SpelledText q cs s)
    (h' : SpelledText q ds t) : SpelledText q (cs ++ ds) (s ++ t) := by
  induction h with
  | nil => exact h'
  | cons head _ ih =>
    rw [List.append_assoc]
    exact .cons head ih

/-- A text between double quotes as documents are written spells the text. -/
theorem spells_quotedText (ascii : Bool) (s : List Char) :
    Spells (.value (.str (String.ofList s))) (Document.quotedText ascii s) := by
  have char : ∀ c, SpelledChar '"' c (escaped ascii c) := fun c =>
    spelledChar_escaped ascii rfl fun h => absurd h (by decide)
  exact .text rfl (spelledText_flatMap char s)

end Query
end FormDispatch
