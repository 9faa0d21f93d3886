/-
# The words of query text are read

The reader of query text, one word at a time: the blanks between words are skipped, and every text
between quotes, numeral, name and key that the grammar knows is read whole. A word ends where it
does because what follows it stops words (`Stops`): a blank, a comma, a colon, a bracket, or the end
of the text. Nothing that stops a word goes on with a numeral or a name
(`not_isDecimalDigit_of_isStop`, `not_continuesName_of_isStop`).
-/

import FormDispatch.Proofs.Query.Grammar
import FormDispatch.Proofs.Text.Blank

namespace FormDispatch
namespace Query

open Document.Reader (AreNumeralClasses EndsNumeral NumeralText isLeadingDigit numeral?_append)

/-- A character that no word goes on with. -/
def isStop (c : Char) : Bool :=
  Text.isBlank c || [',', ':', '(', ')', ']', '\x7d'].contains c

/-- What follows a word stops it. -/
def Stops (rest : List Char) : Prop :=
  ∀ c ∈ rest.head?, isStop c = true

theorem Stops.nil : Stops [] := nofun

theorem Stops.cons {c : Char} (h : isStop c = true) (s : List Char) : Stops (c :: s) := by
  rintro _ ⟨⟩
  exact h

/-- Blanks stop a word as well as what follows them. -/
theorem Stops.blanks {w s : List Char} (hw : Blanks w) (hs : Stops s) : Stops (w ++ s) := by
  cases w with
  | nil => exact hs
  | cons c r => exact .cons (by simp [isStop, hw c (by simp)]) _

/-- What stops a word is a blank, or one of six characters. -/
theorem isStop_cases {c : Char} (h : isStop c = true) :
    Text.isBlank c = true ∨ c ∈ [',', ':', '(', ')', ']', '\x7d'] := by
  simpa only [isStop, Bool.or_eq_true, List.contains_iff_mem] using h

/-- Nothing that stops a word is a digit. -/
theorem not_isDecimalDigit_of_isStop {c : Char} (h : isStop c = true) :
    Text.isDecimalDigit c = false := by
  rcases isStop_cases h with h | h
  · exact Text.not_isDecimalDigit_of_isBlank h
  · have none_found : [',', ':', '(', ')', ']', '\x7d'].any Text.isDecimalDigit = false := by
      decide
    exact Bool.eq_false_iff.mpr (List.any_eq_false.mp none_found c h)

/-- Nothing that stops a word goes on with a name. -/
theorem not_continuesName_of_isStop {c : Char} (h : isStop c = true) :
    Reader.continuesName c = false := by
  rcases isStop_cases h with h | h
  · have hn := Text.mem_blankPoints h
    have none_found : ∀ n ∈ Text.blankPoints, Reader.continuesName (Char.ofNat n) = false := by
      decide
    simpa using none_found _ hn
  · have none_found : [',', ':', '(', ')', ']', '\x7d'].any Reader.continuesName = false := by
      decide
    exact Bool.eq_false_iff.mpr (List.any_eq_false.mp none_found c h)

/-- No sign, point or mark of an exponent is a digit. -/
theorem numeralClasses : AreNumeralClasses Text.isDecimalDigit isLeadingDigit where
  point := by decide
  mark := by decide
  sign := by decide
  lead c h := by
    simp only [isLeadingDigit, Bool.and_eq_true, bne_iff_ne] at h
    exact ⟨h.2, fun e => by simp [e] at h⟩

/-- What stops a word ends a numeral. -/
theorem Stops.endsNumeral {rest : List Char} (h : Stops rest) :
    EndsNumeral Text.isDecimalDigit rest := by
  have no_part : ∀ c, c = '.' ∨ c = 'e' ∨ c = 'E' → isStop c = false := by
    rintro c (rfl | rfl | rfl) <;> decide
  intro c hc
  have hstop := h c hc
  refine ⟨not_isDecimalDigit_of_isStop hstop, ?_, ?_, ?_⟩ <;>
    exact fun e => by simp [no_part c (by simp [e])] at hstop

/-- A numeral of the grammar is read. -/
theorem number_append {parts : Document.Reader.NumeralParts} {d : Document} {t rest : List Char}
    (h : NumeralText Text.isDecimalDigit isLeadingDigit parts t) (hd : parts.number = .ok d)
    (hrest : Stops rest) : Reader.number (t ++ rest) = .ok (d, rest) := by
  rw [Reader.number, numeral?_append numeralClasses h hrest.endsNumeral]
  simp only [hd]

/-- A name of the grammar is read. -/
theorem name?_append {c : Char} {cs rest : List Char} (start : Reader.startsName c = true)
    (hcs : ∀ d ∈ cs, Reader.continuesName d = true) (hrest : Stops rest) :
    Reader.name? (c :: (cs ++ rest)) = some (String.ofList (c :: cs), rest) := by
  have taken : (cs ++ rest).takeWhile Reader.continuesName = cs ∧
      (cs ++ rest).dropWhile Reader.continuesName = rest := by
    rw [List.takeWhile_append_of_pos hcs, List.dropWhile_append_of_pos hcs]
    cases rest with
    | nil => simp
    | cons d r => simp [not_continuesName_of_isStop (hrest d rfl)]
  rw [Reader.name?, if_pos start, taken.1, taken.2]

/-- The first unit of a pair is no second one. -/
theorem not_isLowSurrogate_of_isHighSurrogate {n : Nat}
    (h : Document.Reader.isHighSurrogate n = true) : Document.Reader.isLowSurrogate n = false := by
  simp only [Document.Reader.isHighSurrogate, Bool.and_eq_true, decide_eq_true_eq] at h
  simp only [Document.Reader.isLowSurrogate, Bool.and_eq_false_iff, decide_eq_false_iff_not]
  omega

/-- A quote is no backslash. -/
theorem ne_backslash_of_isQuote {q : Char} (hq : Reader.isQuote q = true) : q ≠ '\\' := by
  rintro rfl
  exact absurd hq (by decide)

/-- A character that is no backslash is read as itself, unless it ends the text. -/
theorem text_cons {c : Char} (hc : c ≠ '\\') (q : Char) (held r : List Char) :
    Reader.text q held none (c :: r) =
      if c == q then .ok (String.ofList held.reverse, r)
      else if c.toNat < 0x20 then .error (.flaw .controlCharacter (r.length + 1))
      else Reader.text q (c :: held) none r := by
  rw [Reader.text.eq_def]
  split <;> simp_all

/-- A one-letter escape is read as its character. -/
theorem text_escape {c x : Char} (h : Reader.plainEscape? c = some x) (q : Char)
    (held r : List Char) :
    Reader.text q held none ('\\' :: c :: r) = Reader.text q (x :: held) none r := by
  have hu : c ≠ 'u' := by
    rintro rfl
    simp [Reader.plainEscape?, Document.Reader.plainEscape?] at h
  rw [Reader.text.eq_def]
  split <;> grind

/-- A character of the grammar is read as it is spelled. -/
theorem text_spelledChar {q x : Char} {u : List Char} (h : SpelledChar q x u)
    (held s : List Char) :
    Reader.text q held none (u ++ s) = Reader.text q (x :: held) none s := by
  cases h with
  | plain hq hb hc =>
    rw [List.singleton_append, text_cons hb, if_neg (by simpa using hq), if_neg (by omega)]
  | escape h => exact text_escape h q held s
  | unit h high low => simp [Reader.text, h, Reader.withUnit, high, low]
  | pair first high second low =>
    have not_low : Document.Reader.isLowSurrogate _ = false :=
      not_isLowSurrogate_of_isHighSurrogate high
    simp [Reader.text, first, second, Reader.withUnit, high, low, not_low]

/-- A text of the grammar is read up to its closing quote. -/
theorem text_spelledText {q : Char} {cs s : List Char} (hq : Reader.isQuote q = true)
    (h : SpelledText q cs s) (held rest : List Char) :
    Reader.text q held none (s ++ q :: rest) =
      .ok (String.ofList (held.reverse ++ cs), rest) := by
  induction h generalizing held with
  | nil => simp [text_cons (ne_backslash_of_isQuote hq)]
  | cons head _ ih =>
    rw [List.append_assoc, text_spelledChar head, ih]
    simp

/-- A key of the grammar is read. -/
theorem keyText_append {key : String} {k rest : List Char} (h : SpelledKey key k)
    (hrest : Stops rest) : Reader.keyText (k ++ rest) = .ok (key, rest) := by
  cases h with
  | quoted hq h =>
    simp only [List.cons_append, List.append_assoc, List.nil_append, Reader.keyText, hq, if_true]
    simpa using text_spelledText hq h [] rest
  | name start hcs =>
    next c cs =>
    have hq : ¬ Reader.isQuote c = true := by
      simp only [Reader.isQuote, Bool.or_eq_true, beq_iff_eq]
      rintro (rfl | rfl) <;> exact absurd start (by decide)
    simp only [List.cons_append, Reader.keyText, if_neg hq, name?_append start hcs hrest]

end Query
end FormDispatch
