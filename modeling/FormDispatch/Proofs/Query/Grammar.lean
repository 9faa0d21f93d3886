/-
# The grammar of query text

What the reader of query text accepts, said without the reader. `Spells` relates a phrase to its
texts: a value, or what stands between the opening bracket of an array or object and its end, the
closing bracket included. Blanks may stand between any two parts of a phrase, and a comma after the
last item or member. A text between quotes is spelled character by character (`SpelledChar`): as
itself, by a one-letter escape, or by the number of its code unit, two of them where a character
needs a pair of surrogates. A call takes one argument, which must be of the kind that the call
wants.
-/

import FormDispatch.Proofs.Document.Numeral
import FormDispatch.Query.Reader

namespace FormDispatch
namespace Query

open Document.Reader (unit? isHighSurrogate isLowSurrogate pairedChar NumeralText isLeadingDigit)

/-- A character between quotes, and a spelling of it. -/
inductive SpelledChar (quote : Char) : Char → List Char → Prop
  | plain {c : Char} (hq : c ≠ quote) (hb : c ≠ '\\') (hc : 0x20 ≤ c.toNat) :
      SpelledChar quote c [c]
  | escape {c x : Char} (h : Reader.plainEscape? c = some x) : SpelledChar quote x ['\\', c]
  | unit {a b c d : Char} {n : Nat} (h : unit? a b c d = some n) (high : isHighSurrogate n = false)
      (low : isLowSurrogate n = false) :
      SpelledChar quote (Char.ofNat n) ['\\', 'u', a, b, c, d]
  | pair {a b c d e f g h : Char} {m n : Nat} (first : unit? a b c d = some m)
      (high : isHighSurrogate m = true) (second : unit? e f g h = some n)
      (low : isLowSurrogate n = true) :
      SpelledChar quote (pairedChar m n) ['\\', 'u', a, b, c, d, '\\', 'u', e, f, g, h]

/-- The characters of a text between quotes, and a spelling of them. -/
inductive SpelledText (quote : Char) : List Char → List Char → Prop
  | nil : SpelledText quote [] []
  | cons {x : Char} {cs u s : List Char} (head : SpelledChar quote x u)
      (tail : SpelledText quote cs s) : SpelledText quote (x :: cs) (u ++ s)

/-- Nothing but blanks. -/
def Blanks (s : List Char) : Prop :=
  ∀ c ∈ s, Text.isBlank c = true

theorem Blanks.nil : Blanks [] :=
  nofun

theorem Blanks.append {v w : List Char} (hv : Blanks v) (hw : Blanks w) : Blanks (v ++ w) :=
  fun c hc => (List.mem_append.1 hc).elim (hv c) (hw c)

/-- A key and a spelling of it: between quotes, or a name as it is. -/
inductive SpelledKey : String → List Char → Prop
  | quoted {q : Char} {cs s : List Char} (hq : Reader.isQuote q = true) (h : SpelledText q cs s) :
      SpelledKey (String.ofList cs) (q :: (s ++ [q]))
  | name {c : Char} {cs : List Char} (start : Reader.startsName c = true)
      (rest : ∀ d ∈ cs, Reader.continuesName d = true) :
      SpelledKey (String.ofList (c :: cs)) (c :: cs)

/-- The end of an array or object: perhaps a comma, and the closing bracket. -/
inductive Ending (close : Char) : List Char → Prop
  | plain {w : List Char} (hw : Blanks w) : Ending close (w ++ [close])
  | comma {w w' : List Char} (hw : Blanks w) (hw' : Blanks w') :
      Ending close (w ++ ',' :: (w' ++ [close]))

/-- What a text can spell. -/
inductive Phrase where
  | value (d : Document)
  /-- the items of an array and its end -/
  | items (held : List Document)
  /-- the members of an object and its end -/
  | members (held : List (String × Document))

/-- **The grammar of query text.** -/
inductive Spells : Phrase → List Char → Prop
  | null : Spells (.value .null) ['n', 'u', 'l', 'l']
  | yes : Spells (.value (.bool true)) ['t', 'r', 'u', 'e']
  | no : Spells (.value (.bool false)) ['f', 'a', 'l', 's', 'e']
  | numeral {parts : Document.Reader.NumeralParts} {d : Document} {t : List Char}
      (h : NumeralText Text.isDecimalDigit isLeadingDigit parts t) (hd : parts.number = .ok d) :
      Spells (.value d) t
  | text {q : Char} {cs s : List Char} (hq : Reader.isQuote q = true) (h : SpelledText q cs s) :
      Spells (.value (.str (String.ofList cs))) (q :: (s ++ [q]))
  | emptyArr {w : List Char} (hw : Blanks w) : Spells (.value (.arr [])) ('[' :: (w ++ [']']))
  | arr {held : List Document} {t : List Char} (h : Spells (.items held) t) :
      Spells (.value (.arr held)) ('[' :: t)
  | emptyObj {w : List Char} (hw : Blanks w) :
      Spells (.value (.obj [])) ('\x7b' :: (w ++ ['\x7d']))
  | obj {held : List (String × Document)} {t : List Char} (h : Spells (.members held) t) :
      Spells (.value (.obj (Entries.ofPairs held))) ('\x7b' :: t)
  | call {call : Call} {argument d : Document} {w w₁ t w₂ : List Char} (hw : Blanks w)
      (hw₁ : Blanks w₁) (h : Spells (.value argument) t) (hw₂ : Blanks w₂)
      (hd : call.ofArgument argument = .ok d) :
      Spells (.value d) (call.name.toList ++ (w ++ '(' :: (w₁ ++ (t ++ (w₂ ++ [')'])))))
  | lastItem {d : Document} {w t e : List Char} (hw : Blanks w) (h : Spells (.value d) t)
      (he : Ending ']' e) : Spells (.items [d]) (w ++ (t ++ e))
  | item {d : Document} {held : List Document} {w t w' s : List Char} (hw : Blanks w)
      (h : Spells (.value d) t) (hw' : Blanks w') (hs : Spells (.items held) s) :
      Spells (.items (d :: held)) (w ++ (t ++ (w' ++ ',' :: s)))
  | lastMember {key : String} {d : Document} {w k w₁ w₂ t e : List Char} (hw : Blanks w)
      (hk : SpelledKey key k) (hw₁ : Blanks w₁) (hw₂ : Blanks w₂) (h : Spells (.value d) t)
      (he : Ending '\x7d' e) :
      Spells (.members [(key, d)]) (w ++ (k ++ (w₁ ++ ':' :: (w₂ ++ (t ++ e)))))
  | member {key : String} {d : Document} {held : List (String × Document)}
      {w k w₁ w₂ t w' s : List Char} (hw : Blanks w) (hk : SpelledKey key k) (hw₁ : Blanks w₁)
      (hw₂ : Blanks w₂) (h : Spells (.value d) t) (hw' : Blanks w')
      (hs : Spells (.members held) s) :
      Spells (.members ((key, d) :: held))
        (w ++ (k ++ (w₁ ++ ':' :: (w₂ ++ (t ++ (w' ++ ',' :: s))))))

end Query
end FormDispatch
