/-
# What a numeral looks like

The grammar of numerals beside the reader of numerals: an optional minus sign, a whole part without
needless zeros in front, then perhaps a point with digits and an exponent with digits. The classes
of digits are free, since JSON text knows the digits of ASCII alone and query text those of every
script.

`Reader.numeral?` takes the longest numeral there is. Whatever it takes is a numeral
(`numeral?_sound`), and a numeral is taken whole unless what follows it goes on with it
(`numeral?_append`).
-/

import FormDispatch.Document.Reader

namespace FormDispatch
namespace Document
namespace Reader

variable {isDigit isLeading : Char → Bool}

/-- The sign of a numeral. -/
def signText (negative : Bool) : List Char :=
  if negative then ['-'] else []

/-- Digits, one at least. -/
def AreDigits (isDigit : Char → Bool) (s : List Char) : Prop :=
  s ≠ [] ∧ ∀ c ∈ s, isDigit c = true

/-- The whole part of a numeral: a zero alone, or digits of which the first may lead. -/
inductive WholePart (isDigit isLeading : Char → Bool) : List Char → Prop
  | zero : WholePart isDigit isLeading ['0']
  | digits {c : Char} {s : List Char} (lead : isLeading c = true)
      (rest : ∀ d ∈ s, isDigit d = true) : WholePart isDigit isLeading (c :: s)

/-- The fraction of a numeral: nothing, or a point and digits. -/
inductive FractionPart (isDigit : Char → Bool) : Option (List Char) → List Char → Prop
  | none : FractionPart isDigit none []
  | some {s : List Char} (digits : AreDigits isDigit s) : FractionPart isDigit (some s) ('.' :: s)

/-- The exponent of a numeral: nothing, or its mark, perhaps a sign, and digits. -/
inductive ExponentPart (isDigit : Char → Bool) : Option (Bool × List Char) → List Char → Prop
  | none : ExponentPart isDigit none []
  | unsigned {e : Char} {s : List Char} (mark : e = 'e' ∨ e = 'E') (digits : AreDigits isDigit s) :
      ExponentPart isDigit (some (false, s)) (e :: s)
  | plus {e : Char} {s : List Char} (mark : e = 'e' ∨ e = 'E') (digits : AreDigits isDigit s) :
      ExponentPart isDigit (some (false, s)) (e :: '+' :: s)
  | minus {e : Char} {s : List Char} (mark : e = 'e' ∨ e = 'E') (digits : AreDigits isDigit s) :
      ExponentPart isDigit (some (true, s)) (e :: '-' :: s)

/-- The text of a numeral with the given parts. -/
inductive NumeralText (isDigit isLeading : Char → Bool) : NumeralParts → List Char → Prop
  | parts {negative : Bool} {whole f x : List Char} {fraction : Option (List Char)}
      {exponent : Option (Bool × List Char)} (hw : WholePart isDigit isLeading whole)
      (hf : FractionPart isDigit fraction f) (hx : ExponentPart isDigit exponent x) :
      NumeralText isDigit isLeading ⟨negative, whole, fraction, exponent⟩
        (signText negative ++ (whole ++ (f ++ x)))

/-! ### The reader in four steps -/

/-- The sign that starts a text. -/
def signOf : List Char → Bool × List Char
  | '-' :: r => (true, r)
  | r => (false, r)

/-- The whole part that starts a text. -/
def wholeOf? (isDigit isLeading : Char → Bool) : List Char → Option (List Char × List Char)
  | '0' :: r => some (['0'], r)
  | c :: r => if isLeading c then some (c :: r.takeWhile isDigit, r.dropWhile isDigit) else none
  | [] => none

/-- The fraction that starts a text. -/
def fractionOf (isDigit : Char → Bool) (s : List Char) : Option (List Char) × List Char :=
  match s with
  | '.' :: r =>
    if (r.takeWhile isDigit).isEmpty then (none, s)
    else (some (r.takeWhile isDigit), r.dropWhile isDigit)
  | _ => (none, s)

/-- The sign of the exponent that starts a text. -/
def exponentSignOf : List Char → Bool × List Char
  | '-' :: r => (true, r)
  | '+' :: r => (false, r)
  | r => (false, r)

/-- The exponent that starts a text. -/
def exponentOf (isDigit : Char → Bool) (s : List Char) : Option (Bool × List Char) × List Char :=
  match s with
  | e :: r =>
    if e == 'e' || e == 'E' then
      if ((exponentSignOf r).2.takeWhile isDigit).isEmpty then (none, s)
      else (some ((exponentSignOf r).1, (exponentSignOf r).2.takeWhile isDigit),
        (exponentSignOf r).2.dropWhile isDigit)
    else (none, s)
  | [] => (none, s)

/-- A numeral is read part by part. -/
theorem numeral?_eq (isDigit isLeading : Char → Bool) (s : List Char) :
    numeral? isDigit isLeading s =
      (wholeOf? isDigit isLeading (signOf s).2).map fun p =>
        (⟨(signOf s).1, p.1, (fractionOf isDigit p.2).1,
            (exponentOf isDigit (fractionOf isDigit p.2).2).1⟩,
          (exponentOf isDigit (fractionOf isDigit p.2).2).2) := by
  rfl

/-! ### What is taken is a numeral -/

theorem signText_signOf (s : List Char) : signText (signOf s).1 ++ (signOf s).2 = s := by
  unfold signOf
  split <;> rfl

/-- A whole part that is taken is one. -/
theorem wholeOf?_sound {s w r : List Char} (h : wholeOf? isDigit isLeading s = some (w, r)) :
    s = w ++ r ∧ WholePart isDigit isLeading w := by
  unfold wholeOf? at h
  split at h
  · cases h
    exact ⟨rfl, .zero⟩
  · next c t _ =>
    split at h
    · next hc =>
      cases h
      exact ⟨by simp, .digits hc (List.all_eq_true.1 List.all_takeWhile)⟩
    · cases h
  · cases h

/-- Digits that are taken are digits. -/
theorem areDigits_takeWhile {s : List Char} (h : ¬ (s.takeWhile isDigit).isEmpty = true) :
    AreDigits isDigit (s.takeWhile isDigit) :=
  ⟨fun e => h (by rw [e]; rfl), List.all_eq_true.1 List.all_takeWhile⟩

/-- A fraction that is taken is one. -/
theorem fractionOf_sound (isDigit : Char → Bool) (s : List Char) :
    ∃ f, s = f ++ (fractionOf isDigit s).2 ∧ FractionPart isDigit (fractionOf isDigit s).1 f := by
  unfold fractionOf
  split
  · next r =>
    split
    · exact ⟨[], rfl, .none⟩
    · next hd => exact ⟨_, by simp, .some (areDigits_takeWhile hd)⟩
  · exact ⟨[], rfl, .none⟩

/-- An exponent that is taken is one. -/
theorem exponentOf_sound (isDigit : Char → Bool) (s : List Char) :
    ∃ x, s = x ++ (exponentOf isDigit s).2 ∧ ExponentPart isDigit (exponentOf isDigit s).1 x := by
  unfold exponentOf
  split
  · next e r =>
    split
    · next he =>
      have mark : e = 'e' ∨ e = 'E' := by simpa using he
      split
      · exact ⟨[], rfl, .none⟩
      · next hd =>
        have digits := areDigits_takeWhile hd
        revert digits
        unfold exponentSignOf
        split
        · exact fun digits => ⟨_, by simp, .minus mark digits⟩
        · exact fun digits => ⟨_, by simp, .plus mark digits⟩
        · exact fun digits => ⟨_, by simp, .unsigned mark digits⟩
    · exact ⟨[], rfl, .none⟩
  · exact ⟨[], rfl, .none⟩

/-- **Whatever is taken is a numeral.** -/
theorem numeral?_sound {s rest : List Char} {parts : NumeralParts}
    (h : numeral? isDigit isLeading s = some (parts, rest)) :
    ∃ t, s = t ++ rest ∧ NumeralText isDigit isLeading parts t := by
  rw [numeral?_eq] at h
  obtain ⟨⟨w, r⟩, hw, hp⟩ := Option.map_eq_some_iff.1 h
  obtain ⟨hs, hwhole⟩ := wholeOf?_sound hw
  obtain ⟨f, hf, hfraction⟩ := fractionOf_sound isDigit r
  obtain ⟨x, hx, hexponent⟩ := exponentOf_sound isDigit (fractionOf isDigit r).2
  cases hp
  refine ⟨_, ?_, .parts hwhole hfraction hexponent⟩
  calc s = signText (signOf s).1 ++ (w ++ r) := by rw [← hs, signText_signOf]
    _ = _ := by simp only [List.append_assoc, ← hx, ← hf]

/-! ### A numeral is taken whole -/

/-- Classes of digits that no sign, point or mark belongs to. -/
structure AreNumeralClasses (isDigit isLeading : Char → Bool) : Prop where
  point : isDigit '.' = false
  mark : isDigit 'e' = false ∧ isDigit 'E' = false
  sign : isDigit '+' = false ∧ isDigit '-' = false
  lead : ∀ c, isLeading c = true → c ≠ '0' ∧ c ≠ '-'

/-- What follows goes on neither with digits nor with another part. -/
def EndsNumeral (isDigit : Char → Bool) (rest : List Char) : Prop :=
  ∀ c ∈ rest.head?, isDigit c = false ∧ c ≠ '.' ∧ c ≠ 'e' ∧ c ≠ 'E'

/-- What follows does not go on with digits. -/
def EndsDigits (isDigit : Char → Bool) (rest : List Char) : Prop :=
  ∀ c ∈ rest.head?, isDigit c = false

theorem EndsNumeral.endsDigits {rest : List Char} (h : EndsNumeral isDigit rest) :
    EndsDigits isDigit rest :=
  fun c hc => (h c hc).1

/-- Digits are taken whole. -/
theorem takeWhile_digits {s rest : List Char} (hs : ∀ c ∈ s, isDigit c = true)
    (hrest : EndsDigits isDigit rest) : (s ++ rest).takeWhile isDigit = s := by
  rw [List.takeWhile_append_of_pos hs]
  cases rest with
  | nil => simp
  | cons c r => simp [hrest c rfl]

/-- After the digits that are taken comes what follows them. -/
theorem dropWhile_digits {s rest : List Char} (hs : ∀ c ∈ s, isDigit c = true)
    (hrest : EndsDigits isDigit rest) : (s ++ rest).dropWhile isDigit = rest := by
  rw [List.dropWhile_append_of_pos hs]
  cases rest with
  | nil => rfl
  | cons c r => simp [hrest c rfl]

/-- A whole part is taken whole. -/
theorem wholeOf?_append (classes : AreNumeralClasses isDigit isLeading) {w rest : List Char}
    (h : WholePart isDigit isLeading w) (hrest : EndsDigits isDigit rest) :
    wholeOf? isDigit isLeading (w ++ rest) = some (w, rest) := by
  cases h with
  | zero => rfl
  | digits lead hs =>
    next c s =>
    have hc : c ≠ '0' := (classes.lead c lead).1
    simp [wholeOf?, lead, takeWhile_digits hs hrest, dropWhile_digits hs hrest]

/-- A fraction is taken whole. -/
theorem fractionOf_append {fraction : Option (List Char)} {f rest : List Char}
    (h : FractionPart isDigit fraction f) (hrest : EndsDigits isDigit rest)
    (hpoint : ∀ c ∈ rest.head?, c ≠ '.') :
    fractionOf isDigit (f ++ rest) = (fraction, rest) := by
  cases h with
  | none =>
    cases rest with
    | nil => rfl
    | cons c r =>
      have hc : c ≠ '.' := hpoint c rfl
      simp [fractionOf, hc]
  | some digits =>
    simp [fractionOf, takeWhile_digits digits.2 hrest, dropWhile_digits digits.2 hrest, digits.1]

/-- Digits do not start with a sign. -/
theorem exponentSignOf_digits (classes : AreNumeralClasses isDigit isLeading) {s rest : List Char}
    (h : AreDigits isDigit s) : exponentSignOf (s ++ rest) = (false, s ++ rest) := by
  obtain ⟨hne, hs⟩ := h
  cases s with
  | nil => exact absurd rfl hne
  | cons d t =>
    have hd : isDigit d = true := hs d (by simp)
    have hplus : d ≠ '+' := fun e => by simp [e, classes.sign.1] at hd
    have hminus : d ≠ '-' := fun e => by simp [e, classes.sign.2] at hd
    simp [exponentSignOf, hplus, hminus]

/-- An exponent is taken whole. -/
theorem exponentOf_append (classes : AreNumeralClasses isDigit isLeading)
    {exponent : Option (Bool × List Char)} {x rest : List Char}
    (h : ExponentPart isDigit exponent x) (hrest : EndsNumeral isDigit rest) :
    exponentOf isDigit (x ++ rest) = (exponent, rest) := by
  cases h with
  | none =>
    cases rest with
    | nil => rfl
    | cons c r => simp [exponentOf, (hrest c rfl).2.2]
  | unsigned mark digits =>
    simp [exponentOf, mark, exponentSignOf_digits classes digits, digits.1,
      takeWhile_digits digits.2 hrest.endsDigits, dropWhile_digits digits.2 hrest.endsDigits]
  | plus mark digits =>
    simp [exponentOf, mark, exponentSignOf, digits.1,
      takeWhile_digits digits.2 hrest.endsDigits, dropWhile_digits digits.2 hrest.endsDigits]
  | minus mark digits =>
    simp [exponentOf, mark, exponentSignOf, digits.1,
      takeWhile_digits digits.2 hrest.endsDigits, dropWhile_digits digits.2 hrest.endsDigits]

/-- An exponent, or what follows a numeral without one, goes on with neither digits nor a
fraction. -/
theorem ExponentPart.head_append (classes : AreNumeralClasses isDigit isLeading)
    {exponent : Option (Bool × List Char)} {x rest : List Char}
    (h : ExponentPart isDigit exponent x) (hrest : EndsNumeral isDigit rest) :
    ∀ c ∈ (x ++ rest).head?, isDigit c = false ∧ c ≠ '.' := by
  have marked : ∀ {e : Char}, e = 'e' ∨ e = 'E' → isDigit e = false ∧ e ≠ '.' := by
    rintro e (rfl | rfl)
    · exact ⟨classes.mark.1, by decide⟩
    · exact ⟨classes.mark.2, by decide⟩
  intro c hc
  cases h with
  | none => exact ⟨(hrest c hc).1, (hrest c hc).2.1⟩
  | unsigned mark _ => cases hc; exact marked mark
  | plus mark _ => cases hc; exact marked mark
  | minus mark _ => cases hc; exact marked mark

/-- A fraction, or what follows a whole part without one, does not go on with digits. -/
theorem FractionPart.head_append (classes : AreNumeralClasses isDigit isLeading)
    {fraction : Option (List Char)} {f rest : List Char} (h : FractionPart isDigit fraction f)
    (hrest : EndsDigits isDigit rest) : EndsDigits isDigit (f ++ rest) := by
  cases h with
  | none => exact hrest
  | some _ => intro c hc; cases hc; exact classes.point

/-- A sign is taken, and a whole part does not start with one. -/
theorem signOf_append (classes : AreNumeralClasses isDigit isLeading) (negative : Bool)
    {w rest : List Char} (h : WholePart isDigit isLeading w) :
    signOf (signText negative ++ (w ++ rest)) = (negative, w ++ rest) := by
  cases negative with
  | true => rfl
  | false =>
    cases h with
    | zero => rfl
    | digits lead _ =>
      have hc := (classes.lead _ lead).2
      simp [signText, signOf, hc]

/-- **A numeral is taken whole.** -/
theorem numeral?_append (classes : AreNumeralClasses isDigit isLeading) {parts : NumeralParts}
    {t rest : List Char} (h : NumeralText isDigit isLeading parts t)
    (hrest : EndsNumeral isDigit rest) :
    numeral? isDigit isLeading (t ++ rest) = some (parts, rest) := by
  cases h with
  | parts hw hf hx =>
    have hexp := hx.head_append classes hrest
    have hfrac := hf.head_append classes fun c hc => (hexp c hc).1
    simp only [numeral?_eq, List.append_assoc]
    rw [signOf_append classes _ hw, wholeOf?_append classes hw hfrac]
    simp only [Option.map_some]
    rw [fractionOf_append hf (fun c hc => (hexp c hc).1) fun c hc => (hexp c hc).2]
    simp only [exponentOf_append classes hx hrest]

/-- A numeral in fewer digits is one in more. -/
theorem NumeralText.mono {isDigit' isLeading' : Char → Bool} {parts : NumeralParts} {t : List Char}
    (h : NumeralText isDigit isLeading parts t)
    (digit : ∀ c, isDigit c = true → isDigit' c = true)
    (lead : ∀ c, isLeading c = true → isLeading' c = true) :
    NumeralText isDigit' isLeading' parts t := by
  have digits : ∀ {s}, AreDigits isDigit s → AreDigits isDigit' s :=
    fun h => ⟨h.1, fun c hc => digit c (h.2 c hc)⟩
  cases h with
  | parts hw hf hx =>
    refine .parts ?_ ?_ ?_
    · cases hw with
      | zero => exact .zero
      | digits hc hs => exact .digits (lead _ hc) fun d hd => digit d (hs d hd)
    · cases hf with
      | none => exact .none
      | some h => exact .some (digits h)
    · cases hx with
      | none => exact .none
      | unsigned mark h => exact .unsigned mark (digits h)
      | plus mark h => exact .plus mark (digits h)
      | minus mark h => exact .minus mark (digits h)

end Reader
end Document
end FormDispatch
