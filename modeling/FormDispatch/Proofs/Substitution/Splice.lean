/-
# Values are spliced in

Filling a text cuts it into pieces, puts markers in the place of its bindings, and looks for the
markers again. Where these are the first to be found (`MarkersStand`), this comes to what one would
expect: the plain characters stay as they are and each binding is replaced by its value
(`filled_pieces`). So it does for the text of given pieces in which every opening of a binding is
the start of one (`OnlyOpenings`), expressions hold no brace, and no marker starts
(`filled_written`).

Two facts carry this. Cutting the text of pieces gives the pieces (`pieces_written`). And a marker
is found where it was put: none starts in the plain text before it and reaches into it, since the
only part of a marker that both starts and ends it is a single character (`aroundMarker?_append`).
-/

import FormDispatch.Substitution.Fill

namespace FormDispatch
namespace Substitution

/-! ### The pieces of a text are found again -/

/-- Two opening braces side by side stand only where a binding starts. -/
def OnlyOpenings (ps : List Piece) : Prop :=
  ∀ a b, written ps = a ++ '\x7b' :: '\x7b' :: b →
    ∃ l expression r, ps = l ++ .binding expression :: r ∧ written l = a

/-- The expressions of bindings hold no brace. -/
def BraceFree (ps : List Piece) : Prop :=
  ∀ expression, .binding expression ∈ ps → ∀ c ∈ expression, c ≠ '\x7b' ∧ c ≠ '\x7d'

theorem written_cons (p : Piece) (ps : List Piece) : written (p :: ps) = p.chars ++ written ps :=
  rfl

/-- Every piece has a text. -/
theorem Piece.chars_ne_nil (p : Piece) : p.chars ≠ [] := by
  cases p <;> simp [Piece.chars]

/-- What follows a piece has openings where bindings start, too. -/
theorem OnlyOpenings.tail {p : Piece} {ps : List Piece} (h : OnlyOpenings (p :: ps)) :
    OnlyOpenings ps := by
  intro a b hab
  obtain ⟨l, expression, r, hl, ha⟩ := h (p.chars ++ a) b (by
    rw [written_cons, hab, List.append_assoc])
  cases l with
  | nil =>
    have hnil : p.chars ++ a = [] := ha.symm
    exact absurd (List.append_eq_nil_iff.1 hnil).1 p.chars_ne_nil
  | cons q l =>
    obtain ⟨rfl, hps⟩ := List.cons.inj hl
    exact ⟨l, expression, r, hps, List.append_cancel_left ha⟩

theorem BraceFree.tail {p : Piece} {ps : List Piece} (h : BraceFree (p :: ps)) : BraceFree ps :=
  fun expression he => h expression (List.mem_cons_of_mem p he)

/-- A plain character opens no binding. -/
theorem OnlyOpenings.plain {c : Char} {ps : List Piece} (h : OnlyOpenings (.plain c :: ps)) :
    ∀ r, c :: written ps ≠ '\x7b' :: '\x7b' :: r := by
  intro r hr
  obtain ⟨l, expression, t, hl, hnil⟩ := h [] r hr
  cases l with
  | nil => cases hl
  | cons q l => exact absurd (List.append_eq_nil_iff.1 hnil).1 q.chars_ne_nil

/-- A plain character is cut off. -/
theorem piecesFrom_plain {c : Char} {s : List Char} (h : ∀ r, c :: s ≠ '\x7b' :: '\x7b' :: r) :
    piecesFrom none (c :: s) = .plain c :: piecesFrom none s := by
  rw [piecesFrom]
  intro r hc hs
  exact h r (by rw [hc, hs])

/-- A character of an expression is held. -/
theorem piecesFrom_held {c : Char} {s : List Char} (h : ∀ r, c :: s ≠ '\x7d' :: '\x7d' :: r)
    (held : List Char) : piecesFrom (some held) (c :: s) = piecesFrom (some (c :: held)) s := by
  rw [piecesFrom]
  intro r hc hs
  exact h r (by rw [hc, hs])

/-- An expression goes on up to the first two closing braces. -/
theorem piecesFrom_closed {e a : List Char}
    (shortest : ∀ e' a', e ++ '\x7d' :: '\x7d' :: a = e' ++ '\x7d' :: '\x7d' :: a' →
      e.length ≤ e'.length) (held : List Char) :
    piecesFrom (some held) (e ++ '\x7d' :: '\x7d' :: a) =
      .binding (held.reverse ++ e) :: piecesFrom none a := by
  induction e generalizing held with
  | nil => simp [piecesFrom]
  | cons c e ih =>
    have hopen : ∀ r, c :: (e ++ '\x7d' :: '\x7d' :: a) ≠ '\x7d' :: '\x7d' :: r := by
      intro r hr
      exact absurd (shortest [] r hr) (by simp)
    have hrest : ∀ e' a', e ++ '\x7d' :: '\x7d' :: a = e' ++ '\x7d' :: '\x7d' :: a' →
        e.length ≤ e'.length := by
      intro e' a' he
      exact Nat.le_of_succ_le_succ (shortest (c :: e') a' (by rw [List.cons_append, he]; rfl))
    rw [List.cons_append, piecesFrom_held hopen, ih hrest]
    simp

/-- An expression without closing braces is read up to those that end it. -/
theorem piecesFrom_expression {expression : List Char} (h : ∀ c ∈ expression, c ≠ '\x7d')
    (held s : List Char) :
    piecesFrom (some held) (expression ++ '\x7d' :: '\x7d' :: s) =
      .binding (held.reverse ++ expression) :: piecesFrom none s := by
  refine piecesFrom_closed (fun e a he => ?_) held
  rcases List.append_eq_append_iff.1 he with ⟨r, rfl, -⟩ | ⟨r, rfl, hr⟩
  · simp
  · cases r with
    | nil => simp
    | cons c r =>
      obtain ⟨rfl, -⟩ := List.cons.inj hr
      exact absurd rfl (h '\x7d' (by simp))

/-- **Cutting the text of pieces gives the pieces.** -/
theorem pieces_written {ps : List Piece} (openings : OnlyOpenings ps) (free : BraceFree ps) :
    pieces (written ps) = ps := by
  induction ps with
  | nil => rfl
  | cons p ps ih =>
    have hrest : piecesFrom none (written ps) = ps := ih openings.tail free.tail
    cases p with
    | plain c =>
      calc pieces (written (.plain c :: ps))
          = piecesFrom none (c :: written ps) := rfl
        _ = .plain c :: ps := by rw [piecesFrom_plain openings.plain, hrest]
    | binding expression =>
      have hfree : ∀ c ∈ expression, c ≠ '\x7d' := fun c hc => (free expression (by simp) c hc).2
      calc pieces (written (.binding expression :: ps))
          = piecesFrom (some []) (expression ++ '\x7d' :: '\x7d' :: written ps) := by
            simp [pieces, written_cons, Piece.chars, piecesFrom]
        _ = .binding expression :: ps := by
            rw [piecesFrom_expression hfree, hrest]
            rfl

/-- The two conditions on pieces, told piece by piece: no plain opening brace comes before another
one, and no expression holds a brace. -/
def isWellCut : List Piece → Bool
  | [] => true
  | .plain c :: ps => !(c == '\x7b' && (written ps).head? == some '\x7b') && isWellCut ps
  | .binding expression :: ps =>
    (expression.all fun c => c != '\x7b' && c != '\x7d') && isWellCut ps

theorem braceFree_of_isWellCut {ps : List Piece} (h : isWellCut ps = true) : BraceFree ps := by
  induction ps with
  | nil => exact nofun
  | cons p ps ih =>
    intro expression he c hc
    cases p with
    | plain d =>
      simp only [isWellCut, Bool.and_eq_true] at h
      exact ih h.2 expression ((List.mem_cons.1 he).resolve_left nofun) c hc
    | binding first =>
      simp only [isWellCut, Bool.and_eq_true, List.all_eq_true, bne_iff_ne] at h
      rcases List.mem_cons.1 he with heq | hmem
      · cases heq
        exact h.1 c hc
      · exact ih h.2 expression hmem c hc

/-- Inside the text of a binding no two opening braces stand side by side, but at its start. -/
theorem binding_of_opening {expression : List Char} (free : ∀ c ∈ expression, c ≠ '\x7b')
    {a b s : List Char} (hne : a ≠ [])
    (h : (Piece.binding expression).chars ++ s = a ++ '\x7b' :: '\x7b' :: b) :
    ∃ r, a = (Piece.binding expression).chars ++ r := by
  have only : ∀ c ∈ expression ++ ['\x7d', '\x7d'], c ≠ '\x7b' := by
    intro c hc
    rcases List.mem_append.1 hc with hc | hc
    · exact free c hc
    · simp only [List.mem_cons, List.not_mem_nil, or_false, or_self] at hc
      rw [hc]
      decide
  rcases List.append_eq_append_iff.1 h with ⟨r, hr, -⟩ | ⟨r, hr, hs⟩
  · exact ⟨r, hr⟩
  · obtain ⟨x, t, rfl⟩ := List.exists_cons_of_ne_nil hne
    obtain ⟨rfl, ht⟩ := List.cons.inj hr
    cases r with
    | nil => exact ⟨[], by simpa [Piece.chars] using ht.symm⟩
    | cons y r =>
      have hrest : '\x7b' :: b = r ++ s := (List.cons.inj hs).2
      -- the second of the two braces would lie in the expression or its end
      cases t with
      | nil =>
        have hend : expression ++ ['\x7d', '\x7d'] = r := (List.cons.inj ht).2
        cases r with
        | nil => exact absurd hend (by simp)
        | cons z r =>
          have hz : '\x7b' = z := (List.cons.inj hrest).1
          exact absurd hz.symm (only z (hend ▸ List.mem_cons_self))
      | cons z t =>
        have hend : expression ++ ['\x7d', '\x7d'] = t ++ y :: r := (List.cons.inj ht).2
        have hy : '\x7b' = y := (List.cons.inj hs).1
        exact absurd hy.symm (only y (by rw [hend]; simp))

theorem onlyOpenings_of_isWellCut {ps : List Piece} (h : isWellCut ps = true) :
    OnlyOpenings ps := by
  induction ps with
  | nil =>
    intro a b hab
    exact absurd hab (by simp [written])
  | cons p ps ih =>
    intro a b hab
    cases p with
    | plain c =>
      simp only [isWellCut, Bool.and_eq_true] at h
      cases a with
      | nil =>
        obtain ⟨rfl, hps⟩ := List.cons.inj hab
        have hhead : (written ps).head? = some '\x7b' := by
          rw [show written ps = '\x7b' :: b from hps]
          rfl
        simp [hhead] at h
      | cons x a =>
        obtain ⟨rfl, hps⟩ := List.cons.inj hab
        obtain ⟨l, expression, r, rfl, rfl⟩ := ih h.2 a b hps
        exact ⟨.plain c :: l, expression, r, rfl, rfl⟩
    | binding first =>
      have free := braceFree_of_isWellCut h
      simp only [isWellCut, Bool.and_eq_true] at h
      by_cases hne : a = []
      · exact ⟨[], first, ps, rfl, hne.symm⟩
      · obtain ⟨t, rfl⟩ := binding_of_opening
          (fun c hc => (free first List.mem_cons_self c hc).1) hne hab
        rw [written_cons, List.append_assoc] at hab
        obtain ⟨l, expression, r, rfl, rfl⟩ := ih h.2 t b (List.append_cancel_left hab)
        exact ⟨.binding first :: l, expression, r, rfl, rfl⟩

/-! ### Markers are found where they were put -/

/-- A marker without its last character. -/
def stem : List Char :=
  marker.dropLast

/-- Nothing that starts a marker and is shorter than its stem ends it, too. -/
theorem drop_marker_ne_take : ∀ k < stem.length, k ≠ 0 →
    marker.drop k ≠ marker.take (marker.length - k) := by
  decide

/-- No marker starts in a text that neither holds one nor ends with a stem, and reaches into a
marker behind it. -/
theorem not_isPrefix_marker {s : List Char} (hs : ¬ marker <:+: s) (hend : ¬ stem <:+ s)
    (hne : s ≠ []) (t : List Char) : ¬ marker <+: s ++ (marker ++ t) := by
  rintro ⟨u, hu⟩
  have htake : marker = (s ++ (marker ++ t)).take marker.length := by
    rw [← hu, List.take_left]
  have hlength : marker.length = stem.length + 1 := by decide
  rcases Nat.lt_trichotomy s.length stem.length with hlt | heq | hgt
  · have hlen : s.length ≠ 0 := fun h => hne (List.length_eq_zero_iff.1 h)
    refine drop_marker_ne_take s.length hlt hlen ?_
    calc marker.drop s.length
        = ((s ++ (marker ++ t)).take marker.length).drop s.length := by rw [← htake]
      _ = ((s ++ (marker ++ t)).drop s.length).take (marker.length - s.length) := by
        rw [List.drop_take]
      _ = marker.take (marker.length - s.length) := by
        rw [List.drop_left, List.take_append_of_le_length (Nat.sub_le ..)]
  · have hstem : stem = s :=
      calc stem = marker.take stem.length := by decide
        _ = ((s ++ (marker ++ t)).take marker.length).take stem.length := by rw [← htake]
        _ = s := by
          rw [List.take_take, Nat.min_eq_left (by decide), ← heq, List.take_left]
    exact hend (hstem ▸ List.suffix_rfl)
  · have hmarker : marker = s.take marker.length := by
      rw [List.take_append_of_le_length (by omega)] at htake
      exact htake
    exact hs (hmarker ▸ (List.take_prefix _ s).isInfix)

/-- **The first marker in a text is the one that was put there.** -/
theorem aroundMarker?_append {s : List Char} (hs : ¬ marker <:+: s) (hend : ¬ stem <:+ s)
    (t : List Char) : aroundMarker? (s ++ (marker ++ t)) = some (s, t) := by
  induction s with
  | nil =>
    have hprefix : marker.isPrefixOf (marker ++ t) = true := by simp
    rw [List.nil_append]
    unfold aroundMarker?
    rw [if_pos hprefix, List.drop_left]
  | cons c r ih =>
    have hr : ¬ marker <:+: r := fun h => hs (h.trans (List.suffix_cons c r).isInfix)
    have hrend : ¬ stem <:+ r := fun h => hend (h.trans (List.suffix_cons c r))
    have hprefix : ¬ marker.isPrefixOf (c :: r ++ (marker ++ t)) = true := by
      rw [List.isPrefixOf_iff_prefix]
      exact not_isPrefix_marker hs hend (List.cons_ne_nil c r) t
    unfold aroundMarker?
    rw [if_neg hprefix]
    simp only [List.cons_append, ih hr hrend, Option.map_some]

/-- The markers that are put for bindings are the first to be found: the plain text between a
binding and the one before it neither holds a marker nor ends with a stem. `s` is the plain text
that has been passed. -/
def MarkersStand : (s : List Char) → List Piece → Prop
  | _, [] => True
  | s, .plain c :: ps => MarkersStand (s ++ [c]) ps
  | s, .binding _ :: ps => (¬ marker <:+: s ∧ ¬ stem <:+ s) ∧ MarkersStand [] ps

/-- Markers stand in a text that no marker starts in. -/
theorem markersStand_of_free {s : List Char} {ps : List Piece}
    (free : ¬ stem <:+: s ++ written ps) :
    MarkersStand s ps := by
  induction ps generalizing s with
  | nil => trivial
  | cons p ps ih =>
    cases p with
    | plain c => exact ih (by rwa [List.append_assoc])
    | binding expression =>
      have hs : ¬ stem <:+: s := fun h => free (h.trans (List.prefix_append s _).isInfix)
      have hmarker : stem <:+: marker := (List.dropLast_prefix marker).isInfix
      refine ⟨⟨fun h => hs (hmarker.trans h), fun h => hs h.isInfix⟩, ih fun h => free (h.trans ?_)⟩
      rw [List.nil_append, written_cons, ← List.append_assoc]
      exact (List.suffix_append _ _).isInfix

/-! ### Markers are replaced by values -/

/-- The text of a piece with a marker for a binding. -/
def Piece.marked : Piece → List Char
  | plain c => [c]
  | binding _ => marker

theorem marked_eq (s : List Char) : marked s = (pieces s).flatMap Piece.marked :=
  rfl

/-- The parameter of a binding with the given expression. -/
def paramAt? (params : List Param) (expression : List Char) : Option Param :=
  paramOf? params (String.ofList (Text.trim expression))

/-- Every binding has a parameter. -/
def Supplied (params : List Param) (ps : List Piece) : Prop :=
  ∀ expression, .binding expression ∈ ps → (paramAt? params expression).isSome

/-- The text that a binding is replaced by at a place. -/
def valueAt (params : List Param) (place : Quotation) (expression : List Char) : List Char :=
  match paramAt? params expression with
  | some p => (rendered p.value place.quote?).1
  | none => []

/-- The place after a piece. -/
def Piece.placeAfter (place : Quotation) : Piece → Quotation
  | plain c => place.after c
  | binding _ => place.afterAll marker

/-- The text of pieces with values for their bindings; `place` tells where it starts. -/
def spliced (params : List Param) : (place : Quotation) → List Piece → List Char
  | _, [] => []
  | place, .plain c :: ps => c :: spliced params (place.after c) ps
  | place, .binding expression :: ps =>
    valueAt params place expression ++ spliced params (place.afterAll marker) ps

/-- What is recorded about a piece that is a binding. -/
def Piece.bound? (params : List Param) : Piece → Option BoundParameter
  | plain _ => none
  | binding expression => (paramAt? params expression).map fun p =>
      ⟨String.ofList (Text.trim expression), p.value, (rendered p.value none).2⟩

/-- What is recorded about the bindings among pieces. -/
def boundIn (params : List Param) (ps : List Piece) : List BoundParameter :=
  ps.filterMap (Piece.bound? params)

/-- The kind of a value does not depend on its place. -/
theorem rendered_kind (value : Option String) (quote : Option Char) :
    (rendered value quote).2 = (rendered value none).2 := by
  cases value <;> cases quote <;> rfl

/-- **Markers are replaced by the values of their bindings**, behind plain text that has been passed
already. -/
theorem fillFrom_pieces {params : List Param} {ps : List Piece} (supplied : Supplied params ps)
    {s : List Char} (stand : MarkersStand s ps) (place : Quotation) :
    fillFrom params place (s ++ ps.flatMap Piece.marked) (ps.filterMap Piece.name?) =
      .ok (s ++ spliced params (place.afterAll s) ps, boundIn params ps) := by
  induction ps generalizing s place with
  | nil => rfl
  | cons p ps ih =>
    have hrest : Supplied params ps := fun e he => supplied e (List.mem_cons_of_mem p he)
    cases p with
    | plain c =>
      have happend := ih hrest stand place
      rw [Quotation.afterAll_append] at happend
      have hnames : (Piece.plain c :: ps).filterMap Piece.name? = ps.filterMap Piece.name? :=
        List.filterMap_cons_none rfl
      have hbound : boundIn params (.plain c :: ps) = boundIn params ps :=
        List.filterMap_cons_none rfl
      rw [hnames, hbound]
      simpa [Piece.marked, spliced, Quotation.afterAll] using happend
    | binding expression =>
      obtain ⟨p, hp⟩ := Option.isSome_iff_exists.1 (supplied expression (by simp))
      obtain ⟨⟨hs, hend⟩, hstand⟩ := stand
      have hbehind := ih hrest hstand ((place.afterAll s).afterAll marker)
      have hparam : paramOf? params (String.ofList (Text.trim expression)) = some p := hp
      rw [List.nil_append] at hbehind
      simp only [List.flatMap_cons, Piece.marked, List.filterMap_cons, Piece.name?, fillFrom,
        aroundMarker?_append hs hend, hparam, hbehind]
      simp [spliced, valueAt, hp, boundIn, Piece.bound?, rendered_kind p.value,
        Quotation.afterAll]

/-- Pieces without bindings need no markers. -/
theorem marked_of_names_eq_nil {ps : List Piece} (h : ps.filterMap Piece.name? = []) :
    ps.flatMap Piece.marked = written ps := by
  induction ps with
  | nil => rfl
  | cons p ps ih =>
    cases p with
    | plain c => exact congrArg (c :: ·) (ih h)
    | binding expression => cases h

/-- A text is filled by filling the markers of its bindings, also where there are none. -/
theorem filled_eq_fillFrom (text : String) (params : List Param) :
    filled text params =
      (fillFrom params .outside (marked text.toList) (bindings text.toList)).map fun (s, bound) =>
        (String.ofList s, bound) := by
  unfold filled
  split
  · next hnone =>
    have hmarked : marked text.toList = text.toList := by
      rw [marked_eq, marked_of_names_eq_nil hnone, written_pieces]
    rw [hnone, hmarked]
    simp [fillFrom, Except.map]
  · rw [fill, String.toList_ofList]

/-- **Filling a text whose markers stand splices the values of its bindings in**, and nothing else
happens to the text. -/
theorem filled_pieces {text : String} {params : List Param}
    (stand : MarkersStand [] (pieces text.toList))
    (supplied : Supplied params (pieces text.toList)) :
    filled text params =
      .ok (String.ofList (spliced params .outside (pieces text.toList)),
        boundIn params (pieces text.toList)) := by
  have hfill := fillFrom_pieces supplied stand .outside
  rw [List.nil_append, List.nil_append] at hfill
  rw [filled_eq_fillFrom, marked_eq, bindings, hfill]
  rfl

/-- **Filling the text of pieces splices the values of its bindings in.** -/
theorem filled_written {params : List Param} {ps : List Piece} (openings : OnlyOpenings ps)
    (braceFree : BraceFree ps) (markerFree : ¬ stem <:+: written ps)
    (supplied : Supplied params ps) :
    filled (String.ofList (written ps)) params =
      .ok (String.ofList (spliced params .outside ps), boundIn params ps) := by
  have hpieces : pieces (String.ofList (written ps)).toList = ps := by
    rw [String.toList_ofList, pieces_written openings braceFree]
  have hfilled := @filled_pieces (String.ofList (written ps)) params
  rw [hpieces] at hfilled
  exact hfilled (markersStand_of_free markerFree) supplied

end Substitution
end FormDispatch
