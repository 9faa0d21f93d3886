/-
# Where values land

A value belongs where its binding stands, written as the plain characters in front of it demand
(`inserted`). The markers that stand for bindings meanwhile can get in the way twice. A text may
hold a marker of its own, which is then taken for that of the next binding. And inside a string a
marker is passed like text, so a backslash in front of a binding takes the marker's first character
out of consideration instead of the one behind the binding.

Where neither happens (`MarkersStand`, `QuotesAgree`) values land in their places, whatever they
are, and where one of them does, some values do not: all ones show a marker that was mistaken, all
apostrophes a quote that was (`filled_inserted_iff`). In every text filling stops at the leftmost
binding without a parameter and nowhere else, since as many markers are found as were put
(`HoldsMarkers`).
-/

import FormDispatch.Proofs.Substitution.Cutting
import FormDispatch.Proofs.Substitution.Fields

namespace FormDispatch
namespace Substitution

/-- The text of pieces with values for their bindings, each written as the plain characters in front
of it demand; `place` tells where the text starts. -/
def inserted (params : List Param) : (place : Quotation) → List Piece → List Char
  | _, [] => []
  | place, .plain c :: ps => c :: inserted params (place.after c) ps
  | place, .binding expression :: ps =>
    valueAt params place expression ++ inserted params place ps

/-- The quote around each binding is the same whether markers are passed like text, as from
`marked`, or not, as from `place`. -/
def QuotesAgree : (marked place : Quotation) → List Piece → Prop
  | _, _, [] => True
  | marked, place, .plain c :: ps => QuotesAgree (marked.after c) (place.after c) ps
  | marked, place, .binding _ :: ps =>
    marked.quote? = place.quote? ∧ QuotesAgree (marked.afterAll marker) place ps

/-- The first of some bindings that has no parameter. -/
def unmatched? (params : List Param) (bindings : List String) : Option String :=
  bindings.find? fun binding => (paramOf? params binding).isNone

/-- Filling a text puts the value of each of its bindings in its place. -/
def Inserts (params : List Param) (text : String) : Prop :=
  ∃ bound, filled text params =
    .ok (String.ofList (inserted params .outside (pieces text.toList)), bound)

/-! ### As many markers are found as were put -/

/-- The marker that is found is the first. -/
theorem aroundMarker?_spec {t before after : List Char}
    (h : aroundMarker? t = some (before, after)) :
    t = before ++ (marker ++ after) ∧
      ∀ b a, t = b ++ (marker ++ a) → before.length ≤ b.length := by
  induction t generalizing before with
  | nil => cases h
  | cons c r ih =>
    unfold aroundMarker? at h
    split at h
    · next hprefix =>
      cases h
      obtain ⟨u, hu⟩ := List.isPrefixOf_iff_prefix.1 hprefix
      exact ⟨by rw [← hu, List.drop_left]; rfl, fun _ _ _ => Nat.zero_le _⟩
    · next hprefix =>
      obtain ⟨⟨before', after'⟩, hr, heq⟩ := Option.map_eq_some_iff.1 h
      cases heq
      obtain ⟨hfound, hfirst⟩ := ih hr
      refine ⟨by rw [hfound]; rfl, fun b a hba => ?_⟩
      cases b with
      | nil => exact absurd (List.isPrefixOf_iff_prefix.2 ⟨a, hba.symm⟩) hprefix
      | cons d b =>
        obtain ⟨-, htail⟩ := List.cons.inj hba
        exact Nat.succ_le_succ (hfirst b a htail)

/-- A text with a marker has a first one. -/
theorem exists_aroundMarker? (b a : List Char) :
    ∃ before after, aroundMarker? (b ++ (marker ++ a)) = some (before, after) := by
  induction b with
  | nil =>
    refine ⟨[], a, ?_⟩
    rw [List.nil_append, aroundMarker?.eq_def, if_pos (by simp), List.drop_left]
  | cons c b ih =>
    obtain ⟨before, after, hb⟩ := ih
    by_cases hprefix : marker.isPrefixOf (c :: (b ++ (marker ++ a))) = true
    · exact ⟨[], _, by rw [List.cons_append, aroundMarker?, if_pos hprefix]⟩
    · exact ⟨c :: before, after, by
        rw [List.cons_append, aroundMarker?, if_neg hprefix, hb]
        rfl⟩

/-- A text holds a number of markers, one behind the other. -/
def HoldsMarkers : Nat → List Char → Prop
  | 0, _ => True
  | n + 1, t => ∃ b a, t = b ++ (marker ++ a) ∧ HoldsMarkers n a

theorem HoldsMarkers.append {n : Nat} {t : List Char} (h : HoldsMarkers n t) (s : List Char) :
    HoldsMarkers n (s ++ t) := by
  cases n with
  | zero => trivial
  | succ n =>
    obtain ⟨b, a, rfl, ha⟩ := h
    exact ⟨s ++ b, a, (List.append_assoc ..).symm, ha⟩

/-- Behind the first marker all others are left. -/
theorem HoldsMarkers.behind {n : Nat} {t : List Char} (h : HoldsMarkers (n + 1) t) :
    ∃ before after, aroundMarker? t = some (before, after) ∧ HoldsMarkers n after := by
  obtain ⟨b, a, rfl, ha⟩ := h
  obtain ⟨before, after, hfirst⟩ := exists_aroundMarker? b a
  obtain ⟨heq, hmin⟩ := aroundMarker?_spec hfirst
  refine ⟨before, after, hfirst, ?_⟩
  have hle : before.length ≤ b.length := hmin b a rfl
  obtain ⟨s, hs⟩ : a <:+ after := by
    refine List.suffix_of_suffix_length_le ⟨b ++ marker, rfl⟩ ⟨before ++ marker, ?_⟩ ?_
    · rw [List.append_assoc, ← heq, List.append_assoc]
    · have hlength := congrArg List.length heq
      simp only [List.length_append] at hlength
      omega
  exact hs ▸ ha.append s

/-- A marker stands for each binding. -/
theorem holdsMarkers_marked (ps : List Piece) :
    HoldsMarkers (ps.filterMap Piece.name?).length (ps.flatMap Piece.marked) := by
  induction ps with
  | nil => trivial
  | cons p ps ih =>
    cases p with
    | plain c => exact ih.append [c]
    | binding expression => exact ⟨[], _, rfl, ih⟩

theorem unmatched?_cons_of_none {params : List Param} {binding : String}
    (h : paramOf? params binding = none) (others : List String) :
    unmatched? params (binding :: others) = some binding := by
  simp [unmatched?, h]

theorem unmatched?_cons_of_some {params : List Param} {binding : String} {p : Param}
    (h : paramOf? params binding = some p) (others : List String) :
    unmatched? params (binding :: others) = unmatched? params others := by
  simp [unmatched?, h]

/-- A text with enough markers is filled unless a binding has no parameter, and stops at the first
of those. -/
theorem fillFrom_of_holdsMarkers {params : List Param} {bindings : List String} {t : List Char}
    (h : HoldsMarkers bindings.length t) (place : Quotation) :
    (∀ binding, unmatched? params bindings = some binding →
      fillFrom params place t bindings = .error (.unboundBinding binding)) ∧
    (unmatched? params bindings = none →
      ∃ filling, fillFrom params place t bindings = .ok filling) := by
  induction bindings generalizing t place with
  | nil => exact ⟨nofun, fun _ => ⟨_, rfl⟩⟩
  | cons binding others ih =>
    obtain ⟨before, after, hfirst, hrest⟩ := h.behind
    cases hparam : paramOf? params binding with
    | none =>
      rw [unmatched?_cons_of_none hparam]
      refine ⟨fun other hother => ?_, nofun⟩
      cases hother
      simp only [fillFrom, hfirst, hparam]
    | some p =>
      rw [unmatched?_cons_of_some hparam]
      obtain ⟨hstop, hfill⟩ := ih hrest ((place.afterAll before).afterAll marker)
      refine ⟨fun other hother => ?_, fun hnone => ?_⟩
      · simp only [fillFrom, hfirst, hparam, hstop other hother]
      · obtain ⟨filling, hfilling⟩ := hfill hnone
        simp only [fillFrom, hfirst, hparam, hfilling]
        exact ⟨_, rfl⟩

/-- **Filling a text stops at the leftmost binding without a parameter.** -/
theorem filled_of_unmatched {params : List Param} {text binding : String}
    (h : unmatched? params (bindings text.toList) = some binding) :
    filled text params = .error (.unboundBinding binding) := by
  have hstop :=
    (fillFrom_of_holdsMarkers (holdsMarkers_marked (pieces text.toList)) .outside).1 binding h
  rw [filled_eq_fillFrom, marked_eq, bindings, hstop]
  rfl

/-- **Filling a text whose bindings all have parameters succeeds**, with one record for each
binding. -/
theorem exists_filled {params : List Param} {text : String}
    (h : unmatched? params (bindings text.toList) = none) :
    ∃ result, filled text params = .ok (result, (bindings text.toList).map (recorded params)) := by
  obtain ⟨⟨chars, bound⟩, hfill⟩ :=
    (fillFrom_of_holdsMarkers (holdsMarkers_marked (pieces text.toList)) .outside).2 h
  refine ⟨String.ofList chars, ?_⟩
  rw [filled_eq_fillFrom, marked_eq, bindings, hfill, bound_of_fillFrom hfill]
  rfl

/-! ### Values land in their places -/

theorem valueAt_congr (params : List Param) {p q : Quotation} (h : p.quote? = q.quote?)
    (expression : List Char) : valueAt params p expression = valueAt params q expression := by
  unfold valueAt
  rw [h]

theorem spliced_eq_inserted (params : List Param) {marked place : Quotation} {ps : List Piece}
    (agree : QuotesAgree marked place ps) :
    spliced params marked ps = inserted params place ps := by
  induction ps generalizing marked place with
  | nil => rfl
  | cons p ps ih =>
    cases p with
    | plain c => exact congrArg (c :: ·) (ih agree)
    | binding expression =>
      obtain ⟨hquote, hrest⟩ := agree
      rw [spliced, inserted, valueAt_congr params hquote, ih hrest]

theorem supplied_of_matched {params : List Param} {ps : List Piece}
    (h : unmatched? params (ps.filterMap Piece.name?) = none) : Supplied params ps := by
  intro expression he
  have hnone := List.find?_eq_none.1 h (String.ofList (Text.trim expression))
    (List.mem_filterMap.2 ⟨_, he, rfl⟩)
  simpa [paramAt?, Option.isSome_iff_ne_none] using hnone

/-- **Values land in their places** where markers stand and quotes agree. -/
theorem inserts_of_stand {params : List Param} {text : String}
    (stand : MarkersStand [] (pieces text.toList))
    (agree : QuotesAgree .outside .outside (pieces text.toList))
    (matched : unmatched? params (bindings text.toList) = none) : Inserts params text := by
  refine ⟨boundIn params (pieces text.toList), ?_⟩
  rw [filled_pieces stand (supplied_of_matched matched), spliced_eq_inserted params agree]

/-! ### Values that show a mistake -/

/-- The same value for all of some bindings. -/
def everywhere (value : String) (bindings : List String) : List Param :=
  bindings.map fun binding => ⟨binding, some value⟩

theorem value_of_everywhere {value binding : String} {bindings : List String} {p : Param}
    (h : paramOf? (everywhere value bindings) binding = some p) : p.value = some value := by
  obtain ⟨b, -, rfl⟩ := List.mem_map.1 (List.mem_of_find?_eq_some h)
  rfl

/-- Every binding of a text has the value that is given everywhere. -/
theorem unmatched?_everywhere (value : String) (ps : List Piece) :
    unmatched? (everywhere value (ps.filterMap Piece.name?)) (ps.filterMap Piece.name?) = none := by
  refine List.find?_eq_none.2 fun binding hbinding hnone => ?_
  obtain ⟨p, -, hp⟩ := List.mem_filterMap.1 hbinding
  have htrimmed : Text.trimmed binding = binding := by
    cases p with
    | plain c => cases hp
    | binding expression =>
      cases hp
      rw [Text.trimmed, String.toList_ofList, Text.trim_trim]
  have hkey := List.find?_eq_none.1 (Option.isNone_iff_eq_none.1 hnone) ⟨binding, some value⟩
    (List.mem_map.2 ⟨binding, hbinding, rfl⟩)
  exact hkey (by simp [htrimmed])

/-- Every binding has a parameter with the same value. -/
def SuppliedWith (params : List Param) (value : String) (ps : List Piece) : Prop :=
  ∀ expression, .binding expression ∈ ps →
    ∃ p, paramAt? params expression = some p ∧ p.value = some value

theorem SuppliedWith.tail {params : List Param} {value : String} {p : Piece} {ps : List Piece}
    (h : SuppliedWith params value (p :: ps)) : SuppliedWith params value ps :=
  fun expression he => h expression (List.mem_cons_of_mem p he)

theorem SuppliedWith.valueAt {params : List Param} {value : String} {ps : List Piece}
    (h : SuppliedWith params value ps) {expression : List Char} (he : .binding expression ∈ ps)
    (place : Quotation) :
    valueAt params place expression = (rendered (some value) place.quote?).1 := by
  obtain ⟨p, hp, hvalue⟩ := h expression he
  simp only [Substitution.valueAt, hp, hvalue]

theorem suppliedWith_everywhere (value : String) (ps : List Piece) :
    SuppliedWith (everywhere value (ps.filterMap Piece.name?)) value ps := by
  intro expression he
  obtain ⟨p, hp⟩ := Option.isSome_iff_exists.1
    (supplied_of_matched (unmatched?_everywhere value ps) expression he)
  exact ⟨p, hp, value_of_everywhere hp⟩

/-! ### Ones show a marker that was mistaken -/

/-- A one is written as it is at every place. -/
theorem rendered_one (quote : Option Char) : (rendered (some "1") quote).1 = ['1'] := by
  cases quote with
  | none => decide
  | some quote =>
    have hchar : insideChar quote '1' = ['1'] := by
      rw [insideChar, if_neg (by simp)]
      decide
    simpa [rendered, insideQuotes] using hchar

/-- What happens when the first of some markers is filled. -/
theorem fillFrom_cons_eq_ok {params : List Param} {place : Quotation} {t chars : List Char}
    {binding : String} {others : List String} {bound : List BoundParameter}
    (h : fillFrom params place t (binding :: others) = .ok (chars, bound)) :
    ∃ before after p rest bound', aroundMarker? t = some (before, after) ∧
      paramOf? params binding = some p ∧
      fillFrom params ((place.afterAll before).afterAll marker) after others =
        .ok (rest, bound') ∧
      chars = before ++ ((rendered p.value (place.afterAll before).quote?).1 ++ rest) := by
  unfold fillFrom at h
  split at h
  · next before after p hfirst hparam =>
    dsimp only at h
    split at h
    · next rest bound' hrest =>
      cases h
      exact ⟨before, after, p, rest, bound', hfirst, hparam, hrest, List.append_assoc ..⟩
    · cases h
  · cases h

/-- A marker that is the first to be found has neither a marker in front of it nor the stem of
one. -/
theorem stands_of_aroundMarker? {s t : List Char}
    (h : aroundMarker? (s ++ (marker ++ t)) = some (s, t)) : ¬ marker <:+: s ∧ ¬ stem <:+ s := by
  obtain ⟨-, hfirst⟩ := aroundMarker?_spec h
  constructor
  · rintro ⟨x, y, rfl⟩
    have hle := hfirst x (y ++ (marker ++ t)) (by simp only [List.append_assoc])
    have hpos : 0 < marker.length := by decide
    simp only [List.length_append] at hle
    omega
  · rintro ⟨x, rfl⟩
    -- the first character of the marker is the last of the one that the stem starts
    have hoverlap : stem ++ marker = marker ++ marker.tail := by decide
    have hle := hfirst x (marker.tail ++ t) (by
      rw [List.append_assoc, ← List.append_assoc stem, hoverlap, List.append_assoc])
    have hpos : 0 < stem.length := by decide
    simp only [List.length_append] at hle
    omega

/-- Where ones come out in the places of bindings, each marker was found where it was put. -/
theorem markersStand_of_fillFrom {params : List Param} {ps : List Piece}
    (ones : SuppliedWith params "1" ps) {s : List Char} {marked place : Quotation}
    {bound : List BoundParameter}
    (h : fillFrom params marked (s ++ ps.flatMap Piece.marked) (ps.filterMap Piece.name?) =
      .ok (s ++ inserted params place ps, bound)) : MarkersStand s ps := by
  induction ps generalizing s marked place bound with
  | nil => trivial
  | cons p ps ih =>
    cases p with
    | plain c =>
      refine @ih ones.tail (s ++ [c]) marked (place.after c) bound ?_
      have hnames : (Piece.plain c :: ps).filterMap Piece.name? = ps.filterMap Piece.name? :=
        List.filterMap_cons_none rfl
      rw [hnames] at h
      simpa [Piece.marked, inserted] using h
    | binding expression =>
      obtain ⟨before, after, p, rest, bound', hfirst, hparam, hrest, hchars⟩ :=
        fillFrom_cons_eq_ok h
      obtain ⟨p', hparam', hvalue⟩ := ones expression List.mem_cons_self
      obtain rfl : p' = p := Option.some.inj (hparam'.symm.trans hparam)
      rw [inserted, ones.valueAt List.mem_cons_self, hvalue, rendered_one, rendered_one] at hchars
      obtain ⟨hsplit, hmin⟩ := aroundMarker?_spec hfirst
      obtain ⟨r, rfl⟩ : before <+: s :=
        List.prefix_of_prefix_length_le ⟨marker ++ after, hsplit.symm⟩ ⟨_, rfl⟩ (hmin s _ rfl)
      rw [List.append_assoc] at hsplit hchars
      have hmarkers := List.append_cancel_left hsplit
      have hones := List.append_cancel_left hchars
      cases r with
      | cons c r =>
        -- a marker found too early starts where the plain text has the value instead
        have hnumber : '#' = c := (List.cons.inj hmarkers).1.symm
        have hone : '1' = c := (List.cons.inj hones).1.symm
        exact absurd (hnumber.trans hone.symm) (by decide)
      | nil =>
        obtain rfl : ps.flatMap Piece.marked = after := List.append_cancel_left hmarkers
        obtain rfl : inserted params place ps = rest := (List.cons.inj hones).2
        rw [List.append_nil] at hfirst
        exact ⟨by rw [List.append_nil]; exact stands_of_aroundMarker? hfirst,
          @ih ones.tail [] _ place _ hrest⟩

/-! ### Apostrophes show a quote that was mistaken -/

/-- A place inside a string is between double quotes or apostrophes. -/
def IsQuoted (place : Quotation) : Prop :=
  ∀ quote, place.quote? = some quote → quote = '"' ∨ quote = '\''

theorem isQuoted_outside : IsQuoted .outside :=
  nofun

theorem IsQuoted.after {place : Quotation} (h : IsQuoted place) (c : Char) :
    IsQuoted (place.after c) := by
  intro quote hquote
  revert hquote
  fun_cases Quotation.after place c with
  | case1 c hc => exact fun hquote => Option.some.inj hquote ▸ hc
  | case2 => exact nofun
  | case3 => exact fun hquote => h quote hquote
  | case4 => exact fun hquote => h quote hquote
  | case5 => exact nofun
  | case6 => exact fun hquote => h quote hquote

theorem IsQuoted.afterAll {place : Quotation} (h : IsQuoted place) (s : List Char) :
    IsQuoted (place.afterAll s) := by
  induction s generalizing place with
  | nil => exact h
  | cons c s ih => exact ih (h.after c)

theorem IsQuoted.cases {place : Quotation} (h : IsQuoted place) :
    place.quote? = none ∨ place.quote? = some '"' ∨ place.quote? = some '\'' := by
  cases hquote : place.quote? with
  | none => exact .inl rfl
  | some quote =>
    rcases h quote hquote with rfl | rfl
    · exact .inr (.inl rfl)
    · exact .inr (.inr rfl)

/-- An apostrophe is written in another way outside of strings, between double quotes and between
apostrophes, and the first character tells which. -/
theorem quote?_eq_of_apostrophe {p q : Quotation} (hp : IsQuoted p) (hq : IsQuoted q)
    {s t : List Char}
    (h : (rendered (some "'") p.quote?).1 ++ s = (rendered (some "'") q.quote?).1 ++ t) :
    p.quote? = q.quote? := by
  have houtside : (rendered (some "'") none).1 = ['"', '\'', '"'] := by decide
  have hdouble : (rendered (some "'") (some '"')).1 = ['\''] := by decide
  have hsingle : (rendered (some "'") (some '\'')).1 = ['\\', '\''] := by decide
  rcases hp.cases with hp | hp | hp <;> rcases hq.cases with hq | hq | hq <;>
    simp_all

/-- Where apostrophes come out as the plain text demands, the quotes around all bindings agree. -/
theorem quotesAgree_of_spliced {params : List Param} {ps : List Piece}
    (apostrophes : SuppliedWith params "'" ps) {marked place : Quotation}
    (hmarked : IsQuoted marked)
    (hplace : IsQuoted place) (h : spliced params marked ps = inserted params place ps) :
    QuotesAgree marked place ps := by
  induction ps generalizing marked place with
  | nil => trivial
  | cons p ps ih =>
    cases p with
    | plain c =>
      exact ih apostrophes.tail (hmarked.after c) (hplace.after c) (List.cons.inj h).2
    | binding expression =>
      rw [spliced, inserted, apostrophes.valueAt List.mem_cons_self,
        apostrophes.valueAt List.mem_cons_self] at h
      have hquote := quote?_eq_of_apostrophe hmarked hplace h
      rw [hquote] at h
      exact ⟨hquote,
        ih apostrophes.tail (hmarked.afterAll marker) hplace (List.append_cancel_left h)⟩

/-! ### The texts that are filled in place -/

theorem markersStand_of_inserts {text : String}
    (h : Inserts (everywhere "1" (bindings text.toList)) text) :
    MarkersStand [] (pieces text.toList) := by
  obtain ⟨bound, hfilled⟩ := h
  rw [filled_eq_fillFrom] at hfilled
  obtain ⟨⟨chars, bound'⟩, hfill, heq⟩ := Result.map_eq_ok.1 hfilled
  obtain ⟨hchars, -⟩ := Prod.mk.inj heq
  rw [String.ofList_inj.1 hchars] at hfill
  exact markersStand_of_fillFrom (suppliedWith_everywhere "1" (pieces text.toList)) hfill

theorem quotesAgree_of_inserts {text : String} (stand : MarkersStand [] (pieces text.toList))
    (h : Inserts (everywhere "'" (bindings text.toList)) text) :
    QuotesAgree .outside .outside (pieces text.toList) := by
  obtain ⟨bound, hfilled⟩ := h
  have supplied := supplied_of_matched (unmatched?_everywhere "'" (pieces text.toList))
  have heq := (filled_pieces stand supplied).symm.trans hfilled
  obtain ⟨hchars, -⟩ := Prod.mk.inj (Except.ok.inj heq)
  exact quotesAgree_of_spliced (suppliedWith_everywhere "'" (pieces text.toList))
    isQuoted_outside isQuoted_outside (String.ofList_inj.1 hchars)

/-- **Filling a text puts values in the places of its bindings, whatever the values, just where
markers stand and quotes agree.** The bindings are the leftmost and shortest stretches of the text
between two opening and two closing braces. In every text filling stops at the leftmost one without
a parameter, and else records each of them once, in order. -/
theorem filled_inserted_iff (text : String) :
    (∀ ps, Cut text.toList ps ↔ ps = pieces text.toList) ∧
    (∀ params binding, unmatched? params (bindings text.toList) = some binding →
      filled text params = .error (.unboundBinding binding)) ∧
    (∀ params, unmatched? params (bindings text.toList) = none →
      ∃ result, filled text params =
        .ok (result, (bindings text.toList).map (recorded params))) ∧
    ((∀ params, unmatched? params (bindings text.toList) = none → Inserts params text) ↔
      MarkersStand [] (pieces text.toList) ∧
        QuotesAgree .outside .outside (pieces text.toList)) := by
  refine ⟨fun ps => cut_iff, fun _ _ => filled_of_unmatched, fun _ => exists_filled, ?_, ?_⟩
  · intro inserts
    have stand := markersStand_of_inserts
      (inserts _ (unmatched?_everywhere "1" (pieces text.toList)))
    exact ⟨stand, quotesAgree_of_inserts stand
      (inserts _ (unmatched?_everywhere "'" (pieces text.toList)))⟩
  · rintro ⟨stand, agree⟩ params matched
    exact inserts_of_stand stand agree matched

example : ¬MarkersStand [] (pieces "#_formbridge_placeholder# \x7b\x7ba\x7d\x7d".toList) := by
  intro h
  exact h.1.1 ⟨[], [' '], rfl⟩

end Substitution
end FormDispatch
