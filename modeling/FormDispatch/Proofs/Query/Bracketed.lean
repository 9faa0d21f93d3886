/-
# Query texts in brackets

Texts that hold values can be put side by side in brackets: what stands between the brackets and
commas is read as it is read alone, whatever comes behind it, so the whole holds the values in their
order (`read_bracketed`). The brackets take a level, and each of the texts nests as deep there as it
does alone (`Passes.of_spellsAlone`).
-/

import FormDispatch.Proofs.Query.Depth

namespace FormDispatch
namespace Query

/-! ### Texts in brackets -/

/-- A text holds a value, and nests no deeper than a text in brackets may. -/
def HoldsInside (t : List Char) (d : Document) : Prop :=
  read t = .ok d ∧ nesting t < deepest

/-- Texts between brackets, with commas between them and perhaps one behind the last. -/
inductive Bracketed (texts : List (List Char)) : List Char → Prop
  | plain {w w' : List Char} (hw : Blanks w) (hw' : Blanks w') :
      Bracketed texts (w ++ '[' :: ([','].intercalate texts ++ ']' :: w'))
  | comma {w v w' : List Char} (hne : texts ≠ []) (hw : Blanks w) (hv : Blanks v)
      (hw' : Blanks w') :
      Bracketed texts (w ++ '[' :: ([','].intercalate texts ++ ',' :: (v ++ ']' :: w')))

/-- Where more brackets are open, as many more are open at most. -/
theorem Place.peak_le_add {p q : Place} {k : Nat} (hquotation : p.quotation = q.quotation)
    (hdepth : p.depth ≤ q.depth + k) (s : List Char) : p.peak s ≤ q.peak s + k := by
  induction s generalizing p q with
  | nil => exact hdepth
  | cons c r ih =>
    have hnext : (p.after c).depth ≤ (q.after c).depth + k := by
      unfold after
      rw [hquotation]
      dsimp only
      split
      · unfold depthAfter
        split
        · omega
        · split <;> omega
      · exact hdepth
    have hafter : (p.after c).quotation = (q.after c).quotation := by
      rw [after, after, hquotation]
    have hrest := ih hafter hnext
    rw [peak, peak]
    omega

/-- A text that holds a value is passed where it stands, as deep as it nests alone. -/
theorem Passes.of_spellsAlone {d : Document} {t : List Char} (h : SpellsAlone d t)
    {cap depth : Nat} (hcap : nesting t + depth ≤ cap) (r : List Char) :
    Passes cap depth depth (t ++ r) r := by
  have hpeak : (Place.mk .outside depth).peak t ≤ (Place.mk .outside 0).peak t + depth :=
    Place.peak_le_add (p := ⟨.outside, depth⟩) (q := ⟨.outside, 0⟩) rfl
      (Nat.le_of_eq (Nat.zero_add depth).symm) t
  refine ⟨t, rfl, Nat.le_trans hpeak hcap, ?_⟩
  obtain ⟨w, u, w', rfl, hw, hu, hw'⟩ := h
  rw [Place.afterAll_append, hw.afterAll, Place.afterAll_append, hu.settles depth, hw'.afterAll]

theorem Ending.blanks {close : Char} {v e : List Char} (hv : Blanks v) (h : Ending close e) :
    Ending close (v ++ e) := by
  cases h with
  | plain hw => exact List.append_assoc v _ _ ▸ .plain (hv.append hw)
  | comma hw hw' => exact List.append_assoc v _ _ ▸ .comma (hv.append hw) hw'

/-- Values that are spelled alone are spelled as the items of an array. -/
theorem spells_intercalate {t : List Char} {d : Document} {ts : List (List Char)}
    {ds : List Document} (ht : SpellsAlone d t)
    (hts : List.Forall₂ (fun t d => SpellsAlone d t) ts ds) {e : List Char} (he : Ending ']' e) :
    Spells (.items (d :: ds)) ([','].intercalate (t :: ts) ++ e) := by
  induction hts generalizing t d with
  | nil =>
    obtain ⟨w, u, w', rfl, hw, hu, hw'⟩ := ht
    have hspelled := Spells.lastItem hw hu (he.blanks hw')
    simpa using hspelled
  | cons hnext _ ih =>
    obtain ⟨w, u, w', rfl, hw, hu, hw'⟩ := ht
    have hspelled := Spells.item hw hu hw' (ih hnext)
    simpa [List.intercalate_cons_cons] using hspelled

/-- Values that are spelled alone are passed one after the other. -/
theorem passes_intercalate {ts : List (List Char)} {ds : List Document}
    (hts : List.Forall₂ (fun t d => SpellsAlone d t ∧ nesting t < deepest) ts ds) (r : List Char) :
    Passes deepest 1 1 ([','].intercalate ts ++ r) r := by
  have hone : 1 ≤ deepest := by decide
  have hcomma : isNeutral ',' = true := by decide
  induction hts with
  | nil => exact .refl hone r
  | @cons t _ ts _ ht hrest ih =>
    cases hrest with
    | nil => simpa using Passes.of_spellsAlone ht.1 ht.2 r
    | @cons next _ rest _ _ _ =>
      rw [List.intercalate_cons_cons]
      simp only [List.append_assoc, List.singleton_append]
      refine (Passes.of_spellsAlone ht.1 ht.2 _).trans ?_
      exact (Passes.cons hone hone (Place.after_of_isNeutral hcomma 1)).trans ih

/-- **Texts in brackets are read as the list of their values,** in their order. -/
theorem read_bracketed {ts : List (List Char)} {ds : List Document} {s : List Char}
    (hs : Bracketed ts s) (hts : List.Forall₂ HoldsInside ts ds) : read s = .ok (.arr ds) := by
  have hone : 0 + 1 ≤ deepest := by decide
  have hspelled : List.Forall₂ (fun t d => SpellsAlone d t) ts ds :=
    hts.imp fun t d h => spellsAlone_of_read h.1
  have hpassed : List.Forall₂ (fun t d => SpellsAlone d t ∧ nesting t < deepest) ts ds :=
    hts.imp fun t d h => ⟨spellsAlone_of_read h.1, h.2⟩
  -- behind the opening bracket the texts are passed, and then the end of the array
  have hnesting : ∀ w e, Blanks w → Passes deepest 1 0 e [] →
      nesting (w ++ '[' :: ([','].intercalate ts ++ e)) ≤ deepest := fun w e hw he =>
    Passes.nesting_le ((Passes.blanks (Nat.zero_le _) hw).trans
      ((Passes.opening (.inl rfl) hone).trans ((passes_intercalate hpassed e).trans he)))
  have hclosed : ∀ w', Blanks w' → Passes deepest 1 0 (']' :: w') [] := fun w' hw' =>
    (Passes.closing (.inl rfl) hone).trans
      (by simpa using Passes.blanks (r := []) (Nat.zero_le deepest) hw')
  cases hs with
  | @plain w w' hw hw' =>
    refine (read_eq_ok (hnesting w _ hw (hclosed w' hw'))).mpr ?_
    cases hspelled with
    | nil => exact ⟨w, ['[', ']'], w', by simp, hw, .emptyArr (w := []) .nil, hw'⟩
    | cons ht hrest =>
      have hitems := spells_intercalate ht hrest (.plain (w := []) .nil)
      exact ⟨w, _, w', by simp, hw, .arr hitems, hw'⟩
  | @comma w v w' hne hw hv hw' =>
    have hend : Passes deepest 1 0 (',' :: (v ++ ']' :: w')) [] :=
      (Passes.cons (by decide) (by decide) (Place.after_of_isNeutral (by decide) 1)).trans
        ((Passes.blanks (by decide) hv).trans (hclosed w' hw'))
    refine (read_eq_ok (hnesting w _ hw hend)).mpr ?_
    cases hspelled with
    | nil => exact absurd rfl hne
    | cons ht hrest =>
      have hitems := spells_intercalate ht hrest (.comma (w := []) .nil hv)
      exact ⟨w, _, w', by simp, hw, .arr hitems, hw'⟩

/-- What is read stays the same without the blanks around the text. -/
theorem read_trim {s : List Char} {d : Document} (h : read s = .ok d) :
    read (Text.trim s) = .ok d := by
  have hnesting := nesting_le_of_read h
  obtain ⟨w, t, w', rfl, hw, ht, hw'⟩ := spellsAlone_of_read h
  have hinner : nesting t ≤ nesting (w ++ (t ++ w')) :=
    Nat.le_trans (Place.peak_left_le _ t w') (Place.peak_tail_le (hw.afterAll 0) _)
  rw [trim_word hw ht.head_value ht.endsWord hw', read_eq_ok (Nat.le_trans hinner hnesting)]
  exact ⟨[], t, [], by simp, .nil, ht, .nil⟩

/-- A text that is read is not blank. -/
theorem trim_ne_nil_of_read {s : List Char} {d : Document} (h : read s = .ok d) :
    Text.trim s ≠ [] := by
  obtain ⟨w, t, w', rfl, hw, ht, hw'⟩ := spellsAlone_of_read h
  rw [trim_word hw ht.head_value ht.endsWord hw']
  obtain ⟨c, r, rfl, -⟩ := ht.head_value
  exact List.cons_ne_nil c r

end Query
end FormDispatch
