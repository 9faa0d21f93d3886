/-
# Where a text is cut

A binding is a stretch of a text: two opening braces, an expression, and two closing braces. A text
is cut at the leftmost stretch of this kind, and of those that start there at the shortest one; what
is left behind it is cut in the same way (`Cut`). Its pieces are the one way to cut a text
(`cut_iff`).
-/

import FormDispatch.Proofs.Substitution.Splice

namespace FormDispatch
namespace Substitution

/-- A text has a binding with so much in front of it and so much behind. -/
def HasBinding (s before expression after : List Char) : Prop :=
  s = before ++ ((Piece.binding expression).chars ++ after)

/-- A binding of a text is the leftmost, and the shortest of those that start there. -/
structure IsFirstBinding (s before expression after : List Char) : Prop where
  found : HasBinding s before expression after
  leftmost : ∀ {b e a}, HasBinding s b e a → before.length ≤ b.length
  shortest : ∀ {e a}, HasBinding s before e a → expression.length ≤ e.length

/-- A text, cut at its first binding and on behind it. -/
inductive Cut : List Char → List Piece → Prop
  | plain {s : List Char} (none : ∀ b e a, ¬HasBinding s b e a) : Cut s (s.map .plain)
  | binding {s before expression after : List Char} {ps : List Piece}
      (first : IsFirstBinding s before expression after) (rest : Cut after ps) :
      Cut s (before.map .plain ++ .binding expression :: ps)

/-! ### First bindings -/

theorem hasBinding_nil {r e a : List Char} :
    HasBinding ('\x7b' :: '\x7b' :: r) [] e a ↔ r = e ++ '\x7d' :: '\x7d' :: a := by
  simp [HasBinding, Piece.chars]

theorem hasBinding_cons {c : Char} {s b e a : List Char} :
    HasBinding (c :: s) (c :: b) e a ↔ HasBinding s b e a := by
  simp [HasBinding]

/-- Nothing but two opening braces starts a binding. -/
theorem HasBinding.start {s e a : List Char} (h : HasBinding s [] e a) :
    ∃ r, s = '\x7b' :: '\x7b' :: r :=
  ⟨_, h⟩

/-- A binding that does not start a text lies behind its first character. -/
theorem HasBinding.tail {c : Char} {s b e a : List Char} (h : HasBinding (c :: s) b e a)
    (hb : b ≠ []) : ∃ b', b = c :: b' ∧ HasBinding s b' e a := by
  obtain ⟨d, b', rfl⟩ := List.exists_cons_of_ne_nil hb
  obtain ⟨rfl, htail⟩ := List.cons.inj h
  exact ⟨b', rfl, htail⟩

/-- What two closing braces end has a shortest start. -/
theorem exists_shortest {s : List Char} (h : ∃ e a, s = e ++ '\x7d' :: '\x7d' :: a) :
    ∃ e a, s = e ++ '\x7d' :: '\x7d' :: a ∧
      ∀ e' a', s = e' ++ '\x7d' :: '\x7d' :: a' → e.length ≤ e'.length := by
  induction s with
  | nil =>
    obtain ⟨e, a, hs⟩ := h
    simp at hs
  | cons c s ih =>
    by_cases hstart : ∃ a, c :: s = '\x7d' :: '\x7d' :: a
    · obtain ⟨a, hs⟩ := hstart
      exact ⟨[], a, hs, fun _ _ _ => Nat.zero_le _⟩
    · -- every end lies behind the first character, so they are those of the rest
      have behind : ∀ {e a}, c :: s = e ++ '\x7d' :: '\x7d' :: a →
          ∃ e', e = c :: e' ∧ s = e' ++ '\x7d' :: '\x7d' :: a := by
        intro e a hs
        cases e with
        | nil => exact absurd ⟨a, hs⟩ hstart
        | cons d e =>
          obtain ⟨rfl, hrest⟩ := List.cons.inj hs
          exact ⟨e, rfl, hrest⟩
      obtain ⟨e, a, hs⟩ := h
      obtain ⟨e, -, hrest⟩ := behind hs
      obtain ⟨least, a', hleast, hmin⟩ := ih ⟨e, a, hrest⟩
      refine ⟨c :: least, a', by rw [hleast]; rfl, fun other b hother => ?_⟩
      obtain ⟨other, rfl, hbehind⟩ := behind hother
      exact Nat.succ_le_succ (hmin other b hbehind)

/-- **A text with a binding has a first one.** -/
theorem exists_isFirstBinding {s : List Char} (h : ∃ b e a, HasBinding s b e a) :
    ∃ b e a, IsFirstBinding s b e a := by
  induction s with
  | nil =>
    obtain ⟨b, e, a, hs⟩ := h
    simp [HasBinding, Piece.chars] at hs
  | cons c s ih =>
    by_cases hstart : ∃ e a, HasBinding (c :: s) [] e a
    · obtain ⟨e, a, hstart⟩ := hstart
      obtain ⟨r, hr⟩ := hstart.start
      rw [hr, hasBinding_nil] at hstart
      obtain ⟨e, a, hs, hleast⟩ := exists_shortest ⟨e, a, hstart⟩
      rw [hr]
      exact ⟨[], e, a, hasBinding_nil.2 hs, fun _ => Nat.zero_le _,
        fun h => hleast _ _ (hasBinding_nil.1 h)⟩
    · have behind : ∀ {b e a}, HasBinding (c :: s) b e a → b ≠ [] := by
        rintro b e a hs rfl
        exact hstart ⟨e, a, hs⟩
      obtain ⟨b, e, a, hs⟩ := h
      obtain ⟨b, -, hrest⟩ := hs.tail (behind hs)
      obtain ⟨b, e, a, first⟩ := ih ⟨b, e, a, hrest⟩
      refine ⟨c :: b, e, a, hasBinding_cons.2 first.found, fun hother => ?_,
        fun hother => first.shortest (hasBinding_cons.1 hother)⟩
      obtain ⟨other, rfl, hbehind⟩ := hother.tail (behind hother)
      exact Nat.succ_le_succ (first.leftmost hbehind)

/-! ### The pieces of a text -/

/-- Two opening braces that are never closed are plain text. -/
theorem piecesFrom_unclosed {s : List Char} (h : ∀ e a, s ≠ e ++ '\x7d' :: '\x7d' :: a)
    (held : List Char) :
    piecesFrom (some held) s = ('\x7b' :: '\x7b' :: (held.reverse ++ s)).map .plain := by
  induction s generalizing held with
  | nil => simp [piecesFrom]
  | cons c s ih =>
    rw [piecesFrom_held (fun r => h [] r), ih fun e a hs => h (c :: e) a (by rw [hs]; rfl)]
    simp

/-- A text without bindings is plain. -/
theorem pieces_of_none {s : List Char} (h : ∀ b e a, ¬HasBinding s b e a) :
    pieces s = s.map .plain := by
  induction s with
  | nil => rfl
  | cons c s ih =>
    by_cases hopen : ∃ r, c :: s = '\x7b' :: '\x7b' :: r
    · obtain ⟨r, hr⟩ := hopen
      rw [hr, pieces, piecesFrom]
      refine piecesFrom_unclosed (fun e a hs => h [] e a ?_) []
      rw [hr]
      exact hasBinding_nil.2 hs
    · rw [not_exists] at hopen
      have hrest : pieces s = s.map .plain :=
        ih fun b e a hs => h (c :: b) e a (hasBinding_cons.2 hs)
      rw [pieces, piecesFrom_plain hopen, ← pieces, hrest]
      rfl

/-- A text is cut at its first binding. -/
theorem pieces_of_first {s b e a : List Char} (h : IsFirstBinding s b e a) :
    pieces s = b.map .plain ++ .binding e :: pieces a := by
  induction b generalizing s with
  | nil =>
    obtain ⟨r, rfl⟩ := h.found.start
    have hr := hasBinding_nil.1 h.found
    rw [pieces, piecesFrom, hr, piecesFrom_closed fun e' a' he =>
      h.shortest (hasBinding_nil.2 (hr.trans he))]
    rfl
  | cons c b ih =>
    obtain ⟨s, rfl⟩ : ∃ r, s = c :: r := ⟨_, h.found⟩
    -- two opening braces here would open a binding that ends where this one does, or before
    have hplain : ∀ r, c :: s ≠ '\x7b' :: '\x7b' :: r := by
      intro r hr
      have hfound := h.found
      rw [hr] at hfound
      obtain ⟨e', he'⟩ : ∃ e', HasBinding ('\x7b' :: '\x7b' :: r) [] e' a := by
        cases b with
        | nil =>
          obtain ⟨-, hr⟩ := List.cons.inj hfound
          obtain ⟨-, hr⟩ := List.cons.inj hr
          exact ⟨'\x7b' :: e, hasBinding_nil.2 (by rw [hr]; simp)⟩
        | cons d b =>
          obtain ⟨-, hr⟩ := List.cons.inj hfound
          obtain ⟨-, hr⟩ := List.cons.inj hr
          exact ⟨b ++ '\x7b' :: '\x7b' :: e, hasBinding_nil.2 (by rw [hr]; simp [Piece.chars])⟩
      rw [← hr] at he'
      exact absurd (h.leftmost he') (by simp)
    have hrest : IsFirstBinding s b e a :=
      ⟨hasBinding_cons.1 h.found,
        fun h' => Nat.le_of_succ_le_succ (h.leftmost (hasBinding_cons.2 h')),
        fun h' => h.shortest (hasBinding_cons.2 h')⟩
    rw [pieces, piecesFrom_plain hplain, ← pieces, ih hrest]
    rfl

/-- **A text is cut into its pieces, and in no other way.** -/
theorem cut_iff {s : List Char} {ps : List Piece} : Cut s ps ↔ ps = pieces s := by
  constructor
  · intro h
    induction h with
    | plain none => exact (pieces_of_none none).symm
    | binding first _ ih => rw [pieces_of_first first, ih]
  · rintro rfl
    induction hn : s.length using Nat.strongRecOn generalizing s with
    | ind n ih =>
      by_cases hsome : ∃ b e a, HasBinding s b e a
      · obtain ⟨b, e, a, first⟩ := exists_isFirstBinding hsome
        have hlt : a.length < n := by
          rw [← hn, first.found]
          simp [Piece.chars]
          omega
        rw [pieces_of_first first]
        exact .binding first (ih _ hlt rfl)
      · have hnone : ∀ b e a, ¬HasBinding s b e a := fun b e a h => hsome ⟨b, e, a, h⟩
        rw [pieces_of_none hnone]
        exact .plain hnone

end Substitution
end FormDispatch
