/-
# Standard JSON is query text

What the reader of JSON accepts, without names for numbers that are not finite, is a text of the
grammar of query text, and spells the same document there (`spells_of_readStandard`). One thing
sets the two apart: a surrogate that is escaped without its partner, which JSON lets pass. So the
escapes of the text must be paired (`isPaired`), which is told from the text alone.
-/

import FormDispatch.Proofs.Document.Pairing
import FormDispatch.Proofs.Query.Completeness
import FormDispatch.Proofs.Result

namespace FormDispatch
namespace Query

open Document (isPaired isPairedFrom isPairedFrom_cons isPairedFrom_escape isPairedFrom_append
  isPairedFrom_true)
open Document.Reader (unit? isHighSurrogate isLowSurrogate isLeadingDigit)

/-- A one-letter escape of JSON is one of query text. -/
theorem plainEscape?_of_standard {c x : Char} (h : Document.Reader.plainEscape? c = some x) :
    Reader.plainEscape? c = some x := by
  have hc : c ≠ '\'' := by
    rintro rfl
    cases h
  simp [Reader.plainEscape?, hc, h]

/-- After the first unit of a pair, a paired text goes on with the second one. -/
theorem text_waiting {opened high : Nat} {str : String} {s held rest : List Char}
    (h : Document.Reader.text opened held (some high) s = .ok (str, rest))
    (hpaired : isPairedFrom true s = true) :
    ∃ a b c d unit r, s = '\\' :: 'u' :: a :: b :: c :: d :: r ∧ unit? a b c d = some unit ∧
      isLowSurrogate unit = true ∧ isPaired r = true ∧
      Document.Reader.text opened (Document.Reader.pairedChar high unit :: held) none r =
        .ok (str, rest) := by
  obtain ⟨a, b, c, d, unit, r, rfl, hunit, hlow, hr⟩ := isPairedFrom_true hpaired
  have hhigh : isHighSurrogate unit = false := by
    rw [Bool.eq_false_iff]
    intro hhigh
    rw [not_isLowSurrogate_of_isHighSurrogate hhigh] at hlow
    cases hlow
  rw [Document.Reader.text] at h
  split at h
  · cases h
  · simp only [hunit, Document.Reader.withUnit, hhigh, hlow] at h
    exact ⟨a, b, c, d, unit, r, rfl, hunit, hlow, hr, h⟩

/-- The text starts with spelled characters and a closing quote, and escapes surrogates in pairs
after it; `str` is those characters behind the ones that are held. -/
def StartsWithText (held : List Char) (str : String) (s rest : List Char) : Prop :=
  ∃ cs u, s = u ++ '"' :: rest ∧ SpelledText '"' cs u ∧
    str = String.ofList (held.reverse ++ cs) ∧ isPaired rest = true

theorem StartsWithText.cons {x : Char} {u held r rest : List Char} {str : String}
    (h : StartsWithText (x :: held) str r rest) (hx : SpelledChar '"' x u) :
    StartsWithText held str (u ++ r) rest := by
  obtain ⟨cs, v, rfl, hv, rfl, hrest⟩ := h
  exact ⟨x :: cs, u ++ v, by rw [List.append_assoc], .cons hx hv, by simp, hrest⟩

/-- **A text between double quotes is spelled as the grammar has it.** -/
theorem spelledText_of_text {opened : Nat} {str : String} {s held rest : List Char}
    (h : Document.Reader.text opened held none s = .ok (str, rest)) (hpaired : isPaired s = true) :
    StartsWithText held str s rest := by
  induction hn : s.length using Nat.strongRecOn generalizing s held with
  | ind n ih =>
    subst hn
    -- the characters behind the first spelling are fewer, so they are spelled too
    have step : ∀ {x : Char} {u r : List Char}, s = u ++ r → SpelledChar '"' x u → u ≠ [] →
        Document.Reader.text opened (x :: held) none r = .ok (str, rest) → isPaired r = true →
        StartsWithText held str s rest := by
      intro x u r hs hx hu hr hpaired
      have hlt : r.length < s.length := by
        have := List.length_pos_iff.2 hu
        rw [hs, List.length_append]
        omega
      rw [hs]
      exact (ih _ hlt hr hpaired rfl).cons hx
    rw [Document.Reader.text.eq_def] at h
    split at h
    · cases h
    · next r =>
      cases h
      rw [isPaired, isPairedFrom_cons (by decide)] at hpaired
      exact ⟨[], [], rfl, .nil, by simp [Document.Reader.settled], hpaired⟩
    · next a b c d r =>
      split at h
      · cases h
      · split at h
        · cases h
        · next unit hunit =>
          simp only [isPaired, isPairedFrom, hunit, Bool.and_eq_true, beq_iff_eq] at hpaired
          obtain ⟨hlow, hr⟩ := hpaired
          cases hhigh : isHighSurrogate unit with
          | true =>
            rw [hhigh] at hr
            simp only [Document.Reader.withUnit, hhigh, if_true, Document.Reader.settled] at h
            obtain ⟨e, f, g, k, second, r, rfl, hsecond, hlow', hr, h⟩ := text_waiting h hr
            exact step rfl (.pair hunit hhigh hsecond hlow') (by simp) h hr
          | false =>
            rw [hhigh] at hr
            simp only [Document.Reader.withUnit, hhigh, ← hlow, Document.Reader.settled] at h
            exact step rfl (.unit hunit hhigh hlow.symm) (by simp) h hr
    · cases h
    · next c r _ hu =>
      have hc : c ≠ 'u' := hu
      rw [isPaired, isPairedFrom_escape hc] at hpaired
      split at h
      · next x hx =>
        exact step rfl (.escape (plainEscape?_of_standard hx)) (by simp) h hpaired
      · cases h
    · cases h
    · next c r hquote _ _ hescape hback =>
      have hq : c ≠ '"' := hquote
      have hb : c ≠ '\\' := by
        intro e
        cases r with
        | nil => exact hback e rfl
        | cons d t => exact hescape d t e rfl
      rw [isPaired, isPairedFrom_cons hb] at hpaired
      split at h
      · cases h
      · next hcontrol =>
        exact step rfl (.plain hq hb (by omega)) (by simp) h hpaired

/-! ### Gaps, numerals and names -/

/-- The gap that is skipped is blank. -/
theorem skipGap_spec (s : List Char) : ∃ w, s = w ++ Document.Reader.skipGap s ∧ Blanks w ∧
    (isPaired s = true → isPaired (Document.Reader.skipGap s) = true) := by
  have gap : ∀ c ∈ s.takeWhile Document.Reader.isGap, Document.Reader.isGap c = true :=
    List.all_eq_true.1 List.all_takeWhile
  have blank : ∀ {c}, Document.Reader.isGap c = true → Text.isBlank c = true ∧ c ≠ '\\' := by
    intro c hc
    simp only [Document.Reader.isGap, Bool.or_eq_true, beq_iff_eq] at hc
    rcases hc with ((rfl | rfl) | rfl) | rfl <;> decide
  have hs : s = s.takeWhile Document.Reader.isGap ++ Document.Reader.skipGap s :=
    List.takeWhile_append_dropWhile.symm
  refine ⟨_, hs, fun c hc => (blank (gap c hc)).1, fun h => ?_⟩
  rw [hs] at h
  rwa [isPaired, isPairedFrom_append fun c hc => (blank (gap c hc)).2] at h

/-- A mark that a gap is skipped for has blanks before it. -/
theorem skipGap_mark {s r : List Char} {c : Char} (h : Document.Reader.skipGap s = c :: r)
    (hc : c ≠ '\\') (hpaired : isPaired s = true) :
    ∃ w, s = w ++ c :: r ∧ Blanks w ∧ isPaired r = true := by
  obtain ⟨w, hw, blank, hgap⟩ := skipGap_spec s
  have hgap := hgap hpaired
  rw [h] at hw hgap
  rw [isPaired, isPairedFrom_cons hc] at hgap
  exact ⟨w, hw, blank, hgap⟩

/-- The text starts with a phrase, and escapes surrogates in pairs after it. -/
def StartsWith (p : Phrase) (s rest : List Char) : Prop :=
  ∃ t, s = t ++ rest ∧ Spells p t ∧ isPaired rest = true

/-- A numeral of JSON is one of query text. -/
theorem startsWith_number {s rest : List Char} {d : Document}
    (h : Document.Reader.number s = .ok (d, rest)) (hpaired : isPaired s = true) :
    StartsWith (.value d) s rest := by
  unfold Document.Reader.number at h
  split at h
  · next parts rest' hparts =>
    obtain ⟨d', hd, he⟩ := Result.map_eq_ok.1 h
    cases he
    obtain ⟨t, rfl, ht⟩ := Document.Reader.numeral?_sound hparts
    have numeral := ht.mono (fun c => Text.isDecimalDigit_of_isDigit) fun c hc => hc
    have plain : ∀ c ∈ t, c ≠ '\\' := by
      rintro c hc rfl
      exact absurd (isOfNumeral_of_mem numeral _ hc) (by decide)
    rw [isPaired, isPairedFrom_append plain] at hpaired
    exact ⟨t, rfl, .numeral numeral hd, hpaired⟩
  · cases h

/-- The names of JSON are names of query text. -/
theorem startsWith_named {s rest : List Char} {d : Document}
    (h : Document.Reader.named? false s = some (d, rest)) (hpaired : isPaired s = true) :
    StartsWith (.value d) s rest := by
  unfold Document.Reader.named? at h
  split at h
  · next r =>
    cases h
    exact ⟨['n', 'u', 'l', 'l'], rfl, .null, by simpa [isPaired, isPairedFrom_cons] using hpaired⟩
  · next r =>
    cases h
    exact ⟨['t', 'r', 'u', 'e'], rfl, .yes, by simpa [isPaired, isPairedFrom_cons] using hpaired⟩
  · next r =>
    cases h
    exact ⟨['f', 'a', 'l', 's', 'e'], rfl, .no,
      by simpa [isPaired, isPairedFrom_cons] using hpaired⟩
  all_goals simp at h

/-! ### Values, items and members -/

/-- More blanks in front of the items of an array. -/
theorem Spells.blanks_items {held : List Document} {v t : List Char} (hv : Blanks v)
    (h : Spells (.items held) t) : Spells (.items held) (v ++ t) := by
  cases h with
  | lastItem hw h he => exact List.append_assoc v _ _ ▸ .lastItem (hv.append hw) h he
  | item hw h hw' hs => exact List.append_assoc v _ _ ▸ .item (hv.append hw) h hw' hs

/-- More blanks in front of the members of an object. -/
theorem Spells.blanks_members {held : List (String × Document)} {v t : List Char} (hv : Blanks v)
    (h : Spells (.members held) t) : Spells (.members held) (v ++ t) := by
  cases h with
  | lastMember hw hk hw₁ hw₂ h he =>
    exact List.append_assoc v _ _ ▸ .lastMember (hv.append hw) hk hw₁ hw₂ h he
  | member hw hk hw₁ hw₂ h hw' hs =>
    exact List.append_assoc v _ _ ▸ .member (hv.append hw) hk hw₁ hw₂ h hw' hs

/-- With so much fuel, what is read as a value is spelled. -/
def ValuesAreSpelled (fuel : Nat) : Prop :=
  ∀ {s rest : List Char} {d : Document}, Document.Reader.value false fuel s = .ok (d, rest) →
    isPaired s = true → StartsWith (.value d) s rest

/-- With so much fuel, what is read as items is spelled. -/
def ItemsAreSpelled (fuel : Nat) : Prop :=
  ∀ {s rest : List Char} {held : List Document},
    Document.Reader.items false fuel s = .ok (held, rest) → isPaired s = true →
      StartsWith (.items held) s rest

/-- With so much fuel, what is read as members is spelled. -/
def MembersAreSpelled (fuel : Nat) : Prop :=
  ∀ {s rest : List Char} {held : List (String × Document)},
    Document.Reader.memberPairs false fuel s = .ok (held, rest) → isPaired s = true →
      StartsWith (.members held) s rest

theorem valuesAreSpelled_succ {fuel : Nat} (items : ItemsAreSpelled fuel)
    (members : MembersAreSpelled fuel) : ValuesAreSpelled (fuel + 1) := by
  intro s rest d h hpaired
  unfold Document.Reader.value at h
  dsimp only at h
  split at h
  · next r =>
    obtain ⟨⟨str, rest'⟩, htext, he⟩ := Result.map_eq_ok.1 h
    cases he
    rw [isPaired, isPairedFrom_cons (by decide)] at hpaired
    obtain ⟨cs, u, rfl, hu, rfl, hrest⟩ := spelledText_of_text htext hpaired
    exact ⟨'"' :: (u ++ ['"']), by simp, .text rfl hu, hrest⟩
  · next r =>
    rw [isPaired, isPairedFrom_cons (by decide)] at hpaired
    obtain ⟨w, hr, hw, hgap⟩ := skipGap_spec r
    have hgap := hgap hpaired
    split at h
    · next rest' hrest =>
      cases h
      rw [hrest, isPaired, isPairedFrom_cons (by decide)] at hgap
      exact ⟨'[' :: (w ++ [']']), by rw [hr, hrest]; simp, .emptyArr hw, hgap⟩
    · obtain ⟨⟨held, rest'⟩, hitems, he⟩ := Result.map_eq_ok.1 h
      cases he
      obtain ⟨t, ht, hspells, hrest⟩ := items hitems hgap
      exact ⟨'[' :: (w ++ t), by rw [hr, ht]; simp, .arr (hspells.blanks_items hw), hrest⟩
  · next r =>
    rw [isPaired, isPairedFrom_cons (by decide)] at hpaired
    obtain ⟨w, hr, hw, hgap⟩ := skipGap_spec r
    have hgap := hgap hpaired
    split at h
    · next rest' hrest =>
      cases h
      rw [hrest, isPaired, isPairedFrom_cons (by decide)] at hgap
      exact ⟨'\x7b' :: (w ++ ['\x7d']), by rw [hr, hrest]; simp, .emptyObj hw, hgap⟩
    · obtain ⟨⟨held, rest'⟩, hmembers, he⟩ := Result.map_eq_ok.1 h
      cases he
      obtain ⟨t, ht, hspells, hrest⟩ := members hmembers hgap
      exact ⟨'\x7b' :: (w ++ t), by rw [hr, ht]; simp, .obj (hspells.blanks_members hw), hrest⟩
  · split at h
    · next found hnamed =>
      cases h
      exact startsWith_named hnamed hpaired
    · exact startsWith_number h hpaired

theorem itemsAreSpelled_succ {fuel : Nat} (values : ValuesAreSpelled fuel)
    (items : ItemsAreSpelled fuel) : ItemsAreSpelled (fuel + 1) := by
  intro s rest held h hpaired
  unfold Document.Reader.items at h
  dsimp only at h
  obtain ⟨⟨first, rest₁⟩, hfirst, hmore⟩ := Result.bind_eq_ok.1 h
  obtain ⟨t, rfl, ht, hpaired⟩ := values hfirst hpaired
  dsimp only at hmore
  split at hmore
  · next rest' hrest =>
    cases hmore
    obtain ⟨w, rfl, blank, hpaired⟩ := skipGap_mark hrest (by decide) hpaired
    have hspells := Spells.lastItem .nil ht (.plain blank)
    exact ⟨_, by simp, hspells, hpaired⟩
  · next rest₂ hrest =>
    obtain ⟨w, rfl, blank, hpaired⟩ := skipGap_mark hrest (by decide) hpaired
    obtain ⟨v, hv, blank', hgap⟩ := skipGap_spec rest₂
    obtain ⟨⟨others, rest'⟩, hothers, he⟩ := Result.bind_eq_ok.1 hmore
    cases he
    obtain ⟨u, hu, hspells, hpaired⟩ := items hothers (hgap hpaired)
    have hall := Spells.item .nil ht blank (hspells.blanks_items blank')
    exact ⟨_, by rw [hv, hu]; simp, hall, hpaired⟩
  · cases hmore

theorem membersAreSpelled_succ {fuel : Nat} (values : ValuesAreSpelled fuel)
    (members : MembersAreSpelled fuel) : MembersAreSpelled (fuel + 1) := by
  intro s rest held h hpaired
  unfold Document.Reader.memberPairs at h
  dsimp only at h
  split at h
  · next r =>
    rw [isPaired, isPairedFrom_cons (by decide)] at hpaired
    obtain ⟨⟨name, rest₁⟩, hname, hvalue⟩ := Result.bind_eq_ok.1 h
    obtain ⟨cs, u, rfl, hu, rfl, hpaired⟩ := spelledText_of_text hname hpaired
    have key : SpelledKey (String.ofList cs) ('"' :: (u ++ ['"'])) := .quoted rfl hu
    dsimp only at hvalue
    split at hvalue
    · next rest₂ hcolon =>
      obtain ⟨w, rfl, blank, hpaired⟩ := skipGap_mark hcolon (by decide) hpaired
      obtain ⟨w₂, hw₂, blank₂, hgap⟩ := skipGap_spec rest₂
      obtain ⟨⟨d, rest₃⟩, hd, hmore⟩ := Result.bind_eq_ok.1 hvalue
      obtain ⟨t, ht, hspells, hpaired⟩ := values hd (hgap hpaired)
      dsimp only at hmore
      split at hmore
      · next rest' hrest =>
        cases hmore
        obtain ⟨w₃, rfl, blank₃, hpaired⟩ := skipGap_mark hrest (by decide) hpaired
        have hall := Spells.lastMember .nil key blank blank₂ hspells (.plain blank₃)
        exact ⟨_, by rw [hw₂, ht]; simp, hall, hpaired⟩
      · next rest₄ hrest =>
        obtain ⟨w₃, rfl, blank₃, hpaired⟩ := skipGap_mark hrest (by decide) hpaired
        obtain ⟨v, hv, blank', hgap⟩ := skipGap_spec rest₄
        obtain ⟨⟨others, rest'⟩, hothers, he⟩ := Result.bind_eq_ok.1 hmore
        cases he
        obtain ⟨x, hx, hothers, hpaired⟩ := members hothers (hgap hpaired)
        have hall := Spells.member .nil key blank blank₂ hspells blank₃
          (hothers.blanks_members blank')
        exact ⟨_, by rw [hw₂, ht, hv, hx]; simp, hall, hpaired⟩
      · cases hmore
    · cases hvalue
  · cases h

/-- What is read is spelled, whatever the fuel. -/
theorem areSpelled (fuel : Nat) :
    ValuesAreSpelled fuel ∧ ItemsAreSpelled fuel ∧ MembersAreSpelled fuel := by
  induction fuel with
  | zero => exact ⟨nofun, nofun, nofun⟩
  | succ fuel ih =>
    obtain ⟨values, items, members⟩ := ih
    exact ⟨valuesAreSpelled_succ items members, itemsAreSpelled_succ values items,
      membersAreSpelled_succ values members⟩

/-- **Standard JSON is query text:** between blanks, it spells the document that it holds. -/
theorem spells_of_readStandard {s : List Char} {d : Document}
    (h : Document.readStandard s = .ok d) (hpaired : isPaired s = true) :
    ∃ w t w', s = w ++ (t ++ w') ∧ Blanks w ∧ Spells (.value d) t ∧ Blanks w' := by
  unfold Document.readStandard Document.readWith at h
  split at h
  · cases h
  · obtain ⟨⟨held, rest⟩, hvalue, h⟩ := Result.bind_eq_ok.1 h
    obtain ⟨w, hw, blank, hgap⟩ := skipGap_spec s
    obtain ⟨t, ht, hspells, -⟩ := (areSpelled _).1 hvalue (hgap hpaired)
    obtain ⟨w', hw', blank', -⟩ := skipGap_spec rest
    dsimp only at h
    split at h
    · next hnil =>
      cases h
      rw [hnil, List.append_nil] at hw'
      subst hw'
      exact ⟨w, t, rest, by rw [← ht, ← hw], blank, hspells, blank'⟩
    · cases h

/-- A standard JSON text without the blanks around it spells its document. -/
theorem spells_trim_of_readStandard {s : List Char} {d : Document}
    (h : Document.readStandard s = .ok d) (hpaired : isPaired s = true) :
    Spells (.value d) (Text.trim s) := by
  obtain ⟨w, t, w', rfl, hw, ht, hw'⟩ := spells_of_readStandard h hpaired
  rw [trim_word hw ht.head_value ht.endsWord hw']
  exact ht

end Query
end FormDispatch
