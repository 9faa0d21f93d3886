/-
# Query text extends JSON

Every JSON text is a query text and holds the same document (`extends_json`), if it names no number
that is not finite, escapes surrogates in pairs and nests no deeper than it may.

On a text that names only finite numbers the two readers of JSON agree, the one that knows the other
names and the one that does not. Whether such a name stands in a text is told from the characters
alone (`namesFinite`): inside of quotes the letters of a name are no name.
-/

import FormDispatch.Proofs.Query.Soundness

namespace FormDispatch
namespace Query

open Document (isPaired isPairedFrom_cons)
open Document.Reader (skipGap)
open Substitution (Quotation)

/-- The text goes on with the name of a number that is not finite. -/
def startsNonFinite (s : List Char) : Bool :=
  ['N', 'a', 'N'].isPrefixOf s || ['I', 'n', 'f', 'i', 'n', 'i', 't', 'y'].isPrefixOf s

/-- Outside of quotes, only finite numbers are named from a place on. -/
def namesFiniteFrom : Quotation → List Char → Bool
  | _, [] => true
  | place, c :: r =>
    !(place == .outside && startsNonFinite (c :: r)) && namesFiniteFrom (place.after c) r

/-- Only finite numbers are named in a text. -/
def namesFinite (s : List Char) : Bool :=
  namesFiniteFrom .outside s

/-- Between quotes a name is a text. -/
example : namesFinite "[\"NaN\"]".toList = true ∧ namesFinite "[-Infinity]".toList = false := by
  decide

theorem namesFiniteFrom_of_append {place : Quotation} {u r : List Char}
    (h : namesFiniteFrom place (u ++ r) = true) : namesFiniteFrom (place.afterAll u) r = true := by
  induction u generalizing place with
  | nil => exact h
  | cons c u ih =>
    rw [List.cons_append, namesFiniteFrom, Bool.and_eq_true] at h
    exact ih h.2

/-- The text suits the reader of query text: surrogates are escaped in pairs, and only finite
numbers are named. -/
structure Suits (s : List Char) : Prop where
  paired : isPaired s = true
  finite : namesFinite s = true

namespace Suits

variable {s rest : List Char}

/-- A text without what ends outside of quotes. -/
theorem behind {t : List Char} (h : Suits (t ++ rest)) (hpaired : isPaired rest = true)
    (hplace : (Place.mk .outside 0).afterAll t = ⟨.outside, 0⟩) : Suits rest := by
  refine ⟨hpaired, ?_⟩
  have hquotation : Quotation.outside.afterAll t = .outside := by
    rw [← Place.afterAll_quotation ⟨.outside, 0⟩, hplace]
  have hfinite := namesFiniteFrom_of_append h.finite
  rwa [hquotation] at hfinite

/-- A text without its first character, if that is neither a quote nor a backslash. -/
theorem next {c : Char} (h : Suits (c :: rest)) (hc : c ≠ '\\') (hquote : c ≠ '"' ∧ c ≠ '\'') :
    Suits rest := by
  refine ⟨by rw [isPaired, ← isPairedFrom_cons hc]; exact h.paired, ?_⟩
  have hfinite := namesFiniteFrom_of_append (u := [c]) h.finite
  have hplace : Quotation.outside.afterAll [c] = .outside := by
    simp [Quotation.afterAll, Quotation.after, hquote]
  rwa [hplace] at hfinite

/-- A text without the gap in front. -/
theorem gap (h : Suits s) : Suits (skipGap s) := by
  obtain ⟨w, hs, blank, hpaired⟩ := skipGap_spec s
  rw [hs] at h
  exact h.behind (hpaired (hs ▸ h.paired)) (blank.afterAll 0)

/-- A text without its gap and the mark behind that. -/
theorem mark {c : Char} (h : Suits s) (hmark : skipGap s = c :: rest)
    (hc : c = '[' ∨ c = '\x7b' ∨ c = ',' ∨ c = ':') : Suits rest := by
  have hgap := h.gap
  rw [hmark] at hgap
  rcases hc with rfl | rfl | rfl | rfl <;> exact hgap.next (by decide) (by decide)

/-- What follows a value. -/
theorem value {fuel : Nat} {d : Document} (h : Suits s)
    (hvalue : Document.Reader.value false fuel s = .ok (d, rest)) : Suits rest := by
  obtain ⟨t, rfl, ht, hpaired⟩ := (areSpelled fuel).1 hvalue h.paired
  exact h.behind hpaired (ht.settles 0)

/-- What follows a text between double quotes. -/
theorem text {opened : Nat} {str : String} (h : Suits ('"' :: s))
    (htext : Document.Reader.text opened [] none s = .ok (str, rest)) : Suits rest := by
  have hmark : '"' ≠ '\\' := by decide
  have hpaired : isPaired s = true := by
    rw [isPaired, ← isPairedFrom_cons hmark]
    exact h.paired
  obtain ⟨cs, u, rfl, hu, -, hrest⟩ := spelledText_of_text htext hpaired
  have hquote : Reader.isQuote '"' = true := by decide
  refine behind (t := '"' :: (u ++ ['"'])) ?_ hrest (Place.afterAll_quoted hquote hu 0)
  simpa using h

/-- Where only finite numbers are named, their names need not be known. -/
theorem named? (h : Suits s) :
    Document.Reader.named? false s = Document.Reader.named? true s := by
  have hfinite := h.finite
  unfold Document.Reader.named?
  split <;> try rfl
  all_goals simp [namesFinite, namesFiniteFrom, startsNonFinite, Quotation.after] at hfinite

end Suits

/-- With so much fuel, what the reader of JSON reads is read without the names of numbers that are
not finite. -/
structure ReadersAgree (fuel : Nat) : Prop where
  value : ∀ {s rest : List Char} {d : Document}, Suits s →
    Document.Reader.value true fuel s = .ok (d, rest) →
      Document.Reader.value false fuel s = .ok (d, rest)
  items : ∀ {s rest : List Char} {held : List Document}, Suits s →
    Document.Reader.items true fuel s = .ok (held, rest) →
      Document.Reader.items false fuel s = .ok (held, rest)
  memberPairs : ∀ {s rest : List Char} {held : List (String × Document)}, Suits s →
    Document.Reader.memberPairs true fuel s = .ok (held, rest) →
      Document.Reader.memberPairs false fuel s = .ok (held, rest)

namespace ReadersAgree

variable {fuel : Nat} {s rest : List Char}

theorem zero : ReadersAgree 0 where
  value _ := nofun
  items _ := nofun
  memberPairs _ := nofun

theorem value_succ (ih : ReadersAgree fuel) {d : Document} (hs : Suits s)
    (h : Document.Reader.value true (fuel + 1) s = .ok (d, rest)) :
    Document.Reader.value false (fuel + 1) s = .ok (d, rest) := by
  unfold Document.Reader.value at h ⊢
  dsimp only at h ⊢
  split at h
  · exact h
  · next r =>
    have hr := (hs.next (by decide) (by decide)).gap
    generalize skipGap r = g at h hr ⊢
    split at h
    · exact h
    · obtain ⟨⟨held, rest'⟩, hheld, heq⟩ := Result.map_eq_ok.1 h
      cases heq
      simp [ih.items hr hheld, Except.map]
  · next r =>
    have hr := (hs.next (by decide) (by decide)).gap
    generalize skipGap r = g at h hr ⊢
    split at h
    · exact h
    · obtain ⟨⟨held, rest'⟩, hheld, heq⟩ := Result.map_eq_ok.1 h
      cases heq
      simp [ih.memberPairs hr hheld, Except.map]
  · rw [hs.named?]
    exact h

theorem items_succ (ih : ReadersAgree fuel) {held : List Document} (hs : Suits s)
    (h : Document.Reader.items true (fuel + 1) s = .ok (held, rest)) :
    Document.Reader.items false (fuel + 1) s = .ok (held, rest) := by
  rw [Document.Reader.items] at h ⊢
  obtain ⟨⟨first, behind⟩, hfirst, hmore⟩ := Result.bind_eq_ok.1 h
  have hvalue := ih.value hs hfirst
  refine Result.bind_eq_ok.2 ⟨_, hvalue, ?_⟩
  dsimp only at hmore ⊢
  split at hmore
  · exact hmore
  · next r hcomma =>
    have hr := ((hs.value hvalue).mark hcomma (by decide)).gap
    obtain ⟨⟨others, rest'⟩, hothers, hend⟩ := Result.bind_eq_ok.1 hmore
    exact Result.bind_eq_ok.2 ⟨_, ih.items hr hothers, hend⟩
  · cases hmore

theorem memberPairs_succ (ih : ReadersAgree fuel) {held : List (String × Document)} (hs : Suits s)
    (h : Document.Reader.memberPairs true (fuel + 1) s = .ok (held, rest)) :
    Document.Reader.memberPairs false (fuel + 1) s = .ok (held, rest) := by
  unfold Document.Reader.memberPairs at h ⊢
  dsimp only at h ⊢
  split at h
  · obtain ⟨⟨name, behind⟩, hname, hmore⟩ := Result.bind_eq_ok.1 h
    refine Result.bind_eq_ok.2 ⟨_, hname, ?_⟩
    dsimp only at hmore ⊢
    split at hmore
    · next r hcolon =>
      have hr := ((hs.text hname).mark hcolon (by decide)).gap
      obtain ⟨⟨first, behind⟩, hfirst, hnext⟩ := Result.bind_eq_ok.1 hmore
      have hvalue := ih.value hr hfirst
      refine Result.bind_eq_ok.2 ⟨_, hvalue, ?_⟩
      dsimp only at hnext ⊢
      split at hnext
      · exact hnext
      · next r hcomma =>
        have hr := ((hr.value hvalue).mark hcomma (by decide)).gap
        obtain ⟨⟨others, rest'⟩, hothers, hend⟩ := Result.bind_eq_ok.1 hnext
        exact Result.bind_eq_ok.2 ⟨_, ih.memberPairs hr hothers, hend⟩
      · cases hnext
    · cases hmore
  · cases h

end ReadersAgree

/-- However much fuel there is, the readers agree. -/
theorem readersAgree (fuel : Nat) : ReadersAgree fuel := by
  induction fuel with
  | zero => exact .zero
  | succ fuel ih => exact ⟨ih.value_succ, ih.items_succ, ih.memberPairs_succ⟩

/-- Where only finite numbers are named, JSON is standard JSON. -/
theorem readStandard_of_read {s : List Char} {d : Document} (hs : Suits s)
    (h : Document.read s = .ok d) : Document.readStandard s = .ok d := by
  unfold Document.read Document.readWith at h
  unfold Document.readStandard Document.readWith
  split at h
  · cases h
  · obtain ⟨⟨held, rest⟩, hvalue, hend⟩ := Result.bind_eq_ok.1 h
    exact Result.bind_eq_ok.2 ⟨_, (readersAgree _).value hs.gap hvalue, hend⟩

/-- **Query text extends JSON.** Where the text of a field is JSON, names no number that is not
finite, escapes surrogates in pairs and nests no deeper than it may, it is read as query text, and
holds the same document. -/
theorem extends_json (field text : String) {d : Document} (h : Document.read text.toList = .ok d)
    (hfinite : namesFinite text.toList = true) (hpaired : isPaired text.toList = true)
    (hn : nesting text.toList ≤ deepest) : value field text = .ok d := by
  have hstandard := readStandard_of_read ⟨hpaired, hfinite⟩ h
  have hread := (read_eq_ok hn).2 (spells_of_readStandard hstandard hpaired)
  rw [value, hread]

/-- Keys that are named twice keep their first place and their last value, and the two kinds of
numbers stay apart. -/
theorem extends_json_members :
    value "find.query" "\x7b\"a\": [1, 1.0, \"\\ud83d\\ude00\"], \"b\": null, \"a\": 2\x7d" =
      .ok (.obj [("a", .int 2), ("b", .null)]) :=
  extends_json _ _ (Result.toOption_eq_some.1 (by decide +kernel)) (by decide +kernel)
    (by decide +kernel) (by decide +kernel)

end Query
end FormDispatch
