/-
# URLs of values read back

A URL of values names a spreadsheet and a range in it, each in a segment of its own, and may end in
a word for what is to be done with them. Two escapings are nested in the second segment: the quotes
of the title, and the percent signs of the segment. Each is undone on its own, so the URL can be
read back (`ReadsAs`), and two targets with one URL are one target: `values_urls_read_back`.

What follows a segment begins with a slash or a colon, which no segment holds, so it is always known
where a segment ends (`append_inj_of_marked`).
-/

import FormDispatch.Proofs.Text.Percent
import FormDispatch.Sheet.Range
import Mathlib.Data.List.DropRight

namespace FormDispatch
namespace Sheet

/-! ### Ranges -/

/-- What stands before the closing quote of a quoted text, with doubled quotes read as one, and what
stands behind it. -/
def unquotedFrom : List Char → Option (List Char × List Char)
  | '\'' :: '\'' :: r => (unquotedFrom r).map fun (inner, behind) => ('\'' :: inner, behind)
  | '\'' :: r => some ([], r)
  | c :: r => (unquotedFrom r).map fun (inner, behind) => (c :: inner, behind)
  | [] => none

/-- The title and the cells that a range names. -/
def titleAndCells? (range : String) : Option (String × Option String) :=
  match range.toList with
  | '\'' :: r =>
    match unquotedFrom r with
    | some (title, []) => some (String.ofList title, none)
    | some (title, '!' :: cells) => some (String.ofList title, some (String.ofList cells))
    | _ => none
  | _ => none

theorem unquotedFrom_cons {c : Char} (h : c ≠ '\'') (r : List Char) :
    unquotedFrom (c :: r) = (unquotedFrom r).map fun (inner, behind) => (c :: inner, behind) := by
  rw [unquotedFrom]
  · exact fun _ hc _ => h hc
  · exact h

/-- A quoted title ends at its closing quote, whatever the title imitates. -/
theorem unquotedFrom_quoted (title : List Char) {r : List Char} (h : r.head? ≠ some '\'') :
    unquotedFrom ((title.flatMap fun c => if c = '\'' then ['\'', '\''] else [c]) ++ '\'' :: r) =
      some (title, r) := by
  induction title with
  | nil =>
    cases r with
    | nil => rfl
    | cons c r =>
      have hc : c ≠ '\'' := by simpa using h
      rw [List.flatMap_nil, List.nil_append, unquotedFrom]
      simpa using hc
  | cons c title ih =>
    by_cases hc : c = '\''
    · simp [hc, unquotedFrom, ih]
    · simp [hc, unquotedFrom_cons hc, ih]

/-- **A range is read back as its title and its cells.** -/
theorem titleAndCells?_rangeOf (title : String) {cells : Option String} (h : cells ≠ some "") :
    titleAndCells? (rangeOf title cells) = some (title, cells) := by
  cases cells with
  | none =>
    have hread := unquotedFrom_quoted title.toList (r := []) nofun
    simp [rangeOf, titleAndCells?, quotedTitle, quotedTitleChars, hread]
  | some cells =>
    have hcells : cells.isEmpty = false := by
      rw [Bool.eq_false_iff, ne_eq, String.isEmpty_iff]
      rintro rfl
      exact h rfl
    have hread := unquotedFrom_quoted title.toList (r := '!' :: cells.toList) (by simp)
    simp [rangeOf, hcells, titleAndCells?, quotedTitle, quotedTitleChars, hread]

/-! ### Targets -/

/-- What a URL of values is for: a spreadsheet, the title of a sheet and cells in it, unless all of
it is meant, and the word for what is to be done with them. -/
@[ext] structure ValuesTarget where
  id : String
  title : String
  cells : Option String
  suffix : String
  cells_ne_empty : cells ≠ some ""
  suffix_known : suffix ∈ ["", ":append", ":clear"]

/-- A title that looks like the end of its own quotes, and an id that looks like a path. -/
example : ValuesTarget :=
  ⟨"a/b", "x'!A1:clear/?#%", some "B2", ":append", by decide, by decide⟩

/-- The URL of the values of a target. -/
def ValuesTarget.url (settings : Settings) (target : ValuesTarget) : String :=
  valuesUrl settings target.id (rangeOf target.title target.cells) target.suffix

/-- A URL is another one with slashes at its end, and the other ends in none. -/
def IsWithoutSlashes (url base : String) : Prop :=
  (∃ n, url.toList = base.toList ++ List.replicate n '/') ∧ base.toList.getLast? ≠ some '/'

/-- A URL behind a base is read as a target: two segments, of which the first is the spreadsheet and
the second the quoted title and the cells, before the word of the target. -/
def ReadsAs (base url : String) (target : ValuesTarget) : Prop :=
  ∃ first second, url = base ++ "/" ++ first ++ "/values/" ++ second ++ target.suffix ∧
    Text.IsSegment first.toList ∧ Text.IsSegment second.toList ∧
    Text.percentDecoded? first = some target.id ∧
    (Text.percentDecoded? second).bind titleAndCells? = some (target.title, target.cells)

theorem isWithoutSlashes_withoutSlashes (url : String) :
    IsWithoutSlashes url (withoutSlashes url) := by
  have hbase : (withoutSlashes url).toList = url.toList.rdropWhile (· == '/') := by
    rw [withoutSlashes, String.toList_ofList]
    rfl
  rw [IsWithoutSlashes, hbase]
  constructor
  · refine ⟨(url.toList.rtakeWhile (· == '/')).length, ?_⟩
    have hslashes : url.toList.rtakeWhile (· == '/') =
        List.replicate (url.toList.rtakeWhile (· == '/')).length '/' :=
      List.eq_replicate_of_mem fun c hc => by simpa using List.mem_rtakeWhile_imp hc
    rw [← hslashes, List.rdropWhile_append_rtakeWhile]
  · intro hlast
    have hne : url.toList.rdropWhile (· == '/') ≠ [] := fun hnil => by simp [hnil] at hlast
    rw [List.getLast?_eq_some_getLast hne, Option.some_inj] at hlast
    exact List.rdropWhile_last_not _ _ hne (by simp [hlast])

/-- The URL of a target is read as the target. -/
theorem readsAs_url (settings : Settings) (target : ValuesTarget) :
    ReadsAs (withoutSlashes settings.sheetsBaseUrl) (target.url settings) target := by
  refine ⟨Text.percentEncoded target.id, Text.percentEncoded (rangeOf target.title target.cells),
    rfl, ?_, ?_, Text.percentDecoded?_percentEncoded _, ?_⟩
  · rw [Text.percentEncoded, String.toList_ofList]
    exact Text.isSegment_percentEncodedChars _
  · rw [Text.percentEncoded, String.toList_ofList]
    exact Text.isSegment_percentEncodedChars _
  · rw [Text.percentDecoded?_percentEncoded, Option.bind_some,
      titleAndCells?_rangeOf _ target.cells_ne_empty]

/-! ### One target for one URL -/

/-- Two texts without a mark are equal where they are the same text together with what stands behind
them, which begins with the mark if it is anything. -/
theorem append_inj_of_marked {mark : Char} {s t r q : List Char} (hs : mark ∉ s) (ht : mark ∉ t)
    (hr : r = [] ∨ r.head? = some mark) (hq : q = [] ∨ q.head? = some mark)
    (h : s ++ r = t ++ q) : s = t ∧ r = q := by
  have htake {s r : List Char} (hs : mark ∉ s) (hr : r = [] ∨ r.head? = some mark) :
      (s ++ r).takeWhile (· ≠ mark) = s := by
    rw [List.takeWhile_append_of_pos fun c hc => by simpa using fun heq : c = mark => hs (heq ▸ hc)]
    have hnone : r.takeWhile (· ≠ mark) = [] := by
      obtain rfl | hr := hr
      · rfl
      · obtain ⟨rest, rfl⟩ := List.head?_eq_some_iff.mp hr
        simp
    rw [hnone, List.append_nil]
  have heq : s = t := by rw [← htake hs hr, h, htake ht hq]
  subst heq
  exact ⟨rfl, List.append_cancel_left h⟩

theorem head?_suffix (target : ValuesTarget) :
    target.suffix.toList = [] ∨ target.suffix.toList.head? = some ':' := by
  have hsuffix := target.suffix_known
  simp only [List.mem_cons, List.not_mem_nil, or_false] at hsuffix
  rcases hsuffix with h | h | h <;> rw [h] <;> decide

/-- A URL is read as one target at most. -/
theorem ReadsAs.unique {base url : String} {target other : ValuesTarget}
    (h : ReadsAs base url target) (h' : ReadsAs base url other) : target = other := by
  obtain ⟨first, second, rfl, hfirst, hsecond, hid, hrange⟩ := h
  obtain ⟨first', second', heq, hfirst', hsecond', hid', hrange'⟩ := h'
  have hchars := congrArg String.toList heq
  simp only [String.toList_append, List.append_assoc, List.append_cancel_left_eq] at hchars
  obtain ⟨hone, hbehind⟩ := append_inj_of_marked (hfirst.not_mem (by decide) (by decide))
    (hfirst'.not_mem (by decide) (by decide)) (.inr rfl) (.inr rfl) hchars
  obtain ⟨htwo, hword⟩ := append_inj_of_marked (hsecond.not_mem (by decide) (by decide))
    (hsecond'.not_mem (by decide) (by decide)) (head?_suffix target) (head?_suffix other)
    (List.append_cancel_left hbehind)
  rw [String.toList_inj] at hone htwo hword
  subst hone htwo
  obtain ⟨htitle, hcells⟩ := Prod.mk.inj (Option.some.inj (hrange.symm.trans hrange'))
  exact ValuesTarget.ext (Option.some.inj (hid.symm.trans hid')) htitle hcells hword

/-- **A URL of values is read back as what it is for.** Behind the base, without the slashes at its
end, stand two segments of unreserved characters and escapes: the first decodes to the id of the
spreadsheet, the second to a text that unquotes to the title and the cells. So no two targets share
a URL. -/
theorem values_urls_read_back (settings : Settings) :
    ∃ base, IsWithoutSlashes settings.sheetsBaseUrl base ∧
      (∀ target : ValuesTarget, ReadsAs base (target.url settings) target) ∧
      Function.Injective (ValuesTarget.url settings) := by
  refine ⟨withoutSlashes settings.sheetsBaseUrl, isWithoutSlashes_withoutSlashes _,
    readsAs_url settings, fun target other h => ?_⟩
  have hother := readsAs_url settings other
  rw [← h] at hother
  exact (readsAs_url settings target).unique hother

example : (Text.percentDecoded? "%27x%27%27%21%27%21B2").bind titleAndCells? =
    some ("x'!", some "B2") := by decide

end Sheet
end FormDispatch
