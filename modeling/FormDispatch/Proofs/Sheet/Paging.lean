/-
# Fetching a window of rows

A fetch with an offset and a limit gives the same objects as the fetch of all rows does behind the
offset and before the limit (`windowed_fetch_is_slice`), provided that the service answers both from
one sheet and that the columns have distinct keys.

The two ask for different ranges. That of the window ends with the last row wanted, so its answer is
the beginning of the whole one (`answeredRows_of_listsRows`) and the rows wanted are all in it
(`window_of_take`). They may be narrower than the other rows; then their objects have only the first
of the keys, and the further ones stand for empty cells (`partOf_rowObjectOf`).
-/

import FormDispatch.Proofs.Sheet.WriteBack

namespace FormDispatch
namespace Sheet

/-! ### Two answers from one sheet -/

/-- The answer lists the rows of a sheet in order, from the first of a range to the last, or to the
last that is used if that comes before. -/
def ListsRows (sheet : Int → List Document) (used first : Int) (last : Option Int)
    (body : Document) : Prop :=
  body.nestedItems "values" =
    (List.range ((last.elim used (min used)) + 1 - first).toNat).map fun i =>
      .arr (sheet (first + (i : Nat)))

/-- The configuration without its offset and limit. -/
def unwindowed (c : Config) : Config :=
  { c with rowOffset := 0, rowLimit := none }

/-- A fetch and the one without its window are answered from one sheet: each with the rows that it
asks for, or both alike where the configuration names the range. -/
structure ServedAlike (sheet : Int → List Document) (used : Int) (c : Config)
    (body whole : Document) : Prop where
  window : c.range.getD "" = "" → ListsRows sheet used c.headerRow (lastFetched c) body
  all : c.range.getD "" = "" → ListsRows sheet used c.headerRow none whole
  named : c.range.getD "" ≠ "" → body = whole

/-- An object holds the values of another under its own keys, with the same row index; the further
keys of the other hold empty texts. -/
structure PartOf (o whole : Members) : Prop where
  index : ∃ index, o.get? rowIndexKey = some (.int index) ∧
    whole.get? rowIndexKey = some (.int index)
  same : ∀ key ∈ o.keys, ∃ d, o.get? key = some d ∧ whole.get? key = some d
  further : ∀ key ∈ whole.keys, key ∉ o.keys → whole.get? key = some (.str "")

section Rows

variable {sheet : Int → List Document} {used first : Int} {last : Option Int} {body : Document}

theorem answeredRows_of_listsRows (h : ListsRows sheet used first last body) :
    answeredRows body = (List.range (last.elim used (min used) + 1 - first).toNat).map fun i =>
      sheet (first + (i : Nat)) := by
  rw [answeredRows, h, List.map_map]
  rfl

/-- **The answer that ends with a row is the beginning of the whole one.** -/
theorem answeredRows_take {stop : Int} {whole : Document}
    (h : ListsRows sheet used first (some stop) body)
    (hall : ListsRows sheet used first none whole) :
    answeredRows body = (answeredRows whole).take (stop + 1 - first).toNat := by
  rw [answeredRows_of_listsRows h, answeredRows_of_listsRows hall, ← List.map_take, List.take_range]
  congr 2
  simp only [Option.elim_some, Option.elim_none]
  omega

/-- The beginning of an answer has the same header, and the beginning of the rows of data. -/
theorem headerAndRows_take (flag : Bool) (rows : List (List Document)) (count : Nat) :
    headerAndRows flag (rows.take ((if flag then 1 else 0) + count)) =
      ((headerAndRows flag rows).1, (headerAndRows flag rows).2.take count) := by
  cases flag with
  | false => simp [headerAndRows]
  | true =>
    cases rows with
    | nil => simp [headerAndRows]
    | cons first rest =>
      simp only [if_true, Nat.add_comm 1, List.take_succ_cons]
      rfl

end Rows

/-! ### Windows -/

/-- A window begins at the offset and goes on to the limit. -/
theorem window_eq {offset limit : Int} (hoffset : 0 ≤ offset) (hlimit : 1 ≤ limit)
    (rows : List (List Document)) :
    window offset (some limit) rows = (rows.drop offset.toNat).take limit.toNat := by
  simp only [window, upToLimit, fromOffset, if_neg (Int.not_lt.2 hoffset),
    if_neg (show ¬limit < 0 by omega)]

/-- Without an offset and a limit, all rows are wanted. -/
theorem window_all (rows : List (List Document)) : window 0 none rows = rows := by
  simp [window, fromOffset]

/-- **The rows wanted all come before the end of the window.** -/
theorem window_of_take {offset limit : Int} (hoffset : 0 ≤ offset) (hlimit : 1 ≤ limit)
    (rows : List (List Document)) :
    window offset (some limit) (rows.take (offset + limit).toNat) =
      window offset (some limit) rows := by
  have hstop : (offset + limit).toNat = offset.toNat + limit.toNat := by omega
  rw [window_eq hoffset hlimit, window_eq hoffset hlimit, hstop, List.drop_take, List.take_take]
  congr 1
  omega

/-- Fewer rows are no wider. -/
theorem widthOf_le {header : List String} {rows more : List (List Document)}
    (h : ∀ row ∈ rows, row ∈ more) : widthOf header rows ≤ widthOf header more := by
  obtain ⟨hheader, hrows⟩ := widthOf_spec header more
  rw [widthOf]
  generalize header.length = width at hheader ⊢
  induction rows generalizing width with
  | nil => exact hheader
  | cons row rows ih =>
    obtain ⟨hrow, hrest⟩ := List.forall_mem_cons.1 h
    exact ih hrest _ (Nat.max_le.2 ⟨hheader, hrows row hrow⟩)

/-- **The object of a row that is narrow enough, under the first of the keys, is part of that under
all of them.** -/
theorem partOf_rowObjectOf {keys : List String} (hkeys : keys.Nodup) {width : Nat} {index : Int}
    {row : List Document} (hrow : row.length ≤ width) :
    PartOf (rowObjectOf (keys.take width) index row) (rowObjectOf keys index row) where
  index := ⟨index, Entries.get?_put_self _ _ _, Entries.get?_put_self _ _ _⟩
  same key hkey := by
    have htake : (keys.take width).Nodup := hkeys.sublist (List.take_sublist _ _)
    rcases (mem_keys_rowObjectOf htake).1 hkey with hmem | rfl
    · obtain ⟨i, hi⟩ := List.mem_iff_getElem?.1 hmem
      have hwhole : keys[i]? = some key := by
        rw [List.getElem?_take] at hi
        split at hi
        · exact hi
        · cases hi
      exact ⟨_, get?_rowObjectOf htake hi, get?_rowObjectOf hkeys hwhole⟩
    · exact ⟨_, Entries.get?_put_self _ _ _, Entries.get?_put_self _ _ _⟩
  further key hkey hnew := by
    have htake : (keys.take width).Nodup := hkeys.sublist (List.take_sublist _ _)
    rw [mem_keys_rowObjectOf htake, not_or] at hnew
    obtain ⟨hbehind, hne⟩ := hnew
    obtain ⟨i, hi⟩ :=
      List.mem_iff_getElem?.1 (((mem_keys_rowObjectOf hkeys).1 hkey).resolve_right hne)
    have hwide : width ≤ i := by
      by_contra hlt
      refine hbehind (List.mem_iff_getElem?.2 ⟨i, ?_⟩)
      rw [List.getElem?_take, if_pos (Nat.not_le.1 hlt), hi]
    rw [get?_rowObjectOf hkeys hi, if_neg hne, List.getD_eq_getElem?_getD,
      List.getElem?_eq_none (Nat.le_trans hrow hwide), Option.getD_none]

/-! ### The two fetches -/

section Fetches

variable {settings : Settings} {c : Config} {prerequisite : Prerequisite} {limit used : Int}
variable {sheet : Int → List Document} {body whole : Document}

/-- A range that is configured is what is asked for. -/
theorem fetchRange_of_named {c : Config} (h : c.range.getD "" ≠ "") :
    fetchRange c = .ok (rangeOf c.title c.range) := by
  unfold fetchRange
  cases hcells : c.range with
  | none => exact absurd (by rw [hcells]; rfl) h
  | some cells =>
    rw [hcells, Option.getD_some] at h
    have hgiven : cells.isEmpty = false := by simpa using h
    simp only [hgiven]
    rfl

/-- **The window of a fetch has the header and the rows of the whole one.** -/
theorem fetchedWindow_eq (hoffset : 0 ≤ c.rowOffset) (hlimit : c.rowLimit = some limit)
    (hleast : 1 ≤ limit) (hserved : ServedAlike sheet used c body whole) :
    fetchedHeader c body = fetchedHeader (unwindowed c) whole ∧
      fetchedWindow c body =
        ((fetchedWindow (unwindowed c) whole).drop c.rowOffset.toNat).take limit.toNat := by
  have hall : fetchedWindow (unwindowed c) whole =
      (headerAndRows c.firstRowIsHeader (answeredRows whole)).2 := window_all _
  rw [hall, ← window_eq hoffset hleast, fetchedHeader, fetchedHeader, fetchedWindow, hlimit]
  by_cases hrange : c.range.getD "" = ""
  · have hlast : lastFetched c = some (c.headerRow + (if c.firstRowIsHeader then 1 else 0) +
        c.rowOffset + limit - 1) := by
      rw [lastFetched, hlimit]
      rfl
    have htake := answeredRows_take (hlast ▸ hserved.window hrange) (hserved.all hrange)
    have hcount : (c.headerRow + (if c.firstRowIsHeader then 1 else 0) + c.rowOffset + limit - 1 +
        1 - c.headerRow).toNat =
          (if c.firstRowIsHeader then 1 else 0) + (c.rowOffset + limit).toNat := by
      split <;> omega
    rw [htake, hcount, headerAndRows_take, window_of_take hoffset hleast]
    exact ⟨rfl, rfl⟩
  · rw [hserved.named hrange]
    exact ⟨rfl, rfl⟩

/-- The objects of the whole fetch behind the offset and before the limit. -/
theorem fetchedRows_slice (hoffset : 0 ≤ c.rowOffset) (count : Nat) :
    ((fetchedRows (unwindowed c) whole).drop c.rowOffset.toNat).take count =
      (((fetchedWindow (unwindowed c) whole).drop c.rowOffset.toNat).take count).zipIdx.map
        fun p =>
          rowObjectOf (fetchedKeys (unwindowed c) whole) (c.rowOffset + (p.2 : Nat)) p.1 := by
  have hrows : fetchedRows (unwindowed c) whole =
      (fetchedWindow (unwindowed c) whole).zipIdx.map fun p =>
        rowObjectOf (fetchedKeys (unwindowed c) whole) (0 + (p.2 : Nat)) p.1 := rfl
  have hindex : ∀ i : Nat, (0 : Int) + ((c.rowOffset.toNat + i : Nat) : Int) = c.rowOffset + i := by
    omega
  rw [hrows]
  refine List.ext_getElem? fun i => ?_
  simp only [List.getElem?_take, List.getElem?_drop, List.getElem?_map, List.getElem?_zipIdx]
  split
  · cases (fetchedWindow (unwindowed c) whole)[c.rowOffset.toNat + i]? with
    | none => rfl
    | some row => simp [← hindex]
  · rfl

/-- **A fetch of a window is the slice of the whole fetch.** Take a configuration with an offset
that is not below zero and a limit of at least one, and the same without the two. Without a range
the one asks for the rows from the header row to the last one wanted, the other for all of them;
with a range both ask for the same. Where one sheet answers both, and the columns of the whole fetch
have distinct keys, the objects of the window are those of the whole fetch behind the offset and
before the limit, in order: each has the same row index and the same values, and what it leaves out
are empty texts. -/
theorem windowed_fetch_is_slice (hoffset : 0 ≤ c.rowOffset) (hlimit : c.rowLimit = some limit)
    (hleast : 1 ≤ limit) (hserved : ServedAlike sheet used c body whole)
    (hkeys : (fetchedKeys (unwindowed c) whole).Nodup) :
    (c.range.getD "" = "" →
      (∀ request, rowsFetch.request settings c prerequisite = .ok request →
        ReadsRows settings c c.headerRow (some (c.headerRow +
          (if c.firstRowIsHeader then 1 else 0) + c.rowOffset + limit - 1))
          [("valueRenderOption", "FORMATTED_VALUE")] request) ∧
      ∀ request, rowsFetch.request settings (unwindowed c) prerequisite = .ok request →
        ReadsRows settings c c.headerRow none [("valueRenderOption", "FORMATTED_VALUE")] request) ∧
    (c.range.getD "" ≠ "" → rowsFetch.request settings c prerequisite =
      rowsFetch.request settings (unwindowed c) prerequisite) ∧
    ∃ objects all : List Members,
      rowsFetch.result c body = .ok (.arr (objects.map .obj)) ∧
      rowsFetch.result (unwindowed c) whole = .ok (.arr (all.map .obj)) ∧
      List.Forall₂ PartOf objects ((all.drop c.rowOffset.toNat).take limit.toNat) := by
  have hlast : lastFetched c = some (c.headerRow + (if c.firstRowIsHeader then 1 else 0) +
      c.rowOffset + limit - 1) := by
    rw [lastFetched, hlimit]
    rfl
  refine ⟨fun hrange => ⟨fun request h => ?_, fun request h => ?_⟩, fun hrange => ?_,
    fetchedRows c body, fetchedRows (unwindowed c) whole, rfl, rfl, ?_⟩
  · rw [← hlast]
    exact readsRows_of_rowsFetch hrange h
  · exact readsRows_of_rowsFetch (c := unwindowed c) hrange h
  · simp only [rowsFetch, fetchRange_of_named hrange,
      fetchRange_of_named (c := unwindowed c) hrange]
    rfl
  · obtain ⟨hheader, hwindow⟩ := fetchedWindow_eq hoffset hlimit hleast hserved
    have hnarrow : fetchedWidth c body ≤ fetchedWidth (unwindowed c) whole := by
      rw [fetchedWidth, fetchedWidth, hheader, hwindow]
      exact widthOf_le fun row hrow => List.mem_of_mem_drop (List.mem_of_mem_take hrow)
    have hfirst : fetchedKeys c body =
        (fetchedKeys (unwindowed c) whole).take (fetchedWidth c body) := by
      rw [fetchedKeys, fetchedKeys, rowKeys_take _ hnarrow, hheader]
    have hobjects : fetchedRows c body = (fetchedWindow c body).zipIdx.map fun p =>
        rowObjectOf (fetchedKeys c body) (c.rowOffset + (p.2 : Nat)) p.1 := rfl
    rw [fetchedRows_slice hoffset, ← hwindow, hobjects, hfirst, List.forall₂_map_left_iff,
      List.forall₂_map_right_iff, List.forall₂_same]
    rintro ⟨row, position⟩ hp
    have hrow : row ∈ fetchedWindow c body :=
      List.mem_of_getElem? (List.mem_zipIdx_iff_getElem?.1 hp)
    exact partOf_rowObjectOf hkeys ((widthOf_spec _ _).2 row hrow)

end Fetches

/-- The rows of a sheet whose second row is wider than the others. -/
def ragged : List (List Document) :=
  [[.str "k"], [.str "1", .str "2"], [.str "3"], [.str "4"]]

/-- Fetching the second row of data. -/
def secondRow : Config :=
  { spreadsheetId := some "s", sheetTitle := some "t", rowOffset := 1, rowLimit := some 1 }

/-- The second row of data is the slice of the whole sheet there. -/
theorem windowed_fetch_is_slice_ragged :
    0 ≤ secondRow.rowOffset ∧ secondRow.rowLimit = some 1 ∧
    ServedAlike (fun row => ragged.getD (row - 1).toNat []) 4 secondRow
      (answerOf (ragged.take 3)) (answerOf ragged) ∧
    (fetchedKeys (unwindowed secondRow) (answerOf ragged)).Nodup ∧
    ∃ objects all : List Members,
      rowsFetch.result secondRow (answerOf (ragged.take 3)) = .ok (.arr (objects.map .obj)) ∧
      rowsFetch.result (unwindowed secondRow) (answerOf ragged) = .ok (.arr (all.map .obj)) ∧
      List.Forall₂ PartOf objects ((all.drop 1).take 1) := by
  have hserved : ServedAlike (fun row => ragged.getD (row - 1).toNat []) 4 secondRow
      (answerOf (ragged.take 3)) (answerOf ragged) :=
    ⟨fun _ => rfl, fun _ => rfl, fun h => absurd rfl h⟩
  have hkeys : (fetchedKeys (unwindowed secondRow) (answerOf ragged)).Nodup := by decide +kernel
  have hslice := @windowed_fetch_is_slice {} secondRow .none 1 4 _ _ _ (by decide) rfl (by decide)
    hserved hkeys
  exact ⟨by decide, rfl, hserved, hkeys, hslice.2.2⟩

end Sheet
end FormDispatch
