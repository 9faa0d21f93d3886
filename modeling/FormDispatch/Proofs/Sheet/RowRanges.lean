/-
# The rows that updates and deletions reach

An update names the cells that it writes by a text such as `A4:C4`, a deletion counts rows from
zero. Whether both stay on one row of data below the header is seen by reading them back: a text of
cells names the two corners of a block (`corners?`), each by its column and its row.

The range of a row reads back as that row, from the first column on, with as many columns as the
header has (`coversRow_of_rowRange`). The checks of the three operations give every row index from
zero on (`oneUpdate_eq_ok`, `manyUpdates_eq_ok`), and both meet in `row_writes_below_header`.
-/

import FormDispatch.Proofs.Form
import FormDispatch.Proofs.Number.Digits
import FormDispatch.Proofs.Sheet.WriteBack
import FormDispatch.Proofs.Text.Cut

namespace FormDispatch
namespace Sheet

/-! ### Reading ranges back -/

/-- A cell, its column and its row counted from one. -/
structure Cell where
  column : Nat
  row : Nat
deriving DecidableEq

/-- The cell that letters and the digits behind them name. -/
def cellNamed? (s : List Char) : Option Cell :=
  let letters := s.takeWhile Char.isUpper
  let digits := s.dropWhile Char.isUpper
  if letters.isEmpty || digits.isEmpty || !digits.all Char.isDigit then none
  else some ⟨value letters, Numeral.ofDigits digits⟩

/-- The corners of the block that a text names, the first and the last of its cells. -/
def corners? (cells : String) : Option (Cell × Cell) :=
  match Text.splitAt ':' cells.toList with
  | [first, last] => (cellNamed? first).bind fun f => (cellNamed? last).map fun l => (f, l)
  | _ => none

/-- The range is one row of the sheet with the title, from the first column on. -/
def CoversRow (title : String) (row : Int) (columns : Nat) (range : String) : Prop :=
  ∃ cells : String, ∃ n : Nat, range = rangeOf title (some cells) ∧ (n : Int) = row ∧
    corners? cells = some (⟨1, n⟩, ⟨columns, n⟩)

/-- What is named by letters and a number is the cell there. -/
theorem cellNamed?_append {letters : List Char} (hletters : AreLetters letters)
    (named : letters ≠ []) (n : Nat) :
    cellNamed? (letters ++ Numeral.digits n) = some ⟨value letters, n⟩ := by
  have hdigits : ∀ c ∈ Numeral.digits n, c.isDigit = true := fun c => Numeral.isDigit_of_mem_digits
  have hdigit : ∀ c : Char, c.isDigit = true → c.isUpper = false := by
    intro c hc
    simp only [Char.isDigit, Bool.and_eq_true, decide_eq_true_eq] at hc
    have hbelow : c.toNat ≤ 57 := hc.2
    refine Bool.eq_false_iff.2 fun hupper => ?_
    have habove : 65 ≤ c.toNat := (of_decide_eq_true hupper).1
    omega
  obtain ⟨first, rest, hcons⟩ := List.exists_cons_of_ne_nil (Numeral.digits_ne_nil n)
  have hfirst : first.isUpper = false := hdigit first (hdigits first (by simp [hcons]))
  have htake : (letters ++ Numeral.digits n).takeWhile Char.isUpper = letters := by
    rw [List.takeWhile_append_of_pos hletters, hcons, List.takeWhile_cons_of_neg (by simp [hfirst]),
      List.append_nil]
  have hdrop : (letters ++ Numeral.digits n).dropWhile Char.isUpper = Numeral.digits n := by
    rw [List.dropWhile_append_of_pos hletters, hcons, List.dropWhile_cons_of_neg (by simp [hfirst])]
  simp only [cellNamed?, htake, hdrop, List.isEmpty_eq_false_iff.2 named,
    List.isEmpty_eq_false_iff.2 (Numeral.digits_ne_nil n), List.all_eq_true.2 hdigits,
    Numeral.ofDigits_digits]
  rfl

/-- The number of a row is told by its digits. -/
theorem toList_of_numberText {n : Nat} {s : String} (h : numberText n = .ok s) :
    s.toList = Numeral.digits n := by
  unfold numberText Numeral.text? at h
  split at h
  · next hs =>
    split at hs
    · cases hs
    · cases hs
      cases h
      rw [Numeral.text, String.toList_ofList, Numeral.chars, if_neg (by omega), Int.natAbs_natCast]
  · cases h

/-- **The range of a row of data covers it with as many columns as the header has.** -/
theorem coversRow_of_rowRange {c : Config} {header : List String} {index : Int} {range : String}
    (hheader : header ≠ []) (hrow : 0 ≤ c.dataRow index)
    (h : rowRange c header index = .ok range) :
    CoversRow c.title (c.dataRow index) header.length range := by
  obtain ⟨n, hn⟩ := Int.eq_ofNat_of_zero_le hrow
  obtain ⟨number, hnumber, h⟩ := Result.bind_eq_ok.1 h
  cases h
  rw [hn] at hnumber ⊢
  have hdigits := toList_of_numberText hnumber
  have hlast : (columnName (header.length - 1)).toList = letters header.length := by
    have := List.length_pos_iff.2 hheader
    rw [columnName, String.toList_ofList]
    congr 1
    omega
  have hletters : AreLetters (letters header.length) := hlast ▸ areLetters_columnName _
  have hnamed : letters header.length ≠ [] := by
    intro hnil
    have hvalue := value_letters header.length
    rw [hnil] at hvalue
    exact hheader (List.length_eq_zero_iff.1 hvalue.symm)
  have hA : AreLetters ['A'] := List.all_eq_true.1 (by decide)
  have hcells : ("A" ++ number ++ ":" ++ columnName (header.length - 1) ++ number).toList =
      (['A'] ++ Numeral.digits n) ++ ':' :: (letters header.length ++ Numeral.digits n) := by
    simp [hdigits, hlast]
  -- neither letters nor digits hold what separates the corners
  have hcut : ∀ {s : List Char}, AreLetters s → ':' ∉ s ++ Numeral.digits n := by
    intro s hs hmem
    rcases List.mem_append.1 hmem with hmem | hmem
    · exact absurd (hs ':' hmem) (by decide)
    · exact absurd (Numeral.isDigit_of_mem_digits hmem) (by decide)
  refine ⟨_, n, rfl, rfl, ?_⟩
  rw [corners?, hcells, Text.splitAt_append_cons (hcut hA),
    Text.splitAt_of_not_mem (hcut hletters)]
  simp only [cellNamed?_append hA (by decide), cellNamed?_append hletters hnamed, value_letters]
  rfl

example : corners? "A4:AB4" = some (⟨1, 4⟩, ⟨28, 4⟩) := by decide

/-! ### The rows of an update -/

section Updates

variable {c : Config} {row : Members} {index : Int} {updates : List RowUpdate}

theorem checkedIndex_eq_ok {told : Option Int} :
    checkedIndex told = .ok index ↔ told = some index ∧ 0 ≤ index := by
  cases told with
  | none => simp [checkedIndex]
  | some n =>
    simp only [checkedIndex, Option.some.injEq]
    split
    · constructor
      · intro h
        cases h
      · rintro ⟨rfl, hn⟩
        omega
    · simp only [Except.ok.injEq]
      constructor
      · rintro rfl
        exact ⟨rfl, by omega⟩
      · exact fun h => h.1

/-- An object has a row index when it tells one that is not below zero. -/
theorem rowIndexOf_eq_ok : rowIndexOf row none = .ok index ↔
    Form.integer? row rowIndexKey = .ok (some index) ∧ 0 ≤ index := by
  simp only [rowIndexOf, Result.bind_eq_ok, Result.mapError_eq_ok, checkedIndex_eq_ok,
    Option.or_none]
  constructor
  · rintro ⟨_, htold, rfl, hindex⟩
    exact ⟨htold, hindex⟩
  · rintro ⟨htold, hindex⟩
    exact ⟨_, htold, rfl, hindex⟩

/-- The row index for one object: the configured one before the one that the object tells. -/
def givenIndex (c : Config) (row : Members) : Except Form.FieldError (Option Int) :=
  match c.rowIndex with
  | some index => .ok (some index)
  | none => Form.integer? row rowIndexKey

/-- **One row is updated when there is an object and a row index from zero on.** -/
theorem oneUpdate_eq_ok : oneUpdate c = .ok updates ↔
    ∃ u, updates = [u] ∧ rowOf c.rowObject = .ok u.row ∧
      givenIndex c u.row = .ok (some u.index) ∧ 0 ≤ u.index := by
  unfold oneUpdate givenIndex
  cases c.rowIndex
  all_goals
    simp only [Result.bind_eq_ok, Result.mapError_eq_ok, rowIndexOf_eq_ok, checkedIndex_eq_ok, pure,
      Except.pure, Except.ok.injEq]
    constructor
    · rintro ⟨row, hrow, index, ⟨htold, hindex⟩, rfl⟩
      exact ⟨⟨index, row⟩, rfl, hrow, htold, hindex⟩
    · rintro ⟨u, rfl, hrow, htold, hindex⟩
      exact ⟨u.row, hrow, u.index, ⟨htold, hindex⟩, rfl⟩

/-- **Many rows are updated when every object tells a row index from zero on.** -/
theorem manyUpdates_eq_ok : manyUpdates c = .ok updates ↔
    rowsOf c.rowObjects = .ok (updates.map RowUpdate.row) ∧
      ∀ u ∈ updates, Form.integer? u.row rowIndexKey = .ok (some u.index) ∧ 0 ≤ u.index := by
  have hstep : ∀ (row : Members) (u : RowUpdate),
      (do let index ← rowIndexOf row none; return (⟨index, row⟩ : RowUpdate)) = .ok u ↔
        (Form.integer? u.row rowIndexKey = .ok (some u.index) ∧ 0 ≤ u.index) ∧ row = u.row := by
    intro row u
    simp only [Result.bind_eq_ok, rowIndexOf_eq_ok, pure, Except.pure, Except.ok.injEq]
    constructor
    · rintro ⟨index, htold, rfl⟩
      exact ⟨htold, rfl⟩
    · rintro ⟨htold, rfl⟩
      exact ⟨u.index, htold, rfl⟩
  have hsteps : ∀ rows, List.Forall₂ (fun (row : Members) (u : RowUpdate) =>
      (Form.integer? u.row rowIndexKey = .ok (some u.index) ∧ 0 ≤ u.index) ∧ row = u.row)
        rows updates ↔ rows = updates.map RowUpdate.row ∧
          ∀ u ∈ updates, Form.integer? u.row rowIndexKey = .ok (some u.index) ∧ 0 ≤ u.index := by
    intro rows
    induction updates generalizing rows with
    | nil => simp
    | cons u updates ih =>
      simp only [List.forall₂_cons_right_iff, ih, List.map_cons, List.forall_mem_cons]
      constructor
      · rintro ⟨_, _, ⟨hu, rfl⟩, ⟨rfl, hrest⟩, rfl⟩
        exact ⟨rfl, hu, hrest⟩
      · rintro ⟨rfl, hu, hrest⟩
        exact ⟨_, _, ⟨hu, rfl⟩, ⟨rfl, hrest⟩, rfl⟩
  simp only [manyUpdates, Result.bind_eq_ok, Result.mapError_eq_ok, Result.mapM_eq_ok, hstep,
    hsteps]
  constructor
  · rintro ⟨_, hrows, rfl, htold⟩
    exact ⟨hrows, htold⟩
  · rintro ⟨hrows, htold⟩
    exact ⟨_, hrows, rfl, htold⟩

/-- The configuration of an update fits when a sheet is given and there are rows for it. -/
theorem validateUpdate_eq_ok {given : Config → Except Failure (List RowUpdate)} :
    validateUpdate given c = .ok () ↔
      requireSheet c = .ok () ∧ ∃ updates, given c = .ok updates := by
  simp only [validateUpdate, Result.bind_eq_ok, pure, Except.pure, and_true]
  constructor
  · rintro ⟨⟨⟩, hsheet, hgiven⟩
    exact ⟨hsheet, hgiven⟩
  · rintro ⟨hsheet, hgiven⟩
    exact ⟨(), hsheet, hgiven⟩

end Updates

/-! ### What is written and deleted -/

/-- For an object, an update writes its values, column by column, into a range that is the row of
its index below the header and as wide as the values. -/
structure WritesInto (c : Config) (keys : List String) (u : RowUpdate) (range : String)
    (values : List Document) : Prop where
  below : c.headerRow < c.headerRow + 1 + u.index
  covers : CoversRow c.title (c.headerRow + 1 + u.index) values.length range
  cells : values = rowValues keys u.row .null

section Requests

variable {settings : Settings} {c : Config} {keys : List String} {u : RowUpdate}

/-- A range is made for an object just when the number of its row can be told. -/
theorem exists_updatedRange_iff (keys : List String) :
    (∃ written, updatedRange c keys u = .ok written) ↔
      (Document.int (c.headerRow + 1 + u.index)).isTellable = true := by
  rw [← exists_numberText_iff]
  simp only [updatedRange, rowRange, Result.bind_eq_ok, pure, Except.pure, Except.ok.injEq,
    Config.dataRow]
  constructor
  · rintro ⟨_, _, ⟨number, hnumber, -⟩, -⟩
    exact ⟨number, hnumber⟩
  · rintro ⟨number, hnumber⟩
    exact ⟨_, _, ⟨number, hnumber, rfl⟩, rfl⟩

/-- **The range for an object is the row of its index.** -/
theorem writesInto_of_updatedRange {written : String × Members} (hkeys : keys ≠ [])
    (hfirst : 1 ≤ c.headerRow) (hindex : 0 ≤ u.index) (h : updatedRange c keys u = .ok written) :
    ∃ values, WritesInto c keys u written.1 values ∧
      written.2 = valueRange written.1 [values] := by
  obtain ⟨range, hrange, h⟩ := Result.bind_eq_ok.1 h
  cases h
  have hrow : 0 ≤ c.dataRow u.index := by
    rw [Config.dataRow]
    omega
  have hlength : (rowValues keys u.row .null).length = keys.length := List.length_map _
  refine ⟨_, ⟨by omega, ?_, rfl⟩, rfl⟩
  rw [hlength]
  exact coversRow_of_rowRange hkeys hrow hrange

theorem rowUpdate_request_eq {prerequisite : Prerequisite} (hu : oneUpdate c = .ok [u]) :
    rowUpdate.request settings c prerequisite =
      (updatedRange c prerequisite.keys u).map fun written =>
        .withBody "PUT" (valuesUrl settings c.id written.1 "")
          [("valueInputOption", inputOption)] (.obj written.2) := by
  simp only [rowUpdate, hu, bind, Except.bind]
  cases updatedRange c prerequisite.keys u <;> rfl

theorem rowsUpdate_request_eq {prerequisite : Prerequisite} {updates : List RowUpdate}
    (hupdates : manyUpdates c = .ok updates) :
    rowsUpdate.request settings c prerequisite =
      (updates.mapM (updatedRange c prerequisite.keys)).map fun written =>
        .withBody "POST" (spreadsheetUrl settings c.id ++ "/values:batchUpdate") []
          (.obj [("valueInputOption", .str inputOption),
            ("data", .arr (written.map fun w => .obj w.2))]) := by
  simp only [rowsUpdate, hupdates, bind, Except.bind]
  cases updates.mapM (updatedRange c prerequisite.keys) <;> rfl

/-- An update of one row makes a request just when the number of the row can be told. -/
theorem exists_rowUpdate_request_iff (keys : List String) (hu : oneUpdate c = .ok [u]) :
    (∃ request, rowUpdate.request settings c (.header keys) = .ok request) ↔
      (Document.int (c.headerRow + 1 + u.index)).isTellable = true := by
  rw [rowUpdate_request_eq hu]
  simp only [← exists_updatedRange_iff keys, Result.map_eq_ok]
  exact ⟨fun ⟨_, w, hw, _⟩ => ⟨w, hw⟩, fun ⟨w, hw⟩ => ⟨_, w, hw, rfl⟩⟩

/-- An update of many rows makes a request just when the numbers of all its rows can be told. -/
theorem exists_rowsUpdate_request_iff (keys : List String) {updates : List RowUpdate}
    (hupdates : manyUpdates c = .ok updates) :
    (∃ request, rowsUpdate.request settings c (.header keys) = .ok request) ↔
      ∀ u ∈ updates, (Document.int (c.headerRow + 1 + u.index)).isTellable = true := by
  rw [rowsUpdate_request_eq hupdates]
  simp only [← exists_updatedRange_iff keys, ← Result.exists_mapM_eq_ok, Result.map_eq_ok]
  exact ⟨fun ⟨_, w, hw, _⟩ => ⟨w, hw⟩, fun ⟨w, hw⟩ => ⟨_, w, hw, rfl⟩⟩

/-- The ranges for many objects are those of each of them, in order. -/
theorem forall₂_writesInto {updates : List RowUpdate} {written : List (String × Members)}
    (hkeys : keys ≠ []) (hfirst : 1 ≤ c.headerRow) (hindex : ∀ u ∈ updates, 0 ≤ u.index)
    (h : List.Forall₂ (fun u w => updatedRange c keys u = .ok w) updates written) :
    ∃ ranges : List (String × List Document),
      List.Forall₂ (fun u r => WritesInto c keys u r.1 r.2) updates ranges ∧
        written.map Prod.snd = ranges.map fun r => valueRange r.1 [r.2] := by
  induction h with
  | nil => exact ⟨[], .nil, rfl⟩
  | @cons u w updates written hw _ ih =>
    obtain ⟨hu, hrest⟩ := List.forall_mem_cons.1 hindex
    obtain ⟨values, hinto, hbody⟩ := writesInto_of_updatedRange hkeys hfirst hu hw
    obtain ⟨ranges, hranges, hbodies⟩ := ih hrest
    exact ⟨(w.1, values) :: ranges, .cons hinto hranges, by simp [hbody, hbodies]⟩

/-- **Rows are written and deleted below the header, each in a range of its own.** Once the
configuration fits, every row index is counted from the row below the header. An update of one row
writes the values of its object into the row of its index, from the first column to the last of the
header; an update of many rows does so for each object, in order. A deletion takes away the one row
that an update of the same index writes, counted from zero. A range is made whenever the number of
its row can be told. -/
theorem row_writes_below_header (hkeys : keys ≠ []) :
    (rowUpdate.validate c = .ok () → ∃ u, rowOf c.rowObject = .ok u.row ∧
      givenIndex c u.row = .ok (some u.index) ∧
      ((∃ request, rowUpdate.request settings c (.header keys) = .ok request) ↔
        (Document.int (c.headerRow + 1 + u.index)).isTellable = true) ∧
      ∀ request, rowUpdate.request settings c (.header keys) = .ok request →
        ∃ range values, WritesInto c keys u range values ∧
          request = .withBody "PUT" (valuesUrl settings c.id range "")
            [("valueInputOption", inputOption)] (.obj (valueRange range [values]))) ∧
    (rowsUpdate.validate c = .ok () → ∃ updates : List RowUpdate,
      rowsOf c.rowObjects = .ok (updates.map RowUpdate.row) ∧
      (∀ u ∈ updates, Form.integer? u.row rowIndexKey = .ok (some u.index)) ∧
      ((∃ request, rowsUpdate.request settings c (.header keys) = .ok request) ↔
        ∀ u ∈ updates, (Document.int (c.headerRow + 1 + u.index)).isTellable = true) ∧
      ∀ request, rowsUpdate.request settings c (.header keys) = .ok request →
        ∃ ranges : List (String × List Document),
          List.Forall₂ (fun u r => WritesInto c keys u r.1 r.2) updates ranges ∧
          request = .withBody "POST" (spreadsheetUrl settings c.id ++ "/values:batchUpdate") []
            (.obj [("valueInputOption", .str inputOption),
              ("data", .arr (ranges.map fun r => .obj (valueRange r.1 [r.2])))])) ∧
    (rowDelete.validate c = .ok () → ∃ index, c.rowIndex = some index ∧
      c.headerRow < c.headerRow + 1 + index ∧
      ∀ prerequisite, ∃ request, rowDelete.request settings c prerequisite = .ok request ∧
        DeletesRow settings c (c.headerRow + 1 + index) request) := by
  refine ⟨fun hvalid => ?_, fun hvalid => ?_, fun hvalid => ?_⟩
  · obtain ⟨hsheet, _, hgiven⟩ := validateUpdate_eq_ok.1 hvalid
    obtain ⟨u, rfl, hrow, htold, hindex⟩ := oneUpdate_eq_ok.1 hgiven
    refine ⟨u, hrow, htold, exists_rowUpdate_request_iff keys hgiven, fun request h => ?_⟩
    obtain ⟨w, hw, rfl⟩ := Result.map_eq_ok.1 ((rowUpdate_request_eq hgiven).symm.trans h)
    obtain ⟨values, hinto, hbody⟩ :=
      writesInto_of_updatedRange hkeys (headerRow_of_requireSheet hsheet) hindex hw
    exact ⟨w.1, values, hinto, by rw [hbody]⟩
  · obtain ⟨hsheet, updates, hgiven⟩ := validateUpdate_eq_ok.1 hvalid
    obtain ⟨hrows, htold⟩ := manyUpdates_eq_ok.1 hgiven
    refine ⟨updates, hrows, fun u hu => (htold u hu).1,
      exists_rowsUpdate_request_iff keys hgiven, fun request h => ?_⟩
    obtain ⟨written, hwritten, rfl⟩ :=
      Result.map_eq_ok.1 ((rowsUpdate_request_eq hgiven).symm.trans h)
    obtain ⟨ranges, hinto, hbodies⟩ := forall₂_writesInto hkeys
      (headerRow_of_requireSheet hsheet) (fun u hu => (htold u hu).2)
        (Result.mapM_eq_ok.1 hwritten)
    have hdata : (written.map fun w => Document.obj w.2) =
        ranges.map fun r => .obj (valueRange r.1 [r.2]) := by
      simpa [Function.comp_def] using congrArg (List.map Document.obj) hbodies
    exact ⟨ranges, hinto, by rw [hdata]⟩
  · obtain ⟨_, hsheet, h⟩ := Result.bind_eq_ok.1 hvalid
    cases hindex : c.rowIndex with
    | none =>
      rw [hindex] at h
      cases h
    | some index =>
      rw [hindex] at h
      have hnonneg : 0 ≤ index := Int.not_lt.1 (refuse_unless h)
      refine ⟨index, rfl, by omega, fun prerequisite => ⟨_, rfl, ?_⟩⟩
      exact deletesRow_of_rowDelete hindex rfl

end Requests

/-- A table whose header is the third row, with objects for its first and its fifth row of data. -/
def belowTitle : Config :=
  { spreadsheetId := some "s", sheetTitle := some "t", headerRow := 3, rowIndex := some 0
    rowObject := some ((Document.obj [("a", .int 1)]).written .inline)
    rowObjects := some ((Document.arr [.obj [(rowIndexKey, .int 4)]]).written .inline) }

/-- The first row of data below the third row is the fourth, and the fifth is the eighth. -/
theorem row_writes_below_header_third :
    (∃ u range values, rowUpdate.validate belowTitle = .ok () ∧ u.index = 0 ∧
      WritesInto belowTitle ["a"] u range values) ∧
    (∃ updates : List RowUpdate, ∃ ranges : List (String × List Document),
      rowsUpdate.validate belowTitle = .ok () ∧
      rowsOf belowTitle.rowObjects = .ok (updates.map RowUpdate.row) ∧
      List.Forall₂ (fun u r => WritesInto belowTitle ["a"] u r.1 r.2) updates ranges) ∧
    ∃ request, rowDelete.validate belowTitle = .ok () ∧
      DeletesRow {} belowTitle 4 request := by
  have hone : rowUpdate.validate belowTitle = .ok () := by decide +kernel
  have hmany : rowsUpdate.validate belowTitle = .ok () := by decide +kernel
  have hdelete : rowDelete.validate belowTitle = .ok () := by decide +kernel
  obtain ⟨one, many, delete⟩ := @row_writes_below_header {} belowTitle ["a"] (by decide)
  refine ⟨?_, ?_, ?_⟩
  · obtain ⟨u, -, hindex, hsome, hinto⟩ := one hone
    have hu : u.index = 0 := by simpa [givenIndex, belowTitle] using hindex.symm
    obtain ⟨request, hrequest⟩ := hsome.2 (by rw [hu]; decide +kernel)
    obtain ⟨range, values, h, -⟩ := hinto request hrequest
    exact ⟨u, range, values, hone, hu, h⟩
  · obtain ⟨updates, hrows, htold, hsome, hinto⟩ := many hmany
    have hread : rowsOf belowTitle.rowObjects = .ok [[(rowIndexKey, .int 4)]] := by decide +kernel
    have hindex : ∀ u ∈ updates, u.index = 4 := by
      intro u hu
      have hrow : u.row ∈ updates.map RowUpdate.row := List.mem_map_of_mem hu
      rw [← Except.ok.inj (hread.symm.trans hrows), List.mem_singleton] at hrow
      have hfour : Form.integer? [(rowIndexKey, .int 4)] rowIndexKey = .ok (some 4) := rfl
      simpa [hrow, hfour] using (htold u hu).symm
    obtain ⟨request, hrequest⟩ := hsome.2 fun u hu => by rw [hindex u hu]; decide +kernel
    obtain ⟨ranges, h, -⟩ := hinto request hrequest
    exact ⟨updates, ranges, hmany, hrows, h⟩
  · obtain ⟨index, hindex, -, hrequest⟩ := delete hdelete
    cases hindex
    obtain ⟨request, -, hdeletes⟩ := hrequest .none
    exact ⟨request, hdelete, hdeletes⟩

end Sheet
end FormDispatch
