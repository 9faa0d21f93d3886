/-
# Which row a row index means

A row index of a fetched object is to name the row of the sheet that the object was made from:
an update or a deletion with that index goes to the row `Config.dataRow` of it, below the header.
That is so just when the first row that is fetched is the header (`fetched_index_addresses_iff`).
A fetch without a header begins at the header row all the same and numbers that row zero, while
updates and deletions still count from the row below it, so there every index is one row off.

`NamesRows` says which rows a text of cells names, and `Shows` what a service answers that lists
the rows of a range in order.
-/

import FormDispatch.Proofs.Entries
import FormDispatch.Proofs.Result
import FormDispatch.Proofs.Sheet.Keys
import FormDispatch.Sheet.RowFetching
import FormDispatch.Sheet.RowWriting

namespace FormDispatch
namespace Sheet

/-! ### Ranges of rows -/

/-- A text of cells names the rows from a first one to a last one, or to the end of the sheet.
Columns may be named along with them. -/
inductive NamesRows : List Char → (first : Int) → (last : Option Int) → Prop
  | upTo {left right : List Char} {first last : Int} {f l : String} (hleft : AreLetters left)
      (hright : AreLetters right) (hf : numberText first = .ok f) (hl : numberText last = .ok l) :
      NamesRows (left ++ f.toList ++ ':' :: (right ++ l.toList)) first (some last)
  | onward {left right : List Char} {first : Int} {f : String} (hleft : AreLetters left)
      (hright : AreLetters right) (named : right ≠ []) (hf : numberText first = .ok f) :
      NamesRows (left ++ f.toList ++ ':' :: right) first none

/-- The request reads rows of the configured sheet, row by row. -/
def ReadsRows (settings : Settings) (c : Config) (first : Int) (last : Option Int)
    (query : List (String × String)) (request : WireRequest) : Prop :=
  ∃ cells, NamesRows cells.toList first last ∧
    request = .plain "GET" (valuesUrl settings c.id (rangeOf c.title (some cells)) "")
      (("majorDimension", "ROWS") :: query)

/-- The last row that a fetch without a range asks for, if it asks for a last one. -/
def lastFetched (c : Config) : Option Int :=
  c.rowLimit.map fun limit =>
    c.headerRow + (if c.firstRowIsHeader then 1 else 0) + c.rowOffset + limit - 1

theorem fetchRange_of_none {c : Config} (hrange : c.range.getD "" = "") :
    fetchRange c = do
      let start ← numberText c.headerRow
      match lastFetched c with
      | none => return rangeOf c.title (some ("A" ++ start ++ ":" ++ lastColumn))
      | some last =>
        let stop ← numberText last
        return rangeOf c.title (some (start ++ ":" ++ stop)) := by
  unfold fetchRange lastFetched
  cases hcells : c.range with
  | none => cases c.rowLimit <;> rfl
  | some cells =>
    rw [hcells, Option.getD_some] at hrange
    subst hrange
    cases c.rowLimit <;> rfl

/-- **The range of a fetch names the rows from the header on.** -/
theorem namesRows_of_fetchRange {c : Config} {range : String} (hrange : c.range.getD "" = "")
    (h : fetchRange c = .ok range) :
    ∃ cells, range = rangeOf c.title (some cells) ∧
      NamesRows cells.toList c.headerRow (lastFetched c) := by
  have noLetters : AreLetters [] := nofun
  rw [fetchRange_of_none hrange] at h
  obtain ⟨start, hstart, h⟩ := Result.bind_eq_ok.1 h
  split at h
  · next hlast =>
    cases h
    have hleft : AreLetters ['A'] := List.all_eq_true.1 (by decide)
    have hright : AreLetters ['Z', 'Z', 'Z'] := List.all_eq_true.1 (by decide)
    rw [hlast]
    exact ⟨_, rfl, by simpa [lastColumn] using NamesRows.onward hleft hright (by decide) hstart⟩
  · next last hlast =>
    obtain ⟨stop, hstop, h⟩ := Result.bind_eq_ok.1 h
    cases h
    rw [hlast]
    exact ⟨_, rfl, by simpa using NamesRows.upTo noLetters noLetters hstart hstop⟩

/-- A fetch without a range reads the rows from the header on. -/
theorem readsRows_of_rowsFetch {settings : Settings} {c : Config} {prerequisite : Prerequisite}
    {request : WireRequest} (hrange : c.range.getD "" = "")
    (h : rowsFetch.request settings c prerequisite = .ok request) :
    ReadsRows settings c c.headerRow (lastFetched c) [("valueRenderOption", "FORMATTED_VALUE")]
      request := by
  obtain ⟨range, hfetch, h⟩ := Result.bind_eq_ok.1 h
  cases h
  obtain ⟨cells, rfl, hcells⟩ := namesRows_of_fetchRange hrange hfetch
  exact ⟨cells, hcells, rfl⟩

/-! ### What a fetch takes from a sheet -/

/-- The answer lists the rows of a sheet in order, from the first row of a range on. It goes no
further than the range, and what it leaves out at the end is empty. -/
def Shows (sheet : Int → List Document) (first : Int) (last : Option Int) (body : Document) :
    Prop :=
  ∃ count : Nat,
    body.nestedItems "values" = (List.range count).map (fun i => .arr (sheet (first + i))) ∧
      (∀ l ∈ last, first + count ≤ l + 1) ∧
      ∀ row, first + count ≤ row → (∀ l ∈ last, row ≤ l) → sheet row = []

/-- The object holds the cells of a row of the sheet, each under a key, and a row index. -/
def BuiltFrom (sheet : Int → List Document) (row : Int) (o : Members) : Prop :=
  ∃ keys index, (sheet row).length ≤ keys.length ∧ o = rowObjectOf keys index (sheet row)

/-- The object is one of those that a fetch gives for an answer. -/
def Fetches (c : Config) (body : Document) (o : Members) : Prop :=
  ∃ objects, rowsFetch.result c body = .ok (.arr objects) ∧ .obj o ∈ objects

/-- The header that a fetch takes from an answer. -/
def fetchedHeader (c : Config) (body : Document) : List String :=
  (headerAndRows c.firstRowIsHeader (answeredRows body)).1

/-- The rows that a fetch takes from an answer. -/
def fetchedWindow (c : Config) (body : Document) : List (List Document) :=
  window c.rowOffset c.rowLimit (headerAndRows c.firstRowIsHeader (answeredRows body)).2

/-- The number of columns of what is fetched. -/
def fetchedWidth (c : Config) (body : Document) : Nat :=
  widthOf (fetchedHeader c body) (fetchedWindow c body)

/-- The keys of the columns of what is fetched. -/
def fetchedKeys (c : Config) (body : Document) : List String :=
  rowKeys (fetchedHeader c body) (fetchedWidth c body)

section Fetching

variable {c : Config} {body : Document} {o : Members}

/-- What is fetched is made row by row. -/
theorem fetches_iff : Fetches c body o ↔ ∃ position row,
    (fetchedWindow c body)[position]? = some row ∧
      o = rowObjectOf (fetchedKeys c body) (c.rowOffset + (position : Nat)) row := by
  have hresult : rowsFetch.result c body = .ok (.arr ((fetchedRows c body).map .obj)) := rfl
  have hmem : Fetches c body o ↔ o ∈ fetchedRows c body := by
    constructor
    · rintro ⟨objects, hobjects, ho⟩
      cases hresult.symm.trans hobjects
      simpa using ho
    · exact fun ho => ⟨_, hresult, by simpa using ho⟩
  have hrows : fetchedRows c body = (fetchedWindow c body).zipIdx.map fun p =>
      rowObjectOf (fetchedKeys c body) (c.rowOffset + (p.2 : Nat)) p.1 := rfl
  rw [hmem, hrows]
  simp only [List.mem_map, Prod.exists, List.mem_zipIdx_iff_getElem?, eq_comm (a := o)]
  exact exists_comm

/-- What is not refused does not meet the condition. -/
theorem refuse_unless {p : Prop} [Decidable p] {field reason : String}
    (h : (if p then refuse field reason else .ok () : Except Failure Unit) = .ok ()) : ¬p := by
  intro hp
  rw [if_pos hp] at h
  cases h

/-- A sheet that is given has a header row. -/
theorem headerRow_of_requireSheet (h : requireSheet c = .ok ()) : 1 ≤ c.headerRow := by
  unfold requireSheet at h
  obtain ⟨_, _, h⟩ := Result.bind_eq_ok.1 h
  obtain ⟨_, _, h⟩ := Result.bind_eq_ok.1 h
  exact Int.not_lt.1 (refuse_unless h)

/-- A configuration that fits gives a sheet. -/
theorem requireSheet_of_validate (h : rowsFetch.validate c = .ok ()) : requireSheet c = .ok () := by
  obtain ⟨_, hsheet, -⟩ := Result.bind_eq_ok.1 h
  exact hsheet

/-- A configuration that fits names rows that there are. -/
theorem fits_of_validate (h : rowsFetch.validate c = .ok ()) :
    1 ≤ c.headerRow ∧ 0 ≤ c.rowOffset ∧ ∀ limit ∈ c.rowLimit, 1 ≤ limit := by
  have hsheet := requireSheet_of_validate h
  simp only [rowsFetch] at h
  obtain ⟨_, -, h⟩ := Result.bind_eq_ok.1 h
  split at h
  · cases h
  · next hoffset =>
    refine ⟨headerRow_of_requireSheet hsheet, Int.not_lt.1 hoffset, fun limit hlimit => ?_⟩
    rw [Option.mem_def.1 hlimit] at h
    exact Int.not_lt.1 (refuse_unless h)

/-- Neither the header nor a row is wider than the number of columns. -/
theorem widthOf_spec (header : List String) (rows : List (List Document)) :
    header.length ≤ widthOf header rows ∧ ∀ row ∈ rows, row.length ≤ widthOf header rows := by
  unfold widthOf
  generalize header.length = width
  induction rows generalizing width with
  | nil => simp
  | cons first rest ih =>
    obtain ⟨hwidth, hrest⟩ := ih (max width first.length)
    rw [List.foldl_cons]
    refine ⟨Nat.le_trans (Nat.le_max_left _ _) hwidth, fun row hrow => ?_⟩
    rcases List.mem_cons.1 hrow with rfl | hrow
    · exact Nat.le_trans (Nat.le_max_right _ _) hwidth
    · exact hrest row hrow

/-- The rows of data begin behind the header. -/
theorem getElem?_headerAndRows (flag : Bool) (rows : List (List Document)) (position : Nat) :
    (headerAndRows flag rows).2[position]? = rows[position + if flag then 1 else 0]? := by
  unfold headerAndRows
  split
  · simp
  · next hrows =>
    cases flag with
    | false => rfl
    | true =>
      cases rows with
      | nil => simp
      | cons first rest => exact absurd rfl (hrows first rest rfl)

/-- What is wanted begins at the offset and goes on to the limit. -/
theorem getElem?_window {offset : Int} {limit : Option Int} {rows : List (List Document)}
    {position : Nat} {row : List Document} (hoffset : 0 ≤ offset) (hlimit : ∀ l ∈ limit, 1 ≤ l) :
    (window offset limit rows)[position]? = some row ↔
      rows[offset.toNat + position]? = some row ∧ ∀ l ∈ limit, (position : Int) < l := by
  have hdrop : fromOffset offset rows = rows.drop offset.toNat := by
    simp [fromOffset, Int.not_lt.2 hoffset]
  unfold window
  split
  · next l =>
    have hl : 1 ≤ l := hlimit l rfl
    have hwithin : (position : Int) < l ↔ position < l.toNat := by omega
    rw [upToLimit, if_neg (by omega), hdrop, List.getElem?_take, List.getElem?_drop]
    simp only [Option.mem_some_iff, forall_eq', hwithin]
    split <;> simp [*]
  · simp [hdrop]

/-- The rows of an answer are those of the sheet. -/
theorem answeredRows_of_shows {sheet : Int → List Document} {first : Int} {last : Option Int}
    (h : Shows sheet first last body) {position : Nat} {row : List Document}
    (hrow : (answeredRows body)[position]? = some row) : row = sheet (first + position) := by
  obtain ⟨count, hvalues, -, -⟩ := h
  rw [answeredRows, hvalues, List.map_map, List.getElem?_map, Option.map_eq_some_iff] at hrow
  obtain ⟨i, hi, rfl⟩ := hrow
  obtain ⟨_, rfl⟩ := List.getElem?_eq_some_iff.1 hi
  simp [cellsOf]

/-- **An object that is fetched is made from the row that its index has, counted from the first row
of data that is fetched.** -/
theorem rowObjectOf_of_fetches {sheet : Int → List Document} {last : Option Int}
    (hvalid : rowsFetch.validate c = .ok ()) (hshows : Shows sheet c.headerRow last body)
    (ho : Fetches c body o) :
    ∃ r row, 0 ≤ r ∧ row = sheet (c.headerRow + (if c.firstRowIsHeader then 1 else 0) + r) ∧
      row.length ≤ fetchedWidth c body ∧ o = rowObjectOf (fetchedKeys c body) r row := by
  obtain ⟨-, hoffset, hlimit⟩ := fits_of_validate hvalid
  obtain ⟨position, row, hrow, rfl⟩ := fetches_iff.1 ho
  have hwide : row.length ≤ fetchedWidth c body :=
    (widthOf_spec _ _).2 row (List.mem_of_getElem? hrow)
  obtain ⟨hdata, -⟩ := (getElem?_window hoffset hlimit).1 hrow
  rw [getElem?_headerAndRows] at hdata
  have hsheet := answeredRows_of_shows hshows hdata
  have hnumber : c.headerRow + ((c.rowOffset.toNat + position +
      if c.firstRowIsHeader then 1 else 0 : Nat) : Int) =
      c.headerRow + (if c.firstRowIsHeader then 1 else 0) + (c.rowOffset + position) := by
    split <;> omega
  rw [hnumber] at hsheet
  exact ⟨_, row, by omega, hsheet, hwide, rfl⟩

theorem builtFrom_of_fetches {sheet : Int → List Document} {last : Option Int}
    (hvalid : rowsFetch.validate c = .ok ()) (hshows : Shows sheet c.headerRow last body)
    (ho : Fetches c body o) :
    ∃ r, 0 ≤ r ∧ o.get? rowIndexKey = some (.int r) ∧
      BuiltFrom sheet (c.headerRow + (if c.firstRowIsHeader then 1 else 0) + r) o := by
  obtain ⟨r, row, hr, rfl, hwide, rfl⟩ := rowObjectOf_of_fetches hvalid hshows ho
  have hkeys : (fetchedKeys c body).length = fetchedWidth c body := length_rowKeys _ _
  exact ⟨r, hr, Entries.get?_put_self _ _ _, _, _, hkeys ▸ hwide, rfl⟩

end Fetching

/-! ### Which rows are written and deleted -/

/-- The request writes values into one row of the configured sheet, from its first column on. -/
def WritesRow (settings : Settings) (c : Config) (row : Int) (values : List Document)
    (request : WireRequest) : Prop :=
  ∃ number range, numberText row = .ok number ∧
    range = rangeOf c.title
      (some ("A" ++ number ++ ":" ++ columnName (values.length - 1) ++ number)) ∧
    request = .withBody "PUT" (valuesUrl settings c.id range "")
      [("valueInputOption", inputOption)] (.obj (valueRange range [values]))

/-- The request deletes one row; the service counts them from zero. -/
def DeletesRow (settings : Settings) (c : Config) (row : Int) (request : WireRequest) : Prop :=
  ∃ sheet, request = .withBody "POST" (spreadsheetUrl settings c.id ++ ":batchUpdate") []
    (.obj [("requests", .arr [.obj [("deleteDimension", .obj [("range",
      .obj [("sheetId", sheet), ("dimension", .str "ROWS"), ("startIndex", .int (row - 1)),
        ("endIndex", .int row)])])]])])

section Writing

variable {settings : Settings} {c : Config} {prerequisite : Prerequisite} {request : WireRequest}

/-- **An update writes the row of its index.** -/
theorem rowUpdate_request_eq_ok {u : RowUpdate} (hu : oneUpdate c = .ok [u]) :
    rowUpdate.request settings c prerequisite = .ok request ↔
      WritesRow settings c (c.dataRow u.index) (rowValues prerequisite.keys u.row .null)
        request := by
  have hlength : (rowValues prerequisite.keys u.row .null).length = prerequisite.keys.length :=
    List.length_map _
  simp only [rowUpdate, hu, updatedRange, rowRange, WritesRow, hlength]
  constructor
  · intro h
    obtain ⟨_, hupdates, h⟩ := Result.bind_eq_ok.1 h
    cases hupdates
    obtain ⟨_, hupdate, h⟩ := Result.bind_eq_ok.1 h
    obtain ⟨_, hrange, hbody⟩ := Result.bind_eq_ok.1 hupdate
    obtain ⟨number, hnumber, hrange⟩ := Result.bind_eq_ok.1 hrange
    cases hrange
    cases hbody
    cases h
    exact ⟨number, _, hnumber, rfl, rfl⟩
  · rintro ⟨number, range, hnumber, rfl, rfl⟩
    simp only [bind, Except.bind, hnumber]
    rfl

/-- **A deletion deletes the row of its index.** -/
theorem deletesRow_of_rowDelete {index : Int} (hindex : c.rowIndex = some index)
    (h : rowDelete.request settings c prerequisite = .ok request) :
    DeletesRow settings c (c.dataRow index) request := by
  simp only [rowDelete, hindex, Option.getD_some, rowInterval, Except.ok.injEq] at h
  exact ⟨prerequisite.sheet, h.symm⟩

end Writing

/-! ### Rows off by one -/

/-- What an object made from a row holds besides its index is a cell of the row, or empty. -/
theorem value_of_rowObjectOf {keys : List String} {index : Int} {row : List Document}
    {key : String} {d : Document} (h : (rowObjectOf keys index row).get? key = some d)
    (hkey : key ≠ rowIndexKey) : ∃ i, keys[i]? = some key ∧ d = row.getD i (.str "") := by
  rw [rowObjectOf, Entries.get?_put_of_ne _ _ (Ne.symm hkey)] at h
  obtain ⟨⟨k, i⟩, hi, heq⟩ := List.mem_map.1 (Entries.mem_of_get?_ofPairs h)
  cases heq
  exact ⟨i, List.mem_zipIdx_iff_getElem?.1 hi, rfl⟩

/-- The answer that lists the rows. -/
def answerOf (rows : List (List Document)) : Document :=
  .obj [("values", .arr (rows.map .arr))]

theorem answeredRows_answerOf (rows : List (List Document)) :
    answeredRows (answerOf rows) = rows := by
  have hlisted : answeredRows (answerOf rows) = (rows.map .arr).map cellsOf := rfl
  simp [hlisted, cellsOf, Function.comp_def]

/-- A sheet with a cell in every row that comes before one, and nothing from there on. -/
def filledBefore (stop : Int) : Int → List Document := fun row =>
  if row < stop then [.str "x"] else []

/-- The rows up to the end of what is filled are shown. -/
theorem shows_filledBefore {first : Int} {last : Option Int} {count : Nat}
    (hlast : ∀ l ∈ last, first + count ≤ l + 1) :
    Shows (filledBefore (first + count)) first last
      (answerOf (List.replicate count [.str "x"])) := by
  refine ⟨count, ?_, hlast, fun row hrow _ => if_neg (Int.not_lt.2 hrow)⟩
  have hlisted : (answerOf (List.replicate count [.str "x"])).nestedItems "values" =
      (List.replicate count [.str "x"]).map .arr := rfl
  have hrows : ∀ i ∈ List.range count,
      filledBefore (first + count) (first + (i : Nat)) = [.str "x"] := by
    intro i hi
    have := List.mem_range.1 hi
    exact if_pos (by omega)
  rw [hlisted, List.map_congr_left fun i hi => congrArg _ (hrows i hi)]
  simp [List.map_const']

/-- Without a header, a row above the one that its index addresses can be fetched. -/
theorem exists_fetched_above {c : Config} (hvalid : rowsFetch.validate c = .ok ())
    (hno : c.firstRowIsHeader = false) :
    ∃ sheet body o r, Shows sheet c.headerRow (lastFetched c) body ∧ Fetches c body o ∧
      o.get? rowIndexKey = some (.int r) ∧ ¬BuiltFrom sheet (c.dataRow r) o := by
  obtain ⟨-, hoffset, hlimit⟩ := fits_of_validate hvalid
  -- the sheet ends with the first row that is wanted
  obtain ⟨count, hcount⟩ : ∃ n, n = c.rowOffset.toNat + 1 := ⟨_, rfl⟩
  have hshows : Shows (filledBefore (c.headerRow + count)) c.headerRow (lastFetched c)
      (answerOf (List.replicate count [.str "x"])) := by
    refine shows_filledBefore fun last hlast => ?_
    obtain ⟨limit, hl, rfl⟩ := Option.map_eq_some_iff.1 hlast
    have := hlimit limit hl
    simp only [hno, Bool.false_eq_true, if_false]
    omega
  have hwindow : fetchedWindow c (answerOf (List.replicate count [.str "x"])) = [[.str "x"]] := by
    refine List.ext_getElem? fun position => Option.ext fun row => ?_
    rw [fetchedWindow, getElem?_window hoffset hlimit, getElem?_headerAndRows,
      answeredRows_answerOf, hno]
    cases position with
    | zero =>
      have hzero : ∀ limit ∈ c.rowLimit, ((0 : Nat) : Int) < limit := hlimit
      rw [and_iff_left hzero]
      simp [hcount]
    | succ position => simp [hcount]
  have hkeys : fetchedKeys c (answerOf (List.replicate count [.str "x"])) = ["A"] := by
    rw [fetchedKeys, fetchedWidth, hwindow, fetchedHeader, hno]
    rfl
  have hfetched : Fetches c (answerOf (List.replicate count [.str "x"]))
      (rowObjectOf ["A"] c.rowOffset [.str "x"]) :=
    fetches_iff.2 ⟨0, _, by rw [hwindow]; rfl, by rw [hkeys]; simp⟩
  refine ⟨_, _, _, c.rowOffset, hshows, hfetched, rfl, ?_⟩
  rintro ⟨keys, index, -, h⟩
  have hbelow : filledBefore (c.headerRow + count) (c.dataRow c.rowOffset) = [] := by
    refine if_neg ?_
    rw [Config.dataRow]
    omega
  have hcell : (rowObjectOf keys index []).get? "A" = some (.str "x") := by
    rw [← hbelow, ← h]
    rfl
  obtain ⟨i, -, hi⟩ := value_of_rowObjectOf hcell (by decide)
  simp at hi

/-- **A fetched row index addresses the row that it came from, just when the first row is a
header.** A fetch without a range asks for the rows from the header on. Whatever a sheet holds
there, an object that is fetched with an index is made from the row of that index, counted from the
first row of data that is fetched. An update or a deletion with the same index goes to the row of
the index below the header; the two are the same in all cases only if the first row that is fetched
is taken for a header. -/
theorem fetched_index_addresses_iff {settings : Settings} {c : Config} {prerequisite : Prerequisite}
    {request : WireRequest} (hvalid : rowsFetch.validate c = .ok ())
    (hrange : c.range.getD "" = "")
    (hrequest : rowsFetch.request settings c prerequisite = .ok request) :
    ReadsRows settings c c.headerRow (lastFetched c) [("valueRenderOption", "FORMATTED_VALUE")]
      request ∧
    (∀ (later : Config) (r : Int), later.headerRow = c.headerRow →
      (∀ row settled sent, oneUpdate later = .ok [⟨r, row⟩] →
        rowUpdate.request settings later settled = .ok sent →
          ∃ values, WritesRow settings later (c.headerRow + 1 + r) values sent) ∧
      (∀ settled sent, later.rowIndex = some r →
        rowDelete.request settings later settled = .ok sent →
          DeletesRow settings later (c.headerRow + 1 + r) sent)) ∧
    (∀ sheet body, Shows sheet c.headerRow (lastFetched c) body → ∀ o, Fetches c body o →
      ∃ r, 0 ≤ r ∧ o.get? rowIndexKey = some (.int r) ∧
        BuiltFrom sheet (c.headerRow + (if c.firstRowIsHeader then 1 else 0) + r) o) ∧
    ((∀ sheet body, Shows sheet c.headerRow (lastFetched c) body → ∀ o, Fetches c body o →
      ∃ r, o.get? rowIndexKey = some (.int r) ∧ BuiltFrom sheet (c.headerRow + 1 + r) o) ↔
        c.firstRowIsHeader = true) := by
  refine ⟨?_, ?_, fun sheet body hshows o ho => builtFrom_of_fetches hvalid hshows ho, ?_, ?_⟩
  · exact readsRows_of_rowsFetch hrange hrequest
  · intro later r hheader
    rw [← hheader]
    exact ⟨fun _ _ _ hu h => ⟨_, (rowUpdate_request_eq_ok hu).1 h⟩,
      fun _ _ hr h => deletesRow_of_rowDelete hr h⟩
  · intro haddressed
    rw [← Bool.not_eq_false]
    intro hno
    obtain ⟨sheet, body, o, r, hshows, ho, hr, hbuilt⟩ := exists_fetched_above hvalid hno
    obtain ⟨r', hr', hbuilt'⟩ := haddressed sheet body hshows o ho
    cases hr.symm.trans hr'
    exact hbuilt hbuilt'
  · intro hheader sheet body hshows o ho
    obtain ⟨r, -, hr, hbuilt⟩ := builtFrom_of_fetches hvalid hshows ho
    rw [hheader, if_pos rfl] at hbuilt
    exact ⟨r, hr, hbuilt⟩

/-- Fetching a sheet without a header, from its first row on. -/
def headless : Config :=
  { spreadsheetId := some "s", sheetTitle := some "t", firstRowIsHeader := false }

/-- Fetching without a header is one row off. -/
theorem fetched_index_addresses_iff_headless :
    ¬∀ sheet body, Shows sheet 1 none body → ∀ o, Fetches headless body o →
      ∃ r, o.get? rowIndexKey = some (.int r) ∧ BuiltFrom sheet (1 + 1 + r) o := fun h =>
  have hrequest : rowsFetch.request {} headless .none = .ok _ := rfl
  absurd ((fetched_index_addresses_iff rfl rfl hrequest).2.2.2.1 h) (by decide)

end Sheet
end FormDispatch
