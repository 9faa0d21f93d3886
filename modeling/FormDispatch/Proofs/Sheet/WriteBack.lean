/-
# Writing fetched rows back

An object that was fetched, given unchanged to an update, is to write the cells of its row back. It
does so just when the header, without the blank cells at its end, is as wide as the widest row, and
no column has the key of the row index, unless the cell there is that index already
(`fetched_row_writes_back_iff`). Where a row is wider than the header, the update knows no key for
the columns behind the header's end and refuses the object (`unknownKeys_eq_nil_iff`); where a
column is headed by the key of the row index, it writes the index over the cell
(`rowValues_eq_iff`).
-/

import FormDispatch.Proofs.Sheet.Addressing
import FormDispatch.Proofs.Sheet.RowTexts

namespace FormDispatch
namespace Sheet

/-! ### Objects of rows -/

/-- The cells of a row under the keys of their columns. -/
def keyedCells (keys : List String) (row : List Document) : Members :=
  keys.zipIdx.map fun (key, i) => (key, row.getD i (.str ""))

/-- A value that a cell can hold: a scalar, an integer among them not too long for a text. -/
def IsCell (d : Document) : Prop :=
  d.isScalar = true ∧ d.isTellable = true

section Objects

variable {keys : List String} {index : Int} {row : List Document}

theorem keys_keyedCells (keys : List String) (row : List Document) :
    (keyedCells keys row).keys = keys := by
  simp [keyedCells, Entries.keys, Function.comp_def]

theorem nodup_keys_keyedCells (hkeys : keys.Nodup) : (keyedCells keys row).keys.Nodup := by
  rwa [keys_keyedCells]

theorem mem_keyedCells {key : String} {d : Document} :
    (key, d) ∈ keyedCells keys row ↔ ∃ i, keys[i]? = some key ∧ d = row.getD i (.str "") := by
  simp only [keyedCells, List.mem_map, Prod.exists, Prod.mk.injEq, List.mem_zipIdx_iff_getElem?]
  constructor
  · rintro ⟨_, i, hi, rfl, rfl⟩
    exact ⟨i, hi, rfl⟩
  · rintro ⟨i, hi, rfl⟩
    exact ⟨key, i, hi, rfl, rfl⟩

/-- Where the columns have distinct keys, the object of a row holds each of its cells. -/
theorem rowObjectOf_of_nodup (hkeys : keys.Nodup) :
    rowObjectOf keys index row = (keyedCells keys row).put rowIndexKey (.int index) := by
  have hcells : Entries.ofPairs (keyedCells keys row) = keyedCells keys row :=
    Entries.ofPairs_of_nodup (nodup_keys_keyedCells hkeys)
  rw [← hcells]
  rfl

/-- The object of a row has the keys of the columns, and that of the row index. -/
theorem mem_keys_rowObjectOf (hkeys : keys.Nodup) {key : String} :
    key ∈ (rowObjectOf keys index row).keys ↔ key ∈ keys ∨ key = rowIndexKey := by
  rw [rowObjectOf_of_nodup hkeys, Entries.mem_keys_put, keys_keyedCells]

/-- The object of a row has each key once. -/
theorem nodup_keys_rowObjectOf (hkeys : keys.Nodup) : (rowObjectOf keys index row).keys.Nodup := by
  rw [rowObjectOf_of_nodup hkeys]
  exact Entries.nodup_keys_put (nodup_keys_keyedCells hkeys)

/-- Under the key of a column stands the cell of that column, unless it is that of the row index. -/
theorem get?_rowObjectOf (hkeys : keys.Nodup) {i : Nat} {key : String} (hi : keys[i]? = some key) :
    (rowObjectOf keys index row).get? key =
      some (if key = rowIndexKey then .int index else row.getD i (.str "")) := by
  rw [rowObjectOf_of_nodup hkeys]
  split
  · next h => rw [h, Entries.get?_put_self]
  · next h =>
    rw [Entries.get?_put_of_ne _ _ (Ne.symm h), Entries.get?_eq_some (nodup_keys_keyedCells hkeys)]
    exact mem_keyedCells.2 ⟨i, hi, rfl⟩

/-- Everything in the object of a row is a cell. -/
theorem isCell_of_mem_rowObjectOf (hkeys : keys.Nodup) (hindex : IsCell (.int index))
    (hrow : ∀ d ∈ row, IsCell d) {p : String × Document} (hp : p ∈ rowObjectOf keys index row) :
    IsCell p.2 := by
  have hget : (rowObjectOf keys index row).get? p.1 = some p.2 :=
    (Entries.get?_eq_some (nodup_keys_rowObjectOf hkeys)).2 hp
  by_cases hkey : p.1 = rowIndexKey
  · rw [hkey, rowObjectOf, Entries.get?_put_self, Option.some_inj] at hget
    exact hget ▸ hindex
  · obtain ⟨i, -, hi⟩ := value_of_rowObjectOf hget hkey
    rw [hi, List.getD_eq_getElem?_getD]
    cases hcell : row[i]? with
    | none => exact ⟨rfl, rfl⟩
    | some d => exact hrow d (List.mem_of_getElem? hcell)

/-- **The text of a row's object gives the object.** -/
theorem rowOf_written (hkeys : keys.Nodup) (hindex : IsCell (.int index))
    (hrow : ∀ d ∈ row, IsCell d) :
    rowOf (some ((Document.obj (rowObjectOf keys index row)).written .inline)) =
      .ok (rowObjectOf keys index row) := by
  have hread := Document.read_chars_obj Document.Layout.spaced_inline (nodup_keys_rowObjectOf hkeys)
    fun p hp => isCell_of_mem_rowObjectOf hkeys hindex hrow hp
  exact rowOf_written_eq hread

end Objects

/-! ### Numbers of rows -/

/-- The number of a row has a text when it can be told. -/
theorem exists_numberText_iff {n : Int} :
    (∃ number, numberText n = .ok number) ↔ (Document.int n).isTellable = true := by
  rw [numberText, Document.isTellable]
  cases Numeral.text? n <;> simp

/-- A smaller number has a text when a greater one has. -/
theorem isTellable_int_of_le {m n : Int} (hm : 0 ≤ m) (hmn : m ≤ n)
    (h : (Document.int n).isTellable = true) : (Document.int m).isTellable = true := by
  have htold : ∀ k : Int, (Document.int k).isTellable = true ↔
      k.natAbs < 10 ^ Numeral.longestNumeral := by
    intro k
    rw [← Numeral.length_digits_le_iff (by decide), Document.isTellable, Numeral.text?]
    split
    · next hk => simp [Nat.not_le.2 hk]
    · next hk => simp [Nat.not_lt.1 hk]
  rw [htold] at h ⊢
  omega

/-! ### The update of a fetched object -/

/-- The configuration gives an object to an update of the same sheet. -/
structure UpdatesWith (c later : Config) (o : Members) : Prop where
  spreadsheet : later.spreadsheetId = c.spreadsheetId
  sheet : later.sheetTitle = c.sheetTitle
  header : later.headerRow = c.headerRow
  index : later.rowIndex = none
  object : later.rowObject = some ((Document.obj o).written .inline)

/-- An object with a row index is updated in that row. -/
theorem oneUpdate_eq {c : Config} {o : Members} {r : Int} (hr : 0 ≤ r)
    (hrow : rowOf c.rowObject = .ok o) (hnone : c.rowIndex = none)
    (hindex : o.get? rowIndexKey = some (.int r)) : oneUpdate c = .ok [⟨r, o⟩] := by
  have hparts : Form.parts rowIndexKey = [rowIndexKey] := by decide
  have hfield : Form.integer? o rowIndexKey = .ok (some r) := by
    rw [Form.integer?, Form.usable, Form.lookup_of_parts o hparts, hindex]
    rfl
  have hchecked : rowIndexOf o none = .ok r := by
    simp [rowIndexOf, hfield, checkedIndex, Int.not_lt.2 hr, bind, Except.bind]
  simp only [oneUpdate, hrow, hnone, hchecked, bind, Except.bind, Result.mapError_ok]
  rfl

/-! ### The header -/

section Header

variable {c : Config} {sheet : Int → List Document} {body header : Document} {o : Members}

/-- The header is looked up in the header row of the sheet. -/
theorem headerOf_of_shows {row : Int} (h : Shows sheet row (some row) header)
    (hnamed : headerCells (sheet row) ≠ []) : headerOf header = .ok (headerCells (sheet row)) := by
  obtain ⟨count, hvalues, hcount, hleft⟩ := h
  have hone : count = 1 := by
    have hmost := hcount row rfl
    have hleast : count ≠ 0 := by
      rintro rfl
      have hempty : sheet row = [] := hleft row (by simp) (by simp)
      exact hnamed (by rw [hempty]; rfl)
    omega
  subst hone
  have hlist : header.member "values" = .arr [.arr (sheet row)] := by
    have hitems : header.nestedItems "values" = [.arr (sheet row)] := by simpa using hvalues
    rw [Document.nestedItems] at hitems
    split at hitems
    · next items hmember => rw [hmember, hitems]
    · cases hitems
  rw [headerOf, hlist]
  rfl

/-- Where anything is fetched, its header is the header row of the sheet. -/
theorem fetchedHeader_eq {last : Option Int} (hvalid : rowsFetch.validate c = .ok ())
    (hheader : c.firstRowIsHeader = true) (hshows : Shows sheet c.headerRow last body)
    (ho : Fetches c body o) :
    fetchedHeader c body = (sheet c.headerRow).map Document.displayed := by
  obtain ⟨-, hoffset, hlimit⟩ := fits_of_validate hvalid
  obtain ⟨position, row, hrow, -⟩ := fetches_iff.1 ho
  obtain ⟨hdata, -⟩ := (getElem?_window hoffset hlimit).1 hrow
  rw [fetchedHeader, hheader]
  rw [hheader] at hdata
  cases hrows : answeredRows body with
  | nil => simp [hrows, headerAndRows] at hdata
  | cons first rest =>
    have hfirst : (answeredRows body)[0]? = some first := by rw [hrows]; rfl
    have hsheet := answeredRows_of_shows hshows hfirst
    rw [Int.natCast_zero, Int.add_zero] at hsheet
    rw [headerAndRows, hsheet]

/-- The keys of what is fetched are those of the header of the sheet. -/
theorem fetchedKeys_eq {last : Option Int} (hvalid : rowsFetch.validate c = .ok ())
    (hheader : c.firstRowIsHeader = true) (hshows : Shows sheet c.headerRow last body)
    (ho : Fetches c body o) :
    fetchedKeys c body = rowKeys (headerCells (sheet c.headerRow)) (fetchedWidth c body) := by
  rw [fetchedKeys, fetchedHeader_eq hvalid hheader hshows ho, rowKeys_headerCells]

/-- Nothing that is fetched is narrower than the header of the sheet. -/
theorem length_headerCells_le_fetchedWidth {last : Option Int}
    (hvalid : rowsFetch.validate c = .ok ()) (hheader : c.firstRowIsHeader = true)
    (hshows : Shows sheet c.headerRow last body) (ho : Fetches c body o) :
    (headerCells (sheet c.headerRow)).length ≤ fetchedWidth c body := by
  refine Nat.le_trans (length_headerCells_le _) ?_
  rw [← List.length_map (f := Document.displayed), ← fetchedHeader_eq hvalid hheader hshows ho]
  exact (widthOf_spec _ _).1

end Header

/-! ### What is refused and what is written -/

section Columns

variable {header : List String} {width : Nat} {index : Int} {row : List Document}

/-- **An object of a row passes the check of columns when the header is as wide as the row.** The
keys behind a shorter header are letters, which no column of the header has for its key. -/
theorem unknownKeys_eq_nil_iff (hkeys : (rowKeys header width).Nodup)
    (hheader : header.length ≤ width) :
    unknownKeys (rowKeys header header.length) (rowObjectOf (rowKeys header width) index row) = [] ↔
      header.length = width := by
  rw [unknownKeys, List.filter_eq_nil_iff]
  constructor
  · intro hknown
    refine Nat.le_antisymm hheader (Nat.not_lt.1 fun hshort => ?_)
    have hbehind : header[header.length]? = none := List.getElem?_eq_none (Nat.le_refl _)
    have hkey : (rowKeys header width)[header.length]? = some (columnName header.length) :=
      getElem?_rowKeys_of_blank hshort (by rw [List.getD_eq_getElem?_getD, hbehind]; rfl)
    have hmem : columnName header.length ∈ (rowObjectOf (rowKeys header width) index row).keys :=
      (mem_keys_rowObjectOf hkeys).2 (.inl (List.mem_of_getElem? hkey))
    have hcolumn : columnName header.length ∈ rowKeys header header.length := by
      simpa [columnName_ne_rowIndexKey] using hknown _ hmem
    -- the key would stand before the end of the header and behind it
    rw [← rowKeys_take header hheader] at hcolumn
    obtain ⟨i, hi, heq⟩ := List.mem_take_iff_getElem.1 hcolumn
    have hbefore : i < header.length := Nat.lt_of_lt_of_le hi (Nat.min_le_left _ _)
    have hsame := (List.getElem?_inj (by omega) hkeys).1
      ((List.getElem?_eq_some_iff.2 ⟨_, heq⟩).trans hkey.symm)
    omega
  · rintro rfl key hkey
    rcases (mem_keys_rowObjectOf hkeys).1 hkey with hcolumn | rfl
    · simp [hcolumn]
    · simp

/-- Cells are sent as they are. -/
theorem cellText_of_isCell {d : Document} (h : IsCell d) : cellText d = d := by
  cases d <;> first | rfl | cases h.1

/-- A row that is filled up with empty cells. -/
theorem getElem?_rightpad {count : Nat} (hwide : row.length ≤ count) {i : Nat} (hi : i < count) :
    (row.rightpad count (.str ""))[i]? = some (row.getD i (.str "")) := by
  rw [List.rightpad, List.getD_eq_getElem?_getD]
  rcases Nat.lt_or_ge i row.length with h | h
  · rw [List.getElem?_append_left h, List.getElem?_eq_getElem h]
    rfl
  · rw [List.getElem?_append_right h, List.getElem?_replicate, if_pos (by omega),
      List.getElem?_eq_none h]
    rfl

/-- In a column stands its cell again, unless the column has the key of the row index. -/
theorem getElem?_rowValues {keys : List String} (hkeys : keys.Nodup) (hindex : IsCell (.int index))
    (hrow : ∀ d ∈ row, IsCell d) {i : Nat} {key : String} (hi : keys[i]? = some key) :
    (rowValues keys (rowObjectOf keys index row) .null)[i]? =
      some (if key = rowIndexKey then .int index else row.getD i (.str "")) := by
  have hcell : IsCell (if key = rowIndexKey then .int index else row.getD i (.str "")) :=
    isCell_of_mem_rowObjectOf hkeys hindex hrow (Entries.mem_of_get? (get?_rowObjectOf hkeys hi))
  rw [rowValues, List.getElem?_map, hi, Option.map_some, get?_rowObjectOf hkeys hi]
  exact congrArg some (cellText_of_isCell hcell)

/-- **An object of a row gives the row back when no column has the key of the row index.** Where a
column has it, the cell there must be the row index. -/
theorem rowValues_eq_iff {keys : List String} (hkeys : keys.Nodup) (hindex : IsCell (.int index))
    (hrow : ∀ d ∈ row, IsCell d) (hwide : row.length ≤ keys.length) :
    rowValues keys (rowObjectOf keys index row) .null = row.rightpad keys.length (.str "") ↔
      ∀ i, keys[i]? = some rowIndexKey → row.getD i (.str "") = .int index := by
  constructor
  · intro h i hi
    obtain ⟨hlt, -⟩ := List.getElem?_eq_some_iff.1 hi
    have hvalue := getElem?_rowValues hkeys hindex hrow hi
    rw [h, getElem?_rightpad hwide hlt, if_pos rfl] at hvalue
    exact Option.some_inj.1 hvalue
  · intro h
    refine List.ext_getElem? fun i => ?_
    rcases Nat.lt_or_ge i keys.length with hi | hi
    · have hkey := List.getElem?_eq_getElem hi
      rw [getElem?_rowValues hkeys hindex hrow hkey, getElem?_rightpad hwide hi]
      split
      · next hreserved => rw [h i (hreserved ▸ hkey)]
      · rfl
    · rw [List.getElem?_eq_none (by simpa [rowValues] using hi),
        List.getElem?_eq_none (by rw [List.length_rightpad]; omega)]

end Columns

/-! ### The way back -/

/-- The update fits, its lookup reads the header row, and with the header that is answered it writes
the values into the row. -/
def WritesBack (settings : Settings) (c : Config) (header : Document) (row : Int)
    (values : List Document) : Prop :=
  rowUpdate.validate c = .ok () ∧ ∃ lookup prerequisite request,
    rowUpdate.lookup settings c = .ok (some lookup) ∧
    ReadsRows settings c c.headerRow (some c.headerRow) [] lookup.request ∧
    lookup.settle header = .ok prerequisite ∧
    rowUpdate.request settings c prerequisite = .ok request ∧
    WritesRow settings c row values request

section Updating

variable {settings : Settings} {c : Config} {header : Document} {u : RowUpdate}

/-- A request writes one list of values. -/
theorem values_of_writesRow {row other : Int} {values others : List Document}
    {request : WireRequest} (h : WritesRow settings c row values request)
    (hother : WritesRow settings c other others request) : values = others := by
  obtain ⟨_, _, -, -, rfl⟩ := h
  obtain ⟨_, _, -, -, heq⟩ := hother
  have hbody := congrArg WireRequest.body heq
  simp only [WireRequest.withBody, valueRange, List.map_cons, List.map_nil, Document.obj.injEq,
    List.cons.injEq, Prod.mk.injEq, Document.arr.injEq, true_and, and_true] at hbody
  exact hbody.2

/-- The lookup of an update reads the header row. -/
theorem readsRows_of_rowUpdate (hnumber : (Document.int c.headerRow).isTellable = true) :
    ∃ lookup, rowUpdate.lookup settings c = .ok (some lookup) ∧
      ReadsRows settings c c.headerRow (some c.headerRow) [] lookup.request := by
  obtain ⟨number, hnumber⟩ := exists_numberText_iff.2 hnumber
  have noLetters : AreLetters [] := nofun
  simp only [rowUpdate, updateLookup, headerLookup, headerRequest, hnumber, bind, Except.bind]
  exact ⟨_, rfl, _, by simpa using NamesRows.upTo noLetters noLetters hnumber hnumber, rfl⟩

/-- The lookup settles the keys of the header when every key of the object is among them. -/
theorem settle_eq_ok {lookup : Lookup} {prerequisite : Prerequisite} {names : List String}
    (h : rowUpdate.lookup settings c = .ok (some lookup)) (hheader : headerOf header = .ok names)
    (hnamed : names ≠ []) (hu : oneUpdate c = .ok [u]) :
    lookup.settle header = .ok prerequisite ↔
      unknownKeys (rowKeys names names.length) u.row = [] ∧
        prerequisite = .header (rowKeys names names.length) := by
  obtain ⟨_, -, h⟩ := Result.bind_eq_ok.1 h
  cases h
  have hempty : names.isEmpty = false := by
    cases names with
    | nil => exact absurd rfl hnamed
    | cons => rfl
  simp only [hheader, hempty, hu, Result.mapError_ok, bind, Except.bind, Bool.false_eq_true,
    if_false, List.map_cons, List.map_nil, checkColumns]
  cases unknownKeys (rowKeys names names.length) u.row with
  | nil => simp [pure, Except.pure, eq_comm]
  | cons => simp

/-- An update of a sheet fits. -/
theorem validate_rowUpdate (hsheet : requireSheet c = .ok ()) (hu : oneUpdate c = .ok [u]) :
    rowUpdate.validate c = .ok () := by
  simp only [rowUpdate, validateUpdate, hsheet, hu]
  rfl

/-- A row that is written has a number that can be told. -/
theorem isTellable_of_writesBack {row : Int} {values : List Document}
    (h : WritesBack settings c header row values) : (Document.int row).isTellable = true := by
  obtain ⟨-, _, _, _, -, -, -, -, number, _, hnumber, -, -⟩ := h
  exact exists_numberText_iff.1 ⟨number, hnumber⟩

/-- **An object of a row writes the row back when the header is as wide as the object, and no column
has the key of the row index.** -/
theorem writesBack_iff {names : List String} {width : Nat} {index : Int} {row : List Document}
    (hsheet : requireSheet c = .ok ()) (hheader : headerOf header = .ok names) (hnamed : names ≠ [])
    (hkeys : (rowKeys names width).Nodup) (hshort : names.length ≤ width)
    (hwide : row.length ≤ width) (hrow : ∀ d ∈ row, IsCell d) (hindex : 0 ≤ index)
    (hnumber : (Document.int (c.dataRow index)).isTellable = true)
    (hu : oneUpdate c = .ok [⟨index, rowObjectOf (rowKeys names width) index row⟩]) :
    WritesBack settings c header (c.dataRow index) (row.rightpad width (.str "")) ↔
      names.length = width ∧
        ∀ i, (rowKeys names width)[i]? = some rowIndexKey → row.getD i (.str "") = .int index := by
  have hfirst := headerRow_of_requireSheet hsheet
  have hcell : IsCell (.int index) :=
    ⟨rfl, isTellable_int_of_le hindex (by rw [Config.dataRow]; omega) hnumber⟩
  have hvalues := rowValues_eq_iff hkeys hcell hrow (by rwa [length_rowKeys])
  rw [length_rowKeys] at hvalues
  constructor
  · rintro ⟨-, lookup, settled, request, hlookup, -, hsettle, hrequest, hwrites⟩
    obtain ⟨hknown, rfl⟩ := (settle_eq_ok hlookup hheader hnamed hu).1 hsettle
    have hwidth := (unknownKeys_eq_nil_iff hkeys hshort).1 hknown
    have hsent := values_of_writesRow ((rowUpdate_request_eq_ok hu).1 hrequest) hwrites
    rw [Prerequisite.keys, hwidth] at hsent
    exact ⟨hwidth, hvalues.1 hsent⟩
  · rintro ⟨rfl, hreserved⟩
    have hheaderRow : (Document.int c.headerRow).isTellable = true :=
      isTellable_int_of_le (by omega) (by rw [Config.dataRow]; omega) hnumber
    obtain ⟨lookup, hlookup, hreads⟩ := readsRows_of_rowUpdate hheaderRow
    have hsettle := (settle_eq_ok hlookup hheader hnamed hu).2
      ⟨(unknownKeys_eq_nil_iff hkeys hshort).2 rfl, rfl⟩
    obtain ⟨number, hnumber⟩ := exists_numberText_iff.2 hnumber
    obtain ⟨request, hwrites⟩ : ∃ request, WritesRow settings c (c.dataRow index)
        (row.rightpad names.length (.str "")) request :=
      ⟨_, number, _, hnumber, rfl, rfl⟩
    have hrequest := hwrites
    rw [← hvalues.2 hreserved] at hrequest
    exact ⟨validate_rowUpdate hsheet hu, lookup, _, request, hlookup, hreads, hsettle,
      (rowUpdate_request_eq_ok hu).2 hrequest, hwrites⟩

end Updating

/-- **A fetched row is written back unchanged just when the header is as wide as the rows and no
column has the key of the row index.** A fetch without a range that takes the first row for the
header asks for the rows from the header on. Take any sheet of scalar cells whose header is not all
blank, the answers that show it to the fetch and to the lookup of the header, and distinct keys for
the columns that are fetched. An object of the fetch, given as its text to an update, writes the
cells of its row back, and an empty text where the service left out a cell, if the header without
its blank end has all the columns that were fetched, the cell under a header `rowIndex`, should
there be one, is the row index, and the number of the row can be told. Else it does not. -/
theorem fetched_row_writes_back_iff {settings : Settings} {c later : Config}
    {prerequisite : Prerequisite} {request : WireRequest} {sheet : Int → List Document}
    {body header : Document} {o : Members} {r : Int}
    (hvalid : rowsFetch.validate c = .ok ()) (hrange : c.range.getD "" = "")
    (hfirst : c.firstRowIsHeader = true)
    (hrequest : rowsFetch.request settings c prerequisite = .ok request)
    (hcells : ∀ row, ∀ d ∈ sheet row, IsCell d) (hnamed : headerCells (sheet c.headerRow) ≠ [])
    (hshows : Shows sheet c.headerRow (lastFetched c) body)
    (hheader : Shows sheet c.headerRow (some c.headerRow) header)
    (hkeys : (fetchedKeys c body).Nodup) (ho : Fetches c body o)
    (hr : o.get? rowIndexKey = some (.int r)) (hlater : UpdatesWith c later o) :
    ReadsRows settings c c.headerRow (lastFetched c) [("valueRenderOption", "FORMATTED_VALUE")]
      request ∧
    (WritesBack settings later header (c.headerRow + 1 + r)
        ((sheet (c.headerRow + 1 + r)).rightpad (fetchedWidth c body) (.str "")) ↔
      (headerCells (sheet c.headerRow)).length = fetchedWidth c body ∧
      (∀ i, (fetchedKeys c body)[i]? = some rowIndexKey →
        (sheet (c.headerRow + 1 + r)).getD i (.str "") = .int r) ∧
      (Document.int (c.headerRow + 1 + r)).isTellable = true) := by
  refine ⟨readsRows_of_rowsFetch hrange hrequest, ?_⟩
  obtain ⟨index, row, hnonneg, hrow, hwide, rfl⟩ := rowObjectOf_of_fetches hvalid hshows ho
  have hindex : index = r := by simpa [rowObjectOf] using hr
  rw [hindex] at hnonneg hrow hlater
  rw [hfirst, if_pos rfl] at hrow
  rw [← hrow]
  have hheaderRow : 1 ≤ c.headerRow := (fits_of_validate hvalid).1
  have hnames := fetchedKeys_eq hvalid hfirst hshows ho
  have hshort := length_headerCells_le_fetchedWidth hvalid hfirst hshows ho
  have hsheet : requireSheet later = .ok () := by
    rw [requireSheet, requireSpreadsheet, hlater.spreadsheet, hlater.sheet, hlater.header]
    exact requireSheet_of_validate hvalid
  have hnumber : later.dataRow r = c.headerRow + 1 + r := by
    rw [Config.dataRow, hlater.header]
  have hrowCells : ∀ d ∈ row, IsCell d := by
    rw [hrow]
    exact hcells _
  -- the object is read from its text only if its index can be told, which the row's number gives
  have hback (htold : (Document.int (c.headerRow + 1 + r)).isTellable = true) :
      WritesBack settings later header (c.headerRow + 1 + r)
          (row.rightpad (fetchedWidth c body) (.str "")) ↔
        (headerCells (sheet c.headerRow)).length = fetchedWidth c body ∧
          ∀ i, (fetchedKeys c body)[i]? = some rowIndexKey → row.getD i (.str "") = .int r := by
    have hcell : IsCell (.int r) := ⟨rfl, isTellable_int_of_le hnonneg (by omega) htold⟩
    have hread := rowOf_written hkeys hcell hrowCells
    rw [← hlater.object] at hread
    have hu := oneUpdate_eq hnonneg hread hlater.index (Entries.get?_put_self _ _ _)
    rw [← hnumber] at htold ⊢
    rw [hnames] at hkeys hu ⊢
    exact writesBack_iff hsheet (headerOf_of_shows hheader hnamed) hnamed hkeys hshort hwide
      hrowCells hnonneg htold hu
  constructor
  · intro h
    have htold := isTellable_of_writesBack h
    obtain ⟨hwidth, hreserved⟩ := (hback htold).1 h
    exact ⟨hwidth, hreserved, htold⟩
  · rintro ⟨hwidth, hreserved, htold⟩
    exact (hback htold).2 ⟨hwidth, hreserved⟩

/-- A sheet whose only row of data is wider than its header. -/
def narrowHeaded : Int → List Document := fun row =>
  if row = 1 then [.str "a"] else if row = 2 then [.str "x", .str "y"] else []

/-- Fetching a sheet whose first row is its header. -/
def headed : Config :=
  { spreadsheetId := some "s", sheetTitle := some "t" }

/-- The answer to a fetch of it. -/
def narrowHeadedAnswer : Document :=
  answerOf [[.str "a"], [.str "x", .str "y"]]

/-- What is fetched of the row of data. -/
def narrowHeadedRow : Members :=
  [("a", .str "x"), ("B", .str "y"), (rowIndexKey, .int 0)]

/-- A row that is wider than the header is not written back. -/
theorem fetched_row_writes_back_iff_narrow :
    ¬WritesBack {}
      { headed with rowObject := some ((Document.obj narrowHeadedRow).written .inline) }
      (answerOf [[.str "a"]]) (1 + 1 + 0) [.str "x", .str "y"] := by
  have hempty : ∀ row, 1 + ((2 : Nat) : Int) ≤ row → narrowHeaded row = [] := by
    intro row hrow
    rw [narrowHeaded, if_neg (by omega), if_neg (by omega)]
  have hcells : ∀ row, ∀ d ∈ narrowHeaded row, IsCell d := by
    intro row
    unfold narrowHeaded
    split
    · exact List.forall_mem_singleton.2 ⟨rfl, rfl⟩
    · split
      · exact List.forall_mem_cons.2 ⟨⟨rfl, rfl⟩, List.forall_mem_singleton.2 ⟨rfl, rfl⟩⟩
      · nofun
  have hshows : Shows narrowHeaded 1 none narrowHeadedAnswer :=
    ⟨2, rfl, nofun, fun row hrow _ => hempty row hrow⟩
  have hheader : Shows narrowHeaded 1 (some 1) (answerOf [[.str "a"]]) := by
    refine ⟨1, rfl, by simp, fun row hrow hlast => ?_⟩
    have := hlast 1 rfl
    omega
  have hfetched : Fetches headed narrowHeadedAnswer narrowHeadedRow :=
    ⟨_, rfl, List.mem_singleton.2 rfl⟩
  have hrequest : rowsFetch.request {} headed .none = .ok _ := rfl
  have hkeys : (fetchedKeys headed narrowHeadedAnswer).Nodup := by decide
  have hnamed : headerCells (narrowHeaded 1) ≠ [] := by decide
  have hindex : narrowHeadedRow.get? rowIndexKey = some (.int 0) := rfl
  have hlater : UpdatesWith headed
      { headed with rowObject := some ((Document.obj narrowHeadedRow).written .inline) }
      narrowHeadedRow := ⟨rfl, rfl, rfl, rfl, rfl⟩
  have hvalues : (narrowHeaded (1 + 1 + 0)).rightpad (fetchedWidth headed narrowHeadedAnswer)
      (.str "") = [.str "x", .str "y"] := by decide
  have hiff := (fetched_row_writes_back_iff rfl rfl rfl hrequest hcells hnamed hshows hheader hkeys
    hfetched hindex hlater).2
  intro h
  rw [← hvalues] at h
  exact absurd (hiff.1 h).1 (by decide)

end Sheet
end FormDispatch
