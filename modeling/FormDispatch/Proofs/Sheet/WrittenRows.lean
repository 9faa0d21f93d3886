/-
# Rows written column by column

Four operations write rows. They look up the header of the sheet, refuse rows with a key that names
no column, and send one row of cells for each object. `Aligned` says what such a row has to do with
its object: nothing that the object holds is left out, and nothing stands under another column.

A header decides alone whether rows are accepted (`settle_eq`), and the request holds the cells of
just the rows that were (`sentRows_of_request`). Where there is no header, appended rows bring one
along, made of the keys in the order of their first use (`inFirstUse_columnsOf`). A spreadsheet that
is created with the same rows has the same one (`seededRows_of_fileCreate`).
-/

import Mathlib.Data.List.Basic
import FormDispatch.Proofs.Document.Pairing
import FormDispatch.Proofs.Sheet.RowRanges
import FormDispatch.Sheet.Catalog

namespace FormDispatch
namespace Sheet

/-! ### Keys in the order of their first use -/

/-- The keys that are used, but the row index, each once and in the order of their first use. -/
structure InFirstUse (uses keys : List String) : Prop where
  nodup : keys.Nodup
  mem_iff : ∀ key, key ∈ keys ↔ key ∈ uses ∧ key ≠ rowIndexKey
  order : keys.Pairwise fun key other => uses.idxOf key < uses.idxOf other

namespace InFirstUse

variable {uses keys : List String} {key : String}

theorem nil : InFirstUse [] [] :=
  ⟨.nil, by simp, .nil⟩

/-- What has been used keeps its place when another key is used. -/
theorem order_append (h : InFirstUse uses keys) (more : List String) :
    keys.Pairwise fun k other => (uses ++ more).idxOf k < (uses ++ more).idxOf other := by
  refine h.order.imp_of_mem fun hk hother hlt => ?_
  rwa [List.idxOf_append_of_mem ((h.mem_iff _).1 hk).1,
    List.idxOf_append_of_mem ((h.mem_iff _).1 hother).1]

/-- The row index, and a key that has been used before, change nothing. -/
theorem skip (h : InFirstUse uses keys) (hkey : key = rowIndexKey ∨ key ∈ keys) :
    InFirstUse (uses ++ [key]) keys where
  nodup := h.nodup
  mem_iff k := by
    rw [List.mem_append, List.mem_singleton, h.mem_iff]
    constructor
    · exact fun hk => ⟨.inl hk.1, hk.2⟩
    · rintro ⟨hk | rfl, hne⟩
      · exact ⟨hk, hne⟩
      · exact (h.mem_iff k).1 (hkey.resolve_left hne)
  order := h.order_append [key]

/-- A key that is used for the first time comes last. -/
theorem add (h : InFirstUse uses keys) (hkey : key ≠ rowIndexKey) (hnew : key ∉ keys) :
    InFirstUse (uses ++ [key]) (keys ++ [key]) where
  nodup := by
    refine List.nodup_append.2 ⟨h.nodup, by simp, ?_⟩
    rintro k hk _ hother rfl
    rw [List.mem_singleton.1 hother] at hk
    exact hnew hk
  mem_iff k := by
    rw [List.mem_append, List.mem_append, List.mem_singleton, h.mem_iff]
    constructor
    · rintro (hk | rfl)
      · exact ⟨.inl hk.1, hk.2⟩
      · exact ⟨.inr rfl, hkey⟩
    · rintro ⟨hk | rfl, hne⟩
      · exact .inl ⟨hk, hne⟩
      · exact .inr rfl
  order := by
    have hunused : key ∉ uses := fun huses => hnew ((h.mem_iff key).2 ⟨huses, hkey⟩)
    refine List.pairwise_append.2 ⟨h.order_append [key], by simp, fun k hk last hlast => ?_⟩
    have huses := ((h.mem_iff k).1 hk).1
    rw [List.mem_singleton.1 hlast, List.idxOf_append_of_mem huses,
      List.idxOf_append_of_notMem hunused]
    exact Nat.lt_of_lt_of_le (List.idxOf_lt_length_iff.2 huses) (Nat.le_add_right _ _)

/-- Keys are added in the order of their first use. -/
theorem addKeys (h : InFirstUse uses keys) (more : List String) :
    InFirstUse (uses ++ more) (addKeys keys more) := by
  induction more generalizing uses keys with
  | nil => simpa [Sheet.addKeys] using h
  | cons key more ih =>
    rw [← List.singleton_append, ← List.append_assoc, Sheet.addKeys, List.singleton_append,
      List.foldl_cons, ← Sheet.addKeys]
    split
    · next hkey =>
      simp only [Bool.or_eq_true, beq_iff_eq, List.contains_iff_mem] at hkey
      exact ih (h.skip hkey)
    · next hkey =>
      simp only [Bool.or_eq_true, beq_iff_eq, List.contains_iff_mem, not_or] at hkey
      exact ih (h.add hkey.1 hkey.2)

end InFirstUse

/-- **The columns of objects are their keys but the row index, each once, in the order of their
first use.** -/
theorem inFirstUse_columnsOf (rows : List Members) :
    InFirstUse (rows.flatMap Entries.keys) (columnsOf rows) := by
  have hcolumns : columnsOf rows = addKeys [] (rows.flatMap Entries.keys) := by
    rw [columnsOf, addKeys, List.foldl_flatMap]
    rfl
  rw [hcolumns]
  exact InFirstUse.nil.addKeys _

/-! ### The check of the columns -/

/-- Every key of the objects but the row index is that of a column. -/
def AllKnown (columns : List String) (rows : List Members) : Prop :=
  ∀ row ∈ rows, ∀ key ∈ row.keys, key ≠ rowIndexKey → key ∈ columns

instance (columns : List String) (rows : List Members) : Decidable (AllKnown columns rows) :=
  inferInstanceAs (Decidable (∀ row ∈ rows, ∀ key ∈ row.keys, key ≠ rowIndexKey → key ∈ columns))

/-- The keys, in order, that name no column in the first of the objects that has such keys. -/
def FirstUnknown (columns : List String) (rows : List Members) (unknown : List String) : Prop :=
  ∃ before row after, rows = before ++ row :: after ∧ AllKnown columns before ∧
    unknown = row.keys.filter (fun key => key ≠ rowIndexKey ∧ key ∉ columns) ∧ unknown ≠ []

/-- The problem of keys that name no column. -/
def unknownColumns (unknown : List String) : Problem :=
  .invalidRequest "rowObject"
    ("Columns not present in the header row: " ++ ", ".intercalate unknown)

section Check

variable {columns : List String} {rows : List Members}

theorem unknownKeys_eq (columns : List String) (row : Members) :
    unknownKeys columns row =
      row.keys.filter fun key => key ≠ rowIndexKey ∧ key ∉ columns := by
  refine List.filter_congr fun key _ => ?_
  rw [Bool.eq_iff_iff]
  simp

theorem unknownKeys_eq_nil {row : Members} : unknownKeys columns row = [] ↔
    ∀ key ∈ row.keys, key ≠ rowIndexKey → key ∈ columns := by
  rw [unknownKeys_eq, List.filter_eq_nil_iff]
  simp only [decide_eq_true_eq, not_and, not_not]

theorem allKnown_cons {row : Members} : AllKnown columns (row :: rows) ↔
    unknownKeys columns row = [] ∧ AllKnown columns rows := by
  rw [unknownKeys_eq_nil]
  exact List.forall_mem_cons

/-- **Objects pass when all their keys name columns.** -/
theorem checkColumns_of_allKnown (h : AllKnown columns rows) :
    checkColumns columns rows = .ok () := by
  induction rows with
  | nil => rfl
  | cons row rows ih =>
    obtain ⟨hrow, hrest⟩ := allKnown_cons.1 h
    rw [checkColumns, hrow]
    exact ih hrest

/-- **Objects fail by the unknown keys of the first of them that has any.** -/
theorem checkColumns_of_firstUnknown {unknown : List String}
    (h : FirstUnknown columns rows unknown) :
    checkColumns columns rows = .error (unknownColumns unknown) := by
  obtain ⟨before, row, after, rfl, hbefore, hunknown, hne⟩ := h
  rw [← unknownKeys_eq] at hunknown
  induction before with
  | nil =>
    obtain ⟨first, rest, hcons⟩ := List.exists_cons_of_ne_nil hne
    rw [List.nil_append, checkColumns, ← hunknown, hcons]
    rfl
  | cons other before ih =>
    obtain ⟨hother, hrest⟩ := allKnown_cons.1 hbefore
    rw [List.cons_append, checkColumns, hother]
    exact ih hrest

/-- Where a key is unknown, one object is the first to have such keys. -/
theorem exists_firstUnknown (h : ¬AllKnown columns rows) :
    ∃ unknown, FirstUnknown columns rows unknown := by
  induction rows with
  | nil => exact absurd (List.forall_mem_nil _) h
  | cons row rows ih =>
    by_cases hrow : unknownKeys columns row = []
    · obtain ⟨unknown, before, other, after, rfl, hbefore, hunknown⟩ :=
        ih fun hrest => h (allKnown_cons.2 ⟨hrow, hrest⟩)
      exact ⟨unknown, row :: before, other, after, rfl, allKnown_cons.2 ⟨hrow, hbefore⟩, hunknown⟩
    · exact ⟨_, [], row, rows, rfl, List.forall_mem_nil _, unknownKeys_eq columns row, hrow⟩

end Check

/-! ### Cells under columns -/

/-- The cells of a row are those of an object: one for each column, under which stands the text of
the value that the object has for it, else the cell for what is missing. No value of the object is
left out but the row index, which need not be a column. -/
structure Aligned (columns : List String) (missing : Document) (row : Members)
    (cells : List Document) : Prop where
  length : cells.length = columns.length
  known : ∀ key ∈ row.keys, key ≠ rowIndexKey → key ∈ columns
  held : ∀ (i : Nat) key d, columns[i]? = some key → row.get? key = some d →
    cells[i]? = some (cellText d)
  absent : ∀ (i : Nat) key, columns[i]? = some key → row.get? key = none →
    cells[i]? = some missing

/-- **The values of an object whose keys are known are aligned with the columns.** -/
theorem aligned_rowValues {columns : List String} {missing : Document} {row : Members}
    (hknown : ∀ key ∈ row.keys, key ≠ rowIndexKey → key ∈ columns) :
    Aligned columns missing row (rowValues columns row missing) where
  length := List.length_map _
  known := hknown
  held i key d hkey hd := by simp [rowValues, hkey, hd]
  absent i key hkey hnone := by simp [rowValues, hkey, hnone]

/-- The values of objects are aligned row by row. -/
theorem forall₂_aligned {columns : List String} {rows : List Members} (missing : Document)
    (h : AllKnown columns rows) : List.Forall₂ (Aligned columns missing) rows
      (rows.map fun row => rowValues columns row missing) := by
  rw [List.forall₂_map_right_iff, List.forall₂_same]
  exact fun row hrow => aligned_rowValues (h row hrow)

/-! ### The four operations -/

/-- The operations that write rows, each with the cell for what is missing in an object. -/
inductive WritesRows : SheetOperation → (missing : Document) → Prop
  | insertOne : WritesRows .rowInsertOne (.str "")
  | insertMany : WritesRows .rowInsertMany (.str "")
  | updateOne : WritesRows .rowUpdateOne .null
  | updateMany : WritesRows .rowUpdateMany .null

/-- The operations that append rows. -/
def Appends (operation : SheetOperation) : Prop :=
  operation = .rowInsertOne ∨ operation = .rowInsertMany

/-- The objects that a configuration gives to an operation, one or many. -/
def objectsFor (operation : SheetOperation) (c : Config) : Except Problem (List Members) :=
  match operation with
  | .rowInsertOne | .rowUpdateOne => (rowOf c.rowObject).map fun row => [row]
  | .rowInsertMany | .rowUpdateMany => rowsOf c.rowObjects
  | _ => .ok []

/-- The text that these objects are read from. -/
def rowsText? (operation : SheetOperation) (c : Config) : Option String :=
  match operation with
  | .rowInsertOne | .rowUpdateOne => c.rowObject
  | .rowInsertMany | .rowUpdateMany => c.rowObjects
  | _ => none

/-- The text of the objects tells them as they are: no surrogate is escaped in it without its
partner. -/
def TellsObjects (operation : SheetOperation) (c : Config) : Prop :=
  ∀ text ∈ rowsText? operation c, Document.isPaired text.toList = true

/-- A configuration gives objects to an operation: they are read from its text, which tells them as
they are. -/
structure GivesObjects (operation : SheetOperation) (c : Config) (rows : List Members) : Prop where
  read : objectsFor operation c = .ok rows
  tells : TellsObjects operation c

/-- The rows that an operation updates, each with its index; appended rows have no place yet. -/
def updatesFor (operation : SheetOperation) (c : Config) : Except Failure (List RowUpdate) :=
  match operation with
  | .rowUpdateOne => oneUpdate c
  | .rowUpdateMany => manyUpdates c
  | _ => .ok []

/-- The numbers of all rows that an operation updates can be told. -/
def TellsPlaces (operation : SheetOperation) (c : Config) : Prop :=
  ∀ updates, updatesFor operation c = .ok updates → ∀ u ∈ updates,
    (Document.int (c.headerRow + 1 + u.index)).isTellable = true

/-- The rows of cells in the body of a request, in its one range or in each of its ranges. -/
def sentRows (body : Document) : List (List Document) :=
  answeredRows body ++ (body.nestedItems "data").flatMap answeredRows

section Operations

variable {settings : Settings} {c : Config} {operation : SheetOperation} {missing : Document}
variable {rows : List Members} {lookup : Lookup} {answer : Document} {header : List String}

/-- What the answer to a lookup of the header settles depends on the header in it. -/
theorem settle_of_headerLookup {settle : Config → List String → Except Failure Prerequisite}
    (h : headerLookup settle settings c = .ok (some lookup))
    (hheader : headerOf answer = .ok header) :
    lookup.settle answer = settle c header := by
  obtain ⟨_, -, h⟩ := Result.bind_eq_ok.1 h
  cases h
  simp only [hheader, Result.mapError_ok, bind, Except.bind]

/-- What is appended passes when its keys name columns, or when there are none. -/
theorem settle_of_appending {given : Config → Except Problem (List Members)} {message : String}
    (hrows : given c = .ok rows)
    (h : (appending given message).lookup settings c = .ok (some lookup))
    (hheader : headerOf answer = .ok header) :
    lookup.settle answer =
      if header.isEmpty then .ok (.header [])
      else ((checkColumns (rowKeys header header.length) rows).mapError .problem).map
        fun _ => .header (rowKeys header header.length) := by
  simp only [appending] at h
  rw [settle_of_headerLookup h hheader]
  split
  · rfl
  · simp only [hrows, Result.mapError_ok, bind, Except.bind]
    cases checkColumns (rowKeys header header.length) rows <;> rfl

/-- What is updated passes when its keys name columns. -/
theorem settle_of_updateLookup {given : Config → Except Failure (List RowUpdate)}
    {updates : List RowUpdate} (hupdates : given c = .ok updates)
    (h : updateLookup given settings c = .ok (some lookup))
    (hheader : headerOf answer = .ok header) :
    lookup.settle answer =
      if header.isEmpty then refuse "sheetTitle" "Header row is empty; nothing to update against"
      else ((checkColumns (rowKeys header header.length)
        (updates.map RowUpdate.row)).mapError .problem).map
          fun _ => .header (rowKeys header header.length) := by
  rw [settle_of_headerLookup h hheader]
  split
  · rfl
  · simp only [hupdates, bind, Except.bind]
    cases checkColumns (rowKeys header header.length) (updates.map RowUpdate.row) <;> rfl

/-- A configuration that fits has objects for its operation. -/
theorem exists_objectsFor (hwrites : WritesRows operation missing)
    (hvalid : operation.method.validate c = .ok ()) :
    requireSheet c = .ok () ∧ ∃ rows, objectsFor operation c = .ok rows := by
  cases hwrites with
  | insertOne | insertMany =>
    obtain ⟨_, hsheet, h⟩ := Result.bind_eq_ok.1 hvalid
    obtain ⟨rows, hrows, -⟩ := Result.bind_eq_ok.1 h
    exact ⟨hsheet, rows, Result.mapError_eq_ok.1 hrows⟩
  | updateOne =>
    obtain ⟨hsheet, _, hgiven⟩ := validateUpdate_eq_ok.1 hvalid
    obtain ⟨u, -, hrow, -⟩ := oneUpdate_eq_ok.1 hgiven
    exact ⟨hsheet, [u.row], Result.map_eq_ok.2 ⟨u.row, hrow, rfl⟩⟩
  | updateMany =>
    obtain ⟨hsheet, updates, hgiven⟩ := validateUpdate_eq_ok.1 hvalid
    exact ⟨hsheet, _, (manyUpdates_eq_ok.1 hgiven).1⟩

/-- **Where there is a header, rows are accepted when all their keys name columns of it.** -/
theorem settle_eq (hwrites : WritesRows operation missing)
    (hvalid : operation.method.validate c = .ok ()) (hrows : objectsFor operation c = .ok rows)
    (hlookup : operation.method.lookup settings c = .ok (some lookup))
    (hheader : headerOf answer = .ok header) (hnamed : header ≠ []) :
    lookup.settle answer =
      ((checkColumns (rowKeys header header.length) rows).mapError .problem).map
      fun _ => .header (rowKeys header header.length) := by
  have hempty : header.isEmpty = false := List.isEmpty_eq_false_iff.2 hnamed
  cases hwrites with
  | insertOne | insertMany =>
    rw [settle_of_appending hrows hlookup hheader, hempty]
    rfl
  | updateOne =>
    obtain ⟨-, _, hgiven⟩ := validateUpdate_eq_ok.1 hvalid
    obtain ⟨u, rfl, hrow, -⟩ := oneUpdate_eq_ok.1 hgiven
    rw [objectsFor, hrow] at hrows
    cases hrows
    rw [settle_of_updateLookup hgiven hlookup hheader, hempty]
    rfl
  | updateMany =>
    obtain ⟨-, updates, hgiven⟩ := validateUpdate_eq_ok.1 hvalid
    rw [objectsFor, (manyUpdates_eq_ok.1 hgiven).1] at hrows
    cases hrows
    rw [settle_of_updateLookup hgiven hlookup hheader, hempty]
    rfl

/-- Where there is no header, rows are appended without a check. -/
theorem settle_of_empty (happends : Appends operation)
    (hlookup : operation.method.lookup settings c = .ok (some lookup))
    (hrows : objectsFor operation c = .ok rows) (hheader : headerOf answer = .ok []) :
    lookup.settle answer = .ok (.header []) := by
  obtain rfl | rfl := happends
  all_goals exact settle_of_appending hrows hlookup hheader

/-- Where there is no header, nothing is updated. -/
theorem settle_of_empty_of_not_appends (hwrites : WritesRows operation missing)
    (hupdates : ¬Appends operation) (hvalid : operation.method.validate c = .ok ())
    (hlookup : operation.method.lookup settings c = .ok (some lookup))
    (hheader : headerOf answer = .ok []) :
    lookup.settle answer =
      refuse "sheetTitle" "Header row is empty; nothing to update against" := by
  cases hwrites with
  | insertOne => exact absurd (.inl rfl) hupdates
  | insertMany => exact absurd (.inr rfl) hupdates
  | updateOne | updateMany =>
    obtain ⟨-, _, hgiven⟩ := validateUpdate_eq_ok.1 hvalid
    exact settle_of_updateLookup hgiven hlookup hheader

/-! ### What is sent -/

theorem answeredRows_valueRange (range : String) (values : List (List Document)) :
    answeredRows (.obj (valueRange range values)) = values := by
  have hlisted : answeredRows (.obj (valueRange range values)) =
      (values.map .arr).map cellsOf := rfl
  rw [hlisted, List.map_map]
  exact List.map_id _

/-- The rows in one range are those sent. -/
theorem sentRows_valueRange (range : String) (values : List (List Document)) :
    sentRows (.obj (valueRange range values)) = values := by
  have hlisted : sentRows (.obj (valueRange range values)) =
      answeredRows (.obj (valueRange range values)) ++ [] := rfl
  rw [hlisted, List.append_nil, answeredRows_valueRange]

/-- The rows in the ranges of an update are the values of its objects. -/
theorem sentRows_ranges {keys : List String} {updates : List RowUpdate}
    {written : List (String × Members)}
    (h : List.Forall₂ (fun u w => updatedRange c keys u = .ok w) updates written) :
    sentRows (.obj [("valueInputOption", .str inputOption),
      ("data", .arr (written.map fun w => .obj w.2))]) =
      updates.map fun u => rowValues keys u.row .null := by
  have hlisted : sentRows (.obj [("valueInputOption", .str inputOption),
      ("data", .arr (written.map fun w => .obj w.2))]) =
      [] ++ (written.map fun w => .obj w.2).flatMap answeredRows := rfl
  rw [hlisted, List.nil_append]
  clear hlisted
  induction h with
  | nil => rfl
  | cons hw _ ih =>
    obtain ⟨range, -, hw⟩ := Result.bind_eq_ok.1 hw
    cases hw
    rw [List.map_cons, List.flatMap_cons, answeredRows_valueRange, ih]
    rfl

/-- What is appended goes into the header row of the sheet, which the service takes for the table
that rows are to follow. -/
theorem appending_request_eq {given : Config → Except Problem (List Members)} {message : String}
    {prerequisite : Prerequisite} (hrows : given c = .ok rows) :
    (appending given message).request settings c prerequisite =
      (numberText c.headerRow).map fun row =>
        let range := rangeOf c.title (some ("A" ++ row))
        .withBody "POST" (valuesUrl settings c.id range ":append")
          [("valueInputOption", inputOption), ("insertDataOption", "INSERT_ROWS")]
          (.obj (valueRange range (appendedRows prerequisite.keys rows))) := by
  simp only [appending, hrows, Result.mapError_ok, bind, Except.bind]
  cases numberText c.headerRow <;> rfl

/-- **Under the keys of a header, the request holds the values of each object.** -/
theorem sentRows_of_request (hwrites : WritesRows operation missing)
    (hvalid : operation.method.validate c = .ok ()) (hrows : objectsFor operation c = .ok rows)
    {keys : List String} (hkeys : keys ≠ []) {request : WireRequest}
    (h : operation.method.request settings c (.header keys) = .ok request) :
    sentRows request.body = rows.map fun row => rowValues keys row missing := by
  have hempty : keys.isEmpty = false := List.isEmpty_eq_false_iff.2 hkeys
  cases hwrites with
  | insertOne | insertMany =>
    obtain ⟨_, -, rfl⟩ := Result.map_eq_ok.1 ((appending_request_eq hrows).symm.trans h)
    simp only [WireRequest.withBody, sentRows_valueRange, Prerequisite.keys, appendedRows, hempty,
      Bool.false_eq_true, if_false]
  | updateOne =>
    obtain ⟨-, _, hgiven⟩ := validateUpdate_eq_ok.1 hvalid
    obtain ⟨u, rfl, hrow, -⟩ := oneUpdate_eq_ok.1 hgiven
    rw [objectsFor, hrow] at hrows
    cases hrows
    obtain ⟨w, hw, rfl⟩ := Result.map_eq_ok.1 ((rowUpdate_request_eq hgiven).symm.trans h)
    obtain ⟨range, -, hw⟩ := Result.bind_eq_ok.1 hw
    cases hw
    exact sentRows_valueRange _ _
  | updateMany =>
    obtain ⟨-, updates, hgiven⟩ := validateUpdate_eq_ok.1 hvalid
    rw [objectsFor, (manyUpdates_eq_ok.1 hgiven).1] at hrows
    cases hrows
    obtain ⟨written, hwritten, rfl⟩ :=
      Result.map_eq_ok.1 ((rowsUpdate_request_eq hgiven).symm.trans h)
    rw [List.map_map]
    exact sentRows_ranges (Result.mapM_eq_ok.1 hwritten)

/-- Rows that are appended always make a request, once the header has been looked up. -/
theorem exists_request_of_appends (happends : Appends operation)
    (hlookup : operation.method.lookup settings c = .ok (some lookup))
    (hrows : objectsFor operation c = .ok rows) (keys : List String) :
    ∃ request, operation.method.request settings c (.header keys) = .ok request ∧
      sentRows request.body = appendedRows keys rows := by
  obtain rfl | rfl := happends
  all_goals
    obtain ⟨_, hrequest, -⟩ := Result.bind_eq_ok.1 hlookup
    obtain ⟨row, hrow, -⟩ := Result.bind_eq_ok.1 hrequest
    exact ⟨_, (appending_request_eq hrows).trans (congrArg _ hrow), sentRows_valueRange _ _⟩

/-- **Rows make a request just when their places can be told,** which appended rows do without. -/
theorem exists_request_iff (hwrites : WritesRows operation missing)
    (hvalid : operation.method.validate c = .ok ())
    (hlookup : operation.method.lookup settings c = .ok (some lookup))
    (hrows : objectsFor operation c = .ok rows) (keys : List String) :
    (∃ request, operation.method.request settings c (.header keys) = .ok request) ↔
      TellsPlaces operation c := by
  have happended (happends : Appends operation) :
      ∃ request, operation.method.request settings c (.header keys) = .ok request :=
    (exists_request_of_appends happends hlookup hrows keys).imp fun _ h => h.1
  cases hwrites with
  | insertOne =>
    refine iff_of_true (happended (.inl rfl)) ?_
    rintro _ ⟨⟩
    exact List.forall_mem_nil _
  | insertMany =>
    refine iff_of_true (happended (.inr rfl)) ?_
    rintro _ ⟨⟩
    exact List.forall_mem_nil _
  | updateOne =>
    obtain ⟨-, _, hgiven⟩ := validateUpdate_eq_ok.1 hvalid
    obtain ⟨u, rfl, -⟩ := oneUpdate_eq_ok.1 hgiven
    refine (exists_rowUpdate_request_iff keys hgiven).trans ⟨fun htold updates hupdates => ?_,
      fun htold => htold [u] hgiven u (List.mem_singleton_self u)⟩
    cases hgiven.symm.trans hupdates
    exact List.forall_mem_singleton.2 htold
  | updateMany =>
    obtain ⟨-, updates, hgiven⟩ := validateUpdate_eq_ok.1 hvalid
    refine (exists_rowsUpdate_request_iff keys hgiven).trans ⟨fun htold others hothers => ?_,
      fun htold => htold updates hgiven⟩
    cases hgiven.symm.trans hothers
    exact htold

/-! ### The header of a new spreadsheet -/

/-- The rows of cells that a spreadsheet is created with. -/
def seededRows (body : Document) : List (List Document) :=
  (body.nestedItems "sheets").flatMap fun sheet => (sheet.nestedItems "data").flatMap fun data =>
    (data.nestedItems "rowData").map fun row => row.nestedItems "values"

/-- A cell with a text. -/
def textCell (text : String) : Document :=
  .obj [("userEnteredValue", .obj [("stringValue", .str text)])]

/-- **A spreadsheet is created with the columns of its rows as the first one.** -/
theorem seededRows_of_fileCreate {prerequisite : Prerequisite}
    (hrows : rowsOf c.rowObjects = .ok rows) :
    ∃ request more, fileCreate.request settings c prerequisite = .ok request ∧
      seededRows request.body = (columnsOf rows).map textCell :: more := by
  have hgiven : (c.rowObjects.getD "").isEmpty = false := by
    rw [Bool.eq_false_iff]
    intro hempty
    cases htext : c.rowObjects with
    | none =>
      rw [htext] at hrows
      cases hrows
    | some text =>
      rw [htext, Option.getD_some] at hempty
      rw [htext, rowsOf, if_pos hempty] at hrows
      cases hrows
  have hseed : seedRows? c = .ok (some rows) := by
    rw [seedRows?, hgiven, hrows]
    rfl
  simp only [fileCreate, hseed, bind, Except.bind]
  refine ⟨_, rows.map fun row => (columnsOf rows).map fun column =>
    newCell (Document.ofOption (row.get? column)), rfl, ?_⟩
  have htext : ∀ text, newCell (.str text) = textCell text := fun _ => rfl
  simp [WireRequest.withBody, seededRows, Document.nestedItems, Document.member, Document.members,
    Entries.get?, Document.ofOption, newRows, htext]

end Operations

end Sheet
end FormDispatch
