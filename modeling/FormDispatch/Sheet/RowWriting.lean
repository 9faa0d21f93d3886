/-
# Writing rows

Rows are appended after a table, updated in place, or deleted. Appended and updated rows line up
with the header, which is looked up first: a key that names no column is refused. Where the header
is empty, appended rows bring their own, made of their keys, and an update has nothing to go by. A
cell that an object has no value for is appended empty, and left alone by an update.

Specification, section E7.
-/

import FormDispatch.Sheet.Method

namespace FormDispatch
namespace Sheet

/-- How the service is to take values: as if a person typed them. -/
def inputOption : String := "USER_ENTERED"

/-- Values in a range, row by row. -/
def valueRange (range : String) (rows : List (List Document)) : Members :=
  [("range", .str range), ("majorDimension", .str "ROWS"),
    ("values", .arr (rows.map .arr))]

/-! ### Appending -/

/-- The rows to be appended, after the header that they bring if there is none. -/
def appendedRows (header : List String) (rows : List Members) : List (List Document) :=
  if header.isEmpty then
    let columns := columnsOf rows
    columns.map .str :: rows.map fun row => rowValues columns row (.str "")
  else rows.map fun row => rowValues header row (.str "")

/-- Appending the rows that a configuration gives. -/
def appending (rows : Config → Except Problem (List Members)) (message : String) : Method where
  validate c := do
    requireSheet c
    let _ ← (rows c).mapError .problem
  lookup := headerLookup fun c header => do
    if header.isEmpty then return .header []
    let keys := rowKeys header header.length
    let rows ← (rows c).mapError .problem
    (checkColumns keys rows).mapError .problem
    return .header keys
  request settings c prerequisite := do
    let rows ← (rows c).mapError .problem
    let row ← numberText c.headerRow
    let range := rangeOf c.title (some ("A" ++ row))
    return .withBody "POST" (valuesUrl settings c.id range ":append")
      [("valueInputOption", inputOption), ("insertDataOption", "INSERT_ROWS")]
      (.obj (valueRange range (appendedRows prerequisite.keys rows)))
  result _ body :=
    let updates := body.nested "updates"
    .ok (.obj [("message", .str message),
      ("updatedRange", .ofOption (updates.get? "updatedRange")),
      ("updatedRows", .ofOption (updates.get? "updatedRows"))])

/-- Appending one row. -/
def rowAppend : Method :=
  appending (fun c => (rowOf c.rowObject).map fun row => [row]) "Inserted row successfully!"

/-- Appending many rows. -/
def rowsAppend : Method :=
  appending (fun c => rowsOf c.rowObjects) "Inserted rows successfully!"

/-! ### Updating -/

/-- An object for a row of data. -/
structure RowUpdate where
  index : Int
  row : Members

/-- The one row to be updated. A row index of the configuration comes before the one in the
object. -/
def oneUpdate (c : Config) : Except Failure (List RowUpdate) := do
  let row ← (rowOf c.rowObject).mapError .problem
  let index ← match c.rowIndex with
    | some index => (checkedIndex (some index)).mapError .problem
    | none => rowIndexOf row none
  return [⟨index, row⟩]

/-- The rows to be updated, each with its index in it. -/
def manyUpdates (c : Config) : Except Failure (List RowUpdate) := do
  let rows ← (rowsOf c.rowObjects).mapError .problem
  rows.mapM fun row => do
    let index ← rowIndexOf row none
    return ⟨index, row⟩

/-- The range of a row of data, from the first column to the last of the header. -/
def rowRange (c : Config) (header : List String) (index : Int) : Except Failure String := do
  let number ← numberText (c.dataRow index)
  return rangeOf c.title
    (some ("A" ++ number ++ ":" ++ columnName (header.length - 1) ++ number))

/-- The values of an updated row in its range. -/
def updatedRange (c : Config) (header : List String) (u : RowUpdate) :
    Except Failure (String × Members) := do
  let range ← rowRange c header u.index
  return (range, valueRange range [rowValues header u.row .null])

/-- The lookup of the keys for an update. -/
def updateLookup (updates : Config → Except Failure (List RowUpdate)) :
    Settings → Config → Except Failure (Option Lookup) :=
  headerLookup fun c header => do
    if header.isEmpty then
      refuse "sheetTitle" "Header row is empty; nothing to update against"
    else
      let keys := rowKeys header header.length
      let updates ← updates c
      (checkColumns keys (updates.map RowUpdate.row)).mapError .problem
      return .header keys

/-- The configuration of an update fits. -/
def validateUpdate (updates : Config → Except Failure (List RowUpdate)) (c : Config) :
    Except Failure Unit := do
  requireSheet c
  let _ ← updates c

/-- The result of an update, with what the service tells under a key. -/
def updateResult (key : String) (body : Document) : Document :=
  .obj [("message", .str "Updated sheet successfully!"), (key, body.member key)]

/-- Updating one row. -/
def rowUpdate : Method where
  validate := validateUpdate oneUpdate
  lookup := updateLookup oneUpdate
  request settings c prerequisite := do
    match ← oneUpdate c with
    | [] => refuse rowIndexKey "Missing row index"
    | u :: _ =>
      let (range, body) ← updatedRange c prerequisite.keys u
      return .withBody "PUT" (valuesUrl settings c.id range "")
        [("valueInputOption", inputOption)] (.obj body)
  result _ body := .ok (updateResult "updatedRange" body)

/-- Updating many rows. -/
def rowsUpdate : Method where
  validate := validateUpdate manyUpdates
  lookup := updateLookup manyUpdates
  request settings c prerequisite := do
    let updates ← manyUpdates c
    let data ← updates.mapM (updatedRange c prerequisite.keys)
    return .withBody "POST" (spreadsheetUrl settings c.id ++ "/values:batchUpdate") []
      (.obj [("valueInputOption", .str inputOption),
        ("data", .arr (data.map fun (_, body) => .obj body))])
  result _ body := .ok (updateResult "totalUpdatedRows" body)

/-! ### Deleting -/

/-- The half-open interval of rows of a sheet, counted from zero, that holds one row of data. -/
def rowInterval (c : Config) (index : Int) : Int × Int :=
  (c.dataRow index - 1, c.dataRow index)

/-- Deleting one row. -/
def rowDelete : Method where
  validate c := do
    requireSheet c
    match c.rowIndex with
    | none => refuse "rowIndex" "Missing required field Row index"
    | some index =>
      if index < 0 then refuse "rowIndex" "Row index must be zero or greater"
  lookup := sheetIdLookup
  request settings c prerequisite :=
    let (start, stop) := rowInterval c (c.rowIndex.getD 0)
    let range : Document := .obj [("sheetId", prerequisite.sheet), ("dimension", .str "ROWS"),
      ("startIndex", .int start), ("endIndex", .int stop)]
    .ok (.withBody "POST" (spreadsheetUrl settings c.id ++ ":batchUpdate") []
      (.obj [("requests", .arr [.obj [("deleteDimension", .obj [("range", range)])]])]))
  result _ _ := .ok (.obj [("message", .str "Deleted row successfully!")])

end Sheet
end FormDispatch
