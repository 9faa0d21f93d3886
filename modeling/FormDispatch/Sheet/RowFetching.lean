/-
# Fetching rows

The rows of a table as objects under the keys of their columns. What is asked for is the configured
range, or the block of rows from the header on, as many as are wanted; the rows before the offset
are part of the block and are dropped from the answer. Every object also tells its row index,
counted from the first row of data; cells that the service leaves out are empty.

Specification, section E7.
-/

import FormDispatch.Sheet.Method

namespace FormDispatch
namespace Sheet

/-- The last column that a sheet can have. -/
def lastColumn : String := "ZZZ"

/-- The range of cells to fetch. -/
def fetchRange (c : Config) : Except Failure String := do
  match c.range with
  | some cells =>
    if !cells.isEmpty then return rangeOf c.title (some cells)
  | none => pure ()
  let start ← numberText c.headerRow
  match c.rowLimit with
  | none => return rangeOf c.title (some ("A" ++ start ++ ":" ++ lastColumn))
  | some limit =>
    let headerRows : Int := if c.firstRowIsHeader then 1 else 0
    let stop ← numberText (c.headerRow + headerRows + c.rowOffset + limit - 1)
    return rangeOf c.title (some (start ++ ":" ++ stop))

/-- What is left from an offset on; an offset below zero counts from the end. -/
def fromOffset {α : Type} (offset : Int) (rows : List α) : List α :=
  if offset < 0 then rows.drop (rows.length - offset.natAbs) else rows.drop offset.toNat

/-- What comes before a limit; a limit below zero counts from the end. -/
def upToLimit {α : Type} (limit : Int) (rows : List α) : List α :=
  if limit < 0 then rows.take (rows.length - limit.natAbs) else rows.take limit.toNat

/-- The cells of a row, none if it is not a list. -/
def cellsOf : Document → List Document
  | .arr cells => cells
  | _ => []

/-- The rows of an answer. -/
def answeredRows (body : Document) : List (List Document) :=
  (body.nestedItems "values").map cellsOf

/-- The header and the rows of data of an answer. -/
def headerAndRows (firstRowIsHeader : Bool) (rows : List (List Document)) :
    List String × List (List Document) :=
  match firstRowIsHeader, rows with
  | true, first :: rest => (first.map Document.displayed, rest)
  | _, rows => ([], rows)

/-- The rows of data that are wanted. -/
def window (offset : Int) (limit : Option Int) (rows : List (List Document)) :
    List (List Document) :=
  match limit with
  | some limit => upToLimit limit (fromOffset offset rows)
  | none => fromOffset offset rows

/-- The greatest number of columns. -/
def widthOf (header : List String) (rows : List (List Document)) : Nat :=
  rows.foldl (fun width row => max width row.length) header.length

/-- A row as an object, with its index. -/
def rowObjectOf (keys : List String) (index : Int) (row : List Document) : Members :=
  (Entries.ofPairs (keys.zipIdx.map fun (key, i) => (key, row.getD i (.str "")))).put rowIndexKey
    (.int index)

/-- The objects of an answer. -/
def fetchedRows (c : Config) (body : Document) : List Members :=
  let (header, rows) := headerAndRows c.firstRowIsHeader (answeredRows body)
  let rows := window c.rowOffset c.rowLimit rows
  let keys := rowKeys header (widthOf header rows)
  rows.zipIdx.map fun (row, position) => rowObjectOf keys (c.rowOffset + position) row

/-- Fetching rows. -/
def rowsFetch : Method where
  validate c := do
    requireSheet c
    if c.rowOffset < 0 then
      refuse "rowOffset" "Row offset must be zero or greater"
    match c.rowLimit with
    | some limit =>
      if limit < 1 then refuse "rowLimit" "Row limit must be 1 or greater"
    | none => .ok ()
  request settings c _ := do
    let range ← fetchRange c
    return .plain "GET" (valuesUrl settings c.id range "")
      [("majorDimension", "ROWS"), ("valueRenderOption", "FORMATTED_VALUE")]
  result c body := .ok (.arr ((fetchedRows c body).map .obj))

example : window 1 (some 1) [[.int 1], [.int 2], [.int 3]] = [[.int 2]] := by decide

end Sheet
end FormDispatch
