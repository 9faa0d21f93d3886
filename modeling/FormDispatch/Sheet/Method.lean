/-
# Methods

How an operation on spreadsheets is carried out, in four parts: the configuration is checked; a
lookup may be needed, one request whose answer settles something the operation depends on; the
request of the operation is built; and the body of the answer is turned into the result. A lookup
settles either the keys of the header row or the identifier of the sheet that has the configured
title.

`sheetIdIn_eq` says that the identifier is that of the first sheet with the title.

Specification, section 4.3.
-/

import FormDispatch.Document.Integer
import FormDispatch.Run.Event
import FormDispatch.Sheet.Config
import FormDispatch.Sheet.Range
import FormDispatch.Sheet.Row
import FormDispatch.Wire.Request

namespace FormDispatch
namespace Sheet

/-- What a lookup has settled. -/
inductive Prerequisite where
  | none
  | header (keys : List String)
  | sheetId (id : Int)
deriving DecidableEq

namespace Prerequisite

/-- The keys of the header, none if there are none. -/
def keys : Prerequisite → List String
  | header keys => keys
  | _ => []

/-- The identifier of the sheet as a value. -/
def sheet : Prerequisite → Document
  | sheetId id => .int id
  | _ => .null

end Prerequisite

/-- A request whose answer settles something. -/
structure Lookup where
  request : WireRequest
  settle : Document → Except Failure Prerequisite

/-- How an operation is carried out. -/
structure Method where
  /-- the configuration fits -/
  validate : Config → Except Failure Unit
  /-- what has to be looked up before -/
  lookup : Settings → Config → Except Failure (Option Lookup) := fun _ _ => .ok none
  /-- the request of the operation -/
  request : Settings → Config → Prerequisite → Except Failure WireRequest
  /-- the result, from the body of the answer -/
  result : Config → Document → Except Failure Document := fun _ body => .ok body
  /-- what is reported about the body -/
  notices : Document → List Event := fun _ => []

/-- How the choices of a lookup are offered. -/
structure TriggerMethod where
  validate : Config → Except Failure Unit
  request : Settings → Config → Except Failure WireRequest
  result : Config → Document → Except Failure Document
  notices : Document → List Event := fun _ => []

/-- A configuration that does not fit. -/
def refuse {α : Type} (field reason : String) : Except Failure α :=
  .error (.problem (.invalidRequest field reason))

/-- A field that must not be empty. -/
def requireField (value : Option String) (field label : String) : Except Failure Unit :=
  if (value.getD "").isEmpty then refuse field ("Missing required field " ++ label) else .ok ()

/-- A spreadsheet must be given. -/
def requireSpreadsheet (c : Config) : Except Failure Unit :=
  requireField c.spreadsheetId "spreadsheetId" "Spreadsheet"

/-- A sheet must be given, and a header row that there is. -/
def requireSheet (c : Config) : Except Failure Unit := do
  requireSpreadsheet c
  requireField c.sheetTitle "sheetTitle" "Sheet"
  if c.headerRow < 1 then
    refuse "tableHeaderIndex" "Table header index must be 1 or greater"

/-- The text of a row's number. -/
def numberText (n : Int) : Except Failure String :=
  match Numeral.text? n with
  | some s => .ok s
  | none => .error (.defect .integerTooLong)

namespace Config

/-- The identifier of the spreadsheet, empty if there is none. -/
def id (c : Config) : String :=
  c.spreadsheetId.getD ""

/-- The title of the sheet, empty if there is none. -/
def title (c : Config) : String :=
  c.sheetTitle.getD ""

/-- The number of the sheet's row that holds a row of data. -/
def dataRow (c : Config) (index : Int) : Int :=
  c.headerRow + 1 + index

end Config

/-- The request for the header row. -/
def headerRequest (settings : Settings) (c : Config) : Except Failure WireRequest := do
  let row ← numberText c.headerRow
  return .plain "GET"
    (valuesUrl settings c.id (rangeOf c.title (some (row ++ ":" ++ row))) "")
    [("majorDimension", "ROWS")]

/-- The lookup of the header row, whose use is up to the operation. -/
def headerLookup (settle : Config → List String → Except Failure Prerequisite)
    (settings : Settings) (c : Config) : Except Failure (Option Lookup) := do
  let request ← headerRequest settings c
  return some ⟨request, fun body => do
    let header ← (headerOf body).mapError .defect
    settle c header⟩

/-- The properties of the listed sheets. -/
def sheetProperties (body : Document) : List Members :=
  (body.nestedItems "sheets").map fun sheet => sheet.nested "properties"

/-- Properties have the title. -/
def hasTitle (title : Option String) (properties : Members) : Bool :=
  Document.ofOption (properties.get? "title") == .ofText? title

/-- The identifier of the first listed sheet with the title. -/
def sheetIdIn (title : Option String) (body : Document) : Except Failure Int :=
  match (sheetProperties body).find? (hasTitle title) with
  | some properties =>
    (Document.ofOption (properties.get? "sheetId")).toInteger.mapError .defect
  | none =>
    refuse "sheetTitle"
      ("No sheet named '" ++ Document.displayedText? title ++ "' in this spreadsheet")

/-- The lookup of the identifier of the sheet. -/
def sheetIdLookup (settings : Settings) (c : Config) : Except Failure (Option Lookup) :=
  .ok (some {
    request := .plain "GET" (spreadsheetUrl settings c.id)
      [("fields", "sheets.properties(sheetId,title)")]
    settle := fun body => (sheetIdIn c.sheetTitle body).map .sheetId })

/-- The identifier of a sheet depends on nothing but the first sheet with the title. -/
theorem sheetIdIn_eq {title : Option String} {body : Document} {properties : Members}
    (h : (sheetProperties body).find? (hasTitle title) = some properties) :
    sheetIdIn title body =
      (Document.ofOption (properties.get? "sheetId")).toInteger.mapError .defect := by
  simp [sheetIdIn, h]

end Sheet
end FormDispatch
