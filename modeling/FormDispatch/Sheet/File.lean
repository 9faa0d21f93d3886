/-
# Spreadsheet files

A spreadsheet can be created, with rows in it if wanted, deleted, asked for its properties and its
sheets, and listed with the others. A listing is read no further than its first page; when there
is more, that is reported.

Specification, section E7.
-/

import FormDispatch.Sheet.Tab

namespace FormDispatch
namespace Sheet

/-! ### Creating and deleting -/

/-- A cell of a new spreadsheet. -/
def newCell (d : Document) : Document :=
  let entered (kind : String) (value : Document) : Document :=
    .obj [("userEnteredValue", .obj [(kind, value)])]
  match cellText d with
  | .null => .obj []
  | .bool b => entered "boolValue" (.bool b)
  | .int n => entered "numberValue" (.int n)
  | .float x => entered "numberValue" (.float x)
  | d => entered "stringValue" d

/-- The data of a new spreadsheet: the keys of all rows as a header, then the rows. -/
def newRows (rows : List Members) : List Document :=
  let columns := columnsOf rows
  let line (cells : List Document) : Document := .obj [("values", .arr (cells.map newCell))]
  line (columns.map .str) ::
    rows.map fun row => line (columns.map fun column => Document.ofOption (row.get? column))

/-- The rows of a new spreadsheet, if there are to be any. -/
def seedRows? (c : Config) : Except Failure (Option (List Members)) :=
  if (c.rowObjects.getD "").isEmpty then .ok none
  else ((rowsOf c.rowObjects).mapError .problem).map some

/-- Creating a spreadsheet. -/
def fileCreate : Method where
  validate c := do
    requireField c.spreadsheetName "spreadsheetName" "Spreadsheet name"
    let _ ← seedRows? c
  request settings c _ := do
    let rows ← seedRows? c
    let properties : Members :=
      [("properties", .obj [("title", .ofText? c.spreadsheetName)])]
    let sheets : Members := match rows with
      | none => []
      | some rows =>
        let data : Document := .obj [("startRow", .int 0), ("startColumn", .int 0),
          ("rowData", .arr (newRows rows))]
        [("sheets", .arr [.obj [("data", .arr [data])]])]
    return .withBody "POST" (withoutSlashes settings.sheetsBaseUrl) []
      (.obj (properties ++ sheets))
  result _ body :=
    .ok (.obj [("id", body.member "spreadsheetId"),
      ("name", (body.member "properties").member "title"),
      ("url", body.member "spreadsheetUrl")])

/-- Deleting a spreadsheet. -/
def fileDelete : Method where
  validate := requireSpreadsheet
  request settings c _ := .ok (.plain "DELETE" (fileUrl settings c.id) [])
  result _ _ := .ok (.obj [("message", .str "Deleted spreadsheet successfully!")])

/-! ### Properties -/

/-- What is asked about a spreadsheet. -/
def infoFields : String :=
  "spreadsheetId,spreadsheetUrl,properties(title,locale,timeZone)," ++
    "sheets(properties(sheetId,title,index,gridProperties))"

/-- The request for the properties of a spreadsheet. -/
def infoRequest (settings : Settings) (c : Config) : Except Failure WireRequest :=
  .ok (.plain "GET" (spreadsheetUrl settings c.id) [("fields", infoFields)])

/-- The sheets of a spreadsheet. -/
def sheetsOf (body : Document) : List Document :=
  (sheetProperties body).map fun properties =>
    let properties : Document := .obj properties
    let grid := properties.member "gridProperties"
    .obj [("sheetId", properties.member "sheetId"), ("title", properties.member "title"),
      ("index", properties.member "index"), ("rowCount", grid.member "rowCount"),
      ("columnCount", grid.member "columnCount")]

/-- Asking for the properties of a spreadsheet. -/
def fileInfo : Method where
  validate := requireSpreadsheet
  request settings c _ := infoRequest settings c
  result _ body :=
    let properties := body.member "properties"
    .ok (.obj [("id", body.member "spreadsheetId"), ("name", properties.member "title"),
      ("url", body.member "spreadsheetUrl"), ("locale", properties.member "locale"),
      ("timeZone", properties.member "timeZone"), ("sheets", .arr (sheetsOf body))])

/-- Offering the sheets of a spreadsheet. -/
def sheetChoices : TriggerMethod where
  validate := requireSpreadsheet
  request := infoRequest
  result _ body :=
    let titles := (sheetsOf body).map fun sheet => sheet.member "title"
    .ok (.arr ((titles.filter fun title => !title.isAbsent).map fun title => choice title title))

/-! ### Listing -/

/-- How many files a page lists. -/
def pageSize : Nat := 1000

/-- The request for the list of spreadsheets. -/
def listRequest (settings : Settings) : WireRequest :=
  .plain "GET" (withoutSlashes settings.driveBaseUrl)
    [("q", "mimeType='application/vnd.google-apps.spreadsheet' and trashed=false"),
      ("fields", "nextPageToken,files(id,name,createdTime,modifiedTime,webViewLink)"),
      ("orderBy", "name"), ("pageSize", Numeral.text pageSize)]

/-- The link of a file: the one that the service tells, else the one made of its identifier. -/
def linkOf (file : Document) : Document :=
  let link := file.member "webViewLink"
  if link.isAbsent then
    .str ("https://docs.google.com/spreadsheets/d/" ++ (file.member "id").displayed ++ "/edit")
  else link

/-- The listed spreadsheets. -/
def filesOf (body : Document) : List Document :=
  ((body.nestedItems "files").filter Document.isObject).map fun file =>
    .obj [("id", file.member "id"), ("name", file.member "name"), ("url", linkOf file),
      ("createdTime", file.member "createdTime"), ("modifiedTime", file.member "modifiedTime")]

/-- That a listing is not all there is. -/
def listNotices (body : Document) : List Event :=
  if (body.member "nextPageToken").isAbsent then []
  else [.filesTruncated (filesOf body).length pageSize]

/-- Listing spreadsheets. -/
def fileList : Method where
  validate _ := .ok ()
  request settings _ _ := .ok (listRequest settings)
  result _ body := .ok (.arr (filesOf body))
  notices := listNotices

/-- Offering spreadsheets. -/
def fileChoices : TriggerMethod where
  validate _ := .ok ()
  request settings _ := .ok (listRequest settings)
  result _ body :=
    .ok (.arr ((filesOf body).map fun file => choice (file.member "name") (file.member "url")))
  notices := listNotices

end Sheet
end FormDispatch
