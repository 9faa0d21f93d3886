/-
# Whole sheets

A sheet of a spreadsheet can be cleared, wholly or in a range, copied into another spreadsheet,
deleted, or asked for its columns. Copying and deleting need the identifier of the sheet, which is
looked up by its title.

Specification, section E7.
-/

import FormDispatch.Sheet.Method

namespace FormDispatch
namespace Sheet

/-- Clearing values. -/
def sheetClear : Method where
  validate := requireSheet
  request settings c _ :=
    .ok (.withBody "POST" (valuesUrl settings c.id (rangeOf c.title c.range) ":clear") []
      (.obj []))
  result _ body :=
    .ok (.obj [("message", .str "Cleared range successfully!"),
      ("clearedRange", body.member "clearedRange")])

/-- Copying a sheet. -/
def sheetCopy : Method where
  validate c := do
    requireSheet c
    requireField c.destinationSpreadsheetId "destinationSpreadsheetId" "Destination spreadsheet"
  lookup := sheetIdLookup
  request settings c prerequisite :=
    .ok (.withBody "POST"
      (spreadsheetUrl settings c.id ++ "/sheets/" ++ prerequisite.sheet.displayed ++ ":copyTo") []
      (.obj [("destinationSpreadsheetId", .ofText? c.destinationSpreadsheetId)]))
  result c body :=
    .ok (.obj [("sheetId", body.member "sheetId"), ("title", body.member "title"),
      ("destinationSpreadsheetId", .ofText? c.destinationSpreadsheetId)])

/-- Deleting a sheet. -/
def sheetDelete : Method where
  validate := requireSheet
  lookup := sheetIdLookup
  request settings c prerequisite :=
    .ok (.withBody "POST" (spreadsheetUrl settings c.id ++ ":batchUpdate") []
      (.obj [("requests",
        .arr [.obj [("deleteSheet", .obj [("sheetId", prerequisite.sheet)])]])]))
  result _ _ := .ok (.obj [("message", .str "Deleted sheet successfully!")])

/-- Asking for the columns of a sheet. -/
def sheetStructure : Method where
  validate := requireSheet
  request settings c _ := headerRequest settings c
  result c body := do
    let header ← (headerOf body).mapError .defect
    return .obj [("sheetTitle", .ofText? c.sheetTitle), ("tableHeaderIndex", .int c.headerRow),
      ("columns", .arr (header.map .str))]

/-- A choice with a label. -/
def choice (label value : Document) : Document :=
  .obj [("label", label), ("value", value)]

/-- Offering the columns of a sheet. -/
def columnChoices : TriggerMethod where
  validate := requireSheet
  request := headerRequest
  result _ body := do
    let header ← (headerOf body).mapError .defect
    return .arr ((header.filter fun column => !column.isEmpty).map fun column =>
      choice (.str column) (.str column))

end Sheet
end FormDispatch
