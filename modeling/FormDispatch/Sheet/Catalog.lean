/-
# The catalog of methods

Every operation on spreadsheets has one method, and every lookup has one.

Specification, sections 4.4 and E7.
-/

import FormDispatch.Operation
import FormDispatch.Sheet.File
import FormDispatch.Sheet.RowFetching
import FormDispatch.Sheet.RowWriting

namespace FormDispatch

/-- The method of an operation. -/
def SheetOperation.method : SheetOperation → Sheet.Method
  | rowInsertOne => Sheet.rowAppend
  | rowInsertMany => Sheet.rowsAppend
  | rowUpdateOne => Sheet.rowUpdate
  | rowUpdateMany => Sheet.rowsUpdate
  | rowDeleteOne => Sheet.rowDelete
  | rowFetchMany => Sheet.rowsFetch
  | sheetClear => Sheet.sheetClear
  | sheetCopy => Sheet.sheetCopy
  | sheetDeleteOne => Sheet.sheetDelete
  | sheetFetchStructure => Sheet.sheetStructure
  | spreadsheetInsertOne => Sheet.fileCreate
  | spreadsheetDeleteOne => Sheet.fileDelete
  | spreadsheetFetchDetails => Sheet.fileInfo
  | spreadsheetFetchMany => Sheet.fileList

/-- The method of a lookup. -/
def Trigger.method : Trigger → Sheet.TriggerMethod
  | spreadsheets => Sheet.fileChoices
  | sheets => Sheet.sheetChoices
  | columns => Sheet.columnChoices

end FormDispatch
