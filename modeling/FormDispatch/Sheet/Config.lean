/-
# Configurations of spreadsheet operations

What a form says about an operation on spreadsheets, every field with its type. All fields are read
before any of them is complained about, so one problem tells all fields of a wrong type, in the
order of reading. A spreadsheet can be named by its URL instead of its identifier; the URL is read
when no identifier was found. The rows to be written are JSON text, or values that are kept as their
text.

Specification, section E6.
-/

import FormDispatch.Document.Told
import FormDispatch.Document.Writer
import FormDispatch.Form
import FormDispatch.Text.Percent

namespace FormDispatch
namespace Sheet

/-- What a form says about an operation. -/
structure Config where
  entity : Option String := none
  command : Option String := none
  spreadsheetId : Option String := none
  spreadsheetName : Option String := none
  sheetTitle : Option String := none
  range : Option String := none
  /-- the row of the header, counted from one -/
  headerRow : Int := 1
  /-- the row of data, counted from zero after the header -/
  rowIndex : Option Int := none
  rowOffset : Int := 0
  rowLimit : Option Int := none
  firstRowIsHeader : Bool := true
  /-- the text of an object -/
  rowObject : Option String := none
  /-- the text of an array of objects -/
  rowObjects : Option String := none
  destinationSpreadsheetId : Option String := none
deriving DecidableEq

/-- Reading fields: mismatches are gathered, a numeral that is too long ends it. -/
abbrev Reading := StateT (List TypeMismatch) (Except Defect)

/-- A mismatch is noted and the field is taken for absent. -/
def noted {α : Type} (r : Except Form.FieldError (Option α)) : Reading (Option α) :=
  match r with
  | .ok v => pure v
  | .error (.mismatch m) => do
    modify (· ++ [m])
    pure none
  | .error (.numeralTooLong digits) => throw (.numeralTooLong digits)

/-- A character of an identifier in a URL. -/
def isIdChar (c : Char) : Bool :=
  Text.isAsciiAlphanumeric c || c == '-' || c == '_'

/-- What stands in a URL before an identifier. -/
def idLead : List Char := "/spreadsheets/d/".toList

/-- The identifier in a URL: the first that is not empty after the words that lead to it. -/
def idInUrl? (url : List Char) : Option (List Char) :=
  let here := if idLead.isPrefixOf url then (url.drop idLead.length).takeWhile isIdChar else []
  if here.isEmpty then
    match url with
    | [] => none
    | _ :: r => idInUrl? r
  else some here

/-- The identifier that a URL gives: the one in it, or the whole. -/
def idOfUrl (url : String) : String :=
  match idInUrl? url.toList with
  | some id => String.ofList id
  | none => url

/-- The text of rows that a field holds: a text as it is, a value of the right kind as its JSON
text, unless an integer in it is too long for one. Any other value is a mismatch. -/
def rowText (field : String) (wanted : Document → Bool) : Option Document →
    Reading (Option String)
  | none => pure none
  | some (.str s) => pure (some s)
  | some d =>
    if wanted d then
      if d.isTellable then pure (some (d.written .inline)) else throw .integerTooLong
    else noted (.error (.mismatch (Form.mismatch field "JSON text" d.kindName)))

/-- A list of values. -/
def isArray : Document → Bool
  | .arr _ => true
  | _ => false

/-- The fields of a form, with the mismatches found. -/
def Config.reading (form : Members) : Reading Config := do
  let entity ← noted (Form.text? form "entity")
  let command ← noted (Form.text? form "command")
  let spreadsheetId ← noted (Form.text? form "spreadsheetId")
  let spreadsheetName ← noted (Form.text? form "spreadsheetName")
  let sheetTitle ← noted (Form.text? form "sheetTitle")
  let range ← noted (Form.text? form "range")
  let headerRow ← noted (Form.integer? form "tableHeaderIndex")
  let rowIndex ← noted (Form.integer? form "rowIndex")
  let rowOffset ← noted (Form.integer? form "rowOffset")
  let rowLimit ← noted (Form.integer? form "rowLimit")
  let firstRowIsHeader ← noted (Form.boolean? form "firstRowIsHeader")
  let destination ← noted (Form.text? form "destinationSpreadsheetId")
  let spreadsheetId ← match spreadsheetId with
    | some id => pure (some id)
    | none => do
      let url ← noted (Form.text? form "spreadsheetUrl")
      pure (url.map idOfUrl)
  let rowObject ← rowText "rowObject" Document.isObject (Form.any? form "rowObject")
  let rowObjects ← rowText "rowObjects" isArray (Form.any? form "rowObjects")
  return {
    entity, command, spreadsheetId, spreadsheetName, sheetTitle, range
    headerRow := headerRow.getD 1
    rowIndex
    rowOffset := rowOffset.getD 0
    rowLimit
    firstRowIsHeader := firstRowIsHeader.getD true
    rowObject, rowObjects
    destinationSpreadsheetId := destination }

/-- The configuration that a form gives, or all its mismatches in one problem. -/
def Config.ofForm (form : Members) : Except Failure Config :=
  match (Config.reading form).run [] with
  | .error defect => .error (.defect defect)
  | .ok (config, []) => .ok config
  | .ok (_, first :: others) => .error (.problem (.wrongType first others))

end Sheet
end FormDispatch
