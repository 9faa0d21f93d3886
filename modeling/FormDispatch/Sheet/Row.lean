/-
# Rows

Rows are written from objects whose keys are the keys of columns. Their text is JSON: one object, or
an array of objects that is not empty. The key `rowIndex` is no column; it tells the row of data
that an object belongs to. A cell is sent as it is, an array or an object as its text.

Specification, section E7.
-/

import FormDispatch.Form
import FormDispatch.Sheet.Header

namespace FormDispatch
namespace Sheet

/-- The key that tells the row of an object. -/
def rowIndexKey : String := "rowIndex"

/-- A cell as it is sent. -/
def cellText : Document → Document
  | .arr items => .str ((Document.arr items).written .inline)
  | .obj members => .str ((Document.obj members).written .inline)
  | d => d

/-- How much of a text that is no JSON a problem shows. -/
def shownText : Nat := 40

/-- The JSON text of a field, read. -/
def jsonOf (field text : String) : Except Problem Document :=
  match Document.read text.toList with
  | .ok d => .ok d
  | .error e =>
    .error (.unreadableText field (String.ofList (text.toList.take shownText))
      (e.message text.toList))

/-- The object that the text of a row holds. -/
def rowOf (text : Option String) : Except Problem Members :=
  match text with
  | none => .error (.invalidRequest "rowObject" "Missing row object")
  | some text =>
    if text.isEmpty then .error (.invalidRequest "rowObject" "Missing row object")
    else do
      match ← jsonOf "rowObject" text with
      | .obj members => return members
      | _ => .error (.invalidRequest "rowObject" "Row object must be a JSON object")

/-- The objects of a list, when all its items are objects. -/
def objects? : List Document → Option (List Members)
  | [] => some []
  | .obj members :: rest => (objects? rest).map (members :: ·)
  | _ :: _ => none

/-- The objects that the text of rows holds. -/
def rowsOf (text : Option String) : Except Problem (List Members) :=
  let shape : Problem :=
    .invalidRequest "rowObjects" "Row objects must be a JSON array of objects"
  match text with
  | none => .error (.invalidRequest "rowObjects" "Missing row objects")
  | some text =>
    if text.isEmpty then .error (.invalidRequest "rowObjects" "Missing row objects")
    else do
      match ← jsonOf "rowObjects" text with
      | .arr items =>
        match objects? items with
        | none => .error shape
        | some [] => .error (.invalidRequest "rowObjects" "Row objects must not be empty")
        | some rows => return rows
      | _ => .error shape

/-- A row index that is not below zero. -/
def checkedIndex : Option Int → Except Problem Int
  | none => .error (.invalidRequest rowIndexKey "Missing row index")
  | some index =>
    if index < 0 then
      .error (.invalidRequest rowIndexKey "Row index must be zero or greater")
    else .ok index

/-- The row that an object belongs to; an object that does not tell belongs to the other one given,
if there is one. -/
def rowIndexOf (row : Members) (fallback : Option Int) : Except Failure Int := do
  let told ← (Form.integer? row rowIndexKey).mapError Form.FieldError.failure
  (checkedIndex (told.or fallback)).mapError .problem

/-- The keys of an object that name no column. -/
def unknownKeys (header : List String) (row : Members) : List String :=
  row.keys.filter fun key => key != rowIndexKey && !header.contains key

/-- Every key of every object names a column; else the keys of the first object that do not. -/
def checkColumns (header : List String) : (rows : List Members) → Except Problem Unit
  | [] => .ok ()
  | row :: rest =>
    match unknownKeys header row with
    | [] => checkColumns header rest
    | unknown =>
      .error (.invalidRequest "rowObject"
        ("Columns not present in the header row: " ++ ", ".intercalate unknown))

/-- The cells of a row, column by column; a column that the object has no value for is given the one
for missing cells. -/
def rowValues (header : List String) (row : Members) (missing : Document) : List Document :=
  header.map fun column =>
    match row.get? column with
    | some d => cellText d
    | none => missing

/-- Keys that are not there yet are added at the end. -/
def addKeys (keys more : List String) : List String :=
  more.foldl
    (fun keys key => if key == rowIndexKey || keys.contains key then keys else keys ++ [key]) keys

/-- The keys of all objects but the row index, each once, in the order of their first use. -/
def columnsOf (rows : List Members) : List String :=
  rows.foldl (fun keys row => addKeys keys row.keys) []

end Sheet
end FormDispatch
