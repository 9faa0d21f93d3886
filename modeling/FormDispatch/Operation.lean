/-
# Operations

What a form can ask for: fourteen operations on spreadsheets, named by an entity and a command,
three lookups that offer choices to whoever fills a form, and eight commands of a document database.
A name is matched exactly, and one that is not in its list is a problem that tells the list.

Specification, sections 4.4, E7 and E8.
-/

import FormDispatch.Problem

namespace FormDispatch

/-- Operations on spreadsheets. -/
inductive SheetOperation where
  | rowInsertOne
  | rowInsertMany
  | rowUpdateOne
  | rowUpdateMany
  | rowDeleteOne
  | rowFetchMany
  | sheetClear
  | sheetCopy
  | sheetDeleteOne
  | sheetFetchStructure
  | spreadsheetInsertOne
  | spreadsheetDeleteOne
  | spreadsheetFetchDetails
  | spreadsheetFetchMany
deriving DecidableEq

namespace SheetOperation

/-- The key of an operation: its entity and its command. -/
def key : SheetOperation → String
  | rowInsertOne => "ROW_INSERT_ONE"
  | rowInsertMany => "ROW_INSERT_MANY"
  | rowUpdateOne => "ROW_UPDATE_ONE"
  | rowUpdateMany => "ROW_UPDATE_MANY"
  | rowDeleteOne => "ROW_DELETE_ONE"
  | rowFetchMany => "ROW_FETCH_MANY"
  | sheetClear => "SHEET_CLEAR"
  | sheetCopy => "SHEET_COPY"
  | sheetDeleteOne => "SHEET_DELETE_ONE"
  | sheetFetchStructure => "SHEET_FETCH_STRUCTURE"
  | spreadsheetInsertOne => "SPREADSHEET_INSERT_ONE"
  | spreadsheetDeleteOne => "SPREADSHEET_DELETE_ONE"
  | spreadsheetFetchDetails => "SPREADSHEET_FETCH_DETAILS"
  | spreadsheetFetchMany => "SPREADSHEET_FETCH_MANY"

/-- All operations on spreadsheets. -/
def all : List SheetOperation :=
  [rowInsertOne, rowInsertMany, rowUpdateOne, rowUpdateMany, rowDeleteOne, rowFetchMany,
    sheetClear, sheetCopy, sheetDeleteOne, sheetFetchStructure, spreadsheetInsertOne,
    spreadsheetDeleteOne, spreadsheetFetchDetails, spreadsheetFetchMany]

/-- The operation of a key. -/
def ofKey? (key : String) : Option SheetOperation :=
  all.find? fun o => o.key == key

/-- The key that an entity and a command form. -/
def keyOf (entity command : Option String) : String :=
  Document.displayedText? entity ++ "_" ++ Document.displayedText? command

/-- The operation of an entity and a command. -/
def resolve (entity command : Option String) : Except Problem SheetOperation :=
  match ofKey? (keyOf entity command) with
  | some o => .ok o
  | none => .error (.unknown (keyOf entity command) (all.map key))

end SheetOperation

/-- Lookups that offer choices. -/
inductive Trigger where
  | spreadsheets
  | sheets
  | columns
deriving DecidableEq

namespace Trigger

/-- The key of a lookup. -/
def key : Trigger → String
  | spreadsheets => "SPREADSHEET_SELECTOR"
  | sheets => "SHEET_SELECTOR"
  | columns => "COLUMNS_SELECTOR"

/-- All lookups. -/
def all : List Trigger := [spreadsheets, sheets, columns]

/-- The lookup of a key. -/
def ofKey? (key : String) : Option Trigger :=
  all.find? fun t => t.key == key

/-- The lookup of a name, if one is given. -/
def resolve (name : Option String) : Except Problem Trigger :=
  match name.bind ofKey? with
  | some t => .ok t
  | none => .error (.unknown (Document.displayedText? name) (all.map key))

end Trigger

/-- Commands of the document database. -/
inductive CommandKind where
  | find
  | insert
  | update
  | delete
  | count
  | distinct
  | aggregate
  | raw
deriving DecidableEq

namespace CommandKind

/-- The key of a command. -/
def key : CommandKind → String
  | find => "FIND"
  | insert => "INSERT"
  | update => "UPDATE"
  | delete => "DELETE"
  | count => "COUNT"
  | distinct => "DISTINCT"
  | aggregate => "AGGREGATE"
  | raw => "RAW"

/-- All commands. -/
def all : List CommandKind := [find, insert, update, delete, count, distinct, aggregate, raw]

/-- The command of a key. -/
def ofKey? (key : String) : Option CommandKind :=
  all.find? fun k => k.key == key

/-- The command of a name, if one is given. -/
def resolve (name : Option String) : Except Problem CommandKind :=
  match name.bind ofKey? with
  | some k => .ok k
  | none => .error (.unknown (Document.displayedText? name) (all.map key))

end CommandKind

/-- The names of the families with the keys of their members. -/
def registeredOperations : Entries (List String) :=
  [("execution", SheetOperation.all.map SheetOperation.key),
    ("trigger", Trigger.all.map Trigger.key),
    ("mongo", CommandKind.all.map CommandKind.key)]

end FormDispatch
