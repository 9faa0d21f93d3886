/-
# Views

What a person sees of results: an envelope as a panel, its bindings, choices, operations and the
state of the surroundings as tables, templates as panels. Texts that come from outside may hold
tags, and a tag that closes nothing keeps its view from being shown.

Specification, section E11.
-/

import FormDispatch.Command.Template
import FormDispatch.Run.Envelope
import FormDispatch.Screen.Markup
import FormDispatch.Screen.Panel
import FormDispatch.Screen.Table

namespace FormDispatch
namespace Shell

/-- What a person sees. -/
abbrev View := Except Defect (List (List Char))

/-- A marked text on lines of its own. -/
def textView (s : String) : View := do
  let text ← Screen.unmarked s
  return Screen.wrapped Screen.screenWidth {} text

/-- The first thing to be seen. -/
def banner : List (List Char) :=
  let lines := ["formbridge", "Form configuration -> spreadsheet calls and database commands"]
  Screen.panel none none 4
    ([] :: (Screen.centeredBlock (Screen.panelWidth - 8) (lines.map String.toList) ++ [[]]))

/-- A document as a page of text. -/
def page (d : Document) : String :=
  d.written .rawPage

/-- An envelope. -/
def envelopeView (e : Envelope) : List (List Char) :=
  let title := if e.success then "OK"
    else "FAILED (" ++ Document.displayedText? e.code ++ ")"
  let subtitle := e.status.map fun n => "status " ++ Numeral.text n
  Screen.textPanel (some title) subtitle (page e.body)

/-- A table of marked texts. -/
def tableView (title : String) (columns : List Screen.Column) (rows : List (List String)) :
    View := do
  let rows ← rows.mapM fun row => row.mapM Screen.unmarked
  return Screen.Table.lines ⟨title, columns, rows⟩

/-- The bindings that were filled. -/
def boundView (params : List Substitution.BoundParameter) : View :=
  tableView "Bound parameters" [⟨"Binding", false⟩, ⟨"Value", true⟩, ⟨"Type", true⟩]
    (params.map fun b => [b.binding, Document.displayedText? b.value, b.kind.name])

/-- Choices. -/
def choicesView (choices : Document) : View :=
  let items := match choices with
    | .arr items => items
    | _ => []
  tableView "Options" [⟨"Label", true⟩, ⟨"Value", true⟩]
    (items.map fun d => [(d.member "label").displayed, (d.member "value").displayed])

/-- All operations. -/
def operationsView : View :=
  tableView "Registered operations" [⟨"Family", false⟩, ⟨"Key", true⟩]
    (registeredOperations.flatMap fun (family, keys) => keys.map fun key => [family, key])

/-- A template. -/
def templateView (t : Template) : List (List Char) :=
  Screen.textPanel (some t.title) none (page (.obj t.form))

/-- The findings about the surroundings: what was checked, how it is, and details. -/
def findingsView (findings : List (List String)) : View :=
  tableView "formbridge doctor" [⟨"Check", false⟩, ⟨"Status", true⟩, ⟨"Details", true⟩] findings

end Shell
end FormDispatch
