/-
# Headers

The header of a table is the first row of the values that the service answers, each cell as trimmed
text, without the blank cells at its end. Every column of a table has a key, by which fetched rows
hold their values and written rows are addressed: the text of its header cell, or the letters of the
column when that is blank; a text that a column before has as its key gets the letters added.

Specification, section E7.
-/

import FormDispatch.Document.Display
import FormDispatch.Problem
import FormDispatch.Sheet.Column

namespace FormDispatch
namespace Sheet

/-- The texts without the empty ones at the end. -/
def withoutEmptyTail (cells : List String) : List String :=
  (cells.reverse.dropWhile String.isEmpty).reverse

/-- The header that the cells of a row form. -/
def headerCells (cells : List Document) : List String :=
  withoutEmptyTail (cells.map fun d => Text.trimmed d.displayed)

/-- The header in the values of an answer. Values that are neither absent nor a list of rows nor a
text are a defect. -/
def headerOf (body : Document) : Except Defect (List String) :=
  let values := body.member "values"
  if values.isAbsent then .ok []
  else
    match values with
    | .arr (.arr cells :: _) => .ok (headerCells cells)
    | .arr _ | .str _ => .ok []
    | .obj _ => .error .noFirstItem
    | d => .error (.noItems d.kindName)

/-- The key of a column, by the text of its header cell and the keys of the columns before. -/
def keyFor (seen : List String) (index : Nat) (cell : String) : String :=
  let name := Text.trimmed cell
  if name.isEmpty then columnName index
  else if seen.contains name then name ++ "_" ++ columnName index
  else name

/-- The keys of `count` columns from an index on; `seen` are the keys before. -/
def keysFrom (header : List String) (index : Nat) (seen : List String) : (count : Nat) → List String
  | 0 => []
  | count + 1 =>
    let key := keyFor seen index (header.getD index "")
    key :: keysFrom header (index + 1) (key :: seen) count

/-- The keys of as many columns as wanted. -/
def rowKeys (header : List String) (width : Nat) : List String :=
  keysFrom header 0 [] width

/-- There are as many keys as columns. -/
theorem length_keysFrom (header : List String) (index : Nat) (seen : List String) (count : Nat) :
    (keysFrom header index seen count).length = count := by
  induction count generalizing index seen with
  | zero => rfl
  | succ count ih => simp [keysFrom, ih]

/-- There are as many keys as columns. -/
theorem length_rowKeys (header : List String) (width : Nat) :
    (rowKeys header width).length = width :=
  length_keysFrom header 0 [] width

example : rowKeys ["a", "", "a"] 4 = ["a", "B", "a_C", "D"] := by decide

/-- The letters of a column may already be the text of another. -/
example : rowKeys ["B", ""] 2 = ["B", "B"] := by decide

end Sheet
end FormDispatch
