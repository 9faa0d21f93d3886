/-
# Tables

A table has a title, a row of headings and further rows, each cell with a blank on both sides.
Columns are as wide as their widest cells. If they do not fit the screen, the widest ones that may
be wrapped are narrowed to the next widest, until all fit; if that is not enough, all are narrowed
alike.
-/

import FormDispatch.Screen.Wrap

namespace FormDispatch
namespace Screen

/-- A column of a table. -/
structure Column where
  heading : String
  /-- its cells may go over several lines -/
  wraps : Bool := true

/-- A table of texts. -/
structure Table where
  title : String
  columns : List Column
  rows : List (List (List Char))

/-- A quotient rounded to the nearest integer, a half to the even one. -/
def roundedHalfEven (n d : Nat) : Nat :=
  let q := n / d
  let r := n % d
  if 2 * r < d then q
  else if d < 2 * r then q + 1
  else if q % 2 = 0 then q else q + 1

/-- A column that may be narrowed: its width, and by how much it may be at most; none for a column
that stays. -/
abbrev Narrowing := Nat × Option Nat

/-- Widths narrowed by an excess in all, shared alike among those columns that may be narrowed. -/
def narrowed : (excess : Nat) → List Narrowing → List Nat
  | _, [] => []
  | excess, (width, none) :: rest => width :: narrowed excess rest
  | excess, (width, some most) :: rest =>
    let sharing := 1 + (rest.filter fun c => c.2.isSome).length
    let part := min most (roundedHalfEven excess sharing)
    (width - part) :: narrowed (excess - part) rest

/-- The cells of all columns together. -/
def total (widths : List Nat) : Nat :=
  widths.foldl (· + ·) 0

/-- One step of narrowing: the widest columns that may be wrapped, to the next widest at most; none
when no such column is left to be narrowed. -/
def narrowWidest? (excess : Nat) (widths : List (Nat × Bool)) : Option (List Nat) :=
  let wrapping := (widths.filter Prod.snd).map Prod.fst
  let widest := wrapping.foldl max 0
  let second := (wrapping.filter (· != widest)).foldl max 0
  let most := min excess (widest - second)
  if wrapping.isEmpty || most = 0 then none
  else
    some (narrowed excess (widths.map fun (width, wraps) =>
      (width, if wraps && width == widest then some most else none)))

/-- Widths that have been narrowed until they fit, in so many steps at most. -/
def collapsed (room : Nat) (wraps : List Bool) : (steps : Nat) → List Nat → List Nat
  | 0, widths => widths
  | steps + 1, widths =>
    let excess := total widths - room
    if excess = 0 then widths
    else
      match narrowWidest? excess (widths.zip wraps) with
      | none => widths
      | some widths => collapsed room wraps steps widths

/-- Widths that fit a room. -/
def fitted (room : Nat) (wraps : List Bool) (widths : List Nat) : List Nat :=
  let widths := collapsed room wraps (total widths - room) widths
  let excess := total widths - room
  if excess = 0 then widths
  else narrowed excess (widths.map fun width => (width, if width = 0 then none else some width))

/-- Cells that a text needs on one line each of its lines. -/
def neededWidth (s : List Char) : Nat :=
  ((Text.lines s).map Text.width).foldl max 0

namespace Table

/-- All rows, the headings first. -/
def allRows (t : Table) : List (List (List Char)) :=
  t.columns.map (fun c => c.heading.toList) :: t.rows

/-- Cells for the rules around and between the columns. -/
def ruleWidth (t : Table) : Nat :=
  t.columns.length + 1

/-- The widths of the columns. -/
def widths (t : Table) : List Nat :=
  let room := screenWidth - t.ruleWidth
  let natural := t.columns.zipIdx.map fun (_, i) =>
    let cells := t.allRows.map fun row => min room (neededWidth (row.getD i []) + 2)
    max 1 (cells.foldl max 0)
  fitted room (t.columns.map Column.wraps) natural

/-- The lines of a cell. -/
def cellLines (column : Column) (width : Nat) (text : List Char) : List (List Char) :=
  (wrapped (width - 2) { alignment := .left, folds := false, wraps := column.wraps } text).map
    fun line => padded width (' ' :: line)

/-- A line with rules before, between and behind its parts. -/
def ruled (first between last : Char) (parts : List (List Char)) : List Char :=
  first :: (List.intercalate [between] parts ++ [last])

/-- The lines of a row. -/
def rowLines (rule : Char) (columns : List (Column × Nat)) (row : List (List Char)) :
    List (List Char) :=
  let cells := (columns.zip row).map fun ((column, width), text) =>
    (width, cellLines column width text)
  let height := (cells.map fun c => c.2.length).foldl max 1
  (List.range height).map fun i =>
    ruled rule rule rule (cells.map fun (width, lines) => lines.getD i (blanks width))

/-- The lines of a table. -/
def lines (t : Table) : List (List Char) :=
  let widths := t.widths
  let columns := t.columns.zip widths
  let heavy (first between last : Char) := ruled first between last
    (widths.map fun w => List.replicate w '━')
  let light := ruled '└' '┴' '┘' (widths.map fun w => List.replicate w '─')
  wrapped (total widths + t.ruleWidth) { alignment := .center } t.title.toList ++
    [heavy '┏' '┳' '┓'] ++ rowLines '┃' columns (t.columns.map fun c => c.heading.toList) ++
    [heavy '┡' '╇' '┩'] ++ t.rows.flatMap (rowLines '│' columns) ++ [light]

end Table
end Screen
end FormDispatch
