/-
# Wrapped texts

A text is laid out in lines of a width counted in cells. Words go to the next line when they do not
fit; a word includes the blanks behind it, which may stick out and are then dropped. A word that
fits no line is folded over several, or cut with an ellipsis.
-/

import FormDispatch.Text.Blank
import FormDispatch.Text.Cells
import FormDispatch.Text.Lines

namespace FormDispatch
namespace Screen

/-- Where a text stands in its lines. -/
inductive Alignment where
  /-- at the start of the line, which ends where the text does -/
  | natural
  /-- at the start of the line, which is filled up -/
  | left
  /-- in the middle of the line, which is filled up -/
  | center
deriving DecidableEq

/-- How a text is laid out. -/
structure Layout where
  alignment : Alignment := .natural
  /-- words that fit no line are folded, not cut -/
  folds : Bool := true
  /-- words go to further lines at all -/
  wraps : Bool := true

/-- Blanks. -/
def blanks (n : Nat) : List Char :=
  List.replicate n ' '

/-- The words of a text, with the blanks behind them, those of the first one also before. -/
def words (s : List Char) : List (List Char) :=
  let before := s.takeWhile Text.isBlank
  match s.drop before.length with
  | [] => []
  | c :: rest => (splitWords (c :: rest)).modifyHead (before ++ ·)
where
  /-- The words of a text that begins with one. -/
  splitWords : List Char → List (List Char)
    | [] => []
    | c :: rest =>
      match splitWords rest with
      | [] => [[c]]
      | word :: others =>
        if Text.isBlank c && !(word.head?.any Text.isBlank) then [c] :: word :: others
        else (c :: word) :: others

/-- A text in pieces that each fill a width as far as its characters go. -/
def folded (width : Nat) : (piece : List Char) → (used : Nat) → List Char → List (List Char)
  | piece, _, [] => [piece.reverse]
  | piece, used, c :: rest =>
    if width < used + Text.cells c then piece.reverse :: folded width [c] (Text.cells c) rest
    else folded width (c :: piece) (used + Text.cells c) rest

/-- Where lines break so far. -/
structure Breaking where
  /-- where the next word starts -/
  start : Nat := 0
  /-- cells used of the current line -/
  used : Nat := 0
  /-- where lines start, but for the first, the latest first -/
  breaks : List Nat := []

/-- A line starts at a position, unless that is where the text does. -/
def breakAt (position : Nat) (breaks : List Nat) : List Nat :=
  if position = 0 then breaks else position :: breaks

/-- The next word is placed. -/
def place (width : Nat) (folds : Bool) (b : Breaking) (word : List Char) : Breaking :=
  let next := b.start + word.length
  let cells := Text.width word
  let needed := Text.width (Text.trimBack word)
  if b.used + needed ≤ width then { b with start := next, used := b.used + cells }
  else if width < needed then
    if folds then
      let pieces := folded width [] 0 word
      let (_, breaks) := pieces.foldl (fun (start, breaks) piece =>
        (start + piece.length, breakAt start breaks)) (b.start, b.breaks)
      ⟨next, Text.width (pieces.getLast?.getD []), breaks⟩
    else ⟨next, cells, breakAt b.start b.breaks⟩
  else ⟨next, cells, breakAt b.start b.breaks⟩

/-- A text cut at positions. -/
def cutAt (s : List Char) (positions : List Nat) : List (List Char) :=
  ((0 :: positions).zip (positions ++ [s.length])).map fun (a, b) => (s.drop a).take (b - a)

/-- A line without those blanks at its end that stick out. -/
def withoutExcess (width : Nat) (line : List Char) : List Char :=
  let trailing := line.length - (Text.trimBack line).length
  line.take (line.length - min trailing (line.length - width))

/-- The front of a text that fills a width; half a character leaves a blank. -/
def front (width : Nat) : List Char → List Char
  | [] => []
  | c :: rest =>
    if Text.cells c ≤ width then c :: front (width - Text.cells c) rest else blanks width

/-- A line that is no wider than a width. -/
def cropped (width : Nat) (folds : Bool) (line : List Char) : List Char :=
  if Text.width line ≤ width then line
  else if folds then front width line
  else front (width - 1) line ++ ['…']

/-- A line filled up with blanks. -/
def padded (width : Nat) (line : List Char) : List Char :=
  line ++ blanks (width - Text.width line)

/-- A line in its place. -/
def aligned (width : Nat) (layout : Layout) (line : List Char) : List Char :=
  match layout.alignment with
  | .natural => cropped width layout.folds line
  | .left => padded width (cropped width layout.folds line)
  | .center =>
    let line := cropped width layout.folds (Text.trimBack line)
    padded width (blanks ((width - Text.width line) / 2) ++ line)

/-- A line whose tabs are blanks up to the next multiple of eight cells. -/
def expanded : (used : Nat) → List Char → List Char
  | _, [] => []
  | used, c :: rest =>
    if c == '\t' then
      let filled := 8 - used % 8
      blanks filled ++ expanded (used + filled) rest
    else c :: expanded (used + Text.cells c) rest

/-- The lines that a single line goes over. -/
def wrappedLine (width : Nat) (layout : Layout) (line : List Char) : List (List Char) :=
  let line := expanded 0 line
  let lines :=
    if layout.wraps then
      let b := (words line).foldl (place width layout.folds) {}
      cutAt line b.breaks.reverse
    else [line]
  lines.map fun line => aligned width layout (withoutExcess width line)

/-- A text in lines. -/
def wrapped (width : Nat) (layout : Layout) (s : List Char) : List (List Char) :=
  (Text.splitAt '\n' s).flatMap (wrappedLine width layout)

/-- Lines as they are printed. -/
def printed (lines : List (List Char)) : String :=
  String.ofList (lines.flatMap (· ++ ['\n']))

/-- Cells in a line of the screen. -/
def screenWidth : Nat := 100

example : wrapped 4 {} "ab cd efghij".toList =
    ["ab ".toList, "cd ".toList, "efgh".toList, "ij".toList] := by
  decide

end Screen
end FormDispatch
