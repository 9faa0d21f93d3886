/-
# Panels

A frame around lines, as wide as the screen, with a title in the middle of its upper edge and a
subtitle in the middle of its lower one.
-/

import FormDispatch.Screen.Wrap

namespace FormDispatch
namespace Screen

/-- Cells inside the frame of a panel. -/
def panelWidth : Nat := screenWidth - 2

/-- An edge of a panel between its corners, with a caption in its middle. -/
def edge (caption : Option String) : List Char :=
  match caption with
  | none => List.replicate panelWidth '─'
  | some caption =>
    let text := ' ' :: (caption.toList ++ [' '])
    let free := panelWidth - 2 - Text.width text
    '─' :: (List.replicate (free / 2) '─' ++ text ++ List.replicate (free - free / 2) '─' ++ ['─'])

/-- A panel around lines with blanks before and behind them. -/
def panel (title subtitle : Option String) (padding : Nat) (lines : List (List Char)) :
    List (List Char) :=
  let framed := lines.map fun line =>
    '│' :: (padded panelWidth (blanks padding ++ line) ++ ['│'])
  ('╭' :: (edge title ++ ['╮'])) :: (framed ++ ['╰' :: (edge subtitle ++ ['╯'])])

/-- A panel around a text whose lines are wrapped. -/
def textPanel (title subtitle : Option String) (text : String) : List (List Char) :=
  panel title subtitle 1
    (wrapped (panelWidth - 2) { alignment := .left } text.toList)

/-- Lines of the same start, in the middle of a width. -/
def centeredBlock (width : Nat) (lines : List (List Char)) : List (List Char) :=
  let widest := (lines.map Text.width).foldl max 0
  lines.map fun line => blanks ((width - widest) / 2) ++ line

end Screen
end FormDispatch
