/-
# Codes of symbols

A code gives every symbol it holds a word of bits, so that no word begins another one. It is told by
the lengths of the words alone: words of one length follow each other in the order of their symbols,
and shorter words come before longer ones. A symbol whose word has no length is not in the code.
-/

namespace FormDispatch
namespace Packed

/-- The symbols of a code, by the lengths of their words from one on. -/
abbrev Code := List (List Nat)

namespace Code

/-- The longest word of any code. -/
def longestWord : Nat := 15

/-- The symbols whose words have a length. -/
def symbolsOf (lengths : List Nat) (length : Nat) : List Nat :=
  (lengths.zipIdx.filter fun l => l.1 == length).map Prod.snd

/-- The code of words with given lengths. It ends with the longest of them, and holds words of one
bit even if there are none. -/
def ofLengths (lengths : List Nat) : Code :=
  let longest := max 1 (lengths.foldl max 0)
  (List.range longest).map fun i => symbolsOf lengths (i + 1)

/-- How many words of the greatest length there are with the same beginnings as words of given
lengths. -/
def share (lengths : List Nat) : Nat :=
  lengths.foldl (fun n length => if length = 0 then n else n + 1 <<< (longestWord - length)) 0

/-- Lengths that words can have without one beginning another. Words that leave room for others are
allowed only if there is a single one, of one bit, and `loose` codes are. -/
def isCode (loose : Bool) (lengths : List Nat) : Bool :=
  let longest := lengths.foldl max 0
  let all := 1 <<< longestWord
  longest == 0 || share lengths == all || (loose && longest == 1 && share lengths < all)

/-- The symbol whose word bits begin with, and the bits behind it. Nothing is read if the bits end
before the word does, and no symbol if no word goes like this. -/
def read : Code → (offset : Nat) → List Bool → Option (Option Nat × List Bool)
  | [], _, bits => some (none, bits)
  | _, _, [] => none
  | row :: rows, offset, bit :: bits =>
    let offset := 2 * offset + bit.toNat
    match row[offset]? with
    | some symbol => some (some symbol, bits)
    | none => read rows (offset - row.length) bits

example : read (ofLengths [2, 1, 2]) 0 [true, false] = some (some 0, []) := by decide

end Code
end Packed
end FormDispatch
