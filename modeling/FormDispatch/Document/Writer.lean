/-
# Written documents

JSON text of documents. A `Layout` holds what differs between the texts that the library writes:
the gaps after commas and colons, whether items stand on lines of their own, and whether characters
outside ASCII are escaped. Texts are escaped character by character: quotes and backslashes by a
backslash, five controls by their letters, the other controls, and whatever lies outside the
layout's alphabet, by the four hexadecimal digits of their UTF-16 units. Numbers that are not
finite have names.

`Layout.inline`, `Layout.compact`, `Layout.page` and `Layout.rawPage` are the layouts in use.
-/

import FormDispatch.Document.Basic
import FormDispatch.Number.Decimal
import FormDispatch.Text.Quoted

namespace FormDispatch
namespace Document

/-- What is free in the JSON text of a document. -/
structure Layout where
  /-- how many blanks each level is indented by, when items stand on lines of their own -/
  indent : Option Nat
  /-- what follows a comma on the same line -/
  afterComma : List Char
  /-- what follows a colon -/
  afterColon : List Char
  /-- only the printable characters of ASCII stand for themselves -/
  ascii : Bool

/-- One line, blanks after commas and colons, ASCII only: cells, logs, and texts kept of decoded
values. -/
def Layout.inline : Layout := ⟨none, [' '], [' '], true⟩

/-- One line without blanks, all scripts: bodies of requests. -/
def Layout.compact : Layout := ⟨none, [], [], false⟩

/-- Items on lines indented by two blanks, ASCII only: documents of generated templates. -/
def Layout.page : Layout := ⟨some 2, [], [' '], true⟩

/-- Items on lines indented by two blanks, all scripts: what a person reads. -/
def Layout.rawPage : Layout := ⟨some 2, [], [' '], false⟩

/-- A code unit of UTF-16 as an escape. -/
def unitEscape (unit : Nat) : List Char :=
  '\\' :: 'u' :: Text.hexDigits 4 unit

/-- A character as one or two escaped units of UTF-16. -/
def unicodeEscape (c : Char) : List Char :=
  let n := c.toNat
  if n < 0x10000 then unitEscape n
  else
    let m := n - 0x10000
    unitEscape (0xD800 + m / 0x400) ++ unitEscape (0xDC00 + m % 0x400)

/-- A character inside a written text. -/
def escaped (ascii : Bool) (c : Char) : List Char :=
  if c == '"' || c == '\\' then ['\\', c]
  else if c == '\n' then ['\\', 'n']
  else if c == '\r' then ['\\', 'r']
  else if c == '\t' then ['\\', 't']
  else if c == '\x08' then ['\\', 'b']
  else if c == '\x0c' then ['\\', 'f']
  else if c.toNat < 0x20 || (ascii && 0x7F ≤ c.toNat) then unicodeEscape c
  else [c]

/-- A text between double quotes. -/
def quotedText (ascii : Bool) (s : List Char) : List Char :=
  '"' :: (s.flatMap (escaped ascii) ++ ['"'])

/-- A floating-point number; those that are not finite have names. -/
def floatChars : Binary64 → List Char
  | .nan => ['N', 'a', 'N']
  | .infinite true => ['-', 'I', 'n', 'f', 'i', 'n', 'i', 't', 'y']
  | .infinite false => ['I', 'n', 'f', 'i', 'n', 'i', 't', 'y']
  | .finite negative rank => Binary64.finiteChars negative rank

namespace Layout

/-- What stands before an item at a depth: nothing, or a new line and its indent. -/
def lead (layout : Layout) (depth : Nat) : List Char :=
  match layout.indent with
  | some n => '\n' :: List.replicate (n * depth) ' '
  | none => []

/-- What stands between two items at a depth. -/
def between (layout : Layout) (depth : Nat) : List Char :=
  ',' :: (layout.afterComma ++ layout.lead depth)

end Layout

mutual

/-- The text of a document whose items stand at the given depth. -/
def chars (layout : Layout) (depth : Nat) : Document → List Char
  | null => ['n', 'u', 'l', 'l']
  | bool true => ['t', 'r', 'u', 'e']
  | bool false => ['f', 'a', 'l', 's', 'e']
  | int n => Numeral.chars n
  | float x => floatChars x
  | str s => quotedText layout.ascii s.toList
  | arr [] => ['[', ']']
  | arr (item :: rest) =>
    '[' :: (layout.lead (depth + 1) ++ chars layout (depth + 1) item ++
      itemChars layout (depth + 1) rest ++ layout.lead depth ++ [']'])
  | obj [] => ['\x7b', '\x7d']
  | obj ((key, value) :: rest) =>
    '\x7b' :: (layout.lead (depth + 1) ++ quotedText layout.ascii key.toList ++
      ':' :: (layout.afterColon ++ chars layout (depth + 1) value ++
        memberChars layout (depth + 1) rest ++ layout.lead depth ++ ['\x7d']))

/-- The text of the items after the first. -/
def itemChars (layout : Layout) (depth : Nat) : List Document → List Char
  | [] => []
  | item :: rest => layout.between depth ++ chars layout depth item ++ itemChars layout depth rest

/-- The text of the members after the first. -/
def memberChars (layout : Layout) (depth : Nat) : List (String × Document) → List Char
  | [] => []
  | (key, value) :: rest =>
    layout.between depth ++ quotedText layout.ascii key.toList ++
      ':' :: (layout.afterColon ++ chars layout depth value ++ memberChars layout depth rest)

end

/-- The JSON text of a document. -/
def written (layout : Layout) (d : Document) : String :=
  String.ofList (d.chars layout 0)

mutual

/-- A document with the members of all its objects in the order of their keys. -/
def sorted : Document → Document
  | arr items => arr (sortedItems items)
  | obj members => obj ((sortedMembers members).mergeSort fun a b => a.1 ≤ b.1)
  | d => d

/-- Items with sorted members. -/
def sortedItems : List Document → List Document
  | [] => []
  | item :: rest => sorted item :: sortedItems rest

/-- Members with sorted values, in the order they came. -/
def sortedMembers : List (String × Document) → List (String × Document)
  | [] => []
  | (key, value) :: rest => (key, sorted value) :: sortedMembers rest

end

mutual

/-- All numbers in a document are finite. -/
def isFinite : Document → Bool
  | float (.finite ..) => true
  | float _ => false
  | arr items => areFinite items
  | obj members => haveFinite members
  | _ => true

/-- All numbers in items are finite. -/
def areFinite : List Document → Bool
  | [] => true
  | item :: rest => isFinite item && areFinite rest

/-- All numbers in members are finite. -/
def haveFinite : List (String × Document) → Bool
  | [] => true
  | (_, value) :: rest => isFinite value && haveFinite rest

end

example : (arr [int 1, null]).chars .inline 0 = "[1, null]".toList := by decide

/-- A character beyond the sixteen-bit range is written as two units. -/
example : unicodeEscape '😀' = "\\ud83d\\ude00".toList := by decide

end Document
end FormDispatch
