/-
# Displayed documents

How values look inside messages and in cells: null is `None`, the booleans are capitalised, a text
stands for itself. Inside arrays and objects texts are shown between quotes, as `Text.quoted` shows
them. Each kind of value has a name by which messages speak of it.
-/

import FormDispatch.Document.Writer

namespace FormDispatch
namespace Document

/-- The name of the kind of a value. -/
def kindName : Document → String
  | null => "NoneType"
  | bool _ => "bool"
  | int _ => "int"
  | float _ => "float"
  | str _ => "str"
  | arr _ => "list"
  | obj _ => "dict"

/-- A floating-point number as messages show it. -/
def displayedFloat : Binary64 → List Char
  | .nan => ['n', 'a', 'n']
  | .infinite true => ['-', 'i', 'n', 'f']
  | .infinite false => ['i', 'n', 'f']
  | .finite negative rank => Binary64.finiteChars negative rank

mutual

/-- A value as it is shown inside another. -/
def shown : Document → List Char
  | null => ['N', 'o', 'n', 'e']
  | bool true => ['T', 'r', 'u', 'e']
  | bool false => ['F', 'a', 'l', 's', 'e']
  | int n => Numeral.chars n
  | float x => displayedFloat x
  | str s => Text.quotedChars s.toList
  | arr [] => ['[', ']']
  | arr (item :: rest) => '[' :: (shown item ++ shownItems rest ++ [']'])
  | obj [] => ['\x7b', '\x7d']
  | obj ((key, value) :: rest) =>
    '\x7b' :: (Text.quotedChars key.toList ++ ':' :: ' ' ::
      (shown value ++ shownMembers rest ++ ['\x7d']))

/-- The items after the first. -/
def shownItems : List Document → List Char
  | [] => []
  | item :: rest => ',' :: ' ' :: (shown item ++ shownItems rest)

/-- The members after the first. -/
def shownMembers : List (String × Document) → List Char
  | [] => []
  | (key, value) :: rest =>
    ',' :: ' ' :: (Text.quotedChars key.toList ++ ':' :: ' ' :: (shown value ++ shownMembers rest))

end

/-- A value as text: a text is itself, anything else as it is shown. -/
def displayed : Document → String
  | str s => s
  | d => String.ofList (shown d)

/-- A text that may be missing, as messages show it. -/
def displayedText? : Option String → String
  | some s => s
  | none => "None"

example : displayed (arr [null, str "a"]) = "[None, 'a']" := by decide

end Document
end FormDispatch
