/-
# The file of a user's settings

Each line of the file gives a name and a value with an equals sign between them; comments and lines
without a name are skipped, and of two lines with the same name the later one counts. Values are
read without blanks and quotes at their ends. Writing keeps all entries, puts new ones among them,
and sorts them by name below a fixed first line; comments are lost.

Specification, section E2.
-/

import FormDispatch.Entries
import FormDispatch.Text.Blank
import FormDispatch.Text.Lines

namespace FormDispatch
namespace UserFile

/-- A quote. -/
def isQuote (c : Char) : Bool :=
  c == '"' || c == '\''

/-- The entry of a line, if it has one. -/
def entryOf? (line : List Char) : Option (String × String) :=
  let line := Text.trim line
  let before := line.takeWhile (· != '=')
  match line.drop before.length with
  | [] => none
  | _ :: value =>
    let name := Text.trim before
    if line.head? == some '#' || name.isEmpty then none
    else some (String.ofList name, String.ofList (Text.trimOf isQuote (Text.trim value)))

/-- The entries of a file. -/
def entries (text : String) : Entries String :=
  Entries.ofPairs ((Text.lines text.toList).filterMap entryOf?)

/-- The first line of a file that has been written. -/
def firstLine : String := "# formbridge user settings\n"

/-- An entry as a line. -/
def line (e : String × String) : String :=
  e.1 ++ "=" ++ e.2 ++ "\n"

/-- Entries as a file. -/
def written (m : Entries String) : String :=
  firstLine ++ String.join ((m.mergeSort fun a b => a.1 ≤ b.1).map line)

/-- Entries after changes; a change to nothing changes nothing. -/
def changed (m : Entries String) (changes : Entries (Option String)) : Entries String :=
  changes.foldl (fun m (name, value) =>
    match value with
    | some value => m.put name value
    | none => m) m

/-- The file after changes to its entries; a file that is missing is empty. -/
def updated (file : Option String) (changes : Entries (Option String)) : String :=
  written (changed (entries (file.getD "")) changes)

example : entries "A = 'x'\n# B=1\n =2\nA=y=z" = [("A", "y=z")] := by decide

end UserFile
end FormDispatch
