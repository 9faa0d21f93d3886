/-
# Files of assignments

A file of assignments holds lines such as `NAME=value`, as a shell reads them. A line may begin with
the word `export`, a name may stand in single quotes, and a value may stand in quotes of either
kind; then it may go over several lines and hold escapes. A value without quotes ends before a
comment. A line that cannot be read is skipped, and a name alone is assigned nothing. Values may
refer to others: to those of the environment, and over them to those assigned before.

Every step of reading takes at least one character, so the rest gets shorter until nothing is left.

Specification, section E2.
-/

import FormDispatch.Entries
import FormDispatch.Text.Blank
import FormDispatch.Text.Lines

namespace FormDispatch

/-- A name, if a line gives one, and the value that it is assigned, if any. -/
structure Assignment where
  name : Option String
  value : Option String
deriving DecidableEq

namespace Assignment

/-- A blank that stays within a line. -/
def isInlineBlank (c : Char) : Bool :=
  Text.isBlank c && c != '\n' && c != '\r'

/-- A character of a name without quotes. -/
def isNameChar (c : Char) : Bool :=
  !Text.isBlank c && c != '=' && c != '#'

/-- A character that stays within a line. -/
def isInline (c : Char) : Bool :=
  c != '\n' && c != '\r'

/-- The text without blanks of the same line at its front. -/
def skipBlanks (s : List Char) : List Char :=
  s.dropWhile isInlineBlank

/-- The text after the word `export` and the blanks behind it, if it begins with them. -/
def skipExport (s : List Char) : List Char :=
  match s with
  | 'e' :: 'x' :: 'p' :: 'o' :: 'r' :: 't' :: rest =>
    if rest.head?.any isInlineBlank then skipBlanks rest else s
  | _ => s

/-- What is read at the front of a text, and the rest. The rest is also there when reading fails:
it is where reading stopped. -/
abbrev Reading (α : Type) := Option α × List Char

/-- The name at the front of a text; a comment has none. -/
def readName (s : List Char) : Reading (Option String) :=
  match s with
  | '#' :: _ => (some none, s)
  | '\'' :: rest =>
    let name := rest.takeWhile (· != '\'')
    match rest.drop name.length with
    | _ :: after => if name.isEmpty then (none, s) else (some (some (String.ofList name)), after)
    | [] => (none, s)
  | _ =>
    let name := s.takeWhile isNameChar
    if name.isEmpty then (none, s)
    else (some (some (String.ofList name)), s.drop name.length)

/-- The characters up to the first quote that has no backslash before it, and the rest behind that
quote. -/
def closedQuote (quote : Char) : (before : List Char) → List Char → Option (List Char × List Char)
  | _, [] => none
  | before, c :: rest =>
    if c == quote && before.head? != some '\\' then some (before.reverse, rest)
    else closedQuote quote (c :: before) rest

/-- The characters up to the last quote with a backslash before it, that included, and the rest
behind that quote. -/
def lastEscapedQuote (quote : Char) : List Char → Option (List Char × List Char)
  | [] => none
  | '\\' :: c :: rest =>
    match lastEscapedQuote quote (c :: rest) with
    | some (inside, after) => some ('\\' :: inside, after)
    | none => if c == quote then some (['\\'], rest) else none
  | c :: rest => (lastEscapedQuote quote rest).map fun (inside, after) => (c :: inside, after)

/-- The inside of a quoted text, its first quote already read. If no quote closes it, the last
escaped one does. -/
def quoteInside (quote : Char) (s : List Char) : Option (List Char × List Char) :=
  (closedQuote quote [] s).or (lastEscapedQuote quote s)

/-- The character of an escape between single quotes. -/
def singleEscape? : Char → Option Char
  | '\\' => some '\\'
  | '\'' => some '\''
  | _ => none

/-- The character of an escape between double quotes. -/
def doubleEscape? : Char → Option Char
  | '\\' => some '\\'
  | '\'' => some '\''
  | '"' => some '"'
  | 'a' => some '\x07'
  | 'b' => some '\x08'
  | 'f' => some '\x0c'
  | 'n' => some '\n'
  | 'r' => some '\r'
  | 't' => some '\t'
  | 'v' => some '\x0b'
  | _ => none

/-- A text with its escapes replaced; what is no escape stays. -/
def unescaped (escape? : Char → Option Char) : List Char → List Char
  | '\\' :: c :: rest =>
    match escape? c with
    | some d => d :: unescaped escape? rest
    | none => '\\' :: unescaped escape? (c :: rest)
  | c :: rest => c :: unescaped escape? rest
  | [] => []

/-- A line without the comment at its end, which has a blank before it. -/
def withoutComment : List Char → List Char
  | [] => []
  | c :: rest =>
    if Text.isBlank c && rest.head? == some '#' then [] else c :: withoutComment rest

/-- The value at the front of a text. -/
def readValue (s : List Char) : Reading String :=
  let quoted (escape? : Char → Option Char) (quote : Char) (rest : List Char) : Reading String :=
    match quoteInside quote rest with
    | some (inside, after) => (some (String.ofList (unescaped escape? inside)), after)
    | none => (none, s)
  match s with
  | '\'' :: rest => quoted singleEscape? '\'' rest
  | '"' :: rest => quoted doubleEscape? '"' rest
  | _ =>
    let line := s.takeWhile isInline
    (some (String.ofList (Text.trimBack (withoutComment line))), s.drop line.length)

/-- The value behind a name, if an equals sign stands there. -/
def readAssigned (s : List Char) : Reading (Option String) :=
  match s with
  | '=' :: rest =>
    let (value, rest) := readValue (skipBlanks rest)
    (value.map some, rest)
  | _ => (some none, s)

/-- The text without a comment at its front. -/
def skipComment (s : List Char) : List Char :=
  match skipBlanks s with
  | '#' :: rest => rest.dropWhile isInline
  | _ => s

/-- The end of a line at the front of a text: the text behind it. -/
def lineEnd? (s : List Char) : Option (List Char) :=
  match skipBlanks s with
  | [] => some []
  | '\n' :: rest => some rest
  | _ => none

/-- The text behind the line that it is in. -/
def skipLine (s : List Char) : List Char :=
  (s.dropWhile isInline).drop 1

/-- One line from its name on; a line that cannot be read is skipped from where reading stopped. -/
def readLine (s : List Char) : Assignment × List Char :=
  match readName (skipExport s) with
  | (none, rest) => (⟨none, none⟩, skipLine rest)
  | (some name, rest) =>
    match readAssigned (skipBlanks rest) with
    | (none, rest) => (⟨none, none⟩, skipLine rest)
    | (some value, rest) =>
      let rest := skipComment rest
      match lineEnd? rest with
      | some rest => (⟨name, value⟩, rest)
      | none => (⟨none, none⟩, skipLine rest)

/-- The assignments of a text whose lines end in line feeds. -/
def readAll (s : List Char) : List Assignment :=
  match Text.trimFront s with
  | [] => []
  | c :: line =>
    let (a, rest) := readLine (c :: line)
    a :: if rest.length < s.length then readAll rest else []
termination_by s.length

/-- A piece of a value. -/
inductive Piece where
  | char (c : Char)
  /-- a reference to a name, with what stands in for a value that is not there -/
  | reference (name default : String)
deriving DecidableEq

/-- The reference at the front of a text whose opening has been read. -/
def reference? (s : List Char) : Option (Piece × List Char) :=
  let name := s.takeWhile fun c => c != '\x7d' && c != ':'
  match s.drop name.length with
  | '\x7d' :: rest => some (.reference (String.ofList name) "", rest)
  | ':' :: '-' :: more =>
    let default := more.takeWhile (· != '\x7d')
    match more.drop default.length with
    | _ :: rest => some (.reference (String.ofList name) (String.ofList default), rest)
    | [] => none
  | _ => none

/-- The pieces of a value. -/
def pieces (s : List Char) : List Piece :=
  match s with
  | [] => []
  | c :: rest =>
    let found := match c, rest with
      | '$', '\x7b' :: more => reference? more
      | _, _ => none
    match found with
    | some (piece, after) =>
      piece :: if after.length ≤ rest.length then pieces after else []
    | none => .char c :: pieces rest
termination_by s.length

/-- The text of a piece where names have values. -/
def Piece.resolved (values : String → Option (Option String)) : Piece → String
  | .char c => c.toString
  | .reference name default =>
    match values name with
    | some value => value.getD ""
    | none => default

/-- A value with its references resolved. -/
def resolved (values : String → Option (Option String)) (value : String) : String :=
  String.join ((pieces value.toList).map (Piece.resolved values))

/-- Assignments in order, each seen by those after it. -/
def settled (environment : Entries String) (l : List Assignment) : Entries (Option String) :=
  l.foldl (fun known a =>
    match a.name with
    | none => known
    | some name =>
      let values (n : String) := (known.get? n).or ((environment.get? n).map some)
      known.put name (a.value.map (resolved values))) []

/-- What a file assigns to names. -/
def ofFile (environment : Entries String) (text : String) : Entries (Option String) :=
  settled environment (readAll (Text.unifiedBreaks text.toList))

end Assignment
end FormDispatch
