/-
# Logging

What is logged and how. Loggers have names in which dots separate parents from children; a logger
without a level of its own takes its parent's, and in the end that of the root. Whatever lies below
the level of its logger is dropped. Logging is configured once: to configure it again has no effect
unless it is forced. The form of the lines is taken over even when the level turns out not to exist;
the levels then stay as they were.

Specification, section E3.
-/

import FormDispatch.Problem
import FormDispatch.Settings.Basic
import FormDispatch.Text.Case
import FormDispatch.Text.Lines

namespace FormDispatch

/-- How logging is configured. A level of zero is none of its own. -/
structure Logging where
  format : LogFormat := .console
  /-- the level of the root of all loggers -/
  root : Nat := 30
  /-- the level of the library's own logger -/
  own : Nat := 0
  /-- the level of the logger of the client -/
  client : Nat := 0
  configured : Bool := false
  /-- lines have been given a form -/
  formed : Bool := false
  /-- the loggers that have been asked for since then -/
  named : List String := []
deriving DecidableEq

namespace Logging

/-- The least levels by their names. -/
def levels : List (String × Nat) :=
  [("CRITICAL", 50), ("FATAL", 50), ("ERROR", 40), ("WARNING", 30), ("WARN", 30), ("INFO", 20),
    ("DEBUG", 10), ("NOTSET", 0)]

/-- The form that entries have where none is set. -/
def basicForm : String := "%(levelname)s:%(name)s:%(message)s"

/-- The styles in which forms are written, as they are shown together. -/
def shownStyles : String :=
  "\x7b'%': (<class 'logging.PercentStyle'>, '" ++ basicForm ++ "'), " ++
    "'\x7b': (<class 'logging.StrFormatStyle'>, " ++
    "'\x7blevelname\x7d:\x7bname\x7d:\x7bmessage\x7d'), " ++
    "'$': (<class 'logging.StringTemplateStyle'>, " ++
    "'$\x7blevelname\x7d:$\x7bname\x7d:$\x7bmessage\x7d')\x7d"

/-- The level of a name. Two names are taken by something that is no level. -/
def levelOf (name : String) : Except Defect Nat :=
  match levels.lookup name with
  | some level => .ok level
  | none =>
    .error (
      if name = "BASIC_FORMAT" then .unknownLevel basicForm
      else if name = "_STYLES" then .unusableLevel shownStyles
      else .noLevel name)

/-- A wish, or what is set when there is none. The wish is to change its case, so it must be a
text. -/
def wishOr (usual change : String) (wish : Document) : Except Defect String :=
  if wish.isAbsent then .ok usual
  else
    match wish with
    | .str s => .ok s
    | d => .error (.noCase d.kindName change)

/-- The form of a name, in whatever case. -/
def formatOf (name : String) : LogFormat :=
  if Text.lower name = LogFormat.json.name then .json else .console

/-- Logging after it has been configured, and what went wrong. -/
def configure (l : Logging) (settings : Settings) (level format : Document) (force : Bool) :
    Logging × Except Defect Unit :=
  if l.configured && !force then (l, .ok ())
  else
    match wishOr settings.logLevel.name "upper" level,
        wishOr settings.logFormat.name "lower" format with
    | .ok level, .ok format =>
      let formed : Logging := { l with format := formatOf format, formed := true }
      match levelOf (Text.upper level) with
      | .ok n => ({ formed with root := n, own := n, client := 30, configured := true }, .ok ())
      | .error d => (formed, .error d)
    | .error d, _ | _, .error d => (l, .error d)

/-- The name of the root of all loggers. -/
def rootName : String := "root"

/-- The name of the library's own logger. -/
def ownName : String := "formbridge"

/-- The name of the logger of the client. -/
def clientName : String := "httpx"

/-- A logger by its name; no name is the root's. -/
def loggerName (name : String) : String :=
  if name.isEmpty then rootName else name

/-- The level of a logger of its own, zero when it has none. -/
def ownLevel (l : Logging) (name : String) : Nat :=
  if name = ownName then l.own else if name = clientName then l.client else 0

/-- What stands before the dots of a name, the longest first, all read backwards. Of dots in a row
every second one counts, and what is empty does not. -/
def stems : List Char → List (List Char)
  | '.' :: c :: r => (c :: r) :: stems r
  | _ :: r => stems r
  | [] => []

/-- The logger above another one: the nearest that there is. -/
def above? (l : Logging) (name : String) : Option String :=
  ((stems name.toList.reverse).map fun stem => String.ofList stem.reverse).find? fun stem =>
    stem = ownName || stem = clientName || l.named.contains stem

/-- The level that counts for a logger, so many loggers up. -/
def levelFrom (l : Logging) : (steps : Nat) → (name : String) → Nat
  | 0, _ => l.root
  | steps + 1, name =>
    if l.ownLevel name != 0 then l.ownLevel name
    else
      match l.above? name with
      | some above => levelFrom l steps above
      | none => l.root

/-- The level that counts for a logger. Those above it have shorter and shorter names. -/
def effectiveLevel (l : Logging) (name : String) : Nat :=
  l.levelFrom (name.length + 1) name

/-- How much an entry matters, by the name of its kind. -/
def importance (kind : String) : Nat :=
  match kind with
  | "critical" | "fatal" => 50
  | "error" | "exception" => 40
  | "warning" | "warn" => 30
  | "info" => 20
  | "debug" => 10
  | _ => 0

/-- The name under which the kind of an entry is shown. -/
def shownKind (kind : String) : String :=
  match kind with
  | "warn" => "warning"
  | "fatal" => "critical"
  | "exception" => "error"
  | kind => kind

/-- What a logger writes. -/
inductive Line where
  /-- a document -/
  | json (members : Members)
  /-- a line for a person -/
  | console
deriving DecidableEq

/-- Facts that tell what to add to an entry and are not part of it. Nothing is being handled, so
there is nothing to add. -/
def isInstruction (key : String) : Bool :=
  key == "exc_info" || key == "stack_info"

/-- The document of an entry: its facts, the event, its kind and the logger. The time is added by
the clock and stands for a fact of that name. -/
def entry (logger kind event : String) (facts : Members) : Members :=
  (((facts.put "event" (.str event)).put "level" (.str (shownKind kind))).put "logger"
    (.str logger)).filter fun (key, _) => !isInstruction key && key != "timestamp"

/-- A text that is shown to a person between quotes, with its breaks escaped. -/
def isShownQuoted (s : String) : Bool :=
  s.toList.any fun c => " \t=\r\n\"'".toList.contains c

/-- How many breaks of lines a fact brings into what is written for a person. -/
def factBreaks (key : String) (value : Document) : Nat :=
  match key, value with
  | "event", _ | "level", _ | "timestamp", _ => 0
  | "logger", .str s | "logger_name", .str s => Text.breaks s.toList
  | "logger", _ | "logger_name", _ => 0
  -- a stack and an exception stand below the line
  | "stack", .str s | "exception", .str s => 1 + Text.breaks s.toList
  | key, .str s =>
    Text.breaks key.toList + if isShownQuoted s then 0 else Text.breaks s.toList
  | key, _ => Text.breaks key.toList

/-- What is written of an entry for a person. Between a stack and an exception there is a rule. -/
def personLines (event : String) (facts : Members) : List Line :=
  let rule := if facts.has "stack" && facts.has "exception" then 3 else 0
  let breaks := facts.foldl (fun n (key, value) => n + factBreaks key value) 0
  .replicate (1 + Text.breaks event.toList + breaks + rule) .console

/-- A further line says that there is no exception where one is told. -/
def exceptionLines (kind : String) : List Line :=
  if kind = "exception" then [.console] else []

/-- What is written of an entry. -/
def write (l : Logging) (name kind event : String) (facts : Members) : Logging × List Line :=
  let logger := loggerName name
  let facts : Members := facts.filter fun (key, _) => !isInstruction key
  if !l.formed then (l, personLines event facts)
  else
    let known := { l with named := logger :: l.named }
    if importance kind < known.effectiveLevel logger then (known, [])
    else
      match l.format with
      | .json => (known, .json (entry logger kind event facts) :: exceptionLines kind)
      | .console =>
        (known, personLines event (facts.put "logger" (.str logger)) ++ exceptionLines kind)

example : stems ['c', '.', 'b', '.', 'a'] = [['b', '.', 'a'], ['a']] := rfl

/-- What stands before two dots in a row is not above the logger. -/
example : stems ['.', '.', 'a'] = [['.', 'a']] := rfl

end Logging
end FormDispatch
