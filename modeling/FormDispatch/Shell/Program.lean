/-
# The program

What the program does with its arguments, as a function of its surroundings: files, variables of the
environment, what is typed in, and the peer that answers. It ends with a status, what it has
printed, a file of settings if it has written one, and whatever it could not deal with.

Arguments that make no sense end it with status 2, and so does a problem that keeps a run from
beginning; a run that failed ends it with status 1.

Specification, section E11.
-/

import FormDispatch.Client.Traffic
import FormDispatch.Run.CommandRun
import FormDispatch.Run.SheetRun
import FormDispatch.Settings.Location
import FormDispatch.Settings.Source
import FormDispatch.Settings.UserFile
import FormDispatch.Shell.Arguments
import FormDispatch.Shell.View

namespace FormDispatch
namespace Shell

/-- What the program finds around it. -/
structure Surroundings (σ : Type) where
  /-- files by their paths -/
  files : Entries (List UInt8)
  environment : Entries String
  /-- the file of the user's settings -/
  userFile : Path
  /-- what is typed in -/
  typed : String
  peer : Peer σ
  /-- the peer before anything is sent -/
  start : σ

/-- What the program could not deal with. -/
inductive Escape where
  | failure (f : Failure)
  | issues (issues : List Issue)
deriving DecidableEq

/-- What the program has done. -/
structure Outcome (σ : Type) where
  status : Nat
  printed : String
  traffic : Client.Traffic σ
  escaped : Option Escape := none
  /-- the file of the user's settings, if it was written -/
  userFile : Option String := none

variable {σ : Type}

namespace Surroundings

/-- The outcome when nothing has been sent. -/
def quiet (s : Surroundings σ) (status : Nat) (printed : String) : Outcome σ :=
  ⟨status, printed, { peer := s.start }, none, none⟩

/-- The outcome when arguments make no sense. -/
def misused (s : Surroundings σ) : Outcome σ :=
  s.quiet 2 ""

/-- The bytes of the file at a path. -/
def fileAt? (s : Surroundings σ) (path : Path) : Option (List UInt8) :=
  (s.files.find? fun f => Path.ofText f.1 == path).map Prod.snd

/-- The text of the file at a path, if there is one. -/
def textAt? (s : Surroundings σ) (path : Path) : Option String :=
  (s.fileAt? path).map Text.utf8Text

/-- The settings: from the environment, and from the file in the current directory and the one of
the user. -/
def settings (s : Surroundings σ) : Checked Settings :=
  Settings.ofSources {
    environment := s.environment
    files := [Path.ofText UserDirectories.fileName, s.userFile].filterMap s.textAt? }

/-- The form in a file. -/
def form? (s : Surroundings σ) (path : String) : Option Members := do
  let content ← s.fileAt? (Path.ofText path)
  let text ← Text.utf8Text? content
  match Document.read text.toList with
  | .ok (.obj form) => some form
  | _ => none

end Surroundings

/-- A binding and its value, with an equals sign between them. -/
def paramOf? (s : String) : Option Substitution.Param :=
  let key := s.toList.takeWhile (· != '=')
  match s.toList.drop key.length with
  | _ :: value => some ⟨String.ofList key, some (String.ofList value)⟩
  | [] => none

/-- Something more is printed, unless it cannot be shown. -/
def Outcome.showing (o : Outcome σ) (view : View) : Outcome σ :=
  if o.escaped.isSome then o
  else
    match view with
    | .ok lines => { o with printed := o.printed ++ Screen.printed lines }
    | .error d => { o with status := 1, escaped := some (.failure (.defect d)) }

/-- Something escapes. -/
def Outcome.escaping (o : Outcome σ) (e : Escape) : Outcome σ :=
  { o with status := 1, escaped := some e }

/-- The outcome when a problem keeps a run from beginning. -/
def Outcome.refusing (o : Outcome σ) (p : Problem) : Outcome σ :=
  { o with status := 2 }.showing (textView ("[red]" ++ p.code ++ ":[/red] " ++ p.message))

/-- The outcome when a run has not even failed. -/
def Outcome.stopped (o : Outcome σ) : Failure → Outcome σ
  | .problem p => o.refusing p
  | .defect d => o.escaping (.failure (.defect d))

/-- The outcome with a text on lines of its own. -/
def Outcome.printing (o : Outcome σ) (s : String) : Outcome σ :=
  { o with printed := o.printed ++ s ++ "\n" }

/-- The status of a run. -/
def statusOf (success : Bool) : Nat :=
  if success then 0 else 1

/-- An operation on spreadsheets. -/
def execute (s : Surroundings σ) (config : String) (params : List String) (json : Bool) :
    Outcome σ :=
  if (s.fileAt? (Path.ofText config)).isNone then s.misused
  else
    match s.settings with
    | .error issues => (s.quiet 1 "").escaping (.issues issues)
    | .ok settings =>
      match s.form? config, params.mapM paramOf? with
      | some form, some params =>
        match Client.ofSettings settings [] with
        | .error d => (s.quiet 1 "").escaping (.failure (.defect d))
        | .ok client =>
          let course := SheetRun.execute (client.transport s.peer) settings form params
            (some (Credentials.bearer settings.accessToken)) { peer := s.start }
          let ended := { s.quiet 0 "" with traffic := course.session.service }
          match course.outcome with
          | .error e => ended.stopped e
          | .ok e =>
            let ended := { ended with status := statusOf e.success }
            if json then ended.printing (page e.document)
            else
              let shown := (ended.showing (.ok banner)).showing (.ok (envelopeView e))
              if e.params.isEmpty then shown else shown.showing (boundView e.params)
      | _, _ => s.misused

/-- A lookup for choices. -/
def lookup (s : Surroundings σ) (trigger : String) (config : Option String) (json : Bool) :
    Outcome σ :=
  if (config.map fun c => (s.fileAt? (Path.ofText c)).isNone).getD false then s.misused
  else
    match s.settings with
    | .error issues => (s.quiet 1 "").escaping (.issues issues)
    | .ok settings =>
      let form := match config with
        | some config => s.form? config
        | none => some []
      match form with
      | none => s.misused
      | some form =>
        match Client.ofSettings settings [] with
        | .error d => (s.quiet 1 "").escaping (.failure (.defect d))
        | .ok client =>
          let course := SheetRun.lookup (client.transport s.peer) settings (some trigger) form
            (some (Credentials.bearer settings.accessToken)) { peer := s.start }
          let ended := { s.quiet 0 "" with traffic := course.session.service }
          match course.outcome with
          | .error e => ended.stopped e
          | .ok e =>
            let ended := { ended with status := statusOf e.success }
            if json then ended.printing (page e.document)
            else if e.success then ended.showing (choicesView e.choices)
            else
              ended.showing
                (textView ("[red]Lookup failed:[/red] " ++ Document.displayedText? e.error))

/-- The document of a command. -/
def render (s : Surroundings σ) (config : String) (params : List String) (json : Bool) :
    Outcome σ :=
  match s.form? config, params.mapM paramOf? with
  | some form, some params =>
    match (CommandRun.render form params ()).outcome with
    | .error e => (s.quiet 0 "").stopped e
    | .ok e =>
      let ended := s.quiet (statusOf e.success) ""
      if json then ended.printing (page e.document)
      else ended.showing (.ok (envelopeView e))
  | _, _ => s.misused

/-- The sample document that a text gives; an empty one gives none. -/
def sampleOf? : Option String → Option (Option Members)
  | none => some none
  | some text =>
    if text.isEmpty then some none
    else
      match Document.read text.toList with
      | .ok (.obj m) => some (some m)
      | _ => none

/-- Ready-made forms for a collection. -/
def templates (s : Surroundings σ) (collection : String) (sample : Option String) (json : Bool) :
    Outcome σ :=
  match sampleOf? sample with
  | none => s.misused
  | some sample =>
    let all := Template.all (TemplateHints.ofSample collection sample)
    if json then (s.quiet 0 "").printing (page (.arr (all.map Template.document)))
    else (s.quiet 0 "").showing (.ok (all.flatMap templateView))

/-- The finding whether the services can be reached, and what passed on the way. -/
def reach (s : Surroundings σ) (settings : Settings) :
    Except Failure (List String) × Client.Traffic σ :=
  let start : Client.Traffic σ := { peer := s.start }
  let finding (good : Bool) (detail : String) :=
    ["API connectivity", if good then "OK" else "FAIL", detail]
  match Client.ofSettings settings [] with
  | .error d => (.error (.defect d), start)
  | .ok client =>
    match Credentials.usable (some (Credentials.bearer settings.accessToken)) with
    | .error p => (.ok (finding false p.message), start)
    | .ok credentials =>
      let request := WireRequest.plain "GET" settings.driveBaseUrl [("pageSize", "1")]
      let (outcome, session) := ((client.transport s.peer).dispatch credentials request).perform
        (Session.start start "")
      let result := match outcome with
        | .error (.defect d) => .error (.defect d)
        | .error (.problem p) => .ok (finding false p.message)
        | .ok response =>
          let status := "HTTP " ++ Numeral.text response.status.code
          .ok (if response.isSuccess then finding true status
            else finding false (status ++ ": " ++ response.refusalMessage))
      (result, session.service)

/-- The settings and whether the services can be reached. -/
def diagnose (s : Surroundings σ) : Outcome σ :=
  match s.settings with
  | .error issues => (s.quiet 1 "").escaping (.issues issues)
  | .ok settings =>
    let findings := [
      ["Sheets API", "OK", settings.sheetsBaseUrl],
      ["Drive API", "OK", settings.driveBaseUrl],
      ["Timeout", "OK", String.ofList (Document.displayedFloat settings.timeout) ++ "s"],
      ["Response cap", "OK", Numeral.text settings.maxResponseBytes ++ " bytes"]]
    if (settings.accessToken.getD "").isEmpty then
      (s.quiet 0 "").showing (findingsView
        (findings ++ [["Access token", "MISSING", "Run \x60formbridge doctor setup-token\x60"]]))
    else
      let (outcome, traffic) := reach s settings
      let ended := { s.quiet 0 "" with traffic }
      match outcome with
      | .error e => ended.escaping (.failure e)
      | .ok finding =>
        ended.showing (findingsView
          (findings ++ [["Access token", "OK", "configured"], finding]))

/-- What is printed to ask for a token. -/
def question : String := "Access token: \n"

/-- The first line that is not empty, and all questions asked until then. -/
def answered : List (List Char) → Option String × String
  | [] => (none, question ++ "\n")
  | line :: rest =>
    if line.isEmpty then
      let (answer, asked) := answered rest
      (answer, question ++ asked)
    else (some (String.ofList line), question)

/-- Lines that are typed in; the last one may lack its end. -/
def typedLines (typed : String) : List (List Char) :=
  let lines := Text.splitAt '\n' (Text.unifiedBreaks typed.toList)
  if lines.getLast? == some [] then lines.dropLast else lines

/-- A token is typed in and kept in the file of the user's settings. -/
def keepToken (s : Surroundings σ) : Outcome σ :=
  let (answer, asked) := answered (typedLines s.typed)
  match answer with
  | none => s.quiet 1 asked
  | some answer =>
    let token := Text.trimmed answer
    if token.isEmpty then s.quiet 2 asked
    else
      let file := UserFile.updated (s.textAt? s.userFile)
        [("FORMBRIDGE_ACCESS_TOKEN", some token)]
      { s.quiet 0 asked with userFile := some file }.showing
        (textView ("[green]Saved access token to:[/green] " ++ s.userFile.text))

/-- What the program does when asked for something. -/
def answer (s : Surroundings σ) : Request → Outcome σ
  | .execute config params json => execute s config params json
  | .lookup trigger config json => lookup s trigger config json
  | .render config params json => render s config params json
  | .templates collection sample json => templates s collection sample json
  | .operations => (s.quiet 0 "").showing operationsView
  | .diagnose => diagnose s
  | .keepToken => keepToken s

/-- What the program does with its arguments. -/
def run (s : Surroundings σ) (arguments : List String) : Outcome σ :=
  match request arguments with
  | .ok r => answer s r
  | .error .wrong => s.misused
  | .error .help => s.quiet 0 ""

end Shell
end FormDispatch
