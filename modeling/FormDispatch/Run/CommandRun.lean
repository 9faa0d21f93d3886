/-
# Runs of commands

One command of the document database from the form to the envelope: the bindings of the kind of
command that the form names are filled, the command is read, checked and rendered, sent, and its
reply is turned into the result. A form may also be rendered without a database. A command that
there is not keeps a run from its end, and one whose name cannot be told keeps it from beginning;
when rendering, every defect keeps it from its end. Everything else ends in an envelope, which for
commands has neither a status nor headers.

Specification, sections 4.5 and E8.
-/

import FormDispatch.Command.Document
import FormDispatch.Document.Told
import FormDispatch.Run.Envelope
import FormDispatch.Run.Session

namespace FormDispatch

/-- Who runs commands. -/
structure Database (σ : Type) where
  run : σ → Members → Except Failure Document × σ

namespace CommandRun

/-- A command ready to be sent, with the bindings filled in its form. -/
structure Prepared where
  command : Command
  document : Members
  bound : List Substitution.BoundParameter

variable {σ : Type}

/-- What is reported about a command that takes defaults. -/
def defaultNotices (operation : String) (c : Command) : List Event :=
  if c.defaulted.isEmpty then [] else [.commandDefaulted operation c.defaulted]

/-- A form becomes a command that is ready to be sent. -/
def prepare (form : Members) (params : List Substitution.Param) : Work σ Members Prepared := do
  let kind ← Work.ofExcept (Command.kindOf form)
  let (form, bound) ← Work.fillFields kind.jsonFields params form
  Work.enter .validating
  let command ← Work.ofExcept (Command.ofForm form)
  if !command.missing.isEmpty then throw (.problem (.missingFields command.missing))
  let document ← Work.ofExcept command.document
  let s ← get
  Work.report (defaultNotices s.run.operation command)
  return ⟨command, document, bound⟩

/-- The number one, whole or not, is how a reply says that all went well; so does saying nothing. -/
def isGood (reply : Members) : Bool :=
  match reply.get? "ok" with
  | none => true
  | some (.int n) => n == 1
  | some (.float x) => x = Binary64.one
  | some _ => false

/-- The message of a reply that is not good, unless an integer in it is too long to be told. -/
def refusalMessage (reply : Members) : Except Defect String :=
  let stated := Document.ofOption (reply.get? "errmsg")
  if stated.isAbsent then .ok "Command failed" else stated.told

/-- The failure of a reply that is not good. -/
def refusal (reply : Members) : Failure :=
  match refusalMessage reply with
  | .ok wording => .problem (.vendor none wording)
  | .error d => .defect d

/-- The result of a reply. -/
def settled (c : Command) (reply : Document) : Work σ Members Document := do
  let members ← Work.ofExcept ((Command.replyMembers reply).mapError .defect)
  if !isGood members then throw (refusal members)
  Work.enter .transformingResponse
  Work.ofExcept ((c.result reply).mapError .defect)

/-- A document is sent to the database, and its reply awaited. -/
def dispatch (d : Database σ) (document : Members) : Work σ Members Document := do
  Work.report [.commandSent document.keys.head?]
  let s ← get
  let (outcome, service) := d.run s.service document
  set { s with service, sent := s.sent ++ [document] }
  Work.ofExcept outcome

/-- The stages of a command. -/
def stages (d : Database σ) (form : Members) (params : List Substitution.Param) :
    Work σ Members Document := do
  let prepared ← prepare form params
  Work.keep prepared.bound
  Work.enter .dispatching
  let reply ← dispatch d prepared.document
  settled prepared.command reply

/-- The stages of rendering a command. -/
def renderStages (form : Members) (params : List Substitution.Param) :
    Work σ Members Document := do
  let prepared ← prepare form params
  Work.keep prepared.bound
  return .obj prepared.document

/-- A run fails by a problem, and its envelope tells it. -/
def refused (p : Problem) : Work σ Members Envelope := do
  Work.fail p
  let s ← get
  return .failure p none [] s.bound

/-- A run is done, and its envelope holds the result. -/
def finished (result : Document) : Work σ Members Envelope := do
  Work.enter .done
  let s ← get
  return .succeeded none [] result s.bound

/-- The name under which a run is reported. -/
def operationName (form : Members) : Except Defect String :=
  (Document.ofOption (form.get? "command")).told

/-- A command under a name. -/
def executeAs (name : String) (d : Database σ) (form : Members)
    (params : List Substitution.Param) (service : σ) : Course σ Members Envelope :=
  let begun : Session σ Members := (Session.start service name).reporting [.runStarted name]
  let (outcome, reached) := (stages d form params).perform begun
  match outcome with
  | .ok result => (finished result).courseFrom reached
  | .error (.problem (.unknownOperation key known)) =>
    ⟨.error (.problem (.unknownOperation key known)), reached⟩
  | .error e => (refused (e.atStep reached.run.current.name)).courseFrom reached

/-- One command. -/
def execute (d : Database σ) (form : Members) (params : List Substitution.Param) (service : σ) :
    Course σ Members Envelope :=
  if form.isEmpty then ⟨.ok .noOperation, .start service ""⟩
  else
    match operationName form with
    | .error e => ⟨.error (.defect e), .start service ""⟩
    | .ok name => executeAs name d form params service

/-- The document that a form stands for, in an envelope, under a name. -/
def renderAs (name : String) (form : Members) (params : List Substitution.Param) (service : σ) :
    Course σ Members Envelope :=
  let (outcome, reached) := (renderStages form params).perform (.start service name)
  match outcome with
  | .ok result => (finished result).courseFrom reached
  | .error (.problem (.unknownOperation key known)) =>
    ⟨.error (.problem (.unknownOperation key known)), reached⟩
  | .error (.problem p) => (refused p).courseFrom reached
  | .error (.defect d) => ⟨.error (.defect d), reached⟩

/-- The document that a form stands for, in an envelope. -/
def render (form : Members) (params : List Substitution.Param) (service : σ) :
    Course σ Members Envelope :=
  if form.isEmpty then ⟨.ok .noOperation, .start service ""⟩
  else
    match operationName form with
    | .error e => ⟨.error (.defect e), .start service ""⟩
    | .ok name => renderAs name form params service

end CommandRun
end FormDispatch
