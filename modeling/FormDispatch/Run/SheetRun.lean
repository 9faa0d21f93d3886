/-
# Runs on spreadsheets

One operation on spreadsheets from the form to the envelope: the bindings are filled, the
configuration is read and checked, what the operation depends on is looked up, the request is sent,
and the answer is turned into the result. Each of these stages is a state of the run. Only an
operation that there is not or whose name cannot be told, and credentials without a token, keep a
run from beginning; everything else ends in an envelope. A lookup for choices has no bindings and no
states.

Specification, sections 4.3, 4.5 and E10.
-/

import FormDispatch.Document.Told
import FormDispatch.Run.Envelope
import FormDispatch.Run.Service
import FormDispatch.Sheet.Catalog

namespace FormDispatch
namespace SheetRun

/-- The fields that may hold bindings. -/
def jsonFields : List String := ["rowObject", "rowObjects"]

/-- An answer to the request of an operation: its body turned into the result, or the refusal. -/
structure Answer where
  response : Response
  outcome : Except Problem Document

variable {σ : Type}

/-- The stages of an operation. -/
def stages (t : Transport σ) (settings : Settings) (method : Sheet.Method) (c : Credentials)
    (form : Members) (params : List Substitution.Param) : Work σ WireRequest Answer := do
  let (form, bound) ← Work.fillFields jsonFields params form
  Work.keep bound
  Work.enter .validating
  let config ← Work.ofExcept (Sheet.Config.ofForm form)
  Work.ofExcept (method.validate config)
  Work.enter .resolvingPrerequisites
  let lookup ← Work.ofExcept (method.lookup settings config)
  let prerequisite ← t.lookUp c lookup
  Work.enter .dispatching
  let request ← Work.ofExcept (method.request settings config prerequisite)
  let response ← t.dispatch c request
  if response.isSuccess then
    Work.enter .transformingResponse
    let body ← Work.ofExcept (response.body.mapError .problem)
    Work.report (method.notices body)
    let result ← Work.ofExcept (method.result config body)
    return ⟨response, .ok result⟩
  else return ⟨response, .error response.refusal⟩

/-- The status that a problem tells. -/
def statusOf : Problem → Option Int
  | .vendor status _ => status
  | _ => none

/-- The end of a run: its last state and its envelope. -/
def conclude (outcome : Except Failure Answer) : Work σ WireRequest Envelope := do
  let s ← get
  match outcome with
  | .ok ⟨response, .ok result⟩ =>
    Work.enter .done
    return .succeeded (some response.status.code) response.headers result s.bound
  | .ok ⟨response, .error p⟩ =>
    Work.fail p
    return .failure p (some response.status.code) response.headers s.bound
  | .error e =>
    let p := e.atStep s.run.current.name
    Work.fail p
    return .failure p (statusOf p) [] s.bound

/-- A field that names an operation, as a text. -/
def namedBy (form : Members) (field : String) : Except Defect (Option String) :=
  match Form.any? form field with
  | none => .ok none
  | some d => d.told.map some

/-- The entity and the command that a form names. -/
def names (form : Members) : Except Defect (Option String × Option String) := do
  let entity ← namedBy form "entity"
  let command ← namedBy form "command"
  return (entity, command)

/-- One operation on spreadsheets, from the names of its entity and command. -/
def executeAs (entity command : Option String) (t : Transport σ) (settings : Settings)
    (form : Members) (params : List Substitution.Param) (credentials : Option Credentials)
    (service : σ) : Course σ WireRequest Envelope :=
  let session : Session σ WireRequest := .start service (SheetOperation.keyOf entity command)
  match SheetOperation.resolve entity command with
  | .error p => ⟨.error (.problem p), session⟩
  | .ok operation =>
    match Credentials.usable credentials with
    | .error p => ⟨.error (.problem p), session⟩
    | .ok c =>
      let begun := session.reporting [.runStarted session.run.operation]
      let (outcome, reached) := (stages t settings operation.method c form params).perform begun
      (conclude outcome).courseFrom reached

/-- One operation on spreadsheets. -/
def execute (t : Transport σ) (settings : Settings) (form : Members)
    (params : List Substitution.Param) (credentials : Option Credentials) (service : σ) :
    Course σ WireRequest Envelope :=
  if form.isEmpty then ⟨.ok .noOperation, .start service ""⟩
  else
    match names form with
    | .error d => ⟨.error (.defect d), .start service ""⟩
    | .ok (entity, command) =>
      executeAs entity command t settings form params credentials service

/-- The stages of a lookup for choices. -/
def lookupStages (t : Transport σ) (settings : Settings) (method : Sheet.TriggerMethod)
    (c : Credentials) (form : Members) : Work σ WireRequest (Response × Document) := do
  let config ← Work.ofExcept (Sheet.Config.ofForm form)
  Work.ofExcept (method.validate config)
  let request ← Work.ofExcept (method.request settings config)
  let response ← t.dispatch c request
  let body ← Work.ofExcept (response.accepted.mapError .problem)
  Work.report (method.notices body)
  let choices ← Work.ofExcept (method.result config body)
  return (response, choices)

/-- What is reported about a lookup that failed. -/
def lookupFailure (trigger : Trigger) (e : Failure) : Event :=
  match e with
  | .problem (.vendor status wording) => .lookupRefused trigger.key status wording
  | e => .lookupFailed trigger.key e.name (e.atStep trigger.key).message

/-- A lookup for choices. -/
def lookup (t : Transport σ) (settings : Settings) (name : Option String) (form : Members)
    (credentials : Option Credentials) (service : σ) :
    Course σ WireRequest LookupEnvelope :=
  let session : Session σ WireRequest := .start service ""
  match Trigger.resolve name with
  | .error p => ⟨.error (.problem p), session⟩
  | .ok trigger =>
    match Credentials.usable credentials with
    | .error p => ⟨.error (.problem p), session⟩
    | .ok c =>
      let begun := session.reporting [.lookupStarted trigger.key]
      match (lookupStages t settings trigger.method c form).perform begun with
      | (.ok (response, choices), reached) =>
        ⟨.ok ⟨true, some response.status.code, choices, none⟩, reached⟩
      | (.error e, reached) =>
        let p := e.atStep trigger.key
        ⟨.ok (.failure p (statusOf p)), reached.reporting [lookupFailure trigger e]⟩

end SheetRun
end FormDispatch
