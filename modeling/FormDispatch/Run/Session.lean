/-
# Sessions

The course of one request. A session holds the service that answers, what has been sent to it, the
events reported, the run with its states, and the bindings that have been filled for good. `Work` is
a piece of that course: it may fail, and what it has done until then stays done.

Specification, section 4.5.
-/

import FormDispatch.Run.Event
import FormDispatch.Substitution.Fields

namespace FormDispatch

/-- The course of one request so far; `σ` is the state of the service, `ρ` what is sent to it. -/
structure Session (σ ρ : Type) where
  service : σ
  /-- what has been sent, in order -/
  sent : List ρ
  /-- what has been reported, in order -/
  events : List Event
  run : Run
  /-- the bindings filled for good -/
  bound : List Substitution.BoundParameter

/-- A piece of the course of a request. -/
abbrev Work (σ ρ : Type) := ExceptT Failure (StateM (Session σ ρ))

namespace Session

variable {σ ρ : Type}

/-- A session in which nothing has happened. -/
def start (service : σ) (operation : String) : Session σ ρ :=
  ⟨service, [], [], .start operation, []⟩

/-- The session after more events. -/
def reporting (s : Session σ ρ) (events : List Event) : Session σ ρ :=
  { s with events := s.events ++ events }

end Session

/-- What a request comes to: a result or a failure that keeps it from having one, and all that
happened on the way. -/
structure Course (σ ρ α : Type) where
  outcome : Except Failure α
  session : Session σ ρ

namespace Work

variable {σ ρ : Type} {α : Type}

/-- What a piece of work gives, with the session after it. -/
def perform (work : Work σ ρ α) (s : Session σ ρ) : Except Failure α × Session σ ρ :=
  work.run s

/-- The course of a piece of work from a session on. -/
def courseFrom (work : Work σ ρ α) (s : Session σ ρ) : Course σ ρ α :=
  let (outcome, session) := work.perform s
  ⟨outcome, session⟩

/-- A result or failure as work that does nothing else. -/
def ofExcept : Except Failure α → Work σ ρ α
  | .ok a => pure a
  | .error e => throw e

/-- Events are reported. -/
def report (events : List Event) : Work σ ρ Unit :=
  modify fun s => s.reporting events

/-- The run enters a state. -/
def enter (next : RunState) : Work σ ρ Unit := do
  let s ← get
  match s.run.advance next with
  | .error d => throw (.defect d)
  | .ok run =>
    set { s with run, events := s.events ++ [Event.stateEntered run.operation s.run.current next] }

/-- The run fails by anything that may go wrong. -/
def failBy (e : Failure) : Work σ ρ Unit := do
  let s ← get
  report [.runFailed s.run.operation s.run.current e]
  enter .failed

/-- The run fails by a problem. -/
def fail (p : Problem) : Work σ ρ Unit :=
  failBy (.problem p)

/-- The bindings in the fields of a form are filled, unless the form does not want that. -/
def fillFields (fields : List String) (params : List Substitution.Param) (form : Members) :
    Work σ ρ (Members × List Substitution.BoundParameter) := do
  if Substitution.isEnabled form then
    enter .substituting
    let outcome := Substitution.inFields params form fields
    report (outcome.fields.map fun f => .fieldFilled f.field f.bound.length)
    match outcome.problem with
    | some p => throw (.problem p)
    | none => return (outcome.form, outcome.bound)
  else return (form, [])

/-- Filled bindings are kept for the result. -/
def keep (bound : List Substitution.BoundParameter) : Work σ ρ Unit :=
  modify fun s => { s with bound }

end Work
end FormDispatch
