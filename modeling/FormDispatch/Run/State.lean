/-
# The states of a run

A run goes through states from the first, `idle`, to one of the two last, `done` and `failed`. What
it keeps is the list of all states entered so far. It may enter any state next, but once it has
entered a last state it enters no other; to go on then is a defect. Each entry is a transition from
the state before.

`advance_of_isLast` says that a finished run stays as it is.

Specification, section 4.5.
-/

import FormDispatch.Problem

namespace FormDispatch

/-- The states of a run. -/
inductive RunState where
  | idle
  | substituting
  | validating
  | resolvingPrerequisites
  | dispatching
  | transformingResponse
  | done
  | failed
deriving DecidableEq

namespace RunState

/-- The name of a state. -/
def name : RunState → String
  | idle => "IDLE"
  | substituting => "SUBSTITUTING"
  | validating => "VALIDATING"
  | resolvingPrerequisites => "RESOLVING_PREREQUISITES"
  | dispatching => "DISPATCHING"
  | transformingResponse => "TRANSFORMING_RESPONSE"
  | done => "DONE"
  | failed => "FAILED"

/-- All states. -/
def all : List RunState :=
  [idle, substituting, validating, resolvingPrerequisites, dispatching, transformingResponse, done,
    failed]

/-- The state of a name. -/
def ofName? (name : String) : Option RunState :=
  all.find? fun s => s.name == name

/-- A state after which there is no other. -/
def isLast : RunState → Bool
  | done | failed => true
  | _ => false

end RunState

/-- The course of a run: what it does, and the states entered, the latest first. -/
structure Run where
  operation : String
  current : RunState
  /-- the states before the current one, the latest first -/
  past : List RunState
deriving DecidableEq

namespace Run

/-- A run that has not begun. -/
def start (operation : String) : Run :=
  ⟨operation, .idle, []⟩

/-- The states entered, in order. -/
def history (r : Run) : List RunState :=
  (r.current :: r.past).reverse

/-- The states entered, in order, the first apart. -/
def entered (r : Run) : List RunState :=
  r.history.tail

/-- The transitions made, in order. -/
def transitions (r : Run) : List (RunState × RunState) :=
  r.history.zip r.entered

/-- The run in its next state. -/
def advance (r : Run) (next : RunState) : Except Defect Run :=
  if r.current.isLast then .error (.finished r.current.name)
  else .ok { r with current := next, past := r.current :: r.past }

/-- A finished run does not go on. -/
theorem advance_of_isLast {r : Run} (h : r.current.isLast = true) (next : RunState) :
    r.advance next = .error (.finished r.current.name) := by
  simp [advance, h]

end Run
end FormDispatch
