/-
# Calls on a run

What may be asked of a run: that it enters a state, or that it fails. A run that is over refuses
either, and whoever asks may go on to ask for more. The transitions of a session are those that have
been reported while the run made them. A hook on transitions, where there is one, is called with
each as it is reported, and with nothing else.

Specification, section 4.5.
-/

import FormDispatch.Run.Session

namespace FormDispatch

/-- What may be asked of a run. -/
inductive RunCall where
  /-- to enter a state -/
  | advance (next : RunState)
  /-- to fail by something -/
  | fail (e : Failure)
deriving DecidableEq

namespace RunCall

/-- The state that a call leads to. -/
def target : RunCall → RunState
  | advance next => next
  | fail _ => .failed

/-- The work of a call. -/
def work {σ ρ : Type} : RunCall → Work σ ρ Unit
  | advance next => .enter next
  | fail e => .failBy e

end RunCall

namespace Session

variable {σ ρ : Type}

/-- The transitions reported, in order. -/
def transitions (s : Session σ ρ) : List (RunState × RunState) :=
  s.events.filterMap Event.transition?

/-- The session after calls on its run, each made whether or not those before it were refused. -/
def afterCalls (s : Session σ ρ) (calls : List RunCall) : Session σ ρ :=
  calls.foldl (fun s call => (call.work.perform s).2) s

end Session
end FormDispatch
