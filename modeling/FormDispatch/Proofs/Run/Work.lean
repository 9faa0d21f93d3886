/-
# The course of work

What each small piece of work gives and leaves behind: one law for each, and one for two pieces in
sequence. Most pieces only go on through states and report what they do. `Passes` says so of the
sessions before and after: nothing has been sent, nothing has been kept, and the states entered in
between are the given ones. The marks of a session put the states entered and the requests sent
into one order.

`Ensures` is the contract of a piece of work: what holds of its result and the session after it, and
what holds of the session after a failure. `Ensures.bind` composes two contracts.
-/

import FormDispatch.Proofs.Result
import FormDispatch.Run.Session

namespace FormDispatch

/-- What tells the order of a run: a state entered or a request sent. -/
inductive Mark where
  | entered (state : RunState)
  | requested (method url : String)
deriving DecidableEq

/-- The mark that an event sets, if it does. -/
def Event.mark? : Event → Option Mark
  | .stateEntered _ _ state => some (.entered state)
  | .requestSent method url => some (.requested method url)
  | _ => none

namespace Run

/-- A run that has entered no last state is not over. -/
theorem isLast_current {r : Run} (h : ∀ state ∈ r.history, state.isLast = false) :
    r.current.isLast = false :=
  h _ (by simp [history])

end Run

namespace Session

variable {σ ρ : Type}

/-- The marks of a session, in order. -/
def marks (s : Session σ ρ) : List Mark :=
  s.events.filterMap Event.mark?

/-- The session after its run has entered a state. -/
def entering (s : Session σ ρ) (next : RunState) : Session σ ρ :=
  { s with
    run := { s.run with current := next, past := s.run.current :: s.run.past }
    events := s.events ++ [.stateEntered s.run.operation s.run.current next] }

/-- A session that has gone on through states, and done nothing else that lasts. -/
structure Passes (s t : Session σ ρ) (states : List RunState) : Prop where
  service : t.service = s.service
  sent : t.sent = s.sent
  bound : t.bound = s.bound
  history : t.run.history = s.run.history ++ states
  marks : t.marks = s.marks ++ states.map .entered

namespace Passes

variable {s t u : Session σ ρ} {before after : List RunState}

theorem refl (s : Session σ ρ) : Passes s s [] := by
  constructor <;> simp

theorem trans (h : Passes s t before) (h' : Passes t u after) : Passes s u (before ++ after) where
  service := h'.service.trans h.service
  sent := h'.sent.trans h.sent
  bound := h'.bound.trans h.bound
  history := by rw [h'.history, h.history, List.append_assoc]
  marks := by rw [h'.marks, h.marks, List.map_append, List.append_assoc]

theorem entering (s : Session σ ρ) (next : RunState) : Passes s (s.entering next) [next] := by
  constructor <;>
    simp [Session.entering, Session.marks, Run.history, List.filterMap_append, Event.mark?]

/-- Events that set no mark leave nothing that lasts. -/
theorem reporting (s : Session σ ρ) {events : List Event} (h : ∀ e ∈ events, e.mark? = none) :
    Passes s (s.reporting events) [] := by
  constructor <;>
    simp [Session.reporting, Session.marks, List.filterMap_append, List.filterMap_eq_nil_iff.mpr h]

/-- A run that passes through states none of which is a last one is not over. -/
theorem isLast (h : Passes s t before) (hs : ∀ state ∈ s.run.history, state.isLast = false)
    (hbefore : ∀ state ∈ before, state.isLast = false) :
    ∀ state ∈ t.run.history, state.isLast = false := by
  intro state hstate
  rw [h.history, List.mem_append] at hstate
  exact hstate.elim (hs state) (hbefore state)

end Passes
end Session

namespace Work

variable {σ ρ α β : Type}

section Laws

variable (s : Session σ ρ)

@[simp] theorem perform_pure (a : α) : (pure a : Work σ ρ α).perform s = (.ok a, s) := rfl

@[simp] theorem perform_get : (get : Work σ ρ (Session σ ρ)).perform s = (.ok s, s) := rfl

@[simp] theorem perform_set (t : Session σ ρ) :
    (set t : Work σ ρ PUnit).perform s = (.ok ⟨⟩, t) := rfl

/-- The second piece of work starts where the first has ended, unless that has failed. -/
theorem perform_bind (work : Work σ ρ α) (next : α → Work σ ρ β) :
    (work >>= next).perform s =
      match work.perform s with
      | (.ok a, t) => (next a).perform t
      | (.error e, t) => (.error e, t) := by
  rcases h : work.perform s with ⟨e | a, t⟩ <;>
    simp only [perform, ExceptT.run] at h <;>
    simp [perform, ExceptT.run, bind, ExceptT.bind, ExceptT.mk, StateT.bind, ExceptT.bindCont, h]
  rfl

@[simp] theorem perform_ofExcept (x : Except Failure α) :
    (ofExcept x : Work σ ρ α).perform s = (x, s) := by
  cases x <;> rfl

@[simp] theorem perform_report (events : List Event) :
    (report events : Work σ ρ Unit).perform s = (.ok (), s.reporting events) := rfl

@[simp] theorem perform_keep (bound : List Substitution.BoundParameter) :
    (keep bound : Work σ ρ Unit).perform s = (.ok (), { s with bound }) := rfl

/-- A run that is not over enters any state. -/
theorem perform_enter {s : Session σ ρ} (h : s.run.current.isLast = false) (next : RunState) :
    (enter next : Work σ ρ Unit).perform s = (.ok (), s.entering next) := by
  simp [enter, perform_bind, Run.advance, h, Session.entering]

/-- A run that is over enters no state, and its session stays as it is. -/
theorem perform_enter_of_isLast {s : Session σ ρ} (h : s.run.current.isLast = true)
    (next : RunState) : (enter next : Work σ ρ Unit).perform s =
      (.error (.defect (.finished s.run.current.name)), s) := by
  simp only [enter, perform_bind, perform_get, Run.advance_of_isLast h]
  rfl

/-- A failing run enters its state of failure once it has told by what it fails. -/
theorem perform_failBy (e : Failure) : (failBy e : Work σ ρ Unit).perform s =
    (enter .failed : Work σ ρ Unit).perform
      (s.reporting [.runFailed s.run.operation s.run.current e]) := by
  simp only [failBy, perform_bind, perform_get, perform_report]

/-- A run that is not over fails by any problem. -/
theorem perform_fail {s : Session σ ρ} (h : s.run.current.isLast = false) (p : Problem) :
    (fail p : Work σ ρ Unit).perform s =
      (.ok (), (s.reporting
        [.runFailed s.run.operation s.run.current (.problem p)]).entering .failed) := by
  have hreported : (s.reporting
      [.runFailed s.run.operation s.run.current (.problem p)]).run.current.isLast = false := h
  rw [fail, perform_failBy, perform_enter hreported]

end Laws

/-! ### Filled fields -/

section Filling

variable (fields : List String) (params : List Substitution.Param) (form : Members)

/-- A form with its bindings filled, and these, unless the form does not want that. -/
def filling : Except Failure (Members × List Substitution.BoundParameter) :=
  if Substitution.isEnabled form then
    let outcome := Substitution.inFields params form fields
    match outcome.problem with
    | some p => .error (.problem p)
    | none => .ok (outcome.form, outcome.bound)
  else .ok (form, [])

/-- The states that a form's filling goes through. -/
def fillingStates : List RunState :=
  if Substitution.isEnabled form then [.substituting] else []

theorem isLast_fillingStates {state : RunState} (h : state ∈ fillingStates form) :
    state.isLast = false := by
  unfold fillingStates at h
  split at h
  · simp only [List.mem_singleton] at h
    rw [h]
    rfl
  · simp at h

/-- **Filling the fields of a form depends on the form and the parameters alone.** It goes through
its one state if the form wants it, and does nothing else that lasts. -/
theorem perform_fillFields {s : Session σ ρ} (h : s.run.current.isLast = false) :
    ∃ t, (fillFields fields params form : Work σ ρ _).perform s = (filling fields params form, t) ∧
      s.Passes t (fillingStates form) := by
  unfold fillFields filling fillingStates
  split
  · have hquiet : ∀ e ∈ (Substitution.inFields params form fields).fields.map
        (fun f => Event.fieldFilled f.field f.bound.length), e.mark? = none := by
      simp [Event.mark?]
    have hpasses := (Session.Passes.entering s .substituting).trans
      (Session.Passes.reporting (s.entering .substituting) hquiet)
    refine ⟨_, ?_, hpasses⟩
    simp only [perform_bind, perform_enter h, perform_report]
    cases (Substitution.inFields params form fields).problem <;> rfl
  · exact ⟨s, rfl, .refl s⟩

end Filling

/-! ### Contracts -/

/-- What holds after a piece of work: of its result and the session, or of its failure and the
session. -/
def Ends (post : α → Session σ ρ → Prop) (stop : Failure → Session σ ρ → Prop) :
    Except Failure α × Session σ ρ → Prop
  | (.ok a, s) => post a s
  | (.error e, s) => stop e s

/-- The contract of a piece of work, from all sessions that meet a condition. -/
def Ensures (pre : Session σ ρ → Prop) (work : Work σ ρ α) (post : α → Session σ ρ → Prop)
    (stop : Failure → Session σ ρ → Prop) : Prop :=
  ∀ s, pre s → Ends post stop (work.perform s)

namespace Ensures

variable {pre : Session σ ρ → Prop} {stop : Failure → Session σ ρ → Prop}
variable {post : β → Session σ ρ → Prop}

/-- The contracts of two pieces of work in sequence. -/
theorem bind {work : Work σ ρ α} {next : α → Work σ ρ β} {middle : α → Session σ ρ → Prop}
    (hwork : Ensures pre work middle stop) (hnext : ∀ a, Ensures (middle a) (next a) post stop) :
    Ensures pre (work >>= next) post stop := by
  intro s hs
  have hmiddle := hwork s hs
  rw [perform_bind]
  rcases h : work.perform s with ⟨e | a, t⟩
  · simpa [h, Ends] using hmiddle
  · rw [h] at hmiddle
    exact hnext a t hmiddle

/-- A result or failure leaves the session alone, and the rest starts from its result. -/
theorem ofExcept_bind {x : Except Failure α} {next : α → Work σ ρ β}
    (hstop : ∀ e, x = .error e → ∀ s, pre s → stop e s)
    (hnext : ∀ a, x = .ok a → Ensures pre (next a) post stop) :
    Ensures pre (ofExcept x >>= next) post stop := by
  intro s hs
  rw [perform_bind, perform_ofExcept]
  cases hx : x with
  | error e => exact hstop e hx s hs
  | ok a => exact hnext a hx s hs

/-- A condition that is no matter of the session may be taken apart. -/
theorem given {work : Work σ ρ β} {q : Prop} (h : q → Ensures pre work post stop) :
    Ensures (fun s => pre s ∧ q) work post stop :=
  fun s hs => h hs.2 s hs.1

theorem pure {b : β} (h : ∀ s, pre s → post b s) : Ensures pre (Pure.pure b) post stop :=
  fun s hs => h s hs

end Ensures
end Work
end FormDispatch
