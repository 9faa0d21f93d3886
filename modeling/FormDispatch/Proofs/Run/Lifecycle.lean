/-
# A run ends once

Whatever is called on a run, and in whatever order, its history stays a true account of it. One call
does one of two things, told apart by the current state alone: a run that is not over goes on to the
target of the call and reports just that transition (`perform_work`), and one that is over refuses
the call (`perform_work_of_isLast`). A failure that is refused has been reported all the same, but
as no transition. `Session.Faithful` is what the history and the transitions of a session keep to
through either (`Faithful.perform`), and so through all calls from the start of a run on
(`Faithful.afterCalls`).

In a faithful session the current state is a last one exactly when the history holds a last state
(`Faithful.isOver_iff`). So a run takes every call until one of the two last states has been
reached, and none from then on, which is `ends_once`.
-/

import FormDispatch.Proofs.Run.Work
import FormDispatch.Run.Call

namespace FormDispatch

/-! ### Histories -/

/-- The pairs of neighbours in a list to whose end one more has come. -/
theorem zip_tail_concat {α : Type} (a b : α) :
    ∀ l : List α, (l ++ [a] ++ [b]).zip (l ++ [a] ++ [b]).tail =
      (l ++ [a]).zip (l ++ [a]).tail ++ [(a, b)]
  | [] => rfl
  | [_] => rfl
  | x :: y :: l => congrArg (List.cons (x, y)) (zip_tail_concat a b (y :: l))

theorem RunState.isLast_iff (state : RunState) :
    state.isLast = true ↔ state = .done ∨ state = .failed := by
  cases state <;> decide

namespace Run

theorem history_eq (r : Run) : r.history = r.past.reverse ++ [r.current] :=
  List.reverse_cons

theorem getLast?_history (r : Run) : r.history.getLast? = some r.current := by
  rw [history_eq, List.getLast?_concat]

end Run

/-! ### One call -/

namespace RunCall

variable {σ ρ : Type}

/-- What a call reports of a run before it goes on. -/
def notices (r : Run) : RunCall → List Event
  | advance _ => []
  | fail e => [.runFailed r.operation r.current e]

/-- A call tells what it has to tell, and then asks the run to enter its target. -/
theorem perform_work_eq (call : RunCall) (s : Session σ ρ) :
    call.work.perform s =
      (Work.enter call.target : Work σ ρ Unit).perform (s.reporting (call.notices s.run)) := by
  cases call with
  | advance next => simp [work, target, notices, Session.reporting]
  | fail e => exact Work.perform_failBy s e

/-- **A run that is not over takes every call.** -/
theorem perform_work {s : Session σ ρ} (h : s.run.current.isLast = false) (call : RunCall) :
    call.work.perform s = (.ok (), (s.reporting (call.notices s.run)).entering call.target) := by
  have hreported : (s.reporting (call.notices s.run)).run.current.isLast = false := h
  rw [perform_work_eq, Work.perform_enter hreported]

/-- **A run that is over takes no call.** -/
theorem perform_work_of_isLast {s : Session σ ρ} (h : s.run.current.isLast = true)
    (call : RunCall) : call.work.perform s =
      (.error (.defect (.finished s.run.current.name)), s.reporting (call.notices s.run)) := by
  have hreported : (s.reporting (call.notices s.run)).run.current.isLast = true := h
  rw [perform_work_eq, Work.perform_enter_of_isLast hreported]
  rfl

end RunCall

namespace Session

variable {σ ρ : Type} {s : Session σ ρ}

/-- What a call reports before the run goes on are no transitions. -/
@[simp] theorem transitions_reporting_notices (s : Session σ ρ) (call : RunCall) :
    (s.reporting (call.notices s.run)).transitions = s.transitions := by
  cases call <;> simp [RunCall.notices, reporting, transitions, Event.transition?]

@[simp] theorem transitions_entering (s : Session σ ρ) (next : RunState) :
    (s.entering next).transitions = s.transitions ++ [(s.run.current, next)] := by
  simp [entering, transitions, Event.transition?]

theorem history_entering (s : Session σ ρ) (next : RunState) :
    (s.entering next).run.history = s.run.history ++ [next] :=
  (Passes.entering s next).history

theorem transitions_run_entering (s : Session σ ρ) (next : RunState) :
    (s.entering next).run.transitions = s.run.transitions ++ [(s.run.current, next)] := by
  simp only [Run.transitions, Run.entered, history_entering]
  rw [Run.history_eq, zip_tail_concat]

/-- One of the two last states has been reached. -/
def IsOver (s : Session σ ρ) : Prop :=
  .done ∈ s.run.history ∨ .failed ∈ s.run.history

instance : Decidable s.IsOver :=
  inferInstanceAs (Decidable (_ ∨ _))

/-- The call is refused, since the run is over: it raises, and the state, the history and the
transitions stay as they are. -/
structure Refuses (s : Session σ ρ) (call : RunCall) : Prop where
  raises : ∃ e, (call.work.perform s).1 = .error e ∧ e.name = "RuntimeError" ∧
    e.message = "Execution already finished in state " ++ s.run.current.name
  run : (call.work.perform s).2.run = s.run
  transitions : (call.work.perform s).2.transitions = s.transitions

/-- The call is taken: it raises nothing, and the run goes on to the target of the call. -/
structure Takes (s : Session σ ρ) (call : RunCall) : Prop where
  returns : (call.work.perform s).1 = .ok ()
  current : (call.work.perform s).2.run.current = call.target
  history : (call.work.perform s).2.run.history = s.run.history ++ [call.target]
  transitions : (call.work.perform s).2.transitions =
    s.transitions ++ [(s.run.current, call.target)]

theorem refuses_of_isLast (h : s.run.current.isLast = true) (call : RunCall) :
    s.Refuses call where
  raises := by
    rw [RunCall.perform_work_of_isLast h]
    exact ⟨_, rfl, rfl, rfl⟩
  run := by
    rw [RunCall.perform_work_of_isLast h]
    rfl
  transitions := by
    rw [RunCall.perform_work_of_isLast h]
    exact transitions_reporting_notices s call

theorem takes_of_not_isLast (h : s.run.current.isLast = false) (call : RunCall) :
    s.Takes call where
  returns := by rw [RunCall.perform_work h]
  current := by
    rw [RunCall.perform_work h]
    rfl
  history := by
    rw [RunCall.perform_work h]
    exact history_entering _ _
  transitions := by
    rw [RunCall.perform_work h, transitions_entering, transitions_reporting_notices]
    rfl

/-! ### All calls -/

/-- A session that gives a true account of the states its run has gone through. -/
structure Faithful (s : Session σ ρ) : Prop where
  begins : s.run.history.head? = some .idle
  ends : s.run.history.getLast? = some s.run.current
  /-- there is one last state in the history at most -/
  once : s.run.history.countP RunState.isLast ≤ 1
  /-- what stands in front of another state is no last state -/
  goesOn : ∀ state ∈ s.run.history.dropLast, state.isLast = false
  /-- the transitions reported are those made: the pairs of states that follow each other -/
  told : s.transitions = s.run.transitions

theorem faithful_start (service : σ) (operation : String) :
    (start service operation : Session σ ρ).Faithful where
  begins := rfl
  ends := rfl
  once := Nat.zero_le 1
  goesOn := nofun
  told := rfl

namespace Faithful

/-- What is reported besides transitions changes nothing in the account. -/
theorem reporting (h : s.Faithful) {events : List Event}
    (hevents : (s.reporting events).transitions = s.transitions) :
    (s.reporting events).Faithful :=
  { h with told := hevents.trans h.told }

/-- No state of a run that is not over is a last one. -/
theorem isLast_history (h : s.Faithful) (hcurrent : s.run.current.isLast = false) :
    ∀ state ∈ s.run.history, state.isLast = false := by
  have hgoesOn := h.goesOn
  rw [Run.history_eq, List.dropLast_concat] at hgoesOn
  rw [Run.history_eq, List.forall_mem_append, List.forall_mem_singleton]
  exact ⟨hgoesOn, hcurrent⟩

/-- The account stays true when a run that is not over enters a state. -/
theorem entering (h : s.Faithful) (hcurrent : s.run.current.isLast = false) (next : RunState) :
    (s.entering next).Faithful where
  begins := by rw [history_entering, List.head?_append, h.begins, Option.some_or]
  ends := Run.getLast?_history _
  once := by
    have hnone : s.run.history.countP RunState.isLast = 0 :=
      List.countP_eq_zero.mpr fun state hstate => by simp [h.isLast_history hcurrent state hstate]
    rw [history_entering, List.countP_append, hnone, Nat.zero_add]
    exact List.countP_le_length
  goesOn := by
    rw [history_entering, List.dropLast_concat]
    exact h.isLast_history hcurrent
  told := by rw [transitions_entering, h.told, transitions_run_entering]

/-- **The account stays true with every call,** whether the call is taken or refused. -/
theorem perform (h : s.Faithful) (call : RunCall) : (call.work.perform s).2.Faithful := by
  -- what the call has to tell is reported in both cases, before the run is asked to go on
  have hreported := h.reporting (transitions_reporting_notices s call)
  cases hcurrent : s.run.current.isLast with
  | true =>
    rw [RunCall.perform_work_of_isLast hcurrent]
    exact hreported
  | false =>
    rw [RunCall.perform_work hcurrent]
    exact hreported.entering hcurrent _

/-- The account stays true with all calls, one after another. -/
theorem afterCalls (h : s.Faithful) (calls : List RunCall) : (s.afterCalls calls).Faithful := by
  induction calls generalizing s with
  | nil => exact h
  | cons call calls ih => exact ih (h.perform call)

/-- In a true account, a last state has been reached exactly when it is the current one. -/
theorem isOver_iff (h : s.Faithful) : s.IsOver ↔ s.run.current.isLast = true := by
  constructor
  · intro hover
    by_contra hcurrent
    have hunfinished := h.isLast_history (eq_false_of_ne_true hcurrent)
    obtain hdone | hfailed := hover
    · exact absurd (hunfinished _ hdone) (by decide)
    · exact absurd (hunfinished _ hfailed) (by decide)
  · intro hcurrent
    have hmem : s.run.current ∈ s.run.history := List.mem_of_getLast? h.ends
    obtain hdone | hfailed := s.run.current.isLast_iff.mp hcurrent
    · exact .inl (hdone ▸ hmem)
    · exact .inr (hfailed ▸ hmem)

end Faithful

/-- **A run ends once, and its trace is faithful.** Whatever calls a run has had from its start on,
its history goes from the first state to the current one and holds a last state at most at its end,
and the transitions reported are the pairs of states that follow each other in it. The next call is
refused if a last state has been reached, and taken if none has. -/
theorem ends_once {service : σ} {operation : String} {calls : List RunCall}
    (hs : (start service operation).afterCalls calls = s) (call : RunCall) :
    s.Faithful ∧ (s.IsOver → s.Refuses call) ∧ (¬s.IsOver → s.Takes call) := by
  have hfaithful : s.Faithful := hs ▸ (faithful_start service operation).afterCalls calls
  refine ⟨hfaithful, fun hover => ?_, fun hgoing => ?_⟩
  · exact refuses_of_isLast (hfaithful.isOver_iff.mp hover) call
  · rw [hfaithful.isOver_iff] at hgoing
    exact takes_of_not_isLast (eq_false_of_ne_true hgoing) call

/-- Calls by which a run fails while it validates, then fails again, and would be done after all. -/
def lateCalls : List RunCall :=
  [.advance .validating, .fail (.problem (.transport "bad")), .fail (.problem (.transport "again")),
    .advance .done]

/-- The session after the first so many of these calls. -/
def lateRun (count : Nat) : Session Unit Unit :=
  (start () "op").afterCalls (lateCalls.take count)

/-- The run takes two of the calls and refuses the two that follow. -/
theorem ends_once_late :
    ¬(lateRun 1).IsOver ∧ (lateRun 1).Takes (.fail (.problem (.transport "bad"))) ∧
      (lateRun 3).IsOver ∧ (lateRun 3).Refuses (.advance .done) ∧ (lateRun 4).Faithful ∧
      (lateRun 4).transitions = [(.idle, .validating), (.validating, .failed)] := by
  have hgoing : ¬(lateRun 1).IsOver := by decide
  have hover : (lateRun 3).IsOver := by decide
  have htaken := ends_once (s := lateRun 1) rfl (.fail (.problem (.transport "bad")))
  have hrefused := ends_once (s := lateRun 3) rfl (.advance .done)
  have hall := ends_once (s := lateRun 4) rfl (.advance .done)
  exact ⟨hgoing, htaken.2.2 hgoing, hover, hrefused.2.1 hover, hall.1, rfl⟩

end Session
end FormDispatch
