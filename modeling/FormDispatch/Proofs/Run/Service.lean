/-
# What is sent in which state

The log of a session lists the states that its run has entered, each with the requests that were
sent in it. `Logged` says that a session keeps to a log in all it remembers: in the history of its
run, in the requests sent, and in the order of its marks, where every request stands between the
state it was sent in and the next. A session that only passes through states has them in its log
without requests; one that sends a request has it in its latest state.

`perform_dispatch` is what dispatching a request comes to, and `perform_lookUp` what a lookup comes
to: it sends one request at most, and what it gives, `settledOf`, is a matter of the answer to that.
-/

import FormDispatch.Proofs.Document.Pairing
import FormDispatch.Proofs.Run.Work
import FormDispatch.Run.Service

namespace FormDispatch

/-- The states entered, each with the requests sent in it. -/
abbrev Log := List (RunState × List WireRequest)

namespace Log

/-- States in which nothing is sent. -/
def silent (states : List RunState) : Log :=
  states.map fun state => (state, [])

/-- The mark of a request. -/
def markOf (r : WireRequest) : Mark :=
  .requested r.method r.url

/-- The marks of one state. -/
def marksOf (visit : RunState × List WireRequest) : List Mark :=
  .entered visit.1 :: visit.2.map markOf

/-- The order in which a log has states entered and requests sent. -/
def marks (log : Log) : List Mark :=
  log.flatMap marksOf

/-- The requests of a log, in order. -/
def requests (log : Log) : List WireRequest :=
  log.flatMap Prod.snd

theorem marks_append (log more : Log) : (log ++ more : Log).marks = log.marks ++ more.marks := by
  simp [marks]

theorem requests_append (log more : Log) :
    (log ++ more : Log).requests = log.requests ++ more.requests := by
  simp [requests]

theorem states_silent (states : List RunState) : (silent states).map Prod.fst = states := by
  simp [silent, Function.comp_def]

theorem requests_silent (states : List RunState) : (silent states).requests = [] := by
  simp [silent, requests]

theorem marks_silent (states : List RunState) : (silent states).marks = states.map .entered := by
  induction states with
  | nil => rfl
  | cons state rest ih => simpa [silent, marks, marksOf] using ih

end Log

variable {σ : Type}

/-- A session that keeps to a log. -/
structure Session.Logged (s : Session σ WireRequest) (log : Log) : Prop where
  history : s.run.history = .idle :: log.map Prod.fst
  marks : s.marks = log.marks
  sent : s.sent = log.requests

namespace Session.Logged

variable {s u : Session σ WireRequest} {log : Log} {states : List RunState}

/-- A session that passes through states has them in its log. -/
theorem passes (h : s.Logged log) (hu : s.Passes u states) :
    u.Logged (log ++ Log.silent states) where
  history := by rw [hu.history, h.history, List.map_append, Log.states_silent, List.cons_append]
  marks := by rw [hu.marks, h.marks, Log.marks_append, Log.marks_silent]
  sent := by rw [hu.sent, h.sent, Log.requests_append, Log.requests_silent, List.append_nil]

theorem entering (h : s.Logged log) (next : RunState) :
    (s.entering next).Logged (log ++ [(next, [])]) :=
  h.passes (.entering s next)

theorem reporting (h : s.Logged log) {events : List Event} (hquiet : ∀ e ∈ events, e.mark? = none) :
    (s.reporting events).Logged log := by
  simpa [Log.silent] using h.passes (.reporting s hquiet)

/-- A run whose log has no last state goes on. -/
theorem isLast_current (h : s.Logged log) (hlog : ∀ visit ∈ log, visit.1.isLast = false) :
    s.run.current.isLast = false := by
  refine Run.isLast_current fun state hstate => ?_
  rw [h.history, List.mem_cons, List.mem_map] at hstate
  obtain rfl | ⟨visit, hvisit, rfl⟩ := hstate
  · rfl
  · exact hlog visit hvisit

end Session.Logged

/-- The body of an answer is accepted just when that is a success. -/
theorem Response.accepted_eq_ok {response : Response} {body : Document} :
    response.accepted = .ok body ↔ response.isSuccess = true ∧ response.body = .ok body := by
  unfold accepted
  split
  · next hsuccess => exact (and_iff_right hsuccess).symm
  · next hrefused => exact iff_of_false nofun fun h => hrefused h.1

/-- No surrogate is escaped in the body of an answer without its partner. -/
def Response.isPaired (response : Response) : Bool :=
  Document.isPaired (Text.utf8Text response.content).toList

/-- The body of an answer holds a document: it is read as the document, and no surrogate is escaped
in it without its partner, which would not be told as it is. -/
structure Response.Holds (response : Response) (body : Document) : Prop where
  read : response.body = .ok body
  paired : response.isPaired = true

namespace Transport

variable (t : Transport σ) (c : Credentials)

/-- A request carries the header of credentials. -/
def Carries (c : Credentials) (r : WireRequest) : Prop :=
  r.headers.get? WireRequest.authorizationHeader = some c.header

theorem carries_authorized (r : WireRequest) : Carries c (r.authorized c) := by
  simp [Carries, WireRequest.authorized]

/-- What is reported of a request: that it goes to the service, and its answer if there is one. -/
def dispatchEvents (r : WireRequest) (answer : Except Failure Response) : List Event :=
  .requestSent r.method r.url ::
    match answer with
    | .ok response => [.responseReceived r.method r.url response.status.code]
    | .error _ => []

theorem mark?_dispatchEvents (r : WireRequest) (answer : Except Failure Response) :
    (dispatchEvents r answer).filterMap Event.mark? = [Log.markOf r] := by
  cases answer <;> rfl

/-- The session after a request was dispatched: it was sent with the credentials. -/
def dispatched (s : Session σ WireRequest) (r : WireRequest) : Session σ WireRequest :=
  let answer := t.send s.service (r.authorized c)
  { s.reporting (dispatchEvents r answer.1) with
    service := answer.2, sent := s.sent ++ [r.authorized c] }

/-- **A dispatched request is sent once, with its credentials.** The answer is the service's. -/
theorem perform_dispatch (s : Session σ WireRequest) (r : WireRequest) :
    (t.dispatch c r).perform s =
      ((t.send s.service (r.authorized c)).1, t.dispatched c s r) := by
  have hservice : ((s.reporting [.requestSent r.method r.url]).service) = s.service := rfl
  simp only [dispatch, dispatched, dispatchEvents, Work.perform_bind, Work.perform_report,
    Work.perform_get, Work.perform_set, Work.perform_ofExcept, hservice]
  cases (t.send s.service (r.authorized c)).1 with
  | error e => rfl
  | ok response => simp [Session.reporting]

/-- A dispatched request stands in the log in the latest state. -/
theorem logged_dispatched {s : Session σ WireRequest} {log : Log} {state : RunState}
    {requests : List WireRequest} (h : s.Logged (log ++ [(state, requests)])) (r : WireRequest) :
    (t.dispatched c s r).Logged (log ++ [(state, requests ++ [r.authorized c])]) where
  history := by simpa [dispatched, Session.reporting] using h.history
  marks := by
    have hmarks : s.marks ++ [Log.markOf r] =
        Log.marks (log ++ [(state, requests ++ [r.authorized c])]) := by
      simp [h.marks, Log.marks, Log.marksOf, Log.markOf, WireRequest.authorized]
    rw [← hmarks, ← mark?_dispatchEvents r (t.send s.service (r.authorized c)).1]
    exact List.filterMap_append ..
  sent := by simp [dispatched, h.sent, Log.requests]

/-! ### Lookups -/

/-- What the answer to a lookup settles. -/
def settledOf (service : σ) : Option Sheet.Lookup → Except Failure Sheet.Prerequisite
  | none => .ok .none
  | some l => do
    let response ← (t.send service (l.request.authorized c)).1
    let body ← response.accepted.mapError .problem
    l.settle body

/-- The session after a lookup. -/
def lookedUp (s : Session σ WireRequest) : Option Sheet.Lookup → Session σ WireRequest
  | none => s
  | some l => t.dispatched c s l.request

/-- **A lookup sends one request at most,** and gives what the answer to it settles. -/
theorem perform_lookUp (s : Session σ WireRequest) (lookup : Option Sheet.Lookup) :
    (t.lookUp c lookup).perform s =
      (t.settledOf c s.service lookup, t.lookedUp c s lookup) := by
  cases lookup with
  | none => rfl
  | some l =>
    simp only [lookUp, settledOf, lookedUp, Work.perform_bind, perform_dispatch,
      Work.perform_ofExcept]
    cases (t.send s.service (l.request.authorized c)).1 with
    | error e => rfl
    | ok response =>
      simp only [bind, Except.bind]
      cases response.accepted.mapError Failure.problem <;> rfl

theorem logged_lookedUp {s : Session σ WireRequest} {log : Log} {state : RunState}
    (h : s.Logged (log ++ [(state, [])])) (lookup : Option Sheet.Lookup) :
    (t.lookedUp c s lookup).Logged
      (log ++ [(state, (lookup.map fun l => l.request.authorized c).toList)]) := by
  cases lookup with
  | none => exact h
  | some l => exact logged_dispatched t c h l.request

/-- The request of a lookup was answered by a success. -/
def Answered (service : σ) (r : WireRequest) : Prop :=
  ∃ response, (t.send service r).1 = .ok response ∧ response.isSuccess = true

/-- What has been settled comes from an answer that is a success. -/
theorem answered_of_settledOf {service : σ} {lookup : Option Sheet.Lookup}
    {prerequisite : Sheet.Prerequisite} (h : t.settledOf c service lookup = .ok prerequisite) :
    ∀ l ∈ lookup, t.Answered service (l.request.authorized c) := by
  rintro l rfl
  obtain ⟨response, hresponse, h⟩ := Result.bind_eq_ok.mp h
  obtain ⟨body, hbody, -⟩ := Result.bind_eq_ok.mp h
  exact ⟨response, hresponse, (Response.accepted_eq_ok.mp (Result.mapError_eq_ok.mp hbody)).1⟩

end Transport
end FormDispatch
