/-
# What an operation sends

The course of an operation on spreadsheets is a matter of its form and parameters, of the answer to
its lookup, and of nothing else before its own request is sent. `mainOf` is that request, as it
follows from what the form comes to and from what the lookup settles, in a function that sends
nothing. `stages_send` says that a run sends just the requests of its form, and fails as they do
where the main one does not come about. `execute_sends` says that a run has an envelope that tells
the bindings that were filled, and a success only where the main request was sent; `execute_fails`
that the envelope tells why there is none.
-/

import FormDispatch.Proofs.Run.SheetRun

namespace FormDispatch

namespace SheetRun

variable {σ : Type} (t : Transport σ) (settings : Settings) (method : Sheet.Method)
variable (c : Credentials) (form : Members) (params : List Substitution.Param) (service : σ)

/-! ### The requests of a form -/

/-- The main request, if the answer to the lookup leads to one. -/
def mainOf : Except Failure WireRequest := do
  let (config, lookup) ← preparedOf settings method form params
  let prerequisite ← t.settledOf c service lookup
  method.request settings config prerequisite

/-- The request of the lookup, if there is one. -/
def lookupOf : Option WireRequest :=
  (preparedOf settings method form params).toOption.bind fun (_, lookup) =>
    lookup.map Sheet.Lookup.request

/-- All requests of a run, in order. -/
def requestsOf : List WireRequest :=
  (lookupOf settings method form params).toList ++
    (mainOf t settings method c form params service).toOption.toList

/-- The bindings that are kept for the envelope. -/
def boundOf : List Substitution.BoundParameter :=
  match Work.filling jsonFields params form with
  | .ok (_, bound) => bound
  | .error _ => []

/-- A session that is not over, with the requests that it has sent and the bindings kept. -/
structure Standing (s : Session σ WireRequest) (requests : List WireRequest)
    (bound : List Substitution.BoundParameter) : Prop where
  going : s.run.current.isLast = false
  sent : s.sent = requests.map (·.authorized c)
  kept : s.bound = bound
  /-- the service is as it was until a request is sent -/
  untouched : requests = [] → s.service = service

/-- The session in which the stages of a form end. -/
def Stood (s : Session σ WireRequest) : Prop :=
  Standing c service s (requestsOf t settings method c form params service) (boundOf form params)

/-- The stages end without an answer, and where there is no main request, for the reason that it has
none. -/
def Fell (e : Failure) (s : Session σ WireRequest) : Prop :=
  Stood t settings method c form params service s ∧
    ∀ e', mainOf t settings method c form params service = .error e' → e = e'

namespace Standing

variable {c service}
variable {s : Session σ WireRequest} {requests : List WireRequest}
variable {bound : List Substitution.BoundParameter}
variable {stop : Failure → Session σ WireRequest → Prop}

theorem entering (h : Standing c service s requests bound) {state : RunState}
    (hstate : state.isLast = false) : Standing c service (s.entering state) requests bound :=
  ⟨hstate, h.sent, h.kept, h.untouched⟩

theorem dispatched (h : Standing c service s requests bound) (t : Transport σ) (r : WireRequest) :
    Standing c service (t.dispatched c s r) (requests ++ [r]) bound where
  going := h.going
  sent := by
    rw [List.map_append, ← h.sent]
    rfl
  kept := h.kept
  untouched := by simp

theorem lookedUp (h : Standing c service s [] bound) (t : Transport σ)
    (lookup : Option Sheet.Lookup) :
    Standing c service (t.lookedUp c s lookup) (lookup.map Sheet.Lookup.request).toList bound := by
  cases lookup with
  | none => exact h
  | some l => exact h.dispatched t l.request

theorem ensures_keep (bound : List Substitution.BoundParameter) :
    Work.Ensures (Standing c service · requests []) (Work.keep bound)
      (fun _ => (Standing c service · requests bound)) stop := by
  intro s h
  rw [Work.perform_keep]
  exact ⟨h.going, h.sent, rfl, h.untouched⟩

theorem ensures_report (events : List Event) : Work.Ensures (Standing c service · requests bound)
    (Work.report events) (fun _ => (Standing c service · requests bound)) stop := by
  intro s h
  rw [Work.perform_report]
  exact ⟨h.going, h.sent, h.kept, h.untouched⟩

theorem ensures_enter {state : RunState} (hstate : state.isLast = false) :
    Work.Ensures (Standing c service · requests bound) (Work.enter state)
      (fun _ => (Standing c service · requests bound)) stop := by
  intro s h
  rw [Work.perform_enter h.going]
  exact h.entering hstate

theorem ensures_dispatch (t : Transport σ) (r : WireRequest)
    (hstop : ∀ e s, Standing c service s (requests ++ [r]) bound → stop e s) :
    Work.Ensures (Standing c service · requests bound) (t.dispatch c r)
      (fun _ => (Standing c service · (requests ++ [r]) bound)) stop := by
  intro s h
  rw [t.perform_dispatch]
  cases (t.send s.service (r.authorized c)).1 with
  | error e => exact hstop e _ (h.dispatched t r)
  | ok response => exact h.dispatched t r

/-- A lookup that is the first to send gives what the answer to it settles. -/
theorem ensures_lookUp (t : Transport σ) (lookup : Option Sheet.Lookup)
    (hstop : ∀ e s, t.settledOf c service lookup = .error e →
      Standing c service s (lookup.map Sheet.Lookup.request).toList bound → stop e s) :
    Work.Ensures (Standing c service · [] bound) (t.lookUp c lookup)
      (fun prerequisite s => Standing c service s (lookup.map Sheet.Lookup.request).toList bound ∧
        t.settledOf c service lookup = .ok prerequisite) stop := by
  intro s h
  rw [t.perform_lookUp, h.untouched rfl]
  cases hsettled : t.settledOf c service lookup with
  | error e => exact hstop e _ hsettled (h.lookedUp t lookup)
  | ok prerequisite => exact ⟨h.lookedUp t lookup, rfl⟩

end Standing

/-! ### The stages -/

section Stages

variable {t settings method c form params service}

theorem requestsOf_of_error {e : Failure} (h : preparedOf settings method form params = .error e) :
    requestsOf t settings method c form params service = [] := by
  simp only [requestsOf, lookupOf, mainOf, h, bind, Except.bind]
  rfl

theorem mainOf_of_ok {config : Sheet.Config} {lookup : Option Sheet.Lookup}
    (h : preparedOf settings method form params = .ok (config, lookup)) :
    mainOf t settings method c form params service =
      t.settledOf c service lookup >>= method.request settings config := by
  rw [mainOf, h]
  rfl

theorem requestsOf_of_ok {config : Sheet.Config} {lookup : Option Sheet.Lookup}
    (h : preparedOf settings method form params = .ok (config, lookup)) :
    requestsOf t settings method c form params service =
      (lookup.map Sheet.Lookup.request).toList ++
        (mainOf t settings method c form params service).toOption.toList := by
  rw [requestsOf, lookupOf, h]
  rfl

/-- Where nothing is prepared, nothing is sent. -/
theorem Standing.fell_of_error {s : Session σ WireRequest} {e : Failure}
    (h : Standing c service s [] (boundOf form params))
    (hprepared : preparedOf settings method form params = .error e) :
    Fell t settings method c form params service e s := by
  refine ⟨?_, fun e' hmain => ?_⟩
  · rw [Stood, requestsOf_of_error hprepared]
    exact h
  · simp only [mainOf, hprepared, bind, Except.bind, Except.error.injEq] at hmain
    exact hmain

/-- Where a lookup leads to no main request, nothing is sent after it. -/
theorem Standing.fell_of_main {s : Session σ WireRequest} {e : Failure} {config : Sheet.Config}
    {lookup : Option Sheet.Lookup}
    (h : Standing c service s (lookup.map Sheet.Lookup.request).toList (boundOf form params))
    (hprepared : preparedOf settings method form params = .ok (config, lookup))
    (hmain : mainOf t settings method c form params service = .error e) :
    Fell t settings method c form params service e s := by
  refine ⟨?_, fun e' he' => Except.error.inj (hmain.symm.trans he')⟩
  rw [Stood, requestsOf_of_ok hprepared, hmain]
  simpa [Except.toOption] using h

variable (t settings method c form params service)

/-- **A run sends the requests of its form.** If its stages end with an answer, the main request is
one of them; if there is no main request, they end for the same reason. -/
theorem stages_send {s : Session σ WireRequest}
    (hgoing : ∀ state ∈ s.run.history, state.isLast = false)
    (hsent : s.sent = []) (hbound : s.bound = []) (hservice : s.service = service) :
    Work.Ends (fun _ s => Stood t settings method c form params service s ∧
        ∃ r, mainOf t settings method c form params service = .ok r)
      (Fell t settings method c form params service)
      ((stages t settings method c form params).perform s) := by
  obtain ⟨u, hu, hpasses⟩ :=
    Work.perform_fillFields jsonFields params form (Run.isLast_current hgoing)
  have hlast := hpasses.isLast hgoing fun _ => Work.isLast_fillingStates form
  have hstanding : Standing c service u [] [] :=
    { going := Run.isLast_current hlast
      sent := hpasses.sent.trans hsent
      kept := hpasses.bound.trans hbound
      untouched := fun _ => hpasses.service.trans hservice }
  rw [stages, Work.perform_bind, hu]
  cases hfilling : Work.filling jsonFields params form with
  | error e =>
    have hkept : boundOf form params = [] := by rw [boundOf, hfilling]
    exact Standing.fell_of_error (hkept ▸ hstanding) (by rw [preparedOf, hfilling]; rfl)
  | ok filled =>
    have hkept : boundOf form params = filled.2 := by rw [boundOf, hfilling]
    refine (?_ : Work.Ensures (Standing c service · [] []) _ _ _) u hstanding
    refine (Standing.ensures_keep filled.2).bind fun _ => ?_
    rw [← hkept]
    refine (Standing.ensures_enter rfl).bind fun _ => ?_
    refine Work.Ensures.ofExcept_bind (fun e he s h => ?_) fun config hconfig => ?_
    · exact h.fell_of_error (by simp only [preparedOf, hfilling, he, bind, Except.bind])
    refine Work.Ensures.ofExcept_bind (fun e he s h => ?_) fun _ hvalid => ?_
    · exact h.fell_of_error (by simp only [preparedOf, hfilling, hconfig, he, bind, Except.bind])
    refine (Standing.ensures_enter rfl).bind fun _ => ?_
    refine Work.Ensures.ofExcept_bind (fun e he s h => ?_) fun lookup hlookup => ?_
    · exact h.fell_of_error
        (by simp only [preparedOf, hfilling, hconfig, hvalid, he, bind, Except.bind])
    have hprepared : preparedOf settings method form params = .ok (config, lookup) := by
      simp only [preparedOf, hfilling, hconfig, hvalid, hlookup, bind, Except.bind]
      rfl
    have hmain : mainOf t settings method c form params service =
        t.settledOf c service lookup >>= method.request settings config := mainOf_of_ok hprepared
    refine (Standing.ensures_lookUp t lookup fun e s hsettled h => ?_).bind fun prerequisite => ?_
    · exact h.fell_of_main hprepared (hmain.trans (Result.bind_eq_error.mpr (.inl hsettled)))
    refine Work.Ensures.given fun hsettled => ?_
    refine (Standing.ensures_enter rfl).bind fun _ => ?_
    refine Work.Ensures.ofExcept_bind (fun e he s h => ?_) fun request hrequest => ?_
    · exact h.fell_of_main hprepared
        (hmain.trans (Result.bind_eq_error.mpr (.inr ⟨prerequisite, hsettled, he⟩)))
    have hasked : mainOf t settings method c form params service = .ok request :=
      hmain.trans (Result.bind_eq_ok.mpr ⟨prerequisite, hsettled, hrequest⟩)
    have hsent : requestsOf t settings method c form params service =
        (lookup.map Sheet.Lookup.request).toList ++ [request] := by
      rw [requestsOf_of_ok hprepared, hasked]
      rfl
    -- from here on the main request has been sent, so the stages may end in any way
    have hfell : ∀ e s, Stood t settings method c form params service s →
        Fell t settings method c form params service e s := by
      refine fun e s h => ⟨h, fun e' he' => ?_⟩
      rw [hasked] at he'
      cases he'
    unfold Stood at hfell ⊢
    rw [hsent] at hfell ⊢
    refine (Standing.ensures_dispatch t request hfell).bind fun response => ?_
    split
    · refine (Standing.ensures_enter rfl).bind fun _ => ?_
      refine Work.Ensures.ofExcept_bind (fun e _ => hfell e) fun body _ => ?_
      refine (Standing.ensures_report _).bind fun _ => ?_
      refine Work.Ensures.ofExcept_bind (fun e _ => hfell e) fun result _ => ?_
      exact .pure fun s h => ⟨h, request, hasked⟩
    · exact .pure fun s h => ⟨h, request, hasked⟩

end Stages

/-! ### The whole run -/

section Whole

variable {form : Members} {entity command : Option String} {operation : SheetOperation}
variable {credentials : Option Credentials} {c : Credentials}

/-- A form that names an operation runs it. -/
theorem execute_eq_executeAs (hnames : names form = .ok (entity, command))
    (hoperation : SheetOperation.resolve entity command = .ok operation)
    (t : Transport σ) (settings : Settings) (params : List Substitution.Param)
    (credentials : Option Credentials) (service : σ) :
    execute t settings form params credentials service =
      executeAs entity command t settings form params credentials service := by
  have hform : form.isEmpty = false := by
    rw [Bool.eq_false_iff]
    intro hempty
    rw [List.isEmpty_iff.mp hempty] at hnames
    cases hnames
    cases hoperation
  simp only [execute, hform, hnames, Bool.false_eq_true, if_false]

/-- An operation that is begun ends as its stages do, which send the requests of the form. -/
theorem execute_ends (t : Transport σ) (settings : Settings) (params : List Substitution.Param)
    (service : σ) (hnames : names form = .ok (entity, command))
    (hoperation : SheetOperation.resolve entity command = .ok operation)
    (husable : Credentials.usable credentials = .ok c) :
    ∃ outcome reached, execute t settings form params credentials service =
        (conclude outcome).courseFrom reached ∧
      Stood t settings operation.method c form params service reached ∧
      (IsResult outcome →
        ∃ r, mainOf t settings operation.method c form params service = .ok r) ∧
      ∀ e, mainOf t settings operation.method c form params service = .error e →
        outcome = .error e := by
  let begun : Session σ WireRequest := (Session.start service
    (SheetOperation.keyOf entity command)).reporting
      [.runStarted (SheetOperation.keyOf entity command)]
  have hgoing : ∀ state ∈ begun.run.history, state.isLast = false := by
    simp [begun, Session.reporting, Session.start, Run.start, Run.history, RunState.isLast]
  have hstages := stages_send t settings operation.method c form params service hgoing rfl rfl rfl
  rcases hended : (stages t settings operation.method c form params).perform begun with
    ⟨outcome, reached⟩
  rw [hended] at hstages
  refine ⟨outcome, reached, ?_, ?_⟩
  · rw [execute_eq_executeAs hnames hoperation]
    simp only [executeAs, hoperation, husable]
    exact congrArg (fun ended => (conclude ended.1).courseFrom ended.2) hended
  · cases outcome with
    | error e =>
      obtain ⟨hstood, hfell⟩ := hstages
      refine ⟨hstood, ?_, fun e' he' => congrArg _ (hfell e' he')⟩
      rintro ⟨_, _, hresult⟩
      cases hresult
    | ok answer =>
      obtain ⟨hstood, r, hasked⟩ := hstages
      refine ⟨hstood, fun _ => ⟨r, hasked⟩, fun e he => ?_⟩
      rw [hasked] at he
      cases he

/-- **An operation that is begun has an envelope.** It tells the bindings that were filled, what was
sent are the requests of the form, and a success is told only where the main request is one of
them. -/
theorem execute_sends (t : Transport σ) (settings : Settings) (params : List Substitution.Param)
    (service : σ) (hnames : names form = .ok (entity, command))
    (hoperation : SheetOperation.resolve entity command = .ok operation)
    (husable : Credentials.usable credentials = .ok c) :
    ∃ envelope s, execute t settings form params credentials service = ⟨.ok envelope, s⟩ ∧
      envelope.params = boundOf form params ∧
      s.sent = (requestsOf t settings operation.method c form params service).map
        (·.authorized c) ∧
      (envelope.success = true →
        ∃ r, mainOf t settings operation.method c form params service = .ok r) := by
  obtain ⟨outcome, reached, hexecute, hstood, hasked, -⟩ :=
    execute_ends t settings params service hnames hoperation husable
  obtain ⟨envelope, events, last, hcourse, hparams, -, hend⟩ :=
    conclude_course hstood.going outcome
  refine ⟨envelope, (reached.reporting events).entering last, hexecute.trans hcourse,
    hparams.trans hstood.kept, hstood.sent, fun hsuccess => ?_⟩
  obtain ⟨hresult, -, -⟩ | ⟨-, hfailed⟩ := hend
  · exact hasked hresult
  · rw [hfailed] at hsuccess
    cases hsuccess

/-- **A problem that keeps the main request from being made is told by the envelope,** and no more
than the lookup is sent. -/
theorem execute_fails (t : Transport σ) (settings : Settings) (params : List Substitution.Param)
    (service : σ) (hnames : names form = .ok (entity, command))
    (hoperation : SheetOperation.resolve entity command = .ok operation)
    (husable : Credentials.usable credentials = .ok c) {p : Problem}
    (hmain : mainOf t settings operation.method c form params service = .error (.problem p)) :
    ∃ s, execute t settings form params credentials service =
        ⟨.ok (.failure p (statusOf p) [] (boundOf form params)), s⟩ ∧
      s.sent = ((lookupOf settings operation.method form params).map (·.authorized c)).toList := by
  obtain ⟨outcome, reached, hexecute, hstood, -, hfell⟩ :=
    execute_ends t settings params service hnames hoperation husable
  rw [hexecute, hfell _ hmain]
  refine ⟨(reached.reporting [.runFailed reached.run.operation reached.run.current
    (.problem p)]).entering .failed, ?_, ?_⟩
  · simp only [Work.courseFrom, conclude, Work.perform_bind, Work.perform_get,
      Work.perform_fail hstood.going, Work.perform_pure, Failure.atStep, hstood.kept]
  · refine hstood.sent.trans ?_
    rw [requestsOf, hmain]
    cases lookupOf settings operation.method form params <;> rfl

end Whole

end SheetRun
end FormDispatch
