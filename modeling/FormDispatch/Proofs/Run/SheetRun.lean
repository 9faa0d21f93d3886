/-
# The course of an operation on spreadsheets

The stages of an operation have an order, and two of them send a request at most. The plan of an
operation lists them with these requests; a run enters the stages of its plan one after the other
and may end after any of them. `preparedOf` is what a form and parameters come to, as a function
that sends nothing. `Reached` says how far a session has come: its log is that of the filling and of
so many stages, its requests are those of the form, and `Ready` keeps the dispatch behind the
lookup. `stages_ensures` shows it of the session in which the stages end, from one contract for the
entry into a stage and one for each of the two that send.

`execute_orderly` is the contract of a whole run.
-/

import FormDispatch.Proofs.Form
import FormDispatch.Proofs.Run.Service
import FormDispatch.Run.SheetRun

namespace FormDispatch
namespace SheetRun

variable {σ : Type} (t : Transport σ) (settings : Settings) (method : Sheet.Method)
variable (c : Credentials) (form : Members) (params : List Substitution.Param) (service : σ)

/-- The stages of an operation in order, each with the request sent in it, if there is one. -/
def plan (lookup main : Option WireRequest) : Log :=
  [(.validating, []), (.resolvingPrerequisites, lookup.toList), (.dispatching, main.toList),
    (.transformingResponse, [])]

/-- The configuration that a form and parameters come to, if it fits, and what has to be looked
up. -/
def preparedOf : Except Failure (Sheet.Config × Option Sheet.Lookup) := do
  let filled ← Work.filling jsonFields params form
  let config ← Sheet.Config.ofForm filled.1
  method.validate config
  let lookup ← method.lookup settings config
  return (config, lookup)

/-- A request is that of the lookup that a form comes to, as it is sent. -/
def LooksUp (r : WireRequest) : Prop :=
  ∃ config l, preparedOf settings method form params = .ok (config, some l) ∧
    r = l.request.authorized c

/-- A request is the main one of the configuration that a form comes to, as it is sent. -/
def Asks (r : WireRequest) : Prop :=
  ∃ config l prerequisite request, preparedOf settings method form params = .ok (config, l) ∧
    method.request settings config prerequisite = .ok request ∧ r = request.authorized c

/-- What a run has behind it after so many stages: from the dispatch on, the lookup that its form
comes to, if there is one, was sent and answered by a success, and after the dispatch the main
request was sent. -/
structure Ready (stages : Nat) (lookup main : Option WireRequest) : Prop where
  lookedUp : 3 ≤ stages → ∃ config l, preparedOf settings method form params = .ok (config, l) ∧
    lookup = l.map fun l => l.request.authorized c
  answered : 3 ≤ stages → ∀ r ∈ lookup, t.Answered service r
  dispatched : 4 ≤ stages → main.isSome = true

/-- The log of a run that has entered so many stages. -/
def logOf (stages : Nat) (lookup main : Option WireRequest) : Log :=
  Log.silent (Work.fillingStates form) ++ (plan lookup main).take stages

/-- How far a session has come. -/
structure Reached (s : Session σ WireRequest) (stages : Nat) (lookup main : Option WireRequest) :
    Prop where
  within : stages ≤ 4
  logged : s.Logged (logOf form stages lookup main)
  looksUp : ∀ r ∈ lookup, LooksUp settings method c form params r
  asks : ∀ r ∈ main, Asks settings method c form params r
  ready : Ready t settings method c form params service stages lookup main
  /-- the service is as it was until a request is sent -/
  untouched : lookup = none → main = none → s.service = service

/-- A session has come as far as it may have when the work stops. -/
def Stopped (s : Session σ WireRequest) : Prop :=
  ∃ stages lookup main, Reached t settings method c form params service s stages lookup main

section Steps

variable {t settings method c form params service}
variable {s : Session σ WireRequest} {stages : Nat} {lookup main : Option WireRequest}

theorem isLast_plan {visit : RunState × List WireRequest} (h : visit ∈ plan lookup main) :
    visit.1.isLast = false := by
  simp only [plan, List.mem_cons, List.not_mem_nil, or_false] at h
  obtain rfl | rfl | rfl | rfl := h <;> rfl

theorem isLast_logOf {visit : RunState × List WireRequest}
    (h : visit ∈ logOf form stages lookup main) : visit.1.isLast = false := by
  simp only [logOf, List.mem_append, Log.silent, List.mem_map] at h
  obtain ⟨state, hstate, rfl⟩ | h := h
  · exact Work.isLast_fillingStates form hstate
  · exact isLast_plan (List.mem_of_mem_take h)

theorem Ready.early (h : stages ≤ 2) :
    Ready t settings method c form params service stages lookup main :=
  ⟨fun h' => by omega, fun h' => by omega, fun h' => by omega⟩

theorem Reached.isLast_current
    (h : Reached t settings method c form params service s stages lookup main) :
    s.run.current.isLast = false :=
  h.logged.isLast_current fun _ hvisit => isLast_logOf hvisit

/-- Every request sent carries the credentials. -/
theorem Reached.carries (h : Reached t settings method c form params service s stages lookup main)
    {r : WireRequest} (hr : r ∈ s.sent) : Transport.Carries c r := by
  have hplan : r ∈ (plan lookup main).requests := by
    rw [h.logged.sent, logOf, Log.requests_append, Log.requests_silent, List.nil_append] at hr
    obtain ⟨visit, hvisit, hr⟩ := List.mem_flatMap.mp hr
    exact List.mem_flatMap.mpr ⟨visit, List.mem_of_mem_take hvisit, hr⟩
  simp only [plan, Log.requests, List.flatMap_cons, List.flatMap_nil, List.nil_append,
    List.append_nil, List.mem_append, Option.mem_toList] at hplan
  obtain hlookup | hmain := hplan
  · obtain ⟨_, l, _, rfl⟩ := h.looksUp r hlookup
    exact Transport.carries_authorized c _
  · obtain ⟨_, _, _, request, _, _, rfl⟩ := h.asks r hmain
    exact Transport.carries_authorized c _

/-- Entering the next stage of the plan. -/
theorem Reached.entering (h : Reached t settings method c form params service s stages lookup main)
    {state : RunState} (hplan : (plan lookup main)[stages]? = some (state, []))
    (hready : Ready t settings method c form params service (stages + 1) lookup main) :
    Reached t settings method c form params service (s.entering state) (stages + 1) lookup
      main where
  within := (List.getElem?_eq_some_iff.mp hplan).choose
  logged := by
    have hlog := h.logged.entering state
    rwa [logOf, List.append_assoc, ← Option.toList_some, ← hplan, ← List.take_add_one] at hlog
  looksUp := h.looksUp
  asks := h.asks
  ready := hready
  untouched := h.untouched

theorem Reached.reporting (h : Reached t settings method c form params service s stages lookup main)
    {events : List Event} (hquiet : ∀ e ∈ events, e.mark? = none) :
    Reached t settings method c form params service (s.reporting events) stages lookup main :=
  { h with logged := h.logged.reporting hquiet }

theorem Reached.stopped (h : Reached t settings method c form params service s stages lookup main) :
    Stopped t settings method c form params service s :=
  ⟨stages, lookup, main, h⟩

end Steps

/-! ### One contract for each kind of step -/

section Contracts

variable {t settings method c form params service}
variable {stages : Nat} {lookup main : Option WireRequest}
variable {stop : Failure → Session σ WireRequest → Prop}

theorem ensures_keep (bound : List Substitution.BoundParameter) :
    Work.Ensures (Reached t settings method c form params service · stages lookup main)
      (Work.keep bound)
      (fun _ => (Reached t settings method c form params service · stages lookup main)) stop := by
  intro s h
  rw [Work.perform_keep]
  exact { h with logged := ⟨h.logged.history, h.logged.marks, h.logged.sent⟩ }

theorem ensures_report {events : List Event} (hquiet : ∀ e ∈ events, e.mark? = none) :
    Work.Ensures (Reached t settings method c form params service · stages lookup main)
      (Work.report events)
      (fun _ => (Reached t settings method c form params service · stages lookup main)) stop := by
  intro s h
  rw [Work.perform_report]
  exact h.reporting hquiet

theorem ensures_enter {state : RunState} (hplan : (plan lookup main)[stages]? = some (state, []))
    (hready : Ready t settings method c form params service stages lookup main →
      Ready t settings method c form params service (stages + 1) lookup main) :
    Work.Ensures (Reached t settings method c form params service · stages lookup main)
      (Work.enter state)
      (fun _ => (Reached t settings method c form params service · (stages + 1) lookup main))
      stop := by
  intro s h
  rw [Work.perform_enter h.isLast_current]
  exact h.entering hplan (hready h.ready)

/-- The lookup sends the request that the form comes to, and goes on only after a success. -/
theorem ensures_lookUp {config : Sheet.Config} {l : Option Sheet.Lookup}
    (hprepared : preparedOf settings method form params = .ok (config, l)) :
    Work.Ensures (Reached t settings method c form params service · 2 none none) (t.lookUp c l)
      (fun prerequisite s => Reached t settings method c form params service s 2
          (l.map fun l => l.request.authorized c) none ∧
        t.settledOf c service l = .ok prerequisite)
      (fun _ => Stopped t settings method c form params service) := by
  intro s h
  have hlogged : s.Logged (Log.silent (Work.fillingStates form) ++ [(.validating, [])] ++
      [(.resolvingPrerequisites, [])]) := by
    simpa [logOf, plan] using h.logged
  have hreached : Reached t settings method c form params service (t.lookedUp c s l) 2
      (l.map fun l => l.request.authorized c) none :=
    { within := h.within
      logged := by simpa [logOf, plan] using t.logged_lookedUp c hlogged l
      looksUp := fun r hr => by
        obtain ⟨l, rfl, rfl⟩ := Option.map_eq_some_iff.mp hr
        exact ⟨config, l, hprepared, rfl⟩
      asks := h.asks
      ready := .early (Nat.le_refl 2)
      untouched := fun hnone _ => by
        rw [Option.map_eq_none_iff.mp hnone]
        exact h.untouched rfl rfl }
  rw [t.perform_lookUp, h.untouched rfl rfl]
  cases hsettled : t.settledOf c service l with
  | error e => exact hreached.stopped
  | ok prerequisite => exact ⟨hreached, rfl⟩

/-- What has been settled lets a run go on to the dispatch. -/
theorem ready_of_settledOf {config : Sheet.Config} {l : Option Sheet.Lookup}
    {prerequisite : Sheet.Prerequisite}
    (hprepared : preparedOf settings method form params = .ok (config, l))
    (hsettled : t.settledOf c service l = .ok prerequisite) :
    Ready t settings method c form params service 3 (l.map fun l => l.request.authorized c)
      main where
  lookedUp _ := ⟨config, l, hprepared, rfl⟩
  answered _ r hr := by
    obtain ⟨l, hl, rfl⟩ := Option.map_eq_some_iff.mp hr
    exact t.answered_of_settledOf c hsettled l hl
  dispatched h := absurd h (by decide)

/-- The main request is sent once. -/
theorem ensures_dispatch {config : Sheet.Config} {l : Option Sheet.Lookup}
    {prerequisite : Sheet.Prerequisite} {request : WireRequest}
    (hprepared : preparedOf settings method form params = .ok (config, l))
    (hrequest : method.request settings config prerequisite = .ok request) :
    Work.Ensures (Reached t settings method c form params service · 3 lookup none)
      (t.dispatch c request)
      (fun _ => (Reached t settings method c form params service · 3 lookup
        (some (request.authorized c))))
      (fun _ => Stopped t settings method c form params service) := by
  intro s h
  have hlogged : s.Logged (Log.silent (Work.fillingStates form) ++ [(.validating, []),
      (.resolvingPrerequisites, lookup.toList)] ++ [(.dispatching, [])]) := by
    simpa [logOf, plan] using h.logged
  have hreached : Reached t settings method c form params service (t.dispatched c s request) 3
      lookup (some (request.authorized c)) :=
    { within := h.within
      logged := by simpa [logOf, plan] using t.logged_dispatched c hlogged request
      looksUp := h.looksUp
      asks := fun r hr =>
        ⟨config, l, prerequisite, request, hprepared, hrequest, (Option.some.inj hr).symm⟩
      ready := ⟨h.ready.lookedUp, h.ready.answered, fun h => absurd h (by decide)⟩
      untouched := fun _ hmain => absurd hmain (by simp) }
  rw [t.perform_dispatch]
  cases (t.send s.service (request.authorized c)).1 with
  | error e => exact hreached.stopped
  | ok response => exact hreached

end Contracts

/-! ### The stages -/

section Stages

/-- What a run has come to when its stages end with an answer: a result is given after the last
stage only. -/
def Answers (answer : Answer) (s : Session σ WireRequest) : Prop :=
  ∃ stages lookup main, Reached t settings method c form params service s stages lookup main ∧
    ∀ result, answer.outcome = .ok result → stages = 4

variable {t settings method c form params service}

variable (t settings c form params)

/-- **The stages of an operation keep to its plan.** -/
theorem stages_ensures (hquiet : ∀ body, ∀ e ∈ method.notices body, e.mark? = none)
    {s : Session σ WireRequest} (hlogged : s.Logged []) (hservice : s.service = service) :
    Work.Ends (Answers t settings method c form params service)
      (fun _ => Stopped t settings method c form params service)
      ((stages t settings method c form params).perform s) := by
  have hgoing : s.run.current.isLast = false := hlogged.isLast_current (by simp)
  obtain ⟨u, hu, hpasses⟩ := Work.perform_fillFields jsonFields params form hgoing
  have hreached : Reached t settings method c form params service u 0 none none :=
    { within := Nat.zero_le 4
      logged := by simpa [logOf] using hlogged.passes hpasses
      looksUp := by simp
      asks := by simp
      ready := .early (Nat.zero_le 2)
      untouched := fun _ _ => hpasses.service.trans hservice }
  rw [stages, Work.perform_bind, hu]
  cases hfilling : Work.filling jsonFields params form with
  | error e => exact hreached.stopped
  | ok filled =>
    refine (?_ : Work.Ensures
      (Reached t settings method c form params service · 0 none none) _ _ _) u hreached
    refine (ensures_keep filled.2).bind fun _ => ?_
    refine (ensures_enter rfl fun _ => .early (by decide)).bind fun _ => ?_
    refine Work.Ensures.ofExcept_bind (fun _ _ _ h => h.stopped) fun config hconfig => ?_
    refine Work.Ensures.ofExcept_bind (fun _ _ _ h => h.stopped) fun _ hvalid => ?_
    refine (ensures_enter rfl fun _ => .early (by decide)).bind fun _ => ?_
    refine Work.Ensures.ofExcept_bind (fun _ _ _ h => h.stopped) fun l hl => ?_
    have hprepared : preparedOf settings method form params = .ok (config, l) := by
      simp only [preparedOf, hfilling, hconfig, hvalid, hl, bind, Except.bind]
      rfl
    refine (ensures_lookUp hprepared).bind fun prerequisite => ?_
    refine Work.Ensures.given fun hsettled => ?_
    refine (ensures_enter rfl fun _ => ready_of_settledOf hprepared hsettled).bind fun _ => ?_
    refine Work.Ensures.ofExcept_bind (fun _ _ _ h => h.stopped) fun request hrequest => ?_
    refine (ensures_dispatch hprepared hrequest).bind fun response => ?_
    split
    · refine (ensures_enter rfl fun h =>
        ⟨fun _ => h.lookedUp (by decide), fun _ => h.answered (by decide), fun _ => rfl⟩).bind
          fun _ => ?_
      refine Work.Ensures.ofExcept_bind (fun _ _ _ h => h.stopped) fun body hbody => ?_
      refine (ensures_report (hquiet body)).bind fun _ => ?_
      refine Work.Ensures.ofExcept_bind (fun _ _ _ h => h.stopped) fun result hresult => ?_
      exact .pure fun s h => ⟨4, _, _, h, fun _ _ => rfl⟩
    · exact .pure fun s h => ⟨3, _, _, h, fun result hresult => by cases hresult⟩

end Stages

/-! ### The whole run -/

/-- A run from its beginning to its end: the stages that it has entered and what was sent in them,
its last state, and whether its envelope tells a success. -/
structure Ran (envelope : Envelope) (s : Session σ WireRequest) (stages : Nat)
    (lookup main : Option WireRequest) (last : RunState) : Prop where
  logged : s.Logged (logOf form stages lookup main ++ [(last, [])])
  looksUp : ∀ r ∈ lookup, LooksUp settings method c form params r
  asks : ∀ r ∈ main, Asks settings method c form params r
  carries : ∀ r ∈ s.sent, Transport.Carries c r
  ready : Ready t settings method c form params service stages lookup main
  ending : last = .done ∧ stages = 4 ∨ last = .failed ∧ stages ≤ 4
  success : envelope.success = true ↔ last = .done

section Whole

variable {t settings method c form params service}
variable {s : Session σ WireRequest} {stages : Nat} {lookup main : Option WireRequest}

/-- The states of a run: the first, `substituting` if the form wants that, the stages that it has
entered, and the last. -/
theorem Ran.history {envelope : Envelope} {last : RunState}
    (h : Ran t settings method c form params service envelope s stages lookup main last) :
    s.run.history = .idle :: (Work.fillingStates form ++
      [.validating, .resolvingPrerequisites, .dispatching, .transformingResponse].take stages ++
      [last]) := by
  rw [h.logged.history, logOf, List.map_append, List.map_append, Log.states_silent, List.map_take]
  rfl

theorem Reached.finished (h : Reached t settings method c form params service s 4 lookup main)
    {envelope : Envelope} (hsuccess : envelope.success = true) :
    Ran t settings method c form params service envelope (s.entering .done) 4 lookup main
      .done where
  logged := h.logged.entering .done
  looksUp := h.looksUp
  asks := h.asks
  carries := fun _ hr => h.carries hr
  ready := h.ready
  ending := .inl ⟨rfl, rfl⟩
  success := by simp [hsuccess]

theorem Reached.failed (h : Reached t settings method c form params service s stages lookup main)
    {envelope : Envelope} (hsuccess : envelope.success = false) :
    Ran t settings method c form params service envelope (s.entering .failed) stages lookup main
      .failed where
  logged := h.logged.entering .failed
  looksUp := h.looksUp
  asks := h.asks
  carries := fun _ hr => h.carries hr
  ready := h.ready
  ending := .inr ⟨rfl, h.within⟩
  success := by simp [hsuccess]

/-- The outcome of the stages is a result. -/
def IsResult (outcome : Except Failure Answer) : Prop :=
  ∃ response result, outcome = .ok ⟨response, .ok result⟩

/-- **A run that is not over is closed once, and told by an envelope.** It ends in `done` where the
stages have a result, and in `failed` otherwise. -/
theorem conclude_course (h : s.run.current.isLast = false) (outcome : Except Failure Answer) :
    ∃ envelope events last,
      (conclude outcome).courseFrom s = ⟨.ok envelope, (s.reporting events).entering last⟩ ∧
      envelope.params = s.bound ∧ (∀ e ∈ events, e.mark? = none) ∧
      (IsResult outcome ∧ last = .done ∧ envelope.success = true ∨
        last = .failed ∧ envelope.success = false) := by
  have hquiet (p : Problem) : ∀ e ∈ [Event.runFailed s.run.operation s.run.current (.problem p)],
      e.mark? = none := by
    simp [Event.mark?]
  rcases outcome with e | ⟨response, p | result⟩
  · let p := e.atStep s.run.current.name
    refine ⟨.failure p (statusOf p) [] s.bound, _, .failed, ?_, rfl, hquiet p, .inr ⟨rfl, rfl⟩⟩
    simp only [Work.courseFrom, conclude, Work.perform_bind, Work.perform_get,
      Work.perform_fail h, Work.perform_pure, p]
  · refine ⟨.failure p (some response.status.code) response.headers s.bound, _, .failed, ?_, rfl,
      hquiet p, .inr ⟨rfl, rfl⟩⟩
    simp only [Work.courseFrom, conclude, Work.perform_bind, Work.perform_get,
      Work.perform_fail h, Work.perform_pure]
  · refine ⟨.succeeded (some response.status.code) response.headers result s.bound, [], .done, ?_,
      rfl, List.forall_mem_nil _, .inl ⟨⟨response, result, rfl⟩, rfl, rfl⟩⟩
    simp only [Work.courseFrom, conclude, Work.perform_bind, Work.perform_get,
      Work.perform_enter h, Work.perform_pure, Session.reporting, List.append_nil]

/-- However the stages end, the run keeps to its plan to the end. -/
theorem conclude_ran {outcome : Except Failure Answer}
    (h : Work.Ends (Answers t settings method c form params service)
      (fun _ => Stopped t settings method c form params service) (outcome, s)) :
    ∃ envelope u stages lookup main last, (conclude outcome).courseFrom s = ⟨.ok envelope, u⟩ ∧
      Ran t settings method c form params service envelope u stages lookup main last := by
  have hreached : ∃ stages lookup main,
      Reached t settings method c form params service s stages lookup main ∧
        (IsResult outcome → stages = 4) := by
    rcases outcome with e | answer
    · obtain ⟨stages, lookup, main, hreached⟩ := h
      exact ⟨stages, lookup, main, hreached, nofun⟩
    · obtain ⟨stages, lookup, main, hreached, hstages⟩ := h
      refine ⟨stages, lookup, main, hreached, ?_⟩
      rintro ⟨response, result, hanswer⟩
      cases hanswer
      exact hstages result rfl
  obtain ⟨stages, lookup, main, hreached, hstages⟩ := hreached
  obtain ⟨envelope, events, last, hcourse, -, hquiet, hend⟩ :=
    conclude_course hreached.isLast_current outcome
  refine ⟨envelope, _, stages, lookup, main, last, hcourse, ?_⟩
  obtain ⟨hresult, rfl, hsuccess⟩ | ⟨rfl, hsuccess⟩ := hend
  · obtain rfl := hstages hresult
    exact (hreached.reporting hquiet).finished hsuccess
  · exact (hreached.reporting hquiet).failed hsuccess

end Whole

/-- No operation has a notice that sets a mark. -/
theorem mark?_notices (operation : SheetOperation) (body : Document) :
    ∀ e ∈ operation.method.notices body, e.mark? = none := by
  cases operation <;> try exact fun e he => absurd he List.not_mem_nil
  intro e he
  change e ∈ Sheet.listNotices body at he
  unfold Sheet.listNotices at he
  split at he
  · cases he
  · rw [List.mem_singleton.mp he]
    rfl

theorem namedBy_of_isTellable {form : Members} (h : (Document.obj form).isTellable = true)
    (field : String) : ∃ name, namedBy form field = .ok name := by
  unfold namedBy
  split
  · exact ⟨none, rfl⟩
  · next d hd =>
    refine ⟨some d.displayed, ?_⟩
    rw [Document.told_of_isTellable (Form.isTellable_of_any? h hd)]
    rfl

/-- A form that can be told names an entity and a command, or leaves them out. -/
theorem names_of_isTellable {form : Members} (h : (Document.obj form).isTellable = true) :
    ∃ entity command, names form = .ok (entity, command) := by
  obtain ⟨entity, hentity⟩ := namedBy_of_isTellable h "entity"
  obtain ⟨command, hcommand⟩ := namedBy_of_isTellable h "command"
  exact ⟨entity, command, by rw [names, hentity, hcommand]; rfl⟩

theorem unknownOperation_of_resolve {entity command : Option String} {p : Problem}
    (h : SheetOperation.resolve entity command = .error p) :
    ∃ key known, p = .unknownOperation key known := by
  unfold SheetOperation.resolve at h
  split at h
  · cases h
  · cases h
    exact ⟨_, _, rfl⟩

theorem missingCredentials_of_usable {credentials : Option Credentials} {p : Problem}
    (h : Credentials.usable credentials = .error p) :
    ∃ wording, p = .missingCredentials wording := by
  unfold Credentials.usable at h
  split at h
  · split at h
    · cases h
    · cases h
      exact ⟨_, rfl⟩
  · cases h
    exact ⟨_, rfl⟩

theorem eq_some_of_usable {credentials : Option Credentials} {c : Credentials}
    (h : Credentials.usable credentials = .ok c) : credentials = some c := by
  unfold Credentials.usable at h
  split at h
  · split at h
    · cases h
      rfl
    · cases h
  · cases h

/-- **Every run of an operation is orderly.** Where the integers of a form have texts, only an
operation that there is not and credentials without a token keep a run from its envelope, and then
nothing is sent. Every other run enters the stages of its plan in order up to one of them, then
`done` after the last stage or `failed`, and its envelope tells a success in the first case only.
The lookup and the main request that the form comes to are sent in their own stages, at most once
each and with the credentials. The dispatch is entered only after the lookup, if the form comes to
one, was sent and answered by a success, and the last stage only after the main request was sent. -/
theorem execute_orderly {σ : Type} (t : Transport σ) (settings : Settings) {form : Members}
    (hform : form ≠ []) (htold : (Document.obj form).isTellable = true)
    (params : List Substitution.Param) (credentials : Option Credentials) (service : σ) :
    ∃ entity command, names form = .ok (entity, command) ∧
      ((∃ p s, execute t settings form params credentials service = ⟨.error (.problem p), s⟩ ∧
        (SheetOperation.resolve entity command = .error p ∧
            (∃ key known, p = .unknownOperation key known) ∨
          Credentials.usable credentials = .error p ∧ ∃ wording, p = .missingCredentials wording) ∧
        s.sent = []) ∨
      ∃ operation c envelope s,
        execute t settings form params credentials service = ⟨.ok envelope, s⟩ ∧
        SheetOperation.resolve entity command = .ok operation ∧ credentials = some c ∧
        ∃ stages lookup main last,
          Ran t settings operation.method c form params service envelope s stages lookup main
            last) := by
  have hempty : form.isEmpty = false := by simpa using hform
  obtain ⟨entity, command, hnames⟩ := names_of_isTellable htold
  have hexecute : execute t settings form params credentials service =
      executeAs entity command t settings form params credentials service := by
    simp only [execute, hempty, hnames, Bool.false_eq_true, if_false]
  let session : Session σ WireRequest := .start service (SheetOperation.keyOf entity command)
  refine ⟨entity, command, hnames, ?_⟩
  rw [hexecute]
  cases hoperation : SheetOperation.resolve entity command with
  | error p =>
    refine .inl ⟨p, session, ?_, .inl ⟨rfl, unknownOperation_of_resolve hoperation⟩, rfl⟩
    simp only [executeAs, hoperation, session]
  | ok operation =>
    cases husable : Credentials.usable credentials with
    | error p =>
      refine .inl ⟨p, session, ?_, .inr ⟨rfl, missingCredentials_of_usable husable⟩, rfl⟩
      simp only [executeAs, hoperation, husable, session]
    | ok c =>
      have hlogged : (session.reporting [.runStarted session.run.operation]).Logged [] :=
        ⟨rfl, rfl, rfl⟩
      have hstages := stages_ensures t settings c form params (mark?_notices operation) hlogged
        rfl
      obtain ⟨envelope, u, stages, lookup, main, last, hu, hran⟩ := conclude_ran hstages
      refine .inr ⟨operation, c, envelope, u, ?_, rfl, eq_some_of_usable husable, stages, lookup,
        main, last, hran⟩
      simp only [executeAs, hoperation, husable]
      exact hu

/-- A service that answers every request by the same success without a body. -/
def answering : Transport Unit where
  send _ _ := (.ok ⟨.success, [], [], "OK"⟩, ())

/-- Deleting a row of a sheet, which has to look up the sheet's identifier. -/
def deletion : Members :=
  [("entity", .str "ROW"), ("command", .str "DELETE_ONE"), ("spreadsheetId", .str "a"),
    ("sheetTitle", .str "b"), ("rowIndex", .int 0)]

/-- The deletion of a row is an orderly run. -/
theorem execute_orderly_deletion :
    deletion ≠ [] ∧ (Document.obj deletion).isTellable = true ∧
    ∃ envelope s, execute answering {} deletion [] (some (.bearer (some "token"))) () =
        ⟨.ok envelope, s⟩ ∧
      ∃ stages lookup main last, Ran answering {} Sheet.rowDelete (.bearer (some "token")) deletion
        [] () envelope s stages lookup main last := by
  have hform : deletion ≠ [] := by simp [deletion]
  have htold : (Document.obj deletion).isTellable = true := by decide
  have hresolve : SheetOperation.resolve (some "ROW") (some "DELETE_ONE") = .ok .rowDeleteOne := by
    rfl
  have husable : Credentials.usable (some (.bearer (some "token"))) =
      .ok (.bearer (some "token")) := by rfl
  refine ⟨hform, htold, ?_⟩
  obtain ⟨entity, command, hnames, h⟩ :=
    execute_orderly answering {} hform htold [] (some (.bearer (some "token"))) ()
  have hnamed : names deletion = .ok (some "ROW", some "DELETE_ONE") := by rfl
  rw [hnamed] at hnames
  cases hnames
  obtain ⟨p, s, -, h, -⟩ | ⟨operation, c, envelope, s, hrun, hoperation, hc, hran⟩ := h
  · rw [hresolve, husable] at h
    simp at h
  · rw [hresolve] at hoperation
    cases hoperation
    cases hc
    exact ⟨envelope, s, hrun, hran⟩

end SheetRun
end FormDispatch
