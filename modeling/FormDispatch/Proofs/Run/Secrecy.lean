/-
# What credentials are seen in

Credentials are seen in one header of the requests that are sent, and nowhere else. To say so takes
two runs: one and the same request of a user under two credentials, before a service that answers
without regard to that header (`IsBlind`). Two sessions are `Alike` if they differ in nothing but
the header, and `Agree` says of two pieces of work that from sessions alike they give one result and
end in sessions alike. It holds of every piece of a run, and `Agree.bind` puts the pieces together;
dispatching is the only one that sees the credentials.

`token_unseen` is the contract of both kinds of runs. Its last part says that the header is not
there before a request is authorized, whatever method has built the request.
-/

import FormDispatch.Proofs.Run.Service
import FormDispatch.Proofs.Run.SheetRun
import FormDispatch.Wire.Header

namespace FormDispatch

variable {σ : Type} {same : σ → σ → Prop}

/-- A service does not regard the header that carries credentials: in states that are the same it
answers the same to requests that differ in nothing else, and its states stay the same. -/
structure Transport.IsBlind (t : Transport σ) (same : σ → σ → Prop) : Prop where
  answer : ∀ {state state' r r'}, same state state' →
    WireRequest.withoutAuthorization r = WireRequest.withoutAuthorization r' →
    (t.send state r).1 = (t.send state' r').1
  next : ∀ {state state' r r'}, same state state' →
    WireRequest.withoutAuthorization r = WireRequest.withoutAuthorization r' →
    same (t.send state r).2 (t.send state' r').2

/-- Two sessions that differ in nothing but the header that carries credentials. -/
structure Session.Alike (same : σ → σ → Prop) (s s' : Session σ WireRequest) : Prop where
  service : same s.service s'.service
  sent : s.sent.map WireRequest.withoutAuthorization = s'.sent.map WireRequest.withoutAuthorization
  events : s.events = s'.events
  run : s.run = s'.run
  bound : s.bound = s'.bound

/-- Two courses with one outcome, and sessions alike. -/
structure Course.Alike {α : Type} (same : σ → σ → Prop) (c c' : Course σ WireRequest α) : Prop where
  outcome : c.outcome = c'.outcome
  session : c.session.Alike same c'.session

namespace Session.Alike

variable {s s' : Session σ WireRequest}

theorem start {service service' : σ} (h : same service service') (operation : String) :
    Alike same (Session.start service operation) (Session.start service' operation) :=
  ⟨h, rfl, rfl, rfl, rfl⟩

theorem reporting (h : s.Alike same s') (events : List Event) :
    (s.reporting events).Alike same (s'.reporting events) :=
  { h with events := congrArg (· ++ events) h.events }

end Session.Alike

/-! ### Work that agrees -/

namespace Work

variable {α β : Type}

/-- Two pieces of work that give one result from sessions alike, and end in sessions alike. -/
def Agree (same : σ → σ → Prop) (work work' : Work σ WireRequest α) : Prop :=
  ∀ s s', s.Alike same s' → (work.perform s).1 = (work'.perform s').1 ∧
    (work.perform s).2.Alike same (work'.perform s').2

namespace Agree

theorem pure (a : α) : Agree same (Pure.pure a) (Pure.pure a) :=
  fun _ _ h => ⟨rfl, h⟩

theorem throw (e : Failure) : Agree same (throw e : Work σ WireRequest α) (throw e) :=
  fun _ _ h => ⟨rfl, h⟩

/-- Two pieces of work in sequence. -/
theorem bind {work work' : Work σ WireRequest α} {next next' : α → Work σ WireRequest β}
    (hwork : Agree same work work') (hnext : ∀ a, Agree same (next a) (next' a)) :
    Agree same (work >>= next) (work' >>= next') := by
  intro s s' h
  obtain ⟨hresult, hsession⟩ := hwork s s' h
  rw [perform_bind, perform_bind]
  rcases hs : work.perform s with ⟨e | a, t⟩ <;>
    rcases hs' : work'.perform s' with ⟨e' | a', t'⟩ <;>
    simp only [hs, hs'] at hresult hsession ⊢ <;> cases hresult
  · exact ⟨rfl, hsession⟩
  · exact hnext a t t' hsession

theorem ofExcept (x : Except Failure α) :
    Agree same (ofExcept x : Work σ WireRequest α) (Work.ofExcept x) := by
  cases x with
  | error e => exact throw e
  | ok a => exact pure a

theorem report (events : List Event) :
    Agree same (report events : Work σ WireRequest Unit) (Work.report events) :=
  fun _ _ h => ⟨rfl, h.reporting events⟩

theorem keep (bound : List Substitution.BoundParameter) :
    Agree same (keep bound : Work σ WireRequest Unit) (Work.keep bound) :=
  fun _ _ h => ⟨rfl, { h with bound := rfl }⟩

theorem set {t t' : Session σ WireRequest} (h : t.Alike same t') :
    Agree same (set t : Work σ WireRequest PUnit) (MonadStateOf.set t') :=
  fun _ _ _ => ⟨rfl, h⟩

/-- What depends on the session agrees if it does from any two that are alike. -/
theorem get_bind {next next' : Session σ WireRequest → Work σ WireRequest β}
    (h : ∀ s s', s.Alike same s' → Agree same (next s) (next' s')) :
    Agree same (get >>= next) (get >>= next') := by
  intro s s' hs
  rw [perform_bind, perform_bind]
  exact h s s' hs s s' hs

theorem enter (next : RunState) :
    Agree same (enter next : Work σ WireRequest Unit) (Work.enter next) := by
  refine get_bind fun s s' h => ?_
  rw [h.run]
  cases s'.run.advance next with
  | error d => exact throw _
  | ok run => exact set { h with events := by rw [h.events], run := rfl }

theorem fail (p : Problem) : Agree same (fail p : Work σ WireRequest Unit) (Work.fail p) := by
  refine get_bind fun s s' h => ?_
  rw [h.run]
  exact (report _).bind fun _ => enter _

theorem fillFields (fields : List String) (params : List Substitution.Param) (form : Members) :
    Agree same (fillFields fields params form : Work σ WireRequest _)
      (Work.fillFields fields params form) := by
  unfold Work.fillFields
  split
  · refine (enter _).bind fun _ => (report _).bind fun _ => ?_
    split
    · exact throw _
    · exact pure _
  · exact pure _

end Agree
end Work

/-! ### Requests and credentials -/

namespace Transport

variable {t : Transport σ}

/-- Requests authorized by different credentials differ in nothing but their header. -/
theorem withoutAuthorization_eq (c c' : Credentials) (r : WireRequest) :
    (r.authorized c).withoutAuthorization = (r.authorized c').withoutAuthorization := by
  rw [WireRequest.withoutAuthorization_authorized, WireRequest.withoutAuthorization_authorized]

/-- **Dispatching under different credentials agrees** before a service that is blind to them. -/
theorem IsBlind.dispatch (ht : t.IsBlind same) (c c' : Credentials) (r : WireRequest) :
    Work.Agree same (t.dispatch c r) (t.dispatch c' r) := by
  have hr := withoutAuthorization_eq c c' r
  refine (Work.Agree.report _).bind fun _ => Work.Agree.get_bind fun s s' h => ?_
  have hsent : (s.sent ++ [r.authorized c]).map WireRequest.withoutAuthorization =
      (s'.sent ++ [r.authorized c']).map WireRequest.withoutAuthorization := by
    rw [List.map_append, List.map_append, h.sent, List.map_singleton, List.map_singleton, hr]
  have hafter : Session.Alike same
      { s with
        service := (t.send s.service (r.authorized c)).2
        sent := s.sent ++ [r.authorized c] }
      { s' with
        service := (t.send s'.service (r.authorized c')).2
        sent := s'.sent ++ [r.authorized c'] } :=
    { h with service := ht.next h.service hr, sent := hsent }
  dsimp only
  rw [ht.answer h.service hr]
  refine (Work.Agree.set hafter).bind fun _ => ?_
  exact (Work.Agree.ofExcept _).bind fun response => (Work.Agree.report _).bind fun _ => .pure _

theorem IsBlind.lookUp (ht : t.IsBlind same) (c c' : Credentials) (lookup : Option Sheet.Lookup) :
    Work.Agree same (t.lookUp c lookup) (t.lookUp c' lookup) := by
  cases lookup with
  | none => exact .pure _
  | some l =>
    refine (ht.dispatch c c' l.request).bind fun response => ?_
    exact (Work.Agree.ofExcept _).bind fun body => .ofExcept _

end Transport

namespace SheetRun

variable {t : Transport σ}

/-- **The stages of an operation agree under different credentials.** -/
theorem stages_agree (ht : t.IsBlind same) (settings : Settings) (method : Sheet.Method)
    (c c' : Credentials) (form : Members) (params : List Substitution.Param) :
    Work.Agree same (stages t settings method c form params)
      (stages t settings method c' form params) := by
  refine (Work.Agree.fillFields _ _ _).bind fun filled => ?_
  refine (Work.Agree.keep _).bind fun _ => (Work.Agree.enter _).bind fun _ => ?_
  refine (Work.Agree.ofExcept _).bind fun config => (Work.Agree.ofExcept _).bind fun _ => ?_
  refine (Work.Agree.enter _).bind fun _ => (Work.Agree.ofExcept _).bind fun lookup => ?_
  refine (ht.lookUp c c' lookup).bind fun prerequisite => (Work.Agree.enter _).bind fun _ => ?_
  refine (Work.Agree.ofExcept _).bind fun request => ?_
  refine (ht.dispatch c c' request).bind fun response => ?_
  split
  · refine (Work.Agree.enter _).bind fun _ => (Work.Agree.ofExcept _).bind fun body => ?_
    exact (Work.Agree.report _).bind fun _ => (Work.Agree.ofExcept _).bind fun result => .pure _
  · exact .pure _

theorem lookupStages_agree (ht : t.IsBlind same) (settings : Settings)
    (method : Sheet.TriggerMethod) (c c' : Credentials) (form : Members) :
    Work.Agree same (lookupStages t settings method c form)
      (lookupStages t settings method c' form) := by
  refine (Work.Agree.ofExcept _).bind fun config => (Work.Agree.ofExcept _).bind fun _ => ?_
  refine (Work.Agree.ofExcept _).bind fun request => ?_
  refine (ht.dispatch c c' request).bind fun response => (Work.Agree.ofExcept _).bind fun body => ?_
  exact (Work.Agree.report _).bind fun _ => (Work.Agree.ofExcept _).bind fun choices => .pure _

theorem conclude_agree (outcome : Except Failure Answer) :
    Work.Agree same (conclude outcome) (conclude outcome) := by
  refine Work.Agree.get_bind fun s s' h => ?_
  rw [h.run, h.bound]
  rcases outcome with e | ⟨response, p | result⟩
  · exact (Work.Agree.fail _).bind fun _ => .pure _
  · exact (Work.Agree.fail _).bind fun _ => .pure _
  · exact (Work.Agree.enter _).bind fun _ => .pure _

end SheetRun

/-! ### Requests before they are authorized -/

namespace Sheet

open Result (Gives)

/-- A request carries no header of credentials, whatever the case of its name. -/
def IsUnauthorized (r : WireRequest) : Prop :=
  Headers.has r.headers WireRequest.authorizationHeader = false

/-- The requests that methods build: of operations, of what they look up, and of choices. -/
inductive IsBuilt (settings : Settings) : WireRequest → Prop
  | operation {operation : SheetOperation} {config : Config} {prerequisite : Prerequisite}
      {r : WireRequest} (h : operation.method.request settings config prerequisite = .ok r) :
      IsBuilt settings r
  | lookup {operation : SheetOperation} {config : Config} {l : Lookup}
      (h : operation.method.lookup settings config = .ok (some l)) : IsBuilt settings l.request
  | choices {trigger : Trigger} {config : Config} {r : WireRequest}
      (h : trigger.method.request settings config = .ok r) : IsBuilt settings r

variable (settings : Settings) (config : Config)

theorem gives_headerRequest : Gives IsUnauthorized (headerRequest settings config) :=
  .bind fun _ _ => .ok rfl

theorem gives_request (operation : SheetOperation) (prerequisite : Prerequisite) :
    Gives IsUnauthorized (operation.method.request settings config prerequisite) := by
  cases operation with
  | rowInsertOne | rowInsertMany | rowUpdateMany =>
    exact .bind fun _ _ => .bind fun _ _ => .ok rfl
  | rowUpdateOne =>
    refine .bind fun updates _ => ?_
    cases updates with
    | nil => exact .error _
    | cons u others => exact .bind fun _ _ => .ok rfl
  | rowFetchMany | spreadsheetInsertOne => exact .bind fun _ _ => .ok rfl
  | sheetFetchStructure => exact gives_headerRequest settings config
  | rowDeleteOne | sheetClear | sheetCopy | sheetDeleteOne | spreadsheetDeleteOne
  | spreadsheetFetchDetails | spreadsheetFetchMany => exact .ok rfl

theorem gives_headerLookup {method : Method}
    {settle : Config → List String → Except Failure Prerequisite}
    (h : method.lookup = headerLookup settle) :
    Gives (fun l => ∀ lookup ∈ l, IsUnauthorized lookup.request)
      (method.lookup settings config) := by
  rw [h]
  refine .bind fun r hr => .ok fun lookup hlookup => ?_
  rw [← Option.some.inj hlookup]
  exact gives_headerRequest settings config r hr

theorem gives_sheetIdLookup :
    Gives (fun l => ∀ lookup ∈ l, IsUnauthorized lookup.request)
      (sheetIdLookup settings config) := by
  refine .ok fun lookup hlookup => ?_
  rw [← Option.some.inj hlookup]
  rfl

theorem gives_lookup (operation : SheetOperation) :
    Gives (fun l => ∀ lookup ∈ l, IsUnauthorized lookup.request)
      (operation.method.lookup settings config) := by
  cases operation with
  | rowInsertOne | rowInsertMany | rowUpdateOne | rowUpdateMany =>
    exact gives_headerLookup settings config rfl
  | rowDeleteOne | sheetCopy | sheetDeleteOne => exact gives_sheetIdLookup settings config
  | rowFetchMany | sheetClear | sheetFetchStructure | spreadsheetInsertOne | spreadsheetDeleteOne
  | spreadsheetFetchDetails | spreadsheetFetchMany => exact .ok nofun

theorem gives_choices (trigger : Trigger) :
    Gives IsUnauthorized (trigger.method.request settings config) := by
  cases trigger with
  | spreadsheets | sheets => exact .ok rfl
  | columns => exact gives_headerRequest settings config

/-- **No method authorizes its requests.** -/
theorem isUnauthorized_of_isBuilt {r : WireRequest} (h : IsBuilt settings r) :
    IsUnauthorized r := by
  cases h with
  | operation h => exact gives_request settings _ _ _ _ h
  | lookup h => exact gives_lookup settings _ _ _ h _ rfl
  | choices h => exact gives_choices settings _ _ _ h

end Sheet

/-! ### Whole runs -/

namespace SheetRun

variable {t : Transport σ}

/-- Work that agrees has courses alike. -/
theorem alike_courseFrom {α : Type} {work work' : Work σ WireRequest α}
    (h : Work.Agree same work work') {s s' : Session σ WireRequest} (hs : s.Alike same s') :
    (work.courseFrom s).Alike same (work'.courseFrom s') :=
  ⟨(h s s' hs).1, (h s s' hs).2⟩

theorem usable_of_hasToken {c : Credentials} (h : c.hasToken = true) :
    Credentials.usable (some c) = .ok c := by
  rw [Credentials.usable, if_pos h]

/-- **An operation runs alike under any two credentials.** -/
theorem execute_alike (ht : t.IsBlind same) (settings : Settings) (form : Members)
    (params : List Substitution.Param) {c c' : Credentials} (hc : c.hasToken = true)
    (hc' : c'.hasToken = true) {service service' : σ} (hservice : same service service') :
    (execute t settings form params (some c) service).Alike same
      (execute t settings form params (some c') service') := by
  unfold execute
  split
  · exact ⟨rfl, .start hservice _⟩
  · split
    · exact ⟨rfl, .start hservice _⟩
    · next entity command _ =>
      have hstart := Session.Alike.start hservice (SheetOperation.keyOf entity command)
      simp only [executeAs, usable_of_hasToken hc, usable_of_hasToken hc']
      split
      · exact ⟨rfl, hstart⟩
      · next operation _ =>
        obtain ⟨houtcome, hsession⟩ := stages_agree ht settings operation.method c c' form params
          _ _ (hstart.reporting _)
        rw [houtcome]
        exact alike_courseFrom (conclude_agree _) hsession

/-- **A lookup runs alike under any two credentials.** -/
theorem lookup_alike (ht : t.IsBlind same) (settings : Settings) (name : Option String)
    (form : Members) {c c' : Credentials} (hc : c.hasToken = true) (hc' : c'.hasToken = true)
    {service service' : σ} (hservice : same service service') :
    (lookup t settings name form (some c) service).Alike same
      (lookup t settings name form (some c') service') := by
  have hstart := Session.Alike.start hservice ""
  simp only [lookup, usable_of_hasToken hc, usable_of_hasToken hc']
  split
  · exact ⟨rfl, hstart⟩
  · next trigger _ =>
    obtain ⟨houtcome, hsession⟩ := lookupStages_agree ht settings trigger.method c c' form
      _ _ (hstart.reporting [.lookupStarted trigger.key])
    generalize (lookupStages t settings trigger.method c form).perform _ = ended at *
    generalize (lookupStages t settings trigger.method c' form).perform _ = ended' at *
    obtain ⟨outcome, reached⟩ := ended
    obtain ⟨_, reached'⟩ := ended'
    obtain rfl : outcome = _ := houtcome
    cases outcome with
    | error e => exact ⟨rfl, hsession.reporting _⟩
    | ok found => exact ⟨rfl, hsession⟩

/-- **The token is seen in its header only.** Before a service that does not regard the header, an
operation and a lookup under any two credentials with tokens have the same outcome, go through the
same states, report the same events in the same order, and send requests that differ in the header
alone. No request has the header before it is authorized. -/
theorem token_unseen (ht : t.IsBlind same) (settings : Settings) (form : Members)
    {c c' : Credentials} (hc : c.hasToken = true) (hc' : c'.hasToken = true)
    {service service' : σ} (hservice : same service service') :
    (∀ params, (execute t settings form params (some c) service).Alike same
      (execute t settings form params (some c') service')) ∧
    (∀ name, (lookup t settings name form (some c) service).Alike same
      (lookup t settings name form (some c') service')) ∧
    ∀ r, Sheet.IsBuilt settings r → Sheet.IsUnauthorized r :=
  ⟨fun params => execute_alike ht settings form params hc hc' hservice,
    fun name => lookup_alike ht settings name form hc hc' hservice,
    fun _ h => Sheet.isUnauthorized_of_isBuilt settings h⟩

/-- A service that remembers all requests, and answers by what they are but for the header. -/
def remembering (answers : List WireRequest → Except Failure Response) :
    Transport (List WireRequest) where
  send history r :=
    (answers ((history ++ [r]).map WireRequest.withoutAuthorization), history ++ [r])

/-- Two histories of requests that differ in nothing but the header. -/
def SameRequests (history history' : List WireRequest) : Prop :=
  history.map WireRequest.withoutAuthorization = history'.map WireRequest.withoutAuthorization

/-- Whatever it answers, it is blind to the header. -/
theorem isBlind_remembering (answers : List WireRequest → Except Failure Response) :
    (remembering answers).IsBlind SameRequests := by
  have hhistory : ∀ {history history' : List WireRequest} {r r' : WireRequest},
      SameRequests history history' → r.withoutAuthorization = r'.withoutAuthorization →
      SameRequests (history ++ [r]) (history' ++ [r']) := by
    intro history history' r r' h hr
    rw [SameRequests, List.map_append, List.map_append, h, List.map_singleton, List.map_singleton,
      hr]
  exact ⟨fun h hr => congrArg answers (hhistory h hr), hhistory⟩

/-- An answer that tells the number of requests. -/
def counted (history : List WireRequest) : Except Failure Response :=
  .ok ⟨.success, [("seen", [Numeral.text history.length])], [], "OK"⟩

/-- Two tokens delete a row alike before a service that tells how many requests it has seen. -/
theorem token_unseen_deletion :
    (remembering counted).IsBlind SameRequests ∧
    (Credentials.bearer (some "one")).hasToken = true ∧
    (Credentials.bearer (some "two")).hasToken = true ∧
    (execute (remembering counted) {} deletion [] (some (.bearer (some "one"))) []).Alike
      SameRequests
      (execute (remembering counted) {} deletion [] (some (.bearer (some "two"))) []) := by
  have hblind := isBlind_remembering counted
  have hone : (Credentials.bearer (some "one")).hasToken = true := by rfl
  have htwo : (Credentials.bearer (some "two")).hasToken = true := by rfl
  have hsame : SameRequests [] [] := rfl
  obtain ⟨hexecute, -, -⟩ := token_unseen hblind {} deletion hone htwo hsame
  exact ⟨hblind, hone, htwo, hexecute []⟩

end SheetRun
end FormDispatch
