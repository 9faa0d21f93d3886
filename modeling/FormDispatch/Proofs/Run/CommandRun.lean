/-
# The course of a command

Preparing a command depends on the form and the parameters alone. `Prepares` says what a prepared
command is, in the order in which it comes about, and `preparedOf` is the same as a function:
`perform_prepare` says that the work of preparing gives just that, and that it sends nothing. What
the form holds decides which failures there are, so the only way to have no envelope is to name a
command that there is not.

`Reached` says how far a session has come when the stages of a command end, and `command_orderly`
is the contract of a whole run.
-/

import FormDispatch.Proofs.Command.Failure
import FormDispatch.Proofs.Run.Work
import FormDispatch.Proofs.Substitution.Fields
import FormDispatch.Run.CommandRun

namespace FormDispatch
namespace CommandRun

/-! ### Prepared commands -/

section Preparing

variable (form : Members) (params : List Substitution.Param)

/-- A form and parameters make a command ready to be sent: the form names a kind of command, the
bindings of its fields are filled, the filled form describes the command, nothing is missing, and
the command is rendered. -/
def Prepares (p : Prepared) : Prop :=
  ∃ kind filled, Command.kindOf form = .ok kind ∧
    Work.filling kind.jsonFields params form = .ok (filled, p.bound) ∧
    Command.ofForm filled = .ok p.command ∧ p.command.missing = [] ∧
    p.command.document = .ok p.document

/-- The command that a filled form makes ready. -/
def checkedOf (filled : Members × List Substitution.BoundParameter) : Except Failure Prepared := do
  let command ← Command.ofForm filled.1
  if command.missing.isEmpty then
    let document ← command.document
    return ⟨command, document, filled.2⟩
  else .error (.problem (.missingFields command.missing))

/-- The command that a form and parameters make ready. -/
def preparedOf : Except Failure Prepared := do
  let kind ← Command.kindOf form
  let filled ← Work.filling kind.jsonFields params form
  checkedOf filled

variable {form params}

theorem preparedOf_eq_ok {p : Prepared} :
    preparedOf form params = .ok p ↔ Prepares form params p := by
  constructor
  · intro h
    obtain ⟨kind, hkind, h⟩ := Result.bind_eq_ok.mp h
    obtain ⟨⟨filled, bound⟩, hfilled, h⟩ := Result.bind_eq_ok.mp h
    obtain ⟨command, hcommand, h⟩ := Result.bind_eq_ok.mp h
    split at h
    · next hmissing =>
      obtain ⟨document, hdocument, h⟩ := Result.bind_eq_ok.mp h
      cases h
      exact ⟨kind, filled, hkind, hfilled, hcommand, List.isEmpty_iff.mp hmissing, hdocument⟩
    · cases h
  · rintro ⟨kind, filled, hkind, hfilled, hcommand, hmissing, hdocument⟩
    simp only [preparedOf, checkedOf, hkind, hfilled, hcommand, hmissing, hdocument, bind,
      Except.bind]
    rfl

/-- The fields of a command are filled without touching its name. -/
theorem isOutside_jsonFields (kind : CommandKind) :
    ∀ field ∈ kind.jsonFields, Substitution.IsOutside "command" field := by
  cases kind <;> decide

/-- The fields of a command that are filled lie apart from each other. -/
theorem areApart_jsonFields (kind : CommandKind) : kind.jsonFields.Pairwise Form.AreApart := by
  cases kind <;> decide

theorem kindOf_congr {form other : Members} (h : form.get? "command" = other.get? "command") :
    Command.kindOf form = Command.kindOf other := by
  have hparts : Form.parts "command" = ["command"] := by decide
  simp only [Command.kindOf, Command.text?, Form.text?, Form.usable,
    Form.lookup_of_parts _ hparts, h]

/-- The filled form names the kind of command that the form names. -/
theorem kindOf_filling {kind : CommandKind} {filled : Members}
    {bound : List Substitution.BoundParameter}
    (h : Work.filling kind.jsonFields params form = .ok (filled, bound)) :
    Command.kindOf filled = Command.kindOf form := by
  unfold Work.filling at h
  split at h
  · dsimp only at h
    split at h
    · cases h
    · cases h
      exact kindOf_congr (Substitution.get?_inFields params form (isOutside_jsonFields kind))
  · cases h
    rfl

theorem failsByContent_filling (fields : List String) :
    FailsByContent (Work.filling fields params form) := by
  unfold Work.filling
  split
  · dsimp only
    split
    · next hp =>
      obtain ⟨binding, rfl⟩ := Substitution.problem_inFields hp
      exact .problem nofun
    · exact .ok _
  · exact .ok _

/-- **A command is not prepared for two reasons only:** the form names no command there is, or it
holds what fails. -/
theorem preparedOf_eq_error {e : Failure} (h : preparedOf form params = .error e) :
    (∃ key known, e = .problem (.unknownOperation key known) ∧ Command.kindOf form = .error e) ∨
      e.IsOfContent := by
  obtain hkind | ⟨kind, hkind, h⟩ := Result.bind_eq_error.mp h
  · obtain ⟨key, known, rfl⟩ | hcontent := Command.kindOf_eq_error hkind
    · exact .inl ⟨key, known, rfl, hkind⟩
    · exact .inr hcontent
  · refine .inr ?_
    obtain hfilling | ⟨⟨filled, bound⟩, hfilling, h⟩ := Result.bind_eq_error.mp h
    · exact failsByContent_filling _ e hfilling
    · have hfilled : Command.kindOf filled = .ok kind := (kindOf_filling hfilling).trans hkind
      refine ((Command.failsByContent_ofForm hfilled).bind fun command => ?_) e h
      split
      · exact (Command.failsByContent_document command).bind fun _ => .ok _
      · exact .problem nofun

end Preparing

/-! ### The work of preparing -/

section Performing

variable {σ : Type} {form : Members} {params : List Substitution.Param}

/-- The stages of a command in order. -/
def order : List RunState :=
  [.validating, .dispatching, .transformingResponse]

/-- The states before the first stage: that of filling, if the form wants it and names a command
that there is. -/
def opening (form : Members) : List RunState :=
  match Command.kindOf form with
  | .ok _ => Work.fillingStates form
  | .error _ => []

theorem perform_check (filled : Members × List Substitution.BoundParameter)
    (s : Session σ Members) :
    ∃ u, (do
        let command ← Work.ofExcept (Command.ofForm filled.1)
        if !command.missing.isEmpty then throw (.problem (.missingFields command.missing))
        let document ← Work.ofExcept command.document
        let s ← get
        Work.report (defaultNotices s.run.operation command)
        return ⟨command, document, filled.2⟩ : Work σ Members Prepared).perform s =
          (checkedOf filled, u) ∧ s.Passes u [] := by
  rw [Work.perform_bind, Work.perform_ofExcept]
  cases hcommand : Command.ofForm filled.1 with
  | error e =>
    have hchecked : checkedOf filled = .error e := by
      rw [checkedOf, hcommand]
      rfl
    exact ⟨s, by rw [hchecked], .refl s⟩
  | ok command =>
    cases hmissing : command.missing.isEmpty with
    | false =>
      have hchecked : checkedOf filled = .error (.problem (.missingFields command.missing)) := by
        simp [checkedOf, hcommand, hmissing, bind, Except.bind]
      refine ⟨s, ?_, .refl s⟩
      rw [hchecked]
      simp only [hmissing, Bool.not_false, if_true]
      rfl
    | true =>
      have hchecked : checkedOf filled = command.document.map (⟨command, ·, filled.2⟩) := by
        simp only [checkedOf, hcommand, hmissing, bind, Except.bind, if_true]
        cases command.document <;> rfl
      rw [hchecked]
      simp only [hmissing, Bool.not_true, Bool.false_eq_true, if_false, Work.perform_bind,
        Work.perform_ofExcept]
      cases command.document with
      | error e => exact ⟨s, rfl, .refl s⟩
      | ok document =>
        have hquiet : ∀ e ∈ defaultNotices s.run.operation command, e.mark? = none := by
          unfold defaultNotices
          split <;> simp [Event.mark?]
        exact ⟨_, rfl, .reporting s hquiet⟩

/-- **Preparing a command depends on the form and the parameters alone,** and sends nothing. It
enters the first stage at most, and has entered it where a command is prepared. -/
theorem perform_prepare (form : Members) (params : List Substitution.Param)
    {s : Session σ Members} (h : ∀ state ∈ s.run.history, state.isLast = false) :
    ∃ u k, (prepare form params).perform s = (preparedOf form params, u) ∧
      s.Passes u (opening form ++ order.take k) ∧ k ≤ 1 ∧
      ∀ p, preparedOf form params = .ok p → k = 1 := by
  unfold prepare opening
  rw [Work.perform_bind, Work.perform_ofExcept]
  cases hkind : Command.kindOf form with
  | error e =>
    have hprepared : preparedOf form params = .error e := by
      rw [preparedOf, hkind]
      rfl
    rw [hprepared]
    exact ⟨s, 0, rfl, .refl s, Nat.zero_le 1, nofun⟩
  | ok kind =>
    obtain ⟨u, hu, hpasses⟩ :=
      Work.perform_fillFields kind.jsonFields params form (Run.isLast_current h)
    simp only [Work.perform_bind, hu]
    cases hfilling : Work.filling kind.jsonFields params form with
    | error e =>
      have hprepared : preparedOf form params = .error e := by
        simp only [preparedOf, hkind, hfilling, bind, Except.bind]
      rw [hprepared]
      exact ⟨u, 0, rfl, by simpa using hpasses, Nat.zero_le 1, nofun⟩
    | ok filled =>
      have hgoing : u.run.current.isLast = false :=
        Run.isLast_current (hpasses.isLast h fun _ => Work.isLast_fillingStates form)
      have hprepared : preparedOf form params = checkedOf filled := by
        simp only [preparedOf, hkind, hfilling, bind, Except.bind]
      obtain ⟨v, hv, hquiet⟩ := perform_check filled (u.entering .validating)
      refine ⟨v, 1, ?_, ?_, Nat.le_refl 1, fun _ _ => rfl⟩
      · rw [hprepared, ← hv]
        simp only [Work.perform_bind, Work.perform_enter hgoing]
      · have hall := (hpasses.trans (.entering u .validating)).trans hquiet
        rwa [List.append_nil] at hall

/-! ### The reply -/

/-- The result that a reply comes to. -/
def settledOf (c : Command) (reply : Document) : Except Failure Document := do
  let members ← (Command.replyMembers reply).mapError .defect
  if isGood members then (c.result reply).mapError .defect
  else .error (refusal members)

/-- A reply says that all went well: it says nothing about it, or the number one, whole or not. -/
def SaysGood (reply : Members) : Prop :=
  reply.get? "ok" = none ∨ reply.get? "ok" = some (.int 1) ∨
    reply.get? "ok" = some (.float Binary64.one)

theorem isGood_iff (reply : Members) : isGood reply = true ↔ SaysGood reply := by
  unfold isGood SaysGood
  split
  · next hok => simp [hok]
  · next n hok => simp [hok]
  · next x hok => simp [hok]
  · next d hint hfloat hok =>
    refine iff_of_false Bool.false_ne_true ?_
    rw [hok]
    rintro (hnone | hone | hone)
    · cases hnone
    · exact hint 1 (Option.some.inj hone)
    · exact hfloat _ (Option.some.inj hone)

/-- A reply has a result just when it is an object that says that all went well and the command
makes a result of it. -/
theorem settledOf_eq_ok {c : Command} {reply result : Document} :
    settledOf c reply = .ok result ↔
      ∃ members, reply = .obj members ∧ SaysGood members ∧ c.result reply = .ok result := by
  constructor
  · intro h
    obtain ⟨members, hmembers, h⟩ := Result.bind_eq_ok.mp h
    have hreply : reply = .obj members := by
      have hfound := Result.mapError_eq_ok.mp hmembers
      unfold Command.replyMembers at hfound
      split at hfound
      · cases hfound
        rfl
      · cases hfound
    split at h
    · next hgood =>
      exact ⟨members, hreply, (isGood_iff members).mp hgood, Result.mapError_eq_ok.mp h⟩
    · cases h
  · rintro ⟨members, rfl, hgood, hresult⟩
    have hgood' := (isGood_iff members).mpr hgood
    simp only [settledOf, Command.replyMembers, Result.mapError_ok, bind, Except.bind, hgood',
      if_true, hresult]

/-- Settling a reply sends nothing, and it has entered the last stage where there is a result. -/
theorem perform_settled (c : Command) (reply : Document) {s : Session σ Members}
    (h : s.run.current.isLast = false) :
    ∃ u k, (settled c reply).perform s = (settledOf c reply, u) ∧
      s.Passes u ([.transformingResponse].take k) ∧ k ≤ 1 ∧
      ∀ result, settledOf c reply = .ok result → k = 1 := by
  unfold settled
  rw [Work.perform_bind, Work.perform_ofExcept]
  cases hmembers : (Command.replyMembers reply).mapError Failure.defect with
  | error e =>
    have hsettled : settledOf c reply = .error e := by
      rw [settledOf, hmembers]
      rfl
    rw [hsettled]
    exact ⟨s, 0, rfl, .refl s, Nat.zero_le 1, nofun⟩
  | ok members =>
    cases hgood : isGood members with
    | false =>
      have hsettled : settledOf c reply = .error (refusal members) := by
        simp [settledOf, hmembers, hgood, bind, Except.bind]
      rw [hsettled]
      refine ⟨s, 0, ?_, .refl s, Nat.zero_le 1, nofun⟩
      simp only [hgood, Bool.not_false, if_true]
      rfl
    | true =>
      have hsettled : settledOf c reply = (c.result reply).mapError .defect := by
        simp [settledOf, hmembers, hgood, bind, Except.bind]
      rw [hsettled]
      refine ⟨s.entering .transformingResponse, 1, ?_, .entering s _, Nat.le_refl 1,
        fun _ _ => rfl⟩
      simp only [hgood, Bool.not_true, Bool.false_eq_true, if_false, Work.perform_bind,
        Work.perform_enter h, Work.perform_ofExcept]

end Performing

/-! ### The stages -/

section Stages

variable {σ : Type} (d : Database σ) (form : Members) (params : List Substitution.Param)

/-- What the stages of a command come to. -/
def outcomeOf (service : σ) : Except Failure Document := do
  let p ← preparedOf form params
  let reply ← (d.run service p.document).1
  settledOf p.command reply

/-- What is sent: the document of the command, if one is prepared. -/
def sentOf : List Members :=
  match preparedOf form params with
  | .ok p => [p.document]
  | .error _ => []

/-- The bindings kept for the envelope, if a command is prepared. -/
def boundOf : List Substitution.BoundParameter :=
  match preparedOf form params with
  | .ok p => p.bound
  | .error _ => []

/-- How far a session has come when the stages of a command end. -/
structure Reached (s : Session σ Members) (stages : Nat) : Prop where
  within : stages ≤ 3
  history : s.run.history = .idle :: (opening form ++ order.take stages)
  sent : s.sent = sentOf form params
  bound : s.bound = boundOf form params
  dispatched : 2 ≤ stages ↔ ∃ p, preparedOf form params = .ok p

variable {d form params}

theorem isLast_opening {state : RunState} (h : state ∈ opening form) : state.isLast = false := by
  unfold opening at h
  split at h
  · exact Work.isLast_fillingStates form h
  · cases h

theorem isLast_order {state : RunState} (h : state ∈ order) : state.isLast = false := by
  simp only [order, List.mem_cons, List.not_mem_nil, or_false] at h
  obtain rfl | rfl | rfl := h <;> rfl

theorem isLast_states {stages : Nat} :
    ∀ state ∈ opening form ++ order.take stages, state.isLast = false := by
  intro state hstate
  rw [List.mem_append] at hstate
  exact hstate.elim isLast_opening fun h => isLast_order (List.mem_of_mem_take h)

theorem Reached.isLast_current {s : Session σ Members} {stages : Nat}
    (h : Reached form params s stages) : s.run.current.isLast = false := by
  refine Run.isLast_current fun state hstate => ?_
  rw [h.history, List.mem_cons] at hstate
  obtain rfl | hstate := hstate
  · rfl
  · exact isLast_states state hstate

/-- A session that has sent a document to the database. -/
def sending (d : Database σ) (s : Session σ Members) (document : Members) : Session σ Members :=
  { s.reporting [.commandSent document.keys.head?] with
    service := (d.run s.service document).2
    sent := s.sent ++ [document] }

theorem perform_dispatch (s : Session σ Members) (document : Members) :
    (dispatch d document).perform s = ((d.run s.service document).1, sending d s document) := by
  simp only [dispatch, Work.perform_bind, Work.perform_report, Work.perform_get, Work.perform_set,
    Work.perform_ofExcept]
  rfl

/-- Where no command is prepared, a session ends within the stages of preparing. -/
theorem reached_of_error {s u : Session σ Members} (hhistory : s.run.history = [.idle])
    (hsent : s.sent = []) (hbound : s.bound = []) {k : Nat}
    (hpasses : s.Passes u (opening form ++ order.take k)) (hk : k ≤ 1) {e : Failure}
    (hp : preparedOf form params = .error e) : Reached form params u k where
  within := by omega
  history := by
    rw [hpasses.history, hhistory]
    rfl
  sent := by rw [hpasses.sent, hsent, sentOf, hp]
  bound := by rw [hpasses.bound, hbound, boundOf, hp]
  dispatched := by
    rw [hp]
    exact iff_of_false (by omega) nofun

/-- Where a command is prepared, its document is sent and its bindings are kept. -/
theorem reached_of_sending (d : Database σ) {s u : Session σ Members}
    (hhistory : s.run.history = [.idle]) (hsent : s.sent = [])
    (hpasses : s.Passes u (opening form ++ order.take 1)) {p : Prepared}
    (hp : preparedOf form params = .ok p) :
    Reached form params
      (sending d (Session.entering { u with bound := p.bound } .dispatching) p.document) 2 where
  within := by decide
  history := by
    let kept : Session σ Members := { u with bound := p.bound }
    have hlast : kept.run.history = .idle :: (opening form ++ order.take 1) := by
      change u.run.history = _
      rw [hpasses.history, hhistory]
      rfl
    have hentered := (Session.Passes.entering kept .dispatching).history
    rw [hlast, List.cons_append, List.append_assoc] at hentered
    exact hentered
  sent := by
    change u.sent ++ [p.document] = _
    rw [sentOf, hp, hpasses.sent, hsent]
    rfl
  bound := by
    rw [boundOf, hp]
    rfl
  dispatched := iff_of_true (by decide) ⟨p, hp⟩

/-- The last stage comes after the document is sent. -/
theorem Reached.settled {u v : Session σ Members} (h : Reached form params u 2) {k : Nat}
    (hpasses : u.Passes v ([.transformingResponse].take k)) (hk : k ≤ 1) :
    Reached form params v (2 + k) where
  within := by omega
  history := by
    rw [hpasses.history, h.history, List.cons_append, List.append_assoc, List.take_add]
    rfl
  sent := by rw [hpasses.sent, h.sent]
  bound := by rw [hpasses.bound, h.bound]
  dispatched := iff_of_true (by omega) (h.dispatched.mp (Nat.le_refl 2))

/-- **The stages of a command go as far as it gets.** The document of the command is sent once, just
when one is prepared, and a result is given after the last stage only. -/
theorem perform_stages (d : Database σ) (form : Members) (params : List Substitution.Param)
    {s : Session σ Members} (hhistory : s.run.history = [.idle])
    (hsent : s.sent = []) (hbound : s.bound = []) :
    ∃ u k, (stages d form params).perform s = (outcomeOf d form params s.service, u) ∧
      Reached form params u k ∧
      ∀ result, outcomeOf d form params s.service = .ok result → k = 3 := by
  have hidle : ∀ state ∈ s.run.history, state.isLast = false := by
    rw [hhistory]
    simp [RunState.isLast]
  obtain ⟨u, k, hu, hpasses, hk, hprepared⟩ := perform_prepare form params hidle
  have hgoing := hpasses.isLast hidle isLast_states
  unfold stages
  rw [Work.perform_bind, hu]
  cases hp : preparedOf form params with
  | error e =>
    have houtcome : outcomeOf d form params s.service = .error e := by
      rw [outcomeOf, hp]
      rfl
    rw [houtcome]
    exact ⟨u, k, rfl, reached_of_error hhistory hsent hbound hpasses hk hp, nofun⟩
  | ok p =>
    obtain rfl := hprepared p hp
    let kept : Session σ Members := { u with bound := p.bound }
    have hkept : kept.run.current.isLast = false := Run.isLast_current hgoing
    let v := sending d (kept.entering .dispatching) p.document
    have hdispatched : Reached form params v 2 :=
      reached_of_sending d hhistory hsent hpasses hp
    have houtcome : outcomeOf d form params s.service =
        (d.run s.service p.document).1 >>= settledOf p.command := by
      rw [outcomeOf, hp]
      rfl
    have hservice : (kept.entering .dispatching).service = s.service := hpasses.service
    change ∃ w k, (do
      Work.enter .dispatching
      let reply ← dispatch d p.document
      settled p.command reply).perform kept = _ ∧ _
    rw [Work.perform_bind, Work.perform_enter hkept]
    simp only [Work.perform_bind, perform_dispatch, hservice, houtcome]
    cases (d.run s.service p.document).1 with
    | error e => exact ⟨v, 2, rfl, hdispatched, nofun⟩
    | ok reply =>
      obtain ⟨w, k, hw, hlast, hk, hsettled⟩ :=
        perform_settled p.command reply hdispatched.isLast_current
      refine ⟨w, 2 + k, hw, hdispatched.settled hlast hk, fun result hresult => ?_⟩
      rw [hsettled result hresult]

end Stages

/-! ### The whole run -/

section Whole

variable {σ : Type} (d : Database σ) (form : Members) (params : List Substitution.Param)
variable (service : σ)

/-- A command is prepared, the database answers its document by an object that says that all went
well, and the command makes a result of that. -/
def Settles : Prop :=
  ∃ p reply members result, Prepares form params p ∧ (d.run service p.document).1 = .ok reply ∧
    reply = .obj members ∧ SaysGood members ∧ p.command.result reply = .ok result

/-- A run from its beginning to its end: the stages that it has entered and its last state, what was
sent, and whether its envelope tells a success. -/
structure Ran (envelope : Envelope) (s : Session σ Members) (stages : Nat) (last : RunState) :
    Prop where
  history : s.run.history = .idle :: (opening form ++ order.take stages ++ [last])
  ending : last = .done ∧ stages = 3 ∨ last = .failed ∧ stages ≤ 3
  /-- the document of a prepared command is sent once, and nothing else -/
  sent : (∃ p, Prepares form params p ∧ s.sent = [p.document] ∧ 2 ≤ stages) ∨
    (∀ p, ¬Prepares form params p) ∧ s.sent = [] ∧ stages ≤ 1
  success : envelope.success = true ↔ last = .done
  settles : last = .done ↔ Settles d form params service

variable {d form params service}

theorem outcomeOf_eq_ok :
    (∃ result, outcomeOf d form params service = .ok result) ↔ Settles d form params service := by
  constructor
  · rintro ⟨result, h⟩
    obtain ⟨p, hp, h⟩ := Result.bind_eq_ok.mp h
    obtain ⟨reply, hreply, h⟩ := Result.bind_eq_ok.mp h
    obtain ⟨members, hmembers, hgood, hresult⟩ := settledOf_eq_ok.mp h
    exact ⟨p, reply, members, result, preparedOf_eq_ok.mp hp, hreply, hmembers, hgood, hresult⟩
  · rintro ⟨p, reply, members, result, hp, hreply, hmembers, hgood, hresult⟩
    refine ⟨result, Result.bind_eq_ok.mpr ⟨p, preparedOf_eq_ok.mpr hp, ?_⟩⟩
    exact Result.bind_eq_ok.mpr
      ⟨reply, hreply, settledOf_eq_ok.mpr ⟨members, hmembers, hgood, hresult⟩⟩

theorem refusal_ne_unknown (reply : Members) (key : String) (known : List String) :
    refusal reply ≠ .problem (.unknownOperation key known) := by
  unfold refusal
  split <;> nofun

/-- A reply that is no success is no command that there is not. -/
theorem settledOf_ne_unknown (c : Command) (reply : Document) (key : String) (known : List String) :
    settledOf c reply ≠ .error (.problem (.unknownOperation key known)) := by
  intro h
  obtain hmembers | ⟨members, -, h⟩ := Result.bind_eq_error.mp h
  · obtain ⟨defect, -, hdefect⟩ := Result.mapError_eq_error.mp hmembers
    cases hdefect
  · split at h
    · obtain ⟨defect, -, hdefect⟩ := Result.mapError_eq_error.mp h
      cases hdefect
    · exact refusal_ne_unknown _ _ _ (Except.error.inj h)

/-- Where the database does not say so itself, a command there is not is one that the form names. -/
theorem kindOf_of_outcomeOf {key : String} {known : List String}
    (hd : ∀ s document key known,
      (d.run s document).1 ≠ .error (.problem (.unknownOperation key known)))
    (h : outcomeOf d form params service = .error (.problem (.unknownOperation key known))) :
    Command.kindOf form = .error (.problem (.unknownOperation key known)) := by
  obtain hprepared | ⟨p, -, h⟩ := Result.bind_eq_error.mp h
  · obtain ⟨key, known, -, hkind⟩ | hcontent := preparedOf_eq_error hprepared
    · exact hkind
    · exact absurd rfl (hcontent _ _)
  · obtain hreply | ⟨reply, -, h⟩ := Result.bind_eq_error.mp h
    · exact absurd hreply (hd _ _ _ _)
    · exact absurd h (settledOf_ne_unknown _ _ _ _)

theorem Reached.sent_iff {s : Session σ Members} {stages : Nat}
    (h : Reached form params s stages) :
    (∃ p, Prepares form params p ∧ s.sent = [p.document] ∧ 2 ≤ stages) ∨
      (∀ p, ¬Prepares form params p) ∧ s.sent = [] ∧ stages ≤ 1 := by
  cases hp : preparedOf form params with
  | ok p =>
    refine .inl ⟨p, preparedOf_eq_ok.mp hp, ?_, h.dispatched.mpr ⟨p, hp⟩⟩
    rw [h.sent, sentOf, hp]
  | error e =>
    have hnone : ¬∃ p, preparedOf form params = .ok p := by
      rintro ⟨p, hok⟩
      rw [hp] at hok
      cases hok
    refine .inr ⟨fun p hprepares => hnone ⟨p, preparedOf_eq_ok.mpr hprepares⟩, ?_, ?_⟩
    · rw [h.sent, sentOf, hp]
    · have hstages := mt h.dispatched.mp hnone
      omega

theorem finished_course {s : Session σ Members} (h : s.run.current.isLast = false)
    (result : Document) :
    (finished result).courseFrom s =
      ⟨.ok (.succeeded none [] result s.bound), s.entering .done⟩ := by
  simp only [Work.courseFrom, finished, Work.perform_bind, Work.perform_enter h,
    Work.perform_get, Work.perform_pure]
  rfl

theorem refused_course {s : Session σ Members} (h : s.run.current.isLast = false) (p : Problem) :
    ∃ u, (refused p).courseFrom s = ⟨.ok (.failure p none [] s.bound), u⟩ ∧
      u.run.history = s.run.history ++ [.failed] ∧ u.sent = s.sent := by
  let told := s.reporting [.runFailed s.run.operation s.run.current (.problem p)]
  refine ⟨told.entering .failed, ?_, (Session.Passes.entering told .failed).history, rfl⟩
  simp only [Work.courseFrom, refused, Work.perform_bind, Work.perform_fail h,
    Work.perform_get, Work.perform_pure]
  rfl

/-- **The course of a command under a name.** If its stages have a result, the run is done; if they
fail by a command that there is not, there is no envelope; any other failure is told by one. -/
theorem executeAs_course (name : String) (d : Database σ) (form : Members)
    (params : List Substitution.Param) (service : σ) :
    ∃ u k, Reached form params u k ∧
      (∀ result, outcomeOf d form params service = .ok result → k = 3 ∧
        executeAs name d form params service =
          ⟨.ok (.succeeded none [] result u.bound), u.entering .done⟩) ∧
      (∀ key known, outcomeOf d form params service =
          .error (.problem (.unknownOperation key known)) →
        executeAs name d form params service =
          ⟨.error (.problem (.unknownOperation key known)), u⟩) ∧
      ∀ e, outcomeOf d form params service = .error e →
        (∀ key known, e ≠ .problem (.unknownOperation key known)) →
        ∃ v, executeAs name d form params service =
            ⟨.ok (.failure (e.atStep u.run.current.name) none [] u.bound), v⟩ ∧
          v.run.history = u.run.history ++ [.failed] ∧ v.sent = u.sent := by
  let begun : Session σ Members := (Session.start service name).reporting [.runStarted name]
  obtain ⟨u, k, hu, hreached, hdone⟩ :=
    perform_stages d form params (s := begun) rfl rfl rfl
  have hstages : (stages d form params).perform begun = (outcomeOf d form params service, u) := hu
  refine ⟨u, k, hreached, fun result h => ⟨hdone result h, ?_⟩, fun key known h => ?_,
    fun e h hknown => ?_⟩
  · rw [h] at hstages
    rw [← finished_course hreached.isLast_current result]
    simp only [executeAs, begun] at hstages ⊢
    rw [hstages]
  · rw [h] at hstages
    simp only [executeAs, begun] at hstages ⊢
    rw [hstages]
  · rw [h] at hstages
    obtain ⟨v, hv, hhistory, hsent⟩ :=
      refused_course hreached.isLast_current (e.atStep u.run.current.name)
    refine ⟨v, ?_, hhistory, hsent⟩
    rw [← hv]
    simp only [executeAs, begun] at hstages ⊢
    rw [hstages]
    split
    · next hcase => cases hcase
    · next key known hcase =>
      cases hcase
      exact absurd rfl (hknown key known)
    · next hcase =>
      cases hcase
      rfl

end Whole

/-- A form that can be told has a name for its run. -/
theorem operationName_of_isTellable {form : Members}
    (h : (Document.obj form).isTellable = true) : ∃ name, operationName form = .ok name := by
  have hname : (Document.ofOption (form.get? "command")).isTellable = true := by
    cases hcommand : form.get? "command" with
    | none => rfl
    | some d => exact Form.isTellable_of_get? h hcommand
  exact ⟨_, Document.told_of_isTellable hname⟩

/-- A form that names a command is not empty, and has a name for its run. -/
theorem named_of_kindOf {form : Members} {kind : CommandKind}
    (h : Command.kindOf form = .ok kind) :
    form ≠ [] ∧ ∃ name, operationName form = .ok name := by
  obtain ⟨name, hname, hkind⟩ := Result.bind_eq_ok.mp h
  rcases name with _ | name
  · cases hkind
  · obtain ⟨found, hfound, -, -⟩ := Form.text?_eq_some.mp (Result.mapError_eq_ok.mp hname)
    rw [Form.lookup_of_parts form (by decide)] at hfound
    refine ⟨?_, _, by rw [operationName, hfound]; rfl⟩
    rintro rfl
    cases hfound

theorem execute_eq_executeAs {σ : Type} (d : Database σ) {form : Members} (hform : form ≠ [])
    {name : String} (hname : operationName form = .ok name) (params : List Substitution.Param)
    (service : σ) : execute d form params service = executeAs name d form params service := by
  have hempty : form.isEmpty = false := by simpa using hform
  simp only [execute, hempty, hname, Bool.false_eq_true, if_false]

/-- **Every run of a command is orderly.** Where the integers of a form have texts, and the database
does not itself speak of operations that there are not, only a form that names no command there is
keeps a run from its envelope, and then nothing is sent. Every other run enters its stages in order
up to one of them, then `done` after the last stage or `failed`. It sends the document of a prepared
command once and nothing else, and its envelope tells a success just when the run ends in `done`,
which it does just when the database's reply is good and the command makes a result of it. -/
theorem command_orderly {σ : Type} (d : Database σ) {form : Members} (hform : form ≠ [])
    (htold : (Document.obj form).isTellable = true) (params : List Substitution.Param) (service : σ)
    (hd : ∀ s document key known,
      (d.run s document).1 ≠ .error (.problem (.unknownOperation key known))) :
    (∃ key known s,
      execute d form params service = ⟨.error (.problem (.unknownOperation key known)), s⟩ ∧
      Command.kindOf form = .error (.problem (.unknownOperation key known)) ∧ s.sent = []) ∨
    ∃ envelope s stages last, execute d form params service = ⟨.ok envelope, s⟩ ∧
      Ran d form params service envelope s stages last := by
  obtain ⟨name, hname⟩ := operationName_of_isTellable htold
  rw [execute_eq_executeAs d hform hname]
  obtain ⟨u, k, hreached, hok, hunknown, herror⟩ :=
    executeAs_course name d form params service
  have hsettles : (∃ result, outcomeOf d form params service = .ok result) ↔
      Settles d form params service := outcomeOf_eq_ok
  cases houtcome : outcomeOf d form params service with
  | ok result =>
    obtain ⟨rfl, hrun⟩ := hok result houtcome
    refine .inr ⟨_, _, 3, .done, hrun, ?_⟩
    exact
      { history := by
          rw [(Session.Passes.entering u .done).history, hreached.history]
          rfl
        ending := .inl ⟨rfl, rfl⟩
        sent := hreached.sent_iff
        success := iff_of_true rfl rfl
        settles := iff_of_true rfl (hsettles.mp ⟨result, houtcome⟩) }
  | error e =>
    by_cases hknown : ∃ key known, e = .problem (.unknownOperation key known)
    · obtain ⟨key, known, rfl⟩ := hknown
      have hkind := kindOf_of_outcomeOf hd houtcome
      refine .inl ⟨key, known, u, hunknown key known houtcome, hkind, ?_⟩
      rw [hreached.sent, sentOf, preparedOf, hkind]
      rfl
    · obtain ⟨v, hrun, hhistory, hsent⟩ :=
        herror e houtcome fun key known he => hknown ⟨key, known, he⟩
      refine .inr ⟨_, v, k, .failed, hrun, ?_⟩
      exact
        { history := by
            rw [hhistory, hreached.history]
            rfl
          ending := .inr ⟨rfl, hreached.within⟩
          sent := hsent ▸ hreached.sent_iff
          success := iff_of_false Bool.false_ne_true nofun
          settles := by
            refine iff_of_false nofun fun h => ?_
            obtain ⟨result, hresult⟩ := hsettles.mpr h
            rw [houtcome] at hresult
            cases hresult }

/-- A database that answers every document by the same good reply. -/
def agreeing : Database Unit where
  run _ _ := (.ok (.obj [("ok", .int 1), ("n", .int 2)]), ())

/-- Counting the documents of a collection. -/
def counting : Members := [("command", .str "COUNT"), ("collection", .str "a")]

/-- Counting documents is an orderly run. -/
theorem command_orderly_counting :
    counting ≠ [] ∧ (Document.obj counting).isTellable = true ∧
    (∀ s document key known,
      (agreeing.run s document).1 ≠ .error (.problem (.unknownOperation key known))) ∧
    ∃ envelope s stages last, execute agreeing counting [] () = ⟨.ok envelope, s⟩ ∧
      Ran agreeing counting [] () envelope s stages last := by
  have hform : counting ≠ [] := by simp [counting]
  have htold : (Document.obj counting).isTellable = true := by decide
  have hd : ∀ s document key known,
      (agreeing.run s document).1 ≠ .error (.problem (.unknownOperation key known)) := nofun
  have hkind : Command.kindOf counting = .ok .count := by rfl
  refine ⟨hform, htold, hd, ?_⟩
  obtain ⟨key, known, s, -, h, -⟩ | h := command_orderly agreeing hform htold [] () hd
  · rw [hkind] at h
    cases h
  · exact h

end CommandRun
end FormDispatch
