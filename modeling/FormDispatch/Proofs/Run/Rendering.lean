/-
# Rendering and execution

A form may be rendered or executed, and both begin by preparing its command. Where that has a
result, the document rendered is the document sent; where the form names no command there is, both
say so; where it fails by another problem, both envelopes tell that problem and nothing is sent.
They part where preparing meets a defect, which is always one of length: execution tells it as the
problem of a step, and rendering has no envelope. `render_agrees_iff` says that this is the only way
for them to part.
-/

import FormDispatch.Proofs.Run.CommandRun

namespace FormDispatch
namespace CommandRun

section Courses

variable {σ : Type} (d : Database σ) (form : Members) (params : List Substitution.Param)
variable (service : σ)

/-- What rendering comes to under a name. -/
def renderedOf : Except Failure Envelope :=
  match preparedOf form params with
  | .ok p => .ok (.succeeded none [] (.obj p.document) p.bound)
  | .error (.problem (.unknownOperation key known)) =>
    .error (.problem (.unknownOperation key known))
  | .error (.problem p) => .ok (.failure p none [] [])
  | .error (.defect e) => .error (.defect e)

/-- **Rendering depends on preparing alone.** -/
theorem renderAs_outcome (name : String) :
    (renderAs name form params service).outcome = renderedOf form params := by
  have hidle : ∀ state ∈ (Session.start service name : Session σ Members).run.history,
      state.isLast = false := by
    simp [Session.start, Run.start, Run.history, RunState.isLast]
  obtain ⟨u, k, hu, hpasses, -, -⟩ := perform_prepare form params hidle
  have hgoing := Run.isLast_current (hpasses.isLast hidle isLast_states)
  have hbound : u.bound = [] := hpasses.bound
  unfold renderAs renderStages renderedOf
  rw [Work.perform_bind, hu]
  cases preparedOf form params with
  | ok p =>
    let kept : Session σ Members := { u with bound := p.bound }
    have hkept : kept.run.current.isLast = false := hgoing
    change ((finished (.obj p.document)).courseFrom kept).outcome = _
    rw [finished_course hkept]
  | error e =>
    cases e with
    | defect e => rfl
    | problem q =>
      obtain ⟨v, hv, -, -⟩ := refused_course hgoing q
      rw [hbound] at hv
      cases q <;> first | rfl | exact congrArg Course.outcome hv

variable {form params}

theorem renderedOf_of_problem {q : Problem} (h : preparedOf form params = .error (.problem q))
    (hq : ∀ key known, q ≠ .unknownOperation key known) :
    renderedOf form params = .ok (.failure q none [] []) := by
  unfold renderedOf
  rw [h]
  cases q <;> first | rfl | exact absurd rfl (hq _ _)

theorem outcomeOf_of_error {e : Failure} (h : preparedOf form params = .error e) :
    outcomeOf d form params service = .error e :=
  Result.bind_eq_error.mpr (.inl h)

/-- A form that names no command there is is executed to nothing. -/
theorem executeAs_of_unknown {key : String} {known : List String}
    (h : preparedOf form params = .error (.problem (.unknownOperation key known))) (name : String) :
    ∃ s, executeAs name d form params service =
      ⟨.error (.problem (.unknownOperation key known)), s⟩ := by
  obtain ⟨u, k, -, -, hunknown, -⟩ := executeAs_course name d form params service
  exact ⟨u, hunknown key known (outcomeOf_of_error d service h)⟩

/-- A form that fails otherwise has an envelope that tells it, and nothing is sent. -/
theorem executeAs_of_error {e : Failure} (h : preparedOf form params = .error e)
    (hknown : ∀ key known, e ≠ .problem (.unknownOperation key known)) (name : String) :
    ∃ stage s, executeAs name d form params service =
      ⟨.ok (.failure (e.atStep stage) none [] []), s⟩ ∧ s.sent = [] := by
  obtain ⟨u, k, hreached, -, -, herror⟩ := executeAs_course name d form params service
  obtain ⟨v, hv, -, hsent⟩ := herror e (outcomeOf_of_error d service h) hknown
  refine ⟨u.run.current.name, v, ?_, ?_⟩
  · rw [hv, hreached.bound, boundOf, h]
  · rw [hsent, hreached.sent, sentOf, h]

/-- A prepared command is sent once, and every envelope holds its bindings. -/
theorem executeAs_of_ok {p : Prepared} (h : preparedOf form params = .ok p) (name : String) :
    ∃ outcome s, executeAs name d form params service = ⟨outcome, s⟩ ∧ s.sent = [p.document] ∧
      ((∃ executed, outcome = .ok executed ∧ executed.params = p.bound) ∨
        ∃ key known, (d.run service p.document).1 =
          .error (.problem (.unknownOperation key known))) := by
  obtain ⟨u, k, hreached, hok, hunknown, herror⟩ := executeAs_course name d form params service
  have hsent : u.sent = [p.document] := by rw [hreached.sent, sentOf, h]
  have hbound : u.bound = p.bound := by rw [hreached.bound, boundOf, h]
  cases houtcome : outcomeOf d form params service with
  | ok result =>
    obtain ⟨-, hrun⟩ := hok result houtcome
    exact ⟨_, _, hrun, hsent, .inl ⟨_, rfl, hbound⟩⟩
  | error e =>
    by_cases hknown : ∃ key known, e = .problem (.unknownOperation key known)
    · obtain ⟨key, known, rfl⟩ := hknown
      refine ⟨_, u, hunknown key known houtcome, hsent, .inr ⟨key, known, ?_⟩⟩
      have hrest : (d.run service p.document).1 >>= settledOf p.command =
          .error (.problem (.unknownOperation key known)) := by
        rw [outcomeOf, h] at houtcome
        exact houtcome
      obtain hreply | ⟨reply, -, hsettled⟩ := Result.bind_eq_error.mp hrest
      · exact hreply
      · exact absurd hsettled (settledOf_ne_unknown _ _ _ _)
    · obtain ⟨v, hv, -, hkept⟩ :=
        herror e houtcome fun key known he => hknown ⟨key, known, he⟩
      exact ⟨_, v, hv, hkept.trans hsent, .inl ⟨_, rfl, hbound⟩⟩

end Courses

/-! ### Agreement -/

section Agreement

variable {σ : Type} (d : Database σ) (form : Members) (params : List Substitution.Param)
variable (service : σ)

/-- Neither rendering nor execution has an envelope: there is no such command. -/
def BothUnknown : Prop :=
  ∃ key known,
    (render form params service).outcome = .error (.problem (.unknownOperation key known)) ∧
    (execute d form params service).outcome = .error (.problem (.unknownOperation key known))

/-- Both have envelopes that tell the same failure, and nothing is sent. -/
def BothFail : Prop :=
  ∃ rendered executed, (render form params service).outcome = .ok rendered ∧
    (execute d form params service).outcome = .ok executed ∧
    rendered.success = false ∧ executed.success = false ∧ rendered.body = executed.body ∧
    rendered.code = executed.code ∧ (execute d form params service).session.sent = []

/-- The document rendered is sent, once, and the bindings in the envelopes are the same; there is
no second envelope only if the database itself speaks of an operation that there is not. -/
def SameDocument : Prop :=
  ∃ rendered document, (render form params service).outcome = .ok rendered ∧
    rendered.success = true ∧ rendered.body = .obj document ∧
    (execute d form params service).session.sent = [document] ∧
    ((∃ executed, (execute d form params service).outcome = .ok executed ∧
        executed.params = rendered.params) ∨
      ∃ key known, (d.run service document).1 = .error (.problem (.unknownOperation key known)))

/-- Rendering and execution agree in exactly one of three ways. -/
def Agree : Prop :=
  (BothUnknown d form params service ∨ BothFail d form params service ∨
    SameDocument d form params service) ∧
  ¬(BothUnknown d form params service ∧ BothFail d form params service) ∧
  ¬(BothUnknown d form params service ∧ SameDocument d form params service) ∧
  ¬(BothFail d form params service ∧ SameDocument d form params service)

/-- Preparing a form meets a defect: its name cannot be told, or its command is not prepared. -/
def Meets (e : Defect) : Prop :=
  operationName form = .error e ∨
    (∃ name, operationName form = .ok name) ∧ preparedOf form params = .error (.defect e)

variable {form params}

theorem agree_of_or (h : BothUnknown d form params service ∨ BothFail d form params service ∨
    SameDocument d form params service) : Agree d form params service := by
  refine ⟨h, ?_, ?_, ?_⟩
  · rintro ⟨⟨_, _, hunknown, -⟩, ⟨_, _, hrendered, -⟩⟩
    rw [hunknown] at hrendered
    cases hrendered
  · rintro ⟨⟨_, _, hunknown, -⟩, ⟨_, _, hrendered, -⟩⟩
    rw [hunknown] at hrendered
    cases hrendered
  · rintro ⟨⟨_, _, hfailed, -, hfalse, -⟩, ⟨_, _, hrendered, htrue, -⟩⟩
    rw [hfailed] at hrendered
    cases hrendered
    rw [hfalse] at htrue
    cases htrue

theorem render_eq_renderAs {form : Members} (hform : form ≠ []) {name : String}
    (hname : operationName form = .ok name) (params : List Substitution.Param) (service : σ) :
    render form params service = renderAs name form params service := by
  have hempty : form.isEmpty = false := by simpa using hform
  simp only [render, hempty, hname, Bool.false_eq_true, if_false]

/-- Where a command is prepared, its document is the one rendered and sent. -/
theorem sameDocument_of_ok (hform : form ≠ []) {name : String}
    (hname : operationName form = .ok name) {p : Prepared} (hp : preparedOf form params = .ok p) :
    SameDocument d form params service := by
  have hrender := renderAs_outcome form params service name
  rw [← render_eq_renderAs hform hname] at hrender
  obtain ⟨outcome, s, hrun, hsent, hanswer⟩ := executeAs_of_ok d service hp name
  rw [← execute_eq_executeAs d hform hname] at hrun
  refine ⟨.succeeded none [] (.obj p.document) p.bound, p.document, ?_, rfl, rfl, ?_, ?_⟩
  · rw [hrender, renderedOf, hp]
  · rw [hrun]
    exact hsent
  · rw [hrun]
    exact hanswer

/-- Where there is no such command, both say so. -/
theorem bothUnknown_of_unknown (hform : form ≠ []) {name : String}
    (hname : operationName form = .ok name) {key : String} {known : List String}
    (hp : preparedOf form params = .error (.problem (.unknownOperation key known))) :
    BothUnknown d form params service := by
  have hrender := renderAs_outcome form params service name
  rw [← render_eq_renderAs hform hname] at hrender
  obtain ⟨s, hrun⟩ := executeAs_of_unknown d service hp name
  rw [← execute_eq_executeAs d hform hname] at hrun
  refine ⟨key, known, ?_, ?_⟩
  · rw [hrender, renderedOf, hp]
  · rw [hrun]

/-- Where preparing fails by another problem, both envelopes tell it. -/
theorem bothFail_of_problem (hform : form ≠ []) {name : String}
    (hname : operationName form = .ok name) {q : Problem}
    (hp : preparedOf form params = .error (.problem q))
    (hq : ∀ key known, q ≠ .unknownOperation key known) : BothFail d form params service := by
  have hrender := renderAs_outcome form params service name
  rw [← render_eq_renderAs hform hname] at hrender
  have hknown : ∀ key known, Failure.problem q ≠ .problem (.unknownOperation key known) :=
    fun key known he => hq key known (Failure.problem.inj he)
  obtain ⟨stage, s, hrun, hsent⟩ := executeAs_of_error d service hp hknown name
  rw [← execute_eq_executeAs d hform hname] at hrun
  refine ⟨_, _, ?_, congrArg Course.outcome hrun, rfl, rfl, rfl, rfl, ?_⟩
  · rw [hrender]
    exact renderedOf_of_problem hp hq
  · rw [hrun]
    exact hsent

/-- Where preparing meets no defect, rendering and execution agree. -/
theorem agree_of_not_meets (hform : form ≠ []) (h : ∀ e, ¬Meets form params e) :
    Agree d form params service := by
  cases hname : operationName form with
  | error e => exact absurd (.inl hname) (h e)
  | ok name =>
    refine agree_of_or d service ?_
    cases hp : preparedOf form params with
    | ok p => exact .inr (.inr (sameDocument_of_ok d service hform hname hp))
    | error e =>
      obtain q | e := e
      · by_cases hknown : ∃ key known, q = .unknownOperation key known
        · obtain ⟨key, known, rfl⟩ := hknown
          exact .inl (bothUnknown_of_unknown d service hform hname hp)
        · have hq : ∀ key known, q ≠ .unknownOperation key known :=
            fun key known he => hknown ⟨key, known, he⟩
          exact .inr (.inl (bothFail_of_problem d service hform hname hp hq))
      · exact absurd (.inr ⟨⟨name, hname⟩, hp⟩) (h e)

theorem isOfLength_of_meets {e : Defect} (h : Meets form params e) : e.IsOfLength := by
  obtain hname | ⟨-, hprepared⟩ := h
  · unfold operationName Document.told at hname
    split at hname
    · cases hname
    · cases hname
      exact .inl rfl
  · obtain ⟨key, known, he, -⟩ | hcontent := preparedOf_eq_error hprepared
    · cases he
    · exact hcontent

/-- Where preparing meets a defect, rendering has no envelope and execution sends nothing; it has an
envelope that tells the defect as the problem of a step, unless the form's name cannot be told. -/
theorem parts_of_meets (hform : form ≠ []) {e : Defect} (h : Meets form params e) :
    (render form params service).outcome = .error (.defect e) ∧
    (execute d form params service).session.sent = [] ∧
    ((execute d form params service).outcome = .error (.defect e) ∨
      ∃ stage, (execute d form params service).outcome =
        .ok (.failure (.stepFailed stage e.name e.message) none [] [])) := by
  have hempty : form.isEmpty = false := by simpa using hform
  obtain hname | ⟨⟨name, hname⟩, hprepared⟩ := h
  · simp only [render, execute, hempty, hname, Bool.false_eq_true, if_false]
    exact ⟨trivial, rfl, .inl trivial⟩
  · have hknown : ∀ key known, Failure.defect e ≠ .problem (.unknownOperation key known) := by
      intro key known h
      cases h
    obtain ⟨stage, s, hrun, hsent⟩ := executeAs_of_error d service hprepared hknown name
    rw [render_eq_renderAs hform hname, renderAs_outcome, renderedOf, hprepared,
      execute_eq_executeAs d hform hname, hrun]
    exact ⟨rfl, hsent, .inr ⟨stage, rfl⟩⟩

end Agreement

/-- **Rendering and execution agree just when preparing meets no defect.** They agree in exactly one
of three ways: neither has an envelope for want of the command, both envelopes tell the same
failure and nothing is sent, or the document rendered is sent once. The defect that parts them is
one of length; rendering then has no envelope, while execution, which sends nothing, has one unless
the form's name cannot be told. -/
theorem render_agrees_iff {σ : Type} (d : Database σ) {form : Members} (hform : form ≠ [])
    (params : List Substitution.Param) (service : σ) :
    (Agree d form params service ↔ ∀ e, ¬Meets form params e) ∧
    ∀ e, Meets form params e → e.IsOfLength ∧
      (render form params service).outcome = .error (.defect e) ∧
      (execute d form params service).session.sent = [] ∧
      ((execute d form params service).outcome = .error (.defect e) ∨
        ∃ stage, (execute d form params service).outcome =
          .ok (.failure (.stepFailed stage e.name e.message) none [] [])) := by
  refine ⟨⟨fun h e hmeets => ?_, agree_of_not_meets d service hform⟩,
    fun e hmeets => ⟨isOfLength_of_meets hmeets, parts_of_meets d service hform hmeets⟩⟩
  obtain ⟨hrender, -, -⟩ := parts_of_meets d service hform hmeets
  obtain ⟨_, _, h, -⟩ | ⟨_, _, h, -⟩ | ⟨_, _, h, -⟩ := h.1 <;>
  · rw [hrender] at h
    cases h

/-- Finding as many documents as digits say. -/
def finding (digits : List Char) : Members :=
  [("command", .str "FIND"), ("collection", .str "a"), ("find.limit", .str (String.ofList digits))]

/-- A limit of too many digits is a defect of preparing. -/
theorem meets_finding {digits : List Char} (hdigits : ∀ c ∈ digits, Text.isDecimalDigit c = true)
    (hlong : Numeral.longestNumeral < digits.length) :
    Meets (finding digits) [] (.numeralTooLong digits.length) := by
  have hlimit : Command.integer? (finding digits) "find.limit" =
      .error (.defect (.numeralTooLong digits.length)) :=
    Command.integer?_of_long rfl hdigits hlong
  have hkind : Command.kindOf (finding digits) = .ok .find := by rfl
  have hfilling : Work.filling CommandKind.find.jsonFields [] (finding digits) =
      .ok (finding digits, []) := by rfl
  have hcollection : Command.text? (finding digits) "collection" = .ok (some "a") := by rfl
  have hquery : Command.text? (finding digits) "find.query" = .ok none := by rfl
  have hsort : Command.text? (finding digits) "find.sort" = .ok none := by rfl
  have hprojection : Command.text? (finding digits) "find.projection" = .ok none := by rfl
  have hform : Command.ofForm (finding digits) =
      .error (.defect (.numeralTooLong digits.length)) := by
    simp only [Command.ofForm, Command.bodyOf, hkind, hcollection, hquery, hsort, hprojection,
      hlimit, bind, Except.bind]
  refine .inr ⟨⟨"FIND", by rfl⟩, ?_⟩
  simp only [preparedOf, checkedOf, hkind, hfilling, hform, bind, Except.bind]

/-- Finding as many documents as 4301 digits say has an envelope when it is executed, and none when
it is rendered. -/
theorem render_agrees_iff_finding :
    finding (List.replicate 4301 '9') ≠ [] ∧
    Meets (finding (List.replicate 4301 '9')) [] (.numeralTooLong 4301) ∧
    ¬Agree agreeing (finding (List.replicate 4301 '9')) [] () ∧
    (render (finding (List.replicate 4301 '9')) [] ()).outcome =
      .error (.defect (.numeralTooLong 4301)) ∧
    (execute agreeing (finding (List.replicate 4301 '9')) [] ()).session.sent = [] := by
  have hlength : (List.replicate 4301 '9').length = 4301 := List.length_replicate
  have hdigits : ∀ c ∈ List.replicate 4301 '9', Text.isDecimalDigit c = true := by
    intro c hc
    rw [List.eq_of_mem_replicate hc]
    decide
  have hmeets := meets_finding hdigits (by rw [hlength]; decide)
  rw [hlength] at hmeets
  have hform : finding (List.replicate 4301 '9') ≠ [] := List.cons_ne_nil _ _
  obtain ⟨hagree, hparts⟩ := render_agrees_iff agreeing hform [] ()
  obtain ⟨-, hrender, hsent, -⟩ := hparts _ hmeets
  exact ⟨hform, hmeets, fun h => hagree.mp h _ hmeets, hrender, hsent⟩

end CommandRun
end FormDispatch
