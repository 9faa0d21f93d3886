/-
# The bindings that envelopes tell

An envelope tells the bindings that were filled, as the substitutions that the form asks for
(`Work.performed`). A run on spreadsheets keeps them right after filling, so every envelope after
that tells them. A command keeps them only when it has been prepared: an envelope that tells why a
filled form is no command tells none of its bindings, whether the form is executed or rendered.
`performed_told` says both, and when they are told.
-/

import FormDispatch.Proofs.Run.Filling
import FormDispatch.Proofs.Run.Rendering
import FormDispatch.Proofs.Run.Requests

namespace FormDispatch

/-! ### On spreadsheets -/

namespace SheetRun

/-- The fields of an operation that are filled lie apart from each other. -/
theorem areApart_jsonFields : jsonFields.Pairwise Form.AreApart := by
  decide

/-- What is kept for the envelope are the substitutions that the form asks for. -/
theorem boundOf_eq_performed {form : Members} {params : List Substitution.Param}
    {filled : Members × List Substitution.BoundParameter}
    (h : Work.filling jsonFields params form = .ok filled) :
    boundOf form params = Work.performed jsonFields params form := by
  rw [← Work.bound_filling areApart_jsonFields h, boundOf, h]

end SheetRun

/-! ### Of commands -/

namespace CommandRun

section Commands

variable {σ : Type} {form : Members} {params : List Substitution.Param} {kind : CommandKind}

/-- An envelope tells the substitutions that a form asks for just when its command is prepared, or
when there are none. -/
def TellsPrepared (kind : CommandKind) (form : Members) (params : List Substitution.Param)
    (envelope : Envelope) : Prop :=
  envelope.params = Work.performed kind.jsonFields params form ↔
    (∃ p, Prepares form params p) ∨ Work.performed kind.jsonFields params form = []

/-- The bindings of a prepared command are the substitutions that its form asks for. -/
theorem bound_eq_performed (hkind : Command.kindOf form = .ok kind) {p : Prepared}
    (hp : Prepares form params p) : p.bound = Work.performed kind.jsonFields params form := by
  obtain ⟨kind', filled, hkind', hfilling, -⟩ := hp
  rw [hkind] at hkind'
  cases hkind'
  exact Work.bound_filling (areApart_jsonFields kind) hfilling

theorem tellsPrepared_of_ok (hkind : Command.kindOf form = .ok kind) {p : Prepared}
    (hp : preparedOf form params = .ok p) {envelope : Envelope}
    (hparams : envelope.params = p.bound) : TellsPrepared kind form params envelope := by
  have hprepares := preparedOf_eq_ok.mp hp
  exact iff_of_true (hparams.trans (bound_eq_performed hkind hprepares)) (.inl ⟨p, hprepares⟩)

theorem tellsPrepared_of_error {e : Failure} (hp : preparedOf form params = .error e)
    {envelope : Envelope} (hparams : envelope.params = []) :
    TellsPrepared kind form params envelope := by
  have hnone : ¬∃ p, Prepares form params p := by
    rintro ⟨p, hprepares⟩
    rw [preparedOf_eq_ok.mpr hprepares] at hp
    cases hp
  rw [TellsPrepared, hparams, or_iff_right hnone]
  exact eq_comm

/-- Where the form names a command, preparing it does not fail for want of one. -/
theorem preparedOf_ne_unknown (hkind : Command.kindOf form = .ok kind) {e : Failure}
    (hp : preparedOf form params = .error e) (key : String) (known : List String) :
    e ≠ .problem (.unknownOperation key known) := by
  rintro rfl
  obtain ⟨_, _, -, hnone⟩ | hcontent := preparedOf_eq_error hp
  · rw [hkind] at hnone
    cases hnone
  · exact hcontent key known rfl

/-- **What the envelope of an executed command tells.** There is none only where the database itself
speaks of an operation that there is not. -/
theorem execute_tells (d : Database σ) (params : List Substitution.Param) (service : σ)
    (hkind : Command.kindOf form = .ok kind) :
    (∃ envelope, (execute d form params service).outcome = .ok envelope ∧
      TellsPrepared kind form params envelope) ∨
    ∃ p key known, Prepares form params p ∧
      (d.run service p.document).1 = .error (.problem (.unknownOperation key known)) := by
  obtain ⟨hform, name, hname⟩ := named_of_kindOf hkind
  rw [execute_eq_executeAs d hform hname]
  cases hp : preparedOf form params with
  | ok p =>
    obtain ⟨_, s, hrun, -, ⟨envelope, rfl, hparams⟩ | ⟨key, known, hreply⟩⟩ :=
      executeAs_of_ok d service hp name
    · exact .inl ⟨envelope, congrArg Course.outcome hrun, tellsPrepared_of_ok hkind hp hparams⟩
    · exact .inr ⟨p, key, known, preparedOf_eq_ok.mp hp, hreply⟩
  | error e =>
    obtain ⟨stage, s, hrun, -⟩ :=
      executeAs_of_error d service hp (preparedOf_ne_unknown hkind hp) name
    exact .inl ⟨_, congrArg Course.outcome hrun, tellsPrepared_of_error hp rfl⟩

/-- **What the envelope of a rendered command tells.** There is none only where preparing the
command meets a defect. -/
theorem render_tells (params : List Substitution.Param) (service : σ)
    (hkind : Command.kindOf form = .ok kind) :
    (∃ envelope, (render form params service).outcome = .ok envelope ∧
      TellsPrepared kind form params envelope) ∨
    ∃ e, preparedOf form params = .error (.defect e) := by
  obtain ⟨hform, name, hname⟩ := named_of_kindOf hkind
  have hrender := renderAs_outcome form params service name
  rw [← render_eq_renderAs hform hname] at hrender
  cases hp : preparedOf form params with
  | ok p =>
    rw [renderedOf, hp] at hrender
    exact .inl ⟨_, hrender, tellsPrepared_of_ok hkind hp rfl⟩
  | error e =>
    obtain q | e := e
    · have hq : ∀ key known, q ≠ .unknownOperation key known := fun key known he =>
        preparedOf_ne_unknown hkind hp key known (congrArg Failure.problem he)
      rw [renderedOf_of_problem hp hq] at hrender
      exact .inl ⟨_, hrender, tellsPrepared_of_error hp rfl⟩
    · exact .inr ⟨e, rfl⟩

end Commands

end CommandRun

/-! ### Of all runs -/

/-- **Which envelopes tell the substitutions performed.** Once the fields of a form are filled, the
envelope of an operation on spreadsheets tells the substitutions that the form asks for, whatever
comes after. That of a command, executed or rendered, does so just when the command is prepared, or
when there are none to tell. -/
theorem performed_told {σ τ : Type} (t : Transport σ) (d : Database τ) (settings : Settings)
    (form : Members) (params : List Substitution.Param) (service : σ) (store : τ) :
    (∀ entity command operation credentials c filled,
      SheetRun.names form = .ok (entity, command) →
      SheetOperation.resolve entity command = .ok operation →
      Credentials.usable credentials = .ok c →
      Work.filling SheetRun.jsonFields params form = .ok filled →
      ∃ envelope,
        (SheetRun.execute t settings form params credentials service).outcome = .ok envelope ∧
        envelope.params = Work.performed SheetRun.jsonFields params form) ∧
    ∀ kind filled, Command.kindOf form = .ok kind →
      Work.filling kind.jsonFields params form = .ok filled →
      filled.2 = Work.performed kind.jsonFields params form ∧
      ((∃ envelope, (CommandRun.execute d form params store).outcome = .ok envelope ∧
          CommandRun.TellsPrepared kind form params envelope) ∨
        ∃ p key known, CommandRun.Prepares form params p ∧
          (d.run store p.document).1 = .error (.problem (.unknownOperation key known))) ∧
      ((∃ envelope, (CommandRun.render form params store).outcome = .ok envelope ∧
          CommandRun.TellsPrepared kind form params envelope) ∨
        ∃ e, CommandRun.preparedOf form params = .error (.defect e)) := by
  refine ⟨fun entity command operation credentials c filled hnames hoperation husable hfilled => ?_,
    fun kind filled hkind hfilled => ⟨?_, CommandRun.execute_tells d params store hkind,
      CommandRun.render_tells params store hkind⟩⟩
  · obtain ⟨envelope, s, hrun, hparams, -, -⟩ :=
      SheetRun.execute_sends t settings params service hnames hoperation husable
    exact ⟨envelope, congrArg Course.outcome hrun,
      hparams.trans (SheetRun.boundOf_eq_performed hfilled)⟩
  · exact Work.bound_filling (CommandRun.areApart_jsonFields kind) hfilled

/-- A row to be inserted, with a binding. -/
def insertion : Members :=
  [("entity", .str "ROW"), ("command", .str "INSERT_ONE"),
    ("rowObject", .str "\x7b\"n\": \x7b\x7b m \x7d\x7d\x7d")]

/-- An update without a change, with a binding in its query. -/
def unchanging : Members :=
  [("command", .str "UPDATE"), ("collection", .str "a"),
    ("updateMany.query", .str "\x7b\"n\": \x7b\x7b m \x7d\x7d\x7d")]

/-- The envelope of an insertion that names no spreadsheet tells its binding; that of an update
without a change does not. -/
theorem performed_told_refused :
    SheetRun.names insertion = .ok (some "ROW", some "INSERT_ONE") ∧
    SheetOperation.resolve (some "ROW") (some "INSERT_ONE") = .ok .rowInsertOne ∧
    Credentials.usable (some (.bearer (some "token"))) = .ok (.bearer (some "token")) ∧
    (∃ filled, Work.filling SheetRun.jsonFields [⟨"m", some "5"⟩] insertion = .ok filled) ∧
    Command.kindOf unchanging = .ok .update ∧
    (∃ filled, Work.filling CommandKind.update.jsonFields [⟨"m", some "5"⟩] unchanging =
      .ok filled) ∧
    (∃ envelope, (SheetRun.execute SheetRun.answering {} insertion [⟨"m", some "5"⟩]
        (some (.bearer (some "token"))) ()).outcome = .ok envelope ∧
      envelope.params = [⟨"m", some "5", .integer⟩]) ∧
    ∃ envelope, (CommandRun.execute CommandRun.agreeing unchanging [⟨"m", some "5"⟩] ()).outcome =
        .ok envelope ∧ envelope.params ≠ [⟨"m", some "5", .integer⟩] := by
  have hnames : SheetRun.names insertion = .ok (some "ROW", some "INSERT_ONE") := by rfl
  have hoperation :
      SheetOperation.resolve (some "ROW") (some "INSERT_ONE") = .ok .rowInsertOne := by rfl
  have husable : Credentials.usable (some (.bearer (some "token"))) =
      .ok (.bearer (some "token")) := by rfl
  have hinsertion : Work.filling SheetRun.jsonFields [⟨"m", some "5"⟩] insertion =
      .ok (insertion.put "rowObject" (.str "\x7b\"n\": 5\x7d"), [⟨"m", some "5", .integer⟩]) :=
    Result.toOption_eq_some.mp (by decide +kernel)
  have hkind : Command.kindOf unchanging = .ok .update := by rfl
  have hfilling : Work.filling CommandKind.update.jsonFields [⟨"m", some "5"⟩] unchanging =
      .ok (unchanging.put "updateMany.query" (.str "\x7b\"n\": 5\x7d"),
        [⟨"m", some "5", .integer⟩]) :=
    Result.toOption_eq_some.mp (by decide +kernel)
  have hunprepared : ¬∃ p, CommandRun.Prepares unchanging [⟨"m", some "5"⟩] p := by
    rintro ⟨p, hp⟩
    have hnone : (CommandRun.preparedOf unchanging [⟨"m", some "5"⟩]).toOption.isNone = true := by
      decide +kernel
    rw [CommandRun.preparedOf_eq_ok.mpr hp] at hnone
    cases hnone
  refine ⟨hnames, hoperation, husable, ⟨_, hinsertion⟩, hkind, ⟨_, hfilling⟩, ?_, ?_⟩
  · obtain ⟨hsheets, -⟩ :=
      performed_told SheetRun.answering CommandRun.agreeing {} insertion [⟨"m", some "5"⟩] () ()
    obtain ⟨envelope, hrun, hparams⟩ := hsheets _ _ _ _ _ _ hnames hoperation husable hinsertion
    exact ⟨envelope, hrun,
      hparams.trans (Work.bound_filling SheetRun.areApart_jsonFields hinsertion).symm⟩
  · obtain ⟨-, hcommands⟩ :=
      performed_told SheetRun.answering CommandRun.agreeing {} unchanging [⟨"m", some "5"⟩] () ()
    obtain ⟨hbound, ⟨envelope, hrun, htells⟩ | ⟨p, _, _, hp, -⟩, -⟩ := hcommands _ _ hkind hfilling
    · refine ⟨envelope, hrun, fun hparams => ?_⟩
      obtain hprepared | hnone := htells.mp (hparams.trans hbound)
      · exact hunprepared hprepared
      · rw [← hbound] at hnone
        cases hnone
    · exact absurd ⟨p, hp⟩ hunprepared

end FormDispatch
