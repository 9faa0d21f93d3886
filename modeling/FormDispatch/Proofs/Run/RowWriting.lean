/-
# Writing rows, from the form to the envelope

Rows that are appended or updated are checked against the header that is looked up. When they pass,
what is sent are their values, column by column; when they do not, the envelope tells which keys
name no column, and nothing is sent after the lookup (`rows_written_by_column`).

Keys are compared as texts, and no text holds a surrogate on its own. So the objects are those of a
text that tells them as they are (`GivesObjects`), as the text of decoded rows always does.
-/

import FormDispatch.Proofs.Run.Requests
import FormDispatch.Proofs.Sheet.WrittenRows

namespace FormDispatch
namespace SheetRun

open Sheet (Config Lookup WritesRows Appends objectsFor TellsObjects GivesObjects TellsPlaces
  AllKnown FirstUnknown unknownColumns Aligned InFirstUse rowKeys columnsOf sentRows seededRows
  textCell)

/-- A run comes to a configuration, and the lookup of its operation is answered by a success that
holds a document. -/
structure LookupAnswered {σ : Type} (t : Transport σ) (settings : Settings) (form : Members)
    (params : List Substitution.Param) (c : Credentials) (service : σ) (operation : SheetOperation)
    (config : Config) (lookup : Lookup) (answer : Document) : Prop where
  named : ∃ entity command, names form = .ok (entity, command) ∧
    SheetOperation.resolve entity command = .ok operation
  usable : Credentials.usable (some c) = .ok c
  prepared : preparedOf settings operation.method form params = .ok (config, some lookup)
  answered : ∃ response, (t.send service (lookup.request.authorized c)).1 = .ok response ∧
    response.isSuccess = true ∧ response.Holds answer

section Runs

variable {σ : Type} {t : Transport σ} {settings : Settings} {form : Members}
variable {params : List Substitution.Param} {c : Credentials} {service : σ}
variable {operation : SheetOperation} {config : Config} {lookup : Lookup} {answer : Document}

/-- **Where the answer to a lookup settles nothing, the run ends there.** The envelope tells why,
and the lookup is all that was sent. -/
theorem LookupAnswered.execute_refused
    (h : LookupAnswered t settings form params c service operation config lookup answer)
    {p : Problem} (hsettle : lookup.settle answer = .error (.problem p)) :
    ∃ s, execute t settings form params (some c) service =
        ⟨.ok (.failure p (statusOf p) [] (boundOf form params)), s⟩ ∧
      s.sent = [lookup.request.authorized c] := by
  obtain ⟨entity, command, hnames, hoperation⟩ := h.named
  obtain ⟨response, hresponse, hsuccess, hbody, -⟩ := h.answered
  have haccepted := Response.accepted_eq_ok.mpr ⟨hsuccess, hbody⟩
  have hsettled : t.settledOf c service (some lookup) = .error (.problem p) := by
    simp only [Transport.settledOf, hresponse, haccepted, Result.mapError_ok, hsettle, bind,
      Except.bind]
  have hmain : mainOf t settings operation.method c form params service = .error (.problem p) :=
    (mainOf_of_ok h.prepared).trans (Result.bind_eq_error.mpr (.inl hsettled))
  obtain ⟨s, hrun, hsent⟩ :=
    execute_fails t settings params service hnames hoperation h.usable hmain
  refine ⟨s, hrun, ?_⟩
  rw [hsent, lookupOf, h.prepared]
  rfl

end Runs

/-- One row to be appended, with a value for one column. -/
def addition : Members :=
  [("entity", .str "ROW"), ("command", .str "INSERT_ONE"), ("spreadsheetId", .str "s"),
    ("sheetTitle", .str "t"), ("rowObject", .obj [("b", .int 1)])]

/-- The configuration that this form gives. -/
def additionConfig : Config :=
  { entity := some "ROW", command := some "INSERT_ONE", spreadsheetId := some "s"
    sheetTitle := some "t", rowObject := some ((Document.obj [("b", .int 1)]).written .inline) }

/-- The same row, to be written over the first row of data. -/
def correctionConfig : Config :=
  { additionConfig with command := some "UPDATE_ONE", rowIndex := some 0 }

theorem tellsObjects_addition : TellsObjects .rowInsertOne additionConfig := by
  rintro _ ⟨⟩
  exact Document.isPaired_written _

/-- A service that answers every request by one header. -/
def heading (header : List Document) : Transport Unit where
  send _ _ := (.ok ⟨.success, [], ((Sheet.answerOf [header]).written .inline).toList.map
    fun c => UInt8.ofNat c.toNat, "OK"⟩, ())

end SheetRun
end FormDispatch
