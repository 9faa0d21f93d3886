/-
# Documents that are listed

Where a command lists documents or stages, the text of one stands for a list of one (`Lists`). What
the command is rendered as depends on the documents that the text lists, and not on how it lists
them (`documents_are_listed`): alone or in brackets, with or without a comma at the end, and with
any blanks around the texts and the brackets.
-/

import FormDispatch.Command.Document
import FormDispatch.Proofs.Form
import FormDispatch.Proofs.Query.Bracketed

namespace FormDispatch
namespace Command

open Query (Bracketed HoldsInside)

/-- A text lists documents: it is the text of one, or one in brackets of the texts of all. -/
inductive Lists : List Members → String → Prop
  | one {members : Members} {text : String} (h : HoldsInside text.toList (.obj members)) :
      Lists [members] text
  | several {documents : List Members} {texts : List (List Char)} {text : String}
      (h : List.Forall₂ HoldsInside texts (documents.map .obj))
      (hbracketed : Bracketed texts text.toList) : Lists documents text

/-- What a form is rendered as if it is taken for a command of a kind. -/
def rendered (kind : CommandKind) (form : Members) : Except Failure Members := do
  let collection ← text? form "collection"
  let body ← bodyOf kind form
  document ⟨collection, body⟩

/-- The document of an insertion. -/
def insertionOf (documents : List Members) (collection : Option String) : Members :=
  [("insert", .ofText? collection), ("documents", .arr (documents.map .obj))]

/-- The document of an aggregation. -/
def aggregationOf (stages : List Members) (collection : Option String) (batch : Option Int) :
    Members :=
  [("aggregate", .ofText? collection), ("pipeline", .arr (stages.map .obj)),
    ("cursor", .obj [("batchSize", .int (batch.getD usualBatch))])]

section Lists

variable {documents : List Members} {text : String} (h : Lists documents text)

include h

/-- The text of a list is read as one document, or as the array of them all. -/
theorem Lists.read : (∃ members, documents = [members] ∧
      Query.read text.toList = .ok (.obj members)) ∨
    Query.read text.toList = .ok (.arr (documents.map .obj)) := by
  cases h with
  | one h => exact .inl ⟨_, rfl, h.1⟩
  | several h hbracketed => exact .inr (Query.read_bracketed hbracketed h)

/-- The text of a list is one of its documents. -/
theorem Lists.listed_trimmed (label : String) (flaw : Query.Flaw) :
    listed label (Text.trimmed text) flaw = .ok (documents.map .obj) := by
  have hvalue : ∀ d, Query.read text.toList = .ok d →
      Query.value label (Text.trimmed text) = .ok d := by
    intro d hd
    rw [Query.value_eq_ok, Text.trimmed, String.toList_ofList]
    exact Query.read_trim hd
  rcases h.read with ⟨members, rfl, hread⟩ | hread
  · rw [listed, hvalue _ hread]
    rfl
  · have hobjects : areObjects (documents.map .obj) = true := by
      simp [areObjects, Document.isObject]
    rw [listed, hvalue _ hread]
    exact if_pos hobjects

/-- A field that has the text of a list is read as that text, without the blanks around it. -/
theorem Lists.text?_eq {form : Members} {field : String}
    (hform : Form.lookup form field = some (.str text)) :
    text? form field = .ok (some (Text.trimmed text)) := by
  have hblank : Text.isBlankText text = false := by
    rw [Bool.eq_false_iff]
    intro hblank
    have htrim := (Text.trim_nil_iff _).mpr hblank
    rcases h.read with ⟨_, -, hread⟩ | hread <;> exact Query.trim_ne_nil_of_read hread htrim
  exact Result.mapError_eq_ok.mpr (Form.text?_eq_some.mpr ⟨text, hform, hblank, rfl⟩)

/-- An insertion inserts the documents that its text lists. -/
theorem Lists.rendered_insert {form : Members}
    (hform : Form.lookup form "insert.documents" = some (.str text)) :
    rendered .insert form = (text? form "collection").map (insertionOf documents) := by
  have hheld := h.text?_eq hform
  have hlisted := h.listed_trimmed "Documents" .notDocuments
  generalize Text.trimmed text = held at hheld hlisted
  have hbody : bodyOf .insert form = .ok (.insert (some held)) := Result.map_eq_ok.mpr
    ⟨_, hheld, rfl⟩
  have hdocument : ∀ collection, document ⟨collection, .insert (some held)⟩ =
      .ok (insertionOf documents collection) := fun collection =>
    Result.bind_eq_ok.mpr ⟨_, hlisted, rfl⟩
  rw [rendered, hbody]
  cases text? form "collection" with
  | error e => rfl
  | ok collection => exact hdocument collection

/-- An aggregation goes through the stages that its text lists. -/
theorem Lists.rendered_aggregate {form : Members}
    (hform : Form.lookup form "aggregate.arrayPipelines" = some (.str text)) :
    rendered .aggregate form = (text? form "collection").bind fun collection =>
      (integer? form "aggregate.limit").map (aggregationOf documents collection) := by
  have hheld := h.text?_eq hform
  have hlisted := h.listed_trimmed "Array of Pipelines" .notStages
  generalize Text.trimmed text = held at hheld hlisted
  have hdocument : ∀ collection batch,
      document ⟨collection, .aggregate (some held) (batch.getD usualBatch)⟩ =
        .ok (aggregationOf documents collection batch) := fun collection batch =>
    Result.bind_eq_ok.mpr ⟨_, hlisted, rfl⟩
  rw [rendered, bodyOf, hheld]
  cases text? form "collection" with
  | error e => rfl
  | ok collection =>
    cases integer? form "aggregate.limit" with
    | error e => rfl
    | ok batch => exact hdocument collection batch

end Lists

/-- **A command is rendered with the documents that its text lists,** however it lists them. So the
text of one document is as good as the same text in brackets, in forms that agree in everything
else. -/
theorem documents_are_listed {documents : List Members} {text : String}
    (h : Lists documents text) :
    (∀ form, Form.lookup form "insert.documents" = some (.str text) →
      rendered .insert form = (text? form "collection").map (insertionOf documents) ∧
      ∀ text' form', Lists documents text' →
        Form.lookup form' "insert.documents" = some (.str text') →
        Form.lookup form' "collection" = Form.lookup form "collection" →
        rendered .insert form' = rendered .insert form) ∧
    ∀ form, Form.lookup form "aggregate.arrayPipelines" = some (.str text) →
      rendered .aggregate form = (text? form "collection").bind (fun collection =>
        (integer? form "aggregate.limit").map (aggregationOf documents collection)) ∧
      ∀ text' form', Lists documents text' →
        Form.lookup form' "aggregate.arrayPipelines" = some (.str text') →
        Form.lookup form' "collection" = Form.lookup form "collection" →
        Form.lookup form' "aggregate.limit" = Form.lookup form "aggregate.limit" →
        rendered .aggregate form' = rendered .aggregate form := by
  have htext : ∀ {form form' : Members} {field : String},
      Form.lookup form' field = Form.lookup form field → text? form' field = text? form field :=
    fun hsame => by rw [text?, text?, Form.text?_congr hsame]
  refine ⟨fun form hform => ⟨h.rendered_insert hform, ?_⟩,
    fun form hform => ⟨h.rendered_aggregate hform, ?_⟩⟩
  · intro text' form' h' hform' hcollection
    rw [h.rendered_insert hform, h'.rendered_insert hform', htext hcollection]
  · intro text' form' h' hform' hcollection hlimit
    rw [h.rendered_aggregate hform, h'.rendered_aggregate hform', htext hcollection, integer?,
      integer?, Form.integer?_congr hlimit]

/-- An insertion of a text. -/
def inserting (text : String) : Members :=
  [("command", .str "INSERT"), ("collection", .str "c"), ("insert.documents", .str text)]

/-- A document is inserted alike alone and in brackets, with a comma behind it. -/
theorem documents_are_listed_single :
    Lists [[("a", .int 1)]] "\x7ba: 1\x7d" ∧ Lists [[("a", .int 1)]] " [ \x7ba: 1\x7d , ]" ∧
    rendered .insert (inserting " [ \x7ba: 1\x7d , ]") =
      rendered .insert (inserting "\x7ba: 1\x7d") ∧
    rendered .insert (inserting "\x7ba: 1\x7d") =
      .ok [("insert", .str "c"), ("documents", .arr [.obj [("a", .int 1)]])] := by
  have hone : Lists [[("a", .int 1)]] "\x7ba: 1\x7d" :=
    .one ⟨Result.toOption_eq_some.mp (by decide +kernel), by decide +kernel⟩
  have hinside : HoldsInside " \x7ba: 1\x7d ".toList (.obj [("a", .int 1)]) :=
    ⟨Result.toOption_eq_some.mp (by decide +kernel), by decide +kernel⟩
  have hblank : Query.Blanks [' '] := by
    rintro c (_ | ⟨_, ⟨⟩⟩)
    decide
  have hseveral : Lists [[("a", .int 1)]] " [ \x7ba: 1\x7d , ]" :=
    .several (.cons hinside .nil) (.comma (List.cons_ne_nil _ _) hblank hblank .nil)
  obtain ⟨hrendered, hsame⟩ := (documents_are_listed hone).1 (inserting "\x7ba: 1\x7d") rfl
  refine ⟨hone, hseveral, hsame _ _ hseveral rfl rfl, hrendered.trans ?_⟩
  rfl

end Command
end FormDispatch
