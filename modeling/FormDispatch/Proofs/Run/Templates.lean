/-
# Templates that are rendered

A template is a form like any other, and without parameters it is rendered as the document of its
command (`isRenderedAs_iff`) if no text in its fields has bindings. `AreRendered` says for four of
the templates of a collection which documents these are. Those for counting and aggregating are
always rendered. The one for inserting holds its documents as they are written, so all that can stop
it is a key that looks like a binding. The one for finding puts the name of a field and its value
between quotes as they are, so both must be plain besides.
-/

import FormDispatch.Proofs.Command.Template
import FormDispatch.Proofs.Run.Destruction
import FormDispatch.Proofs.Run.Rendering

namespace FormDispatch

namespace CommandRun

open Form (HoldsText)
open Substitution (AreUnbound bindings)
open TemplateHints (IsFirstText IsTold documentsText exampleKeys exampleOr filterOf filterText
  hintOf)

/-! ### Rendering without parameters -/

section Rendering

variable {form document : Members} {params : List Substitution.Param}

/-- A form is rendered as a document when there are no parameters, whatever the service. -/
def IsRenderedAs (form document : Members) : Prop :=
  ∀ (σ : Type) (service : σ),
    (render form [] service).outcome = .ok (.succeeded none [] (.obj document) [])

/-- Rendering succeeds with the document and the bindings of a prepared command only. -/
theorem renderedOf_eq_succeeded {bound : List Substitution.BoundParameter} :
    renderedOf form params = .ok (.succeeded none [] (.obj document) bound) ↔
      ∃ p, Prepares form params p ∧ p.document = document ∧ p.bound = bound := by
  simp only [← preparedOf_eq_ok]
  unfold renderedOf
  cases hprepared : preparedOf form params with
  | ok p =>
    constructor
    · intro h
      cases h
      exact ⟨p, rfl, rfl, rfl⟩
    · rintro ⟨_, hp, rfl, rfl⟩
      cases hp
      rfl
  | error e =>
    -- every failure is told as one, so none of them succeeds with a document
    refine iff_of_false (fun h => ?_) nofun
    split at h
    · next hok => cases hok
    · cases h
    · cases h
    · cases h

/-- **Without parameters, a form is rendered as what it describes,** if it has no bindings or does
not want them filled. -/
theorem isRenderedAs_iff {kind : CommandKind} (hkind : Command.kindOf form = .ok kind) :
    IsRenderedAs form document ↔
      (Substitution.isEnabled form = true → AreUnbound form kind.jsonFields) ∧
        Renders form document := by
  obtain ⟨hform, name, hname⟩ := named_of_kindOf hkind
  have hrendered : IsRenderedAs form document ↔
      renderedOf form [] = .ok (.succeeded none [] (.obj document) []) := by
    constructor
    · intro h
      have := h Unit ()
      rwa [render_eq_renderAs hform hname, renderAs_outcome] at this
    · intro h σ service
      rwa [render_eq_renderAs hform hname, renderAs_outcome]
  rw [hrendered, renderedOf_eq_succeeded]
  constructor
  · rintro ⟨p, ⟨_, filled, hkind', hfilled, hcommand, hmissing, hdocument⟩, rfl, hbound⟩
    rw [hkind] at hkind'
    cases hkind'
    obtain ⟨hunbound, rfl, -⟩ := (Work.filling_nil (areApart_jsonFields kind)).mp hfilled
    exact ⟨hunbound, p.command, hcommand, hmissing, hdocument⟩
  · rintro ⟨hunbound, command, hcommand, hmissing, hdocument⟩
    have hfilled := (Work.filling_nil (areApart_jsonFields kind)).mpr ⟨hunbound, rfl, rfl⟩
    exact ⟨⟨command, document, []⟩, ⟨kind, form, hkind, hfilled, hcommand, hmissing, hdocument⟩,
      rfl, rfl⟩

/-- A command of a collection misses what its parts miss. -/
theorem missing_of_collection {collection : String} {body : CommandBody}
    (hcollection : Command.isMissing (some collection) = false) (hraw : ∀ d, body ≠ .raw d) :
    (⟨some collection, body⟩ : Command).missing = Command.missingParts body := by
  cases body with
  | raw d => exact absurd rfl (hraw d)
  | _ => simp [Command.missing, hcollection]

/-- A form whose parts are known is rendered as the document of its command. -/
theorem renders_of_parts {kind : CommandKind} (hkind : Command.kindOf form = .ok kind)
    {collection : String} (hcollection : HoldsText form "collection" collection)
    {body : CommandBody} (hbody : Command.bodyOf kind form = .ok body)
    (hparts : Command.missingParts body = []) (hraw : ∀ d, body ≠ .raw d) :
    Renders form document ↔ (⟨some collection, body⟩ : Command).document = .ok document := by
  have hnamed := text?_of_holdsText hcollection
  have hmissing := missing_of_collection (isMissing_of_holdsText hcollection) hraw
  rw [renders_iff hkind]
  constructor
  · rintro ⟨_, _, hcollection', hbody', -, hdocument⟩
    rw [hnamed] at hcollection'
    rw [hbody] at hbody'
    cases hcollection'
    cases hbody'
    exact hdocument
  · intro hdocument
    exact ⟨_, _, hnamed, hbody, hmissing.trans hparts, hdocument⟩

end Rendering

/-! ### The documents of the templates -/

/-- Finding documents by a filter. -/
def search (collection : String) (filter : Members) : Members :=
  [("find", .str collection), ("filter", .obj filter), ("sort", .obj [("_id", .int 1)]),
    ("limit", .int 10), ("batchSize", .int 10)]

/-- Inserting one document. -/
def insertion (collection : String) (document : Document) : Members :=
  [("insert", .str collection), ("documents", .arr [document])]

/-- Counting the documents that have an identifier. -/
def tally (collection : String) : Members :=
  [("count", .str collection), ("query", .obj [("_id", .obj [("$exists", .bool true)])])]

/-- Going through the documents in the order of their identifiers. -/
def passage (collection : String) : Members :=
  [("aggregate", .str collection),
    ("pipeline", .arr [.obj [("$sort", .obj [("_id", .int 1)])]]),
    ("cursor", .obj [("batchSize", .int 10)])]

section Forms

open Query (StartsWord EndsWord)

variable {h : TemplateHints} {document : Members}

theorem renders_count (hnamed : HoldsText (Template.count h).form "collection" h.collection) :
    Renders (Template.count h).form document ↔ document = tally h.collection := by
  let query := "\x7b\"_id\": \x7b\"$exists\": true\x7d\x7d"
  have hbody : Command.bodyOf .count (Template.count h).form = .ok (.count (some query)) := by rfl
  have hquery : Query.document "Query" query = .ok [("_id", .obj [("$exists", .bool true)])] :=
    Result.toOption_eq_some.mp (by decide +kernel)
  have hdocument : (⟨some h.collection, .count (some query)⟩ : Command).document =
      .ok (tally h.collection) :=
    Result.bind_eq_ok.mpr ⟨_, part_eq_ok.mpr ⟨_, hquery, rfl⟩, rfl⟩
  rw [renders_of_parts (by rfl) hnamed hbody rfl nofun, hdocument, Except.ok.injEq, eq_comm]

theorem renders_aggregate
    (hnamed : HoldsText (Template.aggregate h).form "collection" h.collection) :
    Renders (Template.aggregate h).form document ↔ document = passage h.collection := by
  let stages := "[ \x7b\"$sort\" : \x7b\"_id\": 1\x7d \x7d ]"
  have hbody : Command.bodyOf .aggregate (Template.aggregate h).form =
      .ok (.aggregate (some stages) 10) := by rfl
  have hstages : Command.listed "Array of Pipelines" stages .notStages =
      .ok [.obj [("$sort", .obj [("_id", .int 1)])]] :=
    Result.toOption_eq_some.mp (by decide +kernel)
  have hdocument : (⟨some h.collection, .aggregate (some stages) 10⟩ : Command).document =
      .ok (passage h.collection) := Result.bind_eq_ok.mpr ⟨_, hstages, rfl⟩
  rw [renders_of_parts (by rfl) hnamed hbody (by rfl) nofun, hdocument, Except.ok.injEq, eq_comm]

variable {collection : String} {sample : Option Members}

/-- A text that neither starts nor ends with a blank is held as it is. -/
theorem holdsText_of_word {form : Members} {field text : String}
    (hform : Form.lookup form field = some (.str text)) (hstart : StartsWord text.toList)
    (hend : EndsWord text.toList) : HoldsText form field text := by
  refine Form.holdsText_of_trimmed hform ?_ ?_
  · have htrim := Query.trim_word .nil hstart hend .nil
    rw [List.nil_append, List.append_nil] at htrim
    rw [Text.trimmed, htrim, String.ofList_toList]
  · rintro rfl
    obtain ⟨c, r, hc, -⟩ := hstart
    cases hc

theorem holdsText_documents (collection : String) (sample : Option Members) :
    HoldsText (Template.insert (TemplateHints.ofSample collection sample)).form
      "insert.documents" (documentsText sample) := by
  have hform : Form.lookup (Template.insert (TemplateHints.ofSample collection sample)).form
      "insert.documents" = some (.str (documentsText sample)) := by
    rw [documentsText, ← TemplateHints.exampleDocument_eq collection]
    rfl
  refine holdsText_of_word hform ?_ ?_ <;>
    rw [documentsText, Document.written, String.toList_ofList, Document.chars]
  · exact ⟨'[', _, rfl, by decide⟩
  · exact ((EndsWord.mark (by decide)).append _).cons '['

theorem renders_insert (hnamed : HoldsText
      (Template.insert (TemplateHints.ofSample collection sample)).form "collection" collection)
    (hkeys : (sample.getD []).keys.Nodup) :
    Renders (Template.insert (TemplateHints.ofSample collection sample)).form document ↔
      document = insertion collection (.obj (exampleOr sample)) := by
  have hholds := holdsText_documents collection sample
  have hparts : Command.missingParts (.insert (some (documentsText sample))) = [] :=
    if_neg (by rw [isMissing_of_holdsText hholds]; exact Bool.false_ne_true)
  have hlisted : Command.listed "Documents" (documentsText sample) .notDocuments =
      .ok [.obj (exampleOr sample)] := by
    rw [Command.listed, TemplateHints.value_documentsText hkeys]
    rfl
  have hdocument : (⟨some collection, .insert (some (documentsText sample))⟩ : Command).document =
      .ok (insertion collection (.obj (exampleOr sample))) :=
    Result.bind_eq_ok.mpr ⟨_, hlisted, rfl⟩
  have hbody : Command.bodyOf .insert
      (Template.insert (TemplateHints.ofSample collection sample)).form =
        .ok (.insert (some (documentsText sample))) :=
    Result.map_eq_ok.mpr ⟨_, text?_of_holdsText hholds, rfl⟩
  rw [renders_of_parts (by rfl) hnamed hbody hparts nofun, hdocument, Except.ok.injEq, eq_comm]

theorem holdsText_filter (collection : String) (sample : Option Members) :
    HoldsText (Template.find (TemplateHints.ofSample collection sample)).form "find.query"
      (filterText (hintOf sample)) := by
  unfold hintOf TemplateHints.ofSample
  generalize TemplateHints.filterHint (sample.getD []) = hint
  rcases hint with _ | ⟨name, value⟩
  · exact holdsText_of_word rfl ⟨'\x7b', _, rfl, by decide⟩ ⟨['\x7b'], '\x7d', rfl, by decide⟩
  · refine holdsText_of_word rfl ?_ ?_ <;> rw [filterText, Query.toList_memberText]
    · exact ⟨'\x7b', _, rfl, by decide⟩
    · have hend := (EndsWord.mark (c := '\x7d') (by decide)).append ('\x7b' :: ' ' :: '"' ::
        (name.toList ++ '"' :: ':' :: ' ' :: '"' :: (value.toList ++ ['"'])))
      simpa using hend

theorem renders_find (hnamed : HoldsText
      (Template.find (TemplateHints.ofSample collection sample)).form "collection" collection) :
    Renders (Template.find (TemplateHints.ofSample collection sample)).form document ↔
      ∃ q, Query.document "Query" (filterText (hintOf sample)) = .ok q ∧
        document = search collection q := by
  have hholds := holdsText_filter collection sample
  generalize filterText (hintOf sample) = text at hholds ⊢
  let sort := "\x7b\"_id\": 1\x7d"
  have hsort : Command.part? "sort" "Sort" (some sort) =
      .ok [("sort", .obj [("_id", .int 1)])] := Result.toOption_eq_some.mp (by decide +kernel)
  have hquery : Command.queryOr (some text) = text := by
    rw [Command.queryOr, isMissing_of_holdsText hholds]
    rfl
  have hbody : Command.bodyOf .find
      (Template.find (TemplateHints.ofSample collection sample)).form =
        .ok (.find (some text) (some sort) none (some 10) none) :=
    Result.bind_eq_ok.mpr ⟨_, text?_of_holdsText hholds, by rfl⟩
  rw [renders_of_parts (by rfl) hnamed hbody (by rfl) nofun]
  -- the order and the limit are the same for all samples: reading the filter is all that can fail
  constructor
  · intro h
    obtain ⟨_, hpart, h⟩ := Result.bind_eq_ok.mp h
    obtain ⟨q, hq, rfl⟩ := part_eq_ok.mp hpart
    obtain ⟨_, hpart, h⟩ := Result.bind_eq_ok.mp h
    rw [hsort] at hpart
    cases hpart
    cases h
    exact ⟨q, hquery ▸ hq, rfl⟩
  · rintro ⟨q, hq, rfl⟩
    refine Result.bind_eq_ok.mpr ⟨_, part_eq_ok.mpr ⟨q, hquery.symm ▸ hq, rfl⟩, ?_⟩
    exact Result.bind_eq_ok.mpr ⟨_, hsort, rfl⟩

end Forms

/-! ### Templates ready to run -/

section Ready

variable {collection : String} {sample : Option Members}

/-- The collection that a document of a command is about. -/
def targetOf (document : Members) : Option Document :=
  document.head?.map Prod.snd

/-- The template of a title. -/
def titled (h : TemplateHints) (title : String) : Option Template :=
  (Template.all h).find? fun t => t.title == title

/-- What four of the templates for a collection with a sample document are rendered as without
parameters. -/
structure AreRendered (collection : String) (sample : Option Members) : Prop where
  hint : IsFirstText (sample.getD []) (hintOf sample)
  /-- finding by the hint, if that is told and nothing in its text looks like a binding -/
  find : ∃ t, titled (.ofSample collection sample) "Find" = some t ∧
    (IsRenderedAs t.form (search collection (filterOf (hintOf sample))) ↔
      IsTold (hintOf sample) ∧ bindings (filterText (hintOf sample)).toList = []) ∧
    ∀ document, IsRenderedAs t.form document → targetOf document = some (.str collection)
  /-- inserting one document, if nothing in its text looks like a binding -/
  insert : ∃ t, titled (.ofSample collection sample) "Insert" = some t ∧
    (IsRenderedAs t.form (insertion collection (.obj (exampleOr sample))) ↔
      bindings (documentsText sample).toList = []) ∧
    ∀ document, IsRenderedAs t.form document → targetOf document = some (.str collection)
  /-- the keys of that document, in the order of the sample -/
  keys : if exampleKeys sample = [] then exampleOr sample = [("field", .str "value")]
    else (exampleOr sample).keys = exampleKeys sample
  count : ∃ t, titled (.ofSample collection sample) "Count" = some t ∧
    IsRenderedAs t.form (tally collection)
  aggregate : ∃ t, titled (.ofSample collection sample) "Aggregate" = some t ∧
    IsRenderedAs t.form (passage collection)

variable (htrimmed : Text.trimmed collection = collection) (hne : collection ≠ "")

include htrimmed hne

theorem isRenderedAs_find {document : Members} :
    IsRenderedAs (Template.find (.ofSample collection sample)).form document ↔
      bindings (filterText (hintOf sample)).toList = [] ∧
        ∃ q, Query.document "Query" (filterText (hintOf sample)) = .ok q ∧
          document = search collection q := by
  let form := (Template.find (.ofSample collection sample)).form
  have hnamed : HoldsText form "collection" collection :=
    Form.holdsText_of_trimmed rfl htrimmed hne
  have hsort : HoldsText form "find.sort" "\x7b\"_id\": 1\x7d" := Form.text?_eq_some.mp (by rfl)
  -- of the fields that are filled, only the filter depends on the sample
  have hunbound : AreUnbound form ["find.query", "find.sort", "find.projection"] ↔
      bindings (filterText (hintOf sample)).toList = [] := by
    rw [Substitution.areUnbound_cons_of_holdsText (holdsText_filter collection sample),
      Substitution.areUnbound_cons_of_holdsText hsort, Substitution.areUnbound_cons_of_lookup rfl]
    refine and_iff_left ⟨by decide +kernel, Substitution.areUnbound_nil form⟩
  rw [isRenderedAs_iff (by rfl), renders_find hnamed, ← hunbound]
  refine and_congr_left fun _ => ⟨fun h => h (by rfl), fun h _ => h⟩

theorem isRenderedAs_insert (hkeys : (sample.getD []).keys.Nodup) {document : Members} :
    IsRenderedAs (Template.insert (.ofSample collection sample)).form document ↔
      bindings (documentsText sample).toList = [] ∧
        document = insertion collection (.obj (exampleOr sample)) := by
  let form := (Template.insert (.ofSample collection sample)).form
  have hnamed : HoldsText form "collection" collection :=
    Form.holdsText_of_trimmed rfl htrimmed hne
  have hunbound : AreUnbound form ["insert.documents"] ↔
      bindings (documentsText sample).toList = [] := by
    rw [Substitution.areUnbound_cons_of_holdsText (holdsText_documents collection sample)]
    exact and_iff_left (Substitution.areUnbound_nil form)
  rw [isRenderedAs_iff (by rfl), renders_insert hnamed hkeys, ← hunbound]
  refine and_congr_left fun _ => ⟨fun h => h (by rfl), fun h _ => h⟩

theorem isRenderedAs_count :
    IsRenderedAs (Template.count (.ofSample collection sample)).form (tally collection) := by
  let form := (Template.count (.ofSample collection sample)).form
  have hnamed : HoldsText form "collection" collection :=
    Form.holdsText_of_trimmed rfl htrimmed hne
  have hquery : HoldsText form "count.query" "\x7b\"_id\": \x7b\"$exists\": true\x7d\x7d" :=
    Form.text?_eq_some.mp (by rfl)
  have hunbound : AreUnbound form ["count.query"] :=
    (Substitution.areUnbound_cons_of_holdsText hquery).mpr
      ⟨by decide +kernel, Substitution.areUnbound_nil form⟩
  have hkind : Command.kindOf form = .ok .count := by rfl
  exact (isRenderedAs_iff hkind).mpr ⟨fun _ => hunbound, (renders_count hnamed).mpr rfl⟩

theorem isRenderedAs_aggregate :
    IsRenderedAs (Template.aggregate (.ofSample collection sample)).form (passage collection) := by
  let form := (Template.aggregate (.ofSample collection sample)).form
  have hnamed : HoldsText form "collection" collection :=
    Form.holdsText_of_trimmed rfl htrimmed hne
  have hstages : HoldsText form "aggregate.arrayPipelines"
      "[ \x7b\"$sort\" : \x7b\"_id\": 1\x7d \x7d ]" := Form.text?_eq_some.mp (by rfl)
  have hunbound : AreUnbound form ["aggregate.arrayPipelines"] :=
    (Substitution.areUnbound_cons_of_holdsText hstages).mpr
      ⟨by decide +kernel, Substitution.areUnbound_nil form⟩
  have hkind : Command.kindOf form = .ok .aggregate := by rfl
  exact (isRenderedAs_iff hkind).mpr ⟨fun _ => hunbound, (renders_aggregate hnamed).mpr rfl⟩

/-- **Templates are ready to run where their texts can be read.** For a collection without blanks
around its name and any sample document, the templates for counting and aggregating are rendered as
they stand. That for finding is rendered as the search by the hint just when the name and the value
of the hint are plain and nothing in the text of the filter looks like a binding. That for inserting
is rendered with the example document just when nothing in the text of the documents looks like a
binding. All that they are rendered as is about the collection. -/
theorem templates_rendered (hkeys : (sample.getD []).keys.Nodup) :
    AreRendered collection sample where
  hint := TemplateHints.isFirstText_filterHint _
  find := by
    refine ⟨_, rfl, ?_, ?_⟩
    · rw [isRenderedAs_find htrimmed hne, and_comm, ← TemplateHints.document_filterText "Query"]
      refine and_congr_left fun _ => ⟨?_, fun h => ⟨_, h, rfl⟩⟩
      rintro ⟨q, hq, hsearch⟩
      cases hsearch
      exact hq
    · intro document h
      obtain ⟨-, q, -, rfl⟩ := (isRenderedAs_find htrimmed hne).mp h
      rfl
  insert := by
    refine ⟨_, rfl, ?_, ?_⟩
    · rw [isRenderedAs_insert htrimmed hne hkeys]
      exact and_iff_left rfl
    · intro document h
      obtain ⟨-, rfl⟩ := (isRenderedAs_insert htrimmed hne hkeys).mp h
      rfl
  keys := by
    unfold exampleOr
    split
    · rfl
    · exact TemplateHints.keys_exampleMembers
  count := ⟨_, rfl, isRenderedAs_count htrimmed hne⟩
  aggregate := ⟨_, rfl, isRenderedAs_aggregate htrimmed hne⟩

omit htrimmed hne

/-- A sample document with a quote in a text. -/
def quoting : Members := [("_id", .int 1), ("name", .str "a\"b"), ("n", .int 2)]

/-- A quote in the hint keeps the template for finding from its search, and a document is inserted
all the same. -/
theorem templates_rendered_quoting :
    Text.trimmed "people" = "people" ∧ "people" ≠ "" ∧ quoting.keys.Nodup ∧
    ¬IsRenderedAs (Template.find (.ofSample "people" (some quoting))).form
      (search "people" [("name", .str "a\"b")]) ∧
    IsRenderedAs (Template.insert (.ofSample "people" (some quoting))).form
      (insertion "people" (.obj [("name", .str "new value"), ("n", .int 1)])) := by
  have htrimmed : Text.trimmed "people" = "people" := by decide +kernel
  have hkeys : quoting.keys.Nodup := by decide
  have hready : AreRendered "people" (some quoting) :=
    templates_rendered htrimmed (by decide) hkeys
  obtain ⟨_, ⟨⟩, hfind, -⟩ := hready.find
  obtain ⟨_, ⟨⟩, hinsert, -⟩ := hready.insert
  refine ⟨htrimmed, by decide, hkeys, fun h => ?_, hinsert.mpr (by decide +kernel)⟩
  have hplain := (hfind.mp h).1 "name" "a\"b" rfl
  exact absurd hplain.2 (by decide)

end Ready

end CommandRun
end FormDispatch
