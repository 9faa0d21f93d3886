/-
# Commands that destroy

Deleting and updating documents are the two commands that a missing filter would turn against a
whole collection. `Destroys` says which document such a command is sent as, from the texts that its
form holds: the filter is the document of a text that the form holds, in the end, in the field of
the query, and the command is not kept to a single document where the limit of the form is exactly
`ALL`. `destruction_sent` says that this document is sent and no other, and that nothing is sent
where there is none.

`renders_delete` and `renders_update` read such a command off a form whose bindings are filled; what
the filled form holds is a matter of `FilledText`.
-/

import FormDispatch.Proofs.Run.CommandRun
import FormDispatch.Proofs.Run.Filling

namespace FormDispatch
namespace CommandRun

open Form (AreApart HoldsText)
open Work (FilledText)

/-! ### Texts of commands -/

/-- A text that is read and not missing is one that the field holds. -/
theorem holdsText_of_present {form : Members} {field : String} {text : Option String}
    (h : Command.text? form field = .ok text) (hpresent : Command.isMissing text = false) :
    ∃ held, text = some held ∧ HoldsText form field held := by
  rcases text with _ | held
  · cases hpresent
  · exact ⟨held, rfl, Form.text?_eq_some.mp (Result.mapError_eq_ok.mp h)⟩

/-- A text that a field holds is read, -/
theorem text?_of_holdsText {form : Members} {field text : String}
    (h : HoldsText form field text) : Command.text? form field = .ok (some text) :=
  Result.mapError_eq_ok.mpr (Form.text?_eq_some.mpr h)

/-- and it is not missing. -/
theorem isMissing_of_holdsText {form : Members} {field text : String}
    (h : HoldsText form field text) : Command.isMissing (some text) = false := by
  simpa [Command.isMissing] using h.ne_empty

/-- A limit means every document just when it is the word for that. -/
theorem isAll_eq (limit : Option String) :
    Command.isAll limit = decide (limit = some "ALL") := by
  rw [Bool.eq_iff_iff]
  simp [Command.isAll]

/-! ### Commands of filled forms -/

/-- A form is rendered as a document: it describes a command that misses nothing. -/
def Renders (form : Members) (document : Members) : Prop :=
  ∃ command, Command.ofForm form = .ok command ∧ command.missing = [] ∧
    command.document = .ok document

/-- The document of a deletion. -/
def deletion (collection : String) (q : Members) (limit : Option String) : Members :=
  [("delete", .str collection),
    ("deletes", .arr [.obj [("q", .obj q), ("limit", .int (if limit = some "ALL" then 0 else 1))]])]

/-- The document of an update. -/
def change (collection : String) (q u : Members) (limit : Option String) : Members :=
  [("update", .str collection),
    ("updates", .arr [.obj [("q", .obj q), ("u", .obj u),
      ("multi", .bool (decide (limit = some "ALL")))]])]

theorem missing_delete (collection query : Option String) (limit : Int) :
    (⟨collection, .delete query limit⟩ : Command).missing = [] ↔
      Command.isMissing collection = false ∧ Command.isMissing query = false := by
  cases hcollection : Command.isMissing collection <;> cases hquery : Command.isMissing query <;>
    simp [Command.missing, Command.missingParts, hcollection, hquery]

theorem missing_update (collection query update : Option String) (multi : Bool) :
    (⟨collection, .update query update multi⟩ : Command).missing = [] ↔
      Command.isMissing collection = false ∧ Command.isMissing query = false ∧
        Command.isMissing update = false := by
  cases hcollection : Command.isMissing collection <;> cases hquery : Command.isMissing query <;>
    cases hupdate : Command.isMissing update <;>
    simp [Command.missing, Command.missingParts, hcollection, hquery, hupdate]

theorem part_eq_ok {key label text : String} {members : Members} :
    Command.part key label text = .ok members ↔
      ∃ q, Query.document label text = .ok q ∧ members = [(key, .obj q)] := by
  rw [Command.part, Result.bind_eq_ok]
  exact exists_congr fun q => and_congr_right fun _ =>
    ⟨fun h => by cases h; rfl, fun h => by rw [h]; rfl⟩

/-- What a form is rendered as, by the kind of command that it names. -/
theorem renders_iff {form : Members} {kind : CommandKind}
    (hkind : Command.kindOf form = .ok kind) {document : Members} : Renders form document ↔
      ∃ collection body, Command.text? form "collection" = .ok collection ∧
        Command.bodyOf kind form = .ok body ∧ (⟨collection, body⟩ : Command).missing = [] ∧
        (⟨collection, body⟩ : Command).document = .ok document := by
  constructor
  · rintro ⟨command, hcommand, hmissing, hdocument⟩
    rw [Command.ofForm, hkind] at hcommand
    obtain ⟨_, hkind', hcommand⟩ := Result.bind_eq_ok.mp hcommand
    cases hkind'
    obtain ⟨collection, hcollection, hcommand⟩ := Result.bind_eq_ok.mp hcommand
    obtain ⟨body, hbody, hcommand⟩ := Result.bind_eq_ok.mp hcommand
    cases hcommand
    exact ⟨collection, body, hcollection, hbody, hmissing, hdocument⟩
  · rintro ⟨collection, body, hcollection, hbody, hmissing, hdocument⟩
    refine ⟨⟨collection, body⟩, ?_, hmissing, hdocument⟩
    simp only [Command.ofForm, hkind, hcollection, hbody, bind, Except.bind]
    rfl

/-- **A form deletes by the query that it holds.** -/
theorem renders_delete {form : Members} (hkind : Command.kindOf form = .ok .delete)
    {document : Members} : Renders form document ↔
      ∃ collection query q limit, HoldsText form "collection" collection ∧
        HoldsText form "delete.query" query ∧ Query.document "Query" query = .ok q ∧
        Form.text? form "delete.limit" = .ok limit ∧ document = deletion collection q limit := by
  rw [renders_iff hkind]
  constructor
  · rintro ⟨collection, body, hthere, hbody, hmissing, hdocument⟩
    obtain ⟨query, hasked, hbody⟩ := Result.bind_eq_ok.mp hbody
    obtain ⟨limit, hlimit, hbody⟩ := Result.bind_eq_ok.mp hbody
    cases hbody
    obtain ⟨hcollection', hquery'⟩ := (missing_delete _ _ _).mp hmissing
    obtain ⟨collection, rfl, hcollection⟩ := holdsText_of_present hthere hcollection'
    obtain ⟨query, rfl, hquery⟩ := holdsText_of_present hasked hquery'
    obtain ⟨_, hpart, hdocument⟩ := Result.bind_eq_ok.mp hdocument
    obtain ⟨q, hq, rfl⟩ := part_eq_ok.mp hpart
    cases hdocument
    refine ⟨collection, query, q, limit, hcollection, hquery, hq, Result.mapError_eq_ok.mp hlimit,
      ?_⟩
    simp only [isAll_eq, decide_eq_true_eq]
    rfl
  · rintro ⟨collection, query, q, limit, hcollection, hquery, hq, hlimit, rfl⟩
    refine ⟨some collection, .delete (some query) (if Command.isAll limit then 0 else 1),
      text?_of_holdsText hcollection, ?_, (missing_delete _ _ _).mpr
        ⟨isMissing_of_holdsText hcollection, isMissing_of_holdsText hquery⟩, ?_⟩
    · exact Result.bind_eq_ok.mpr ⟨_, text?_of_holdsText hquery, Result.bind_eq_ok.mpr
        ⟨limit, Result.mapError_eq_ok.mpr hlimit, rfl⟩⟩
    · simp only [isAll_eq, decide_eq_true_eq]
      exact Result.bind_eq_ok.mpr ⟨_, part_eq_ok.mpr ⟨q, hq, rfl⟩, rfl⟩

/-- **A form updates by the query and the update that it holds.** -/
theorem renders_update {form : Members} (hkind : Command.kindOf form = .ok .update)
    {document : Members} : Renders form document ↔
      ∃ collection query update q u limit, HoldsText form "collection" collection ∧
        HoldsText form "updateMany.query" query ∧ HoldsText form "updateMany.update" update ∧
        Query.document "Query" query = .ok q ∧ Query.document "Update" update = .ok u ∧
        Form.text? form "updateMany.limit" = .ok limit ∧
        document = change collection q u limit := by
  rw [renders_iff hkind]
  constructor
  · rintro ⟨collection, body, hthere, hbody, hmissing, hdocument⟩
    obtain ⟨query, hasked, hbody⟩ := Result.bind_eq_ok.mp hbody
    obtain ⟨update, hgiven, hbody⟩ := Result.bind_eq_ok.mp hbody
    obtain ⟨limit, hlimit, hbody⟩ := Result.bind_eq_ok.mp hbody
    cases hbody
    obtain ⟨hcollection', hquery', hupdate'⟩ := (missing_update _ _ _ _).mp hmissing
    obtain ⟨collection, rfl, hcollection⟩ := holdsText_of_present hthere hcollection'
    obtain ⟨query, rfl, hquery⟩ := holdsText_of_present hasked hquery'
    obtain ⟨update, rfl, hupdate⟩ := holdsText_of_present hgiven hupdate'
    obtain ⟨_, hpart, hdocument⟩ := Result.bind_eq_ok.mp hdocument
    obtain ⟨q, hq, rfl⟩ := part_eq_ok.mp hpart
    obtain ⟨_, hpart, hdocument⟩ := Result.bind_eq_ok.mp hdocument
    obtain ⟨u, hu, rfl⟩ := part_eq_ok.mp hpart
    cases hdocument
    refine ⟨collection, query, update, q, u, limit, hcollection, hquery, hupdate, hq, hu,
      Result.mapError_eq_ok.mp hlimit, ?_⟩
    rw [isAll_eq]
    rfl
  · rintro ⟨collection, query, update, q, u, limit, hcollection, hquery, hupdate, hq, hu, hlimit,
      rfl⟩
    refine ⟨some collection, .update (some query) (some update) (Command.isAll limit),
      text?_of_holdsText hcollection, ?_, (missing_update _ _ _ _).mpr
        ⟨isMissing_of_holdsText hcollection, isMissing_of_holdsText hquery,
          isMissing_of_holdsText hupdate⟩, ?_⟩
    · exact Result.bind_eq_ok.mpr ⟨_, text?_of_holdsText hquery, Result.bind_eq_ok.mpr
        ⟨_, text?_of_holdsText hupdate, Result.bind_eq_ok.mpr
          ⟨limit, Result.mapError_eq_ok.mpr hlimit, rfl⟩⟩⟩
    · rw [isAll_eq]
      exact Result.bind_eq_ok.mpr ⟨_, part_eq_ok.mpr ⟨q, hq, rfl⟩, Result.bind_eq_ok.mpr
        ⟨_, part_eq_ok.mpr ⟨u, hu, rfl⟩, rfl⟩⟩

/-! ### Destruction -/

section Destruction

variable {form : Members} {params : List Substitution.Param}

/-- The document that a form deletes or updates documents by: its filter is the document of the text
that the form has, in the end, in the field of the query. -/
inductive Destroys (form : Members) (params : List Substitution.Param) :
    CommandKind → Members → Prop
  | delete {collection query : String} {q : Members} {limit : Option String}
      (hcollection : HoldsText form "collection" collection)
      (hquery : FilledText params form "delete.query" query)
      (hq : Query.document "Query" query = .ok q)
      (hlimit : Form.text? form "delete.limit" = .ok limit) :
      Destroys form params .delete (deletion collection q limit)
  | update {collection query update : String} {q u : Members} {limit : Option String}
      (hcollection : HoldsText form "collection" collection)
      (hquery : FilledText params form "updateMany.query" query)
      (hupdate : FilledText params form "updateMany.update" update)
      (hq : Query.document "Query" query = .ok q) (hu : Query.document "Update" update = .ok u)
      (hlimit : Form.text? form "updateMany.limit" = .ok limit) :
      Destroys form params .update (change collection q u limit)

/-- A command is prepared where its filled form is rendered. -/
theorem prepares_iff_renders {kind : CommandKind} (hkind : Command.kindOf form = .ok kind)
    {document : Members} : (∃ p, Prepares form params p ∧ p.document = document) ↔
      ∃ filled bound, Work.filling kind.jsonFields params form = .ok (filled, bound) ∧
        Renders filled document := by
  constructor
  · rintro ⟨p, ⟨_, filled, hkind', hfilled, hcommand, hmissing, hdocument⟩, rfl⟩
    rw [hkind] at hkind'
    cases hkind'
    exact ⟨filled, p.bound, hfilled, p.command, hcommand, hmissing, hdocument⟩
  · rintro ⟨filled, bound, hfilled, command, hcommand, hmissing, hdocument⟩
    exact ⟨⟨command, document, bound⟩, ⟨kind, filled, hkind, hfilled, hcommand, hmissing,
      hdocument⟩, rfl⟩

theorem prepares_delete (hkind : Command.kindOf form = .ok .delete) {document : Members} :
    (∃ p, Prepares form params p ∧ p.document = document) ↔
      Destroys form params .delete document := by
  have hapart := areApart_jsonFields .delete
  have hcollection : ∀ field ∈ CommandKind.delete.jsonFields, AreApart field "collection" := by
    decide
  have hlimit : ∀ field ∈ CommandKind.delete.jsonFields, AreApart field "delete.limit" := by
    decide
  rw [prepares_iff_renders hkind]
  constructor
  · rintro ⟨filled, bound, hfilled, hrenders⟩
    obtain ⟨collection, query, q, limit, hnamed, hquery, hq, hread, rfl⟩ :=
      (renders_delete ((kindOf_filling hfilled).trans hkind)).mp hrenders
    rw [Form.holdsText_congr (Work.lookup_filling hfilled hcollection)] at hnamed
    rw [Form.text?_congr (Work.lookup_filling hfilled hlimit)] at hread
    rw [Work.holdsText_filling hapart hfilled (by decide)] at hquery
    exact .delete hnamed hquery hq hread
  · rintro (⟨hnamed, hquery, hq, hread⟩)
    obtain ⟨filled, bound, hfilled⟩ := Work.exists_filling_of_filledText hapart
      (List.forall_mem_singleton.mpr ⟨_, hquery⟩)
    refine ⟨filled, bound, hfilled,
      (renders_delete ((kindOf_filling hfilled).trans hkind)).mpr ⟨_, _, _, _, ?_, ?_, hq, ?_, rfl⟩⟩
    · rwa [Form.holdsText_congr (Work.lookup_filling hfilled hcollection)]
    · rwa [Work.holdsText_filling hapart hfilled (by decide)]
    · rwa [Form.text?_congr (Work.lookup_filling hfilled hlimit)]

theorem prepares_update (hkind : Command.kindOf form = .ok .update) {document : Members} :
    (∃ p, Prepares form params p ∧ p.document = document) ↔
      Destroys form params .update document := by
  have hapart := areApart_jsonFields .update
  have hcollection : ∀ field ∈ CommandKind.update.jsonFields, AreApart field "collection" := by
    decide
  have hlimit : ∀ field ∈ CommandKind.update.jsonFields, AreApart field "updateMany.limit" := by
    decide
  rw [prepares_iff_renders hkind]
  constructor
  · rintro ⟨filled, bound, hfilled, hrenders⟩
    obtain ⟨collection, query, update, q, u, limit, hnamed, hquery, hupdate, hq, hu, hread, rfl⟩ :=
      (renders_update ((kindOf_filling hfilled).trans hkind)).mp hrenders
    rw [Form.holdsText_congr (Work.lookup_filling hfilled hcollection)] at hnamed
    rw [Form.text?_congr (Work.lookup_filling hfilled hlimit)] at hread
    rw [Work.holdsText_filling hapart hfilled (by decide)] at hquery hupdate
    exact .update hnamed hquery hupdate hq hu hread
  · rintro (_ | ⟨hnamed, hquery, hupdate, hq, hu, hread⟩)
    obtain ⟨filled, bound, hfilled⟩ := Work.exists_filling_of_filledText hapart
      (List.forall_mem_cons.mpr ⟨⟨_, hquery⟩, List.forall_mem_singleton.mpr ⟨_, hupdate⟩⟩)
    refine ⟨filled, bound, hfilled, (renders_update ((kindOf_filling hfilled).trans hkind)).mpr
      ⟨_, _, _, _, _, _, ?_, ?_, ?_, hq, hu, ?_, rfl⟩⟩
    · rwa [Form.holdsText_congr (Work.lookup_filling hfilled hcollection)]
    · rwa [Work.holdsText_filling hapart hfilled (by decide)]
    · rwa [Work.holdsText_filling hapart hfilled (by decide)]
    · rwa [Form.text?_congr (Work.lookup_filling hfilled hlimit)]

/-- **What a destructive command is prepared as** is what its form destroys by. -/
theorem prepares_iff_destroys {kind : CommandKind} (hkind : Command.kindOf form = .ok kind)
    (hdestructive : kind = .delete ∨ kind = .update) {document : Members} :
    (∃ p, Prepares form params p ∧ p.document = document) ↔ Destroys form params kind document := by
  obtain rfl | rfl := hdestructive
  · exact prepares_delete hkind
  · exact prepares_update hkind

end Destruction

/-! ### What is sent -/

section Sending

variable {σ : Type} (d : Database σ) {form : Members} (params : List Substitution.Param)
variable (service : σ)

/-- What is sent under any name is the document of the prepared command, if there is one. -/
theorem executeAs_sent (name : String) :
    (executeAs name d form params service).session.sent = sentOf form params := by
  obtain ⟨u, k, hreached, hok, hunknown, herror⟩ := executeAs_course name d form params service
  cases houtcome : outcomeOf d form params service with
  | ok result =>
    rw [(hok result houtcome).2]
    exact hreached.sent
  | error e =>
    by_cases hknown : ∃ key known, e = .problem (.unknownOperation key known)
    · obtain ⟨key, known, rfl⟩ := hknown
      rw [hunknown key known houtcome]
      exact hreached.sent
    · obtain ⟨v, hv, -, hsent⟩ := herror e houtcome fun key known he => hknown ⟨key, known, he⟩
      rw [hv]
      exact hsent.trans hreached.sent

/-- A form that names a command sends the document of the prepared command, if there is one. -/
theorem execute_sent {kind : CommandKind} (h : Command.kindOf form = .ok kind) :
    (execute d form params service).session.sent = sentOf form params := by
  obtain ⟨hform, name, hname⟩ := named_of_kindOf h
  rw [execute_eq_executeAs d hform hname, executeAs_sent]

/-- **Nothing is destroyed without a filter.** A form that names a deletion or an update sends the
document that it destroys by, and nothing else; it sends nothing where there is no such document. -/
theorem destruction_sent {kind : CommandKind} (hkind : Command.kindOf form = .ok kind)
    (hdestructive : kind = .delete ∨ kind = .update) :
    (execute d form params service).session.sent.length ≤ 1 ∧
    ∀ document, document ∈ (execute d form params service).session.sent ↔
      Destroys form params kind document := by
  rw [execute_sent d params service hkind, sentOf]
  simp only [← prepares_iff_destroys hkind hdestructive, ← preparedOf_eq_ok]
  cases preparedOf form params with
  | ok p =>
    refine ⟨Nat.le_refl 1, fun document => List.mem_singleton.trans ⟨?_, ?_⟩⟩
    · rintro rfl
      exact ⟨p, rfl, rfl⟩
    · rintro ⟨_, hp, rfl⟩
      cases hp
      rfl
  | error e =>
    refine ⟨Nat.zero_le 1, fun document => iff_of_false List.not_mem_nil ?_⟩
    rintro ⟨p, hp, -⟩
    cases hp

end Sending

/-- Changing the documents that a parameter names. -/
def changing : Members :=
  [("command", .str "UPDATE"), ("collection", .str "a"),
    ("updateMany", .obj [("query", .str "\x7b\"n\": \x7b\x7b m \x7d\x7d\x7d"),
      ("update", .str "\x7b\"k\": 1\x7d"), ("limit", .str " ALL ")])]

/-- An update under a binding is sent with the value of the parameter in its filter. -/
theorem destruction_sent_changing :
    Command.kindOf changing = .ok .update ∧
    change "a" [("n", .int 5)] [("k", .int 1)] (some "ALL") ∈
      (execute agreeing changing [⟨"m", some "5"⟩] ()).session.sent := by
  have hkind : Command.kindOf changing = .ok .update := by rfl
  have hcollection : HoldsText changing "collection" "a" := Form.text?_eq_some.mp (by rfl)
  have hlimit : Form.text? changing "updateMany.limit" = .ok (some "ALL") := by rfl
  have hheld : HoldsText changing "updateMany.query" "\x7b\"n\": \x7b\x7b m \x7d\x7d\x7d" :=
    Form.text?_eq_some.mp (Result.toOption_eq_some.mp (by decide +kernel))
  have hfilled : Substitution.filled "\x7b\"n\": \x7b\x7b m \x7d\x7d\x7d" [⟨"m", some "5"⟩] =
      .ok ("\x7b\"n\": 5\x7d", [⟨"m", some "5", .integer⟩]) :=
    Result.toOption_eq_some.mp (by decide +kernel)
  have hquery : FilledText [⟨"m", some "5"⟩] changing "updateMany.query" "\x7b\"n\": 5\x7d" :=
    ⟨_, _, _, hheld, hfilled, by decide +kernel, by decide +kernel⟩
  have hgiven : HoldsText changing "updateMany.update" "\x7b\"k\": 1\x7d" :=
    Form.text?_eq_some.mp (Result.toOption_eq_some.mp (by decide +kernel))
  have hkept : Substitution.filled "\x7b\"k\": 1\x7d" [⟨"m", some "5"⟩] =
      .ok ("\x7b\"k\": 1\x7d", []) :=
    Result.toOption_eq_some.mp (by decide +kernel)
  have hupdate : FilledText [⟨"m", some "5"⟩] changing "updateMany.update" "\x7b\"k\": 1\x7d" :=
    ⟨_, _, _, hgiven, hkept, by decide +kernel, by decide +kernel⟩
  have hq : Query.document "Query" "\x7b\"n\": 5\x7d" = .ok [("n", .int 5)] :=
    Result.toOption_eq_some.mp (by decide +kernel)
  have hu : Query.document "Update" "\x7b\"k\": 1\x7d" = .ok [("k", .int 1)] :=
    Result.toOption_eq_some.mp (by decide +kernel)
  refine ⟨hkind, ((destruction_sent agreeing [⟨"m", some "5"⟩] () hkind (.inr rfl)).2 _).mpr ?_⟩
  exact .update hcollection hquery hupdate hq hu hlimit

end CommandRun
end FormDispatch
