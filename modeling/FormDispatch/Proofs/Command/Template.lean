/-
# What templates are made of

A template shows what is known of a collection: a hint, which is the first field of a sample
document that holds a text, and an example of a document with the keys of the sample. Both stand in
it as texts. The text of the example is written like any other document, so it is always read as the
example (`value_documentsText`). The text of the filter is put together from the name and the value
of the hint as they are, so it is read as the filter just when both are plain
(`document_filterText`).
-/

import FormDispatch.Command.Template
import FormDispatch.Proofs.Query.PlainText
import FormDispatch.Proofs.Query.WrittenText

namespace FormDispatch
namespace TemplateHints

/-! ### The hint -/

/-- What a sample document tells of a field. -/
def hintOf (sample : Option Members) : Option (String × String) :=
  filterHint (sample.getD [])

/-- A member that tells of no field: the identifier, or one that holds no text. -/
def TellsNothing (p : String × Document) : Prop :=
  p.1 = "_id" ∨ ∀ s, p.2 ≠ .str s

/-- A hint is the first member that tells of a field, if there is one. -/
def IsFirstText (m : Members) : Option (String × String) → Prop
  | none => ∀ p ∈ m, TellsNothing p
  | some (name, value) => ∃ front behind, m = front ++ (name, .str value) :: behind ∧
      name ≠ "_id" ∧ ∀ p ∈ front, TellsNothing p

theorem isFirstText_cons {p : String × Document} {rest : Members}
    {hint : Option (String × String)} (hp : TellsNothing p) (h : IsFirstText rest hint) :
    IsFirstText (p :: rest) hint := by
  cases hint with
  | none => exact List.forall_mem_cons.mpr ⟨hp, h⟩
  | some hint =>
    obtain ⟨front, behind, rfl, hname, hfront⟩ := h
    exact ⟨p :: front, behind, rfl, hname, List.forall_mem_cons.mpr ⟨hp, hfront⟩⟩

theorem isFirstText_filterHint (m : Members) : IsFirstText m (filterHint m) := by
  induction m with
  | nil => exact List.forall_mem_nil _
  | cons p rest ih =>
    obtain ⟨key, value⟩ := p
    unfold filterHint
    -- a text tells of its field unless that is the identifier; what is no text tells nothing
    split
    · next h => cases h
    · next key value rest h =>
      cases h
      split
      · next hkey => exact ⟨[], rest, rfl, by simpa using hkey, List.forall_mem_nil _⟩
      · next hkey => exact isFirstText_cons (.inl (by simpa using hkey)) ih
    · next hstr h =>
      cases h
      exact isFirstText_cons (.inr fun s hs => hstr key s (congrArg (key, ·) hs)) ih

/-! ### The filter -/

/-- The filter that a hint makes. -/
def filterOf : Option (String × String) → Members
  | none => []
  | some (name, value) => [(name, .str value)]

/-- The text of that filter in a template. -/
def filterText : Option (String × String) → String
  | none => "\x7b\x7d"
  | some (name, value) => Query.memberText name value

/-- A hint stands in the text of a filter as it is. -/
def IsTold (hint : Option (String × String)) : Prop :=
  ∀ name value, hint = some (name, value) →
    Query.IsPlain name.toList ∧ Query.IsPlain value.toList

/-- **The text of a filter holds the filter just when the hint is told.** -/
theorem document_filterText (label : String) (hint : Option (String × String)) :
    Query.document label (filterText hint) = .ok (filterOf hint) ↔ IsTold hint := by
  rw [Query.document_eq_ok]
  rcases hint with _ | ⟨name, value⟩
  · refine iff_of_true ?_ nofun
    exact Result.toOption_eq_some.mp (by decide +kernel)
  · rw [filterText, filterOf, Query.read_memberText]
    constructor
    · rintro hplain _ _ ⟨⟩
      exact hplain
    · exact fun htold => htold name value rfl

/-! ### The example of a document -/

section Example

variable {sample : Option Members}

/-- The keys of a sample document, the identifier apart. -/
def exampleKeys (sample : Option Members) : List String :=
  (sample.getD []).keys.filter fun key => key != "_id"

/-- The examples in the place of the values of a sample document. -/
def exampleMembers (sample : Option Members) : Members :=
  ((sample.getD []).filter fun (key, _) => key != "_id").map
    fun (key, value) => (key, exampleOf value)

theorem keys_exampleMembers : (exampleMembers sample).keys = exampleKeys sample := by
  simp only [Entries.keys, exampleMembers, exampleKeys, List.map_map, List.filter_map]
  rfl

/-- The members of the example document: with the keys of the sample, or a usual one when there are
none. -/
def exampleOr (sample : Option Members) : Members :=
  if exampleKeys sample = [] then [("field", .str "value")] else exampleMembers sample

theorem exampleDocument_eq (collection : String) :
    (ofSample collection sample).exampleDocument = .obj (exampleOr sample) := by
  rw [exampleOr, ← keys_exampleMembers]
  change (if (exampleMembers sample).isEmpty then Document.obj [("field", .str "value")]
    else .obj (exampleMembers sample)) = _
  cases exampleMembers sample <;> rfl

/-- An example holds no keys, nothing long and nothing infinite, and is no deeper than one level. -/
theorem exampleOf_spec (d : Document) :
    (exampleOf d).isTellable = true ∧
      (exampleOf d).hasDistinctKeys = true ∧
      (exampleOf d).isFinite = true ∧ (exampleOf d).height ≤ 1 := by
  have hheight : (exampleOf d).height ≤ 1 := by
    cases d <;> first | exact Nat.zero_le 1 | exact Nat.le_refl 1
  refine ⟨?_, ?_, ?_, hheight⟩ <;> cases d <;> rfl

theorem nodup_keys_exampleOr (hkeys : (sample.getD []).keys.Nodup) :
    (exampleOr sample).keys.Nodup := by
  unfold exampleOr
  split
  · simp [Entries.keys]
  · rw [keys_exampleMembers]
    exact hkeys.filter _

theorem exampleOr_spec {p : String × Document} (hp : p ∈ exampleOr sample) :
    p.2.isTellable = true ∧ p.2.hasDistinctKeys = true ∧ p.2.isFinite = true ∧
      p.2.height ≤ 1 := by
  unfold exampleOr at hp
  split at hp
  · rw [List.mem_singleton.mp hp]
    exact ⟨rfl, rfl, rfl, Nat.zero_le 1⟩
  · obtain ⟨q, -, rfl⟩ := List.mem_map.mp hp
    exact exampleOf_spec q.2

/-- The text of the documents of a template. -/
def documentsText (sample : Option Members) : String :=
  (Document.arr [.obj (exampleOr sample)]).written .page

/-- **The documents of a template are read as they were written.** -/
theorem value_documentsText (hkeys : (sample.getD []).keys.Nodup) (field : String) :
    Query.value field (documentsText sample) =
      .ok (.arr [.obj (exampleOr sample)]) := by
  have htell : (Document.obj (exampleOr sample)).isTellable = true :=
    Document.holdTellable_of_forall fun p hp => (exampleOr_spec hp).1
  have hdistinct : (Document.obj (exampleOr sample)).hasDistinctKeys = true := by
    rw [Document.hasDistinctKeys, decide_eq_true (nodup_keys_exampleOr hkeys), Bool.true_and]
    exact Document.holdDistinctKeys_of_forall fun p hp => (exampleOr_spec hp).2.1
  have hfinite : (Document.obj (exampleOr sample)).isFinite = true :=
    Document.haveFinite_of_forall fun p hp => (exampleOr_spec hp).2.2.1
  have hheight : (Document.obj (exampleOr sample)).height ≤ 2 :=
    Nat.succ_le_succ (Document.heightIn_le_of_forall fun p hp => (exampleOr_spec hp).2.2.2)
  refine Query.value_written Document.Layout.spaced_page ?_ ?_ ?_ ?_ field
  · exact Bool.and_eq_true_iff.mpr ⟨htell, rfl⟩
  · exact Bool.and_eq_true_iff.mpr ⟨hdistinct, rfl⟩
  · exact Bool.and_eq_true_iff.mpr ⟨hfinite, rfl⟩
  · have hitems : (Document.arr [.obj (exampleOr sample)]).height ≤ 3 :=
      Nat.succ_le_succ (Nat.max_le.mpr ⟨hheight, Nat.zero_le 2⟩)
    exact Nat.le_trans hitems (by decide)

end Example

end TemplateHints
end FormDispatch
