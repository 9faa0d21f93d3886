/-
# Templates

Ready-made forms for a collection, as starting points: one or two for every kind of command but the
raw one. What is known of the collection, a field with a value and a sample document, shows up in
them; nothing of it is checked. Each form also holds the whole command as text.

Specification, sections 4.2 and E8.
-/

import FormDispatch.Command.Basic
import FormDispatch.Document.Writer
import FormDispatch.Validation

namespace FormDispatch

/-- What is known of a collection. -/
structure TemplateHints where
  collection : String
  filterField : Option String := none
  filterValue : Option String := none
  sample : Option Members := none

/-- A form with a title. -/
structure Template where
  title : String
  form : Members

namespace TemplateHints

/-- An object or null. -/
def sampleOf (place : List String) : Document → Checked (Option Members)
  | .null => .ok none
  | .obj m => .ok (some m)
  | _ => Checked.issue place .dictType

/-- Hints from the members of an object. -/
def ofMembers (m : Members) : Checked TemplateHints :=
  let collection :=
    Checked.required m "collection_name" (Checked.text ["collection_name"] 0)
  let field :=
    Checked.optional m "filter_field_name" none (Checked.text? ["filter_field_name"])
  let value :=
    Checked.optional m "filter_field_value" none (Checked.text? ["filter_field_value"])
  let sample := Checked.optional m "sample_document" none (sampleOf ["sample_document"])
  (collection.both (field.both (value.both sample))).map fun (collection, field, value, sample) =>
    ⟨collection, field, value, sample⟩

/-- The first field of a document, the identifier apart, that holds a text, and the text. -/
def filterHint : Members → Option (String × String)
  | [] => none
  | (key, .str value) :: rest => if key != "_id" then some (key, value) else filterHint rest
  | _ :: rest => filterHint rest

/-- What a sample document tells about a collection. -/
def ofSample (collection : String) (sample : Option Members) : TemplateHints :=
  let hint := filterHint (sample.getD [])
  ⟨collection, hint.map Prod.fst, hint.map Prod.snd, sample⟩

/-- What a value in the place of a sample document tells of a field. An object tells of its own
fields, and what counts as absent tells nothing. -/
def hintIn (sample : Document) : Except Defect (Option (String × String)) :=
  match sample with
  | .obj m => .ok (filterHint m)
  | d => if d.isAbsent then .ok none else .error (.noPairs d.kindName)

/-- What values from outside tell about a collection: its name, a sample document or null, and what
that tells of a field. -/
def ofDocuments (collection sample : Document) (hint : Option (String × String)) :
    Checked TemplateHints :=
  (ofMembers [("collection_name", collection), ("sample_document", sample)]).map fun h =>
    { h with filterField := hint.map Prod.fst, filterValue := hint.map Prod.snd }

/-- The known field, or another one when there is none with a name. -/
def fieldOr (h : TemplateHints) (usual : String) : String :=
  match h.filterField with
  | some field => if field.isEmpty then usual else field
  | none => usual

/-- A value of the same kind, as an example. -/
def exampleOf : Document → Document
  | .bool _ => .bool true
  | .int _ | .float _ => .int 1
  | .str _ => .str "new value"
  | .arr _ => .arr []
  | .obj _ => .obj []
  | .null => .null

/-- An example of a document of the collection. -/
def exampleDocument (h : TemplateHints) : Document :=
  let members := ((h.sample.getD []).filter fun (key, _) => key != "_id").map
    fun (key, value) => (key, exampleOf value)
  if members.isEmpty then .obj [("field", .str "value")] else .obj members

end TemplateHints

namespace Template

/-- What all forms start with. -/
def base (kind : CommandKind) (collection : String) : Members :=
  [("smartSubstitution", .bool true), ("command", .str kind.key), ("collection", .str collection)]

/-- A form with texts put into its fields, in order. -/
def filled (form : Members) (fields : List (String × String)) : Members :=
  fields.foldl (fun form (field, text) => Form.put form field (.str text)) form

/-- The template of a kind of command with texts in its fields. -/
def ofFields (title : String) (kind : CommandKind) (h : TemplateHints)
    (fields : List (String × String)) : Template :=
  ⟨title, filled (base kind h.collection) fields⟩

/-- Lines of a text, each ended. -/
def lines (l : List String) : String :=
  String.join (l.map fun line => line ++ "\n")

/-- Finding by a field. -/
def find (h : TemplateHints) : Template :=
  let value := Document.displayedText? h.filterValue
  let query := match h.filterField with
    | none => "\x7b\x7d"
    | some field => "\x7b \"" ++ field ++ "\": \"" ++ value ++ "\"\x7d"
  let filter := match h.filterField with
    | none => []
    | some field =>
      ["  \"filter\": \x7b", "    \"" ++ field ++ "\": \"" ++ value ++ "\"", "  \x7d,"]
  ofFields "Find" .find h [
    ("find.sort", "\x7b\"_id\": 1\x7d"),
    ("find.limit", "10"),
    ("find.query", query),
    ("body", lines (["\x7b", "  \"find\": \"" ++ h.collection ++ "\","] ++ filter ++
      ["  \"sort\": \x7b", "    \"_id\": 1", "  \x7d,", "  \"limit\": 10", "\x7d"]))]

/-- Finding by the identifier. -/
def findById (h : TemplateHints) : Template :=
  ofFields "Find by ID" .find h [
    ("find.query", "\x7b\"_id\": ObjectId(\"id_to_query_with\")\x7d"),
    ("body", lines ["\x7b", "  \"find\": \"" ++ h.collection ++ "\",", "  \"filter\": \x7b",
      "    \"_id\": ObjectId(\"id_to_query_with\")", "  \x7d", "\x7d"])]

/-- Inserting a document. -/
def insert (h : TemplateHints) : Template :=
  let documents : Document := .arr [h.exampleDocument]
  let command : Document := .obj [("insert", .str h.collection), ("documents", documents)]
  ofFields "Insert" .insert h [
    ("insert.documents", documents.written .page),
    ("body", command.written .page ++ "\n")]

/-- Updating a document. -/
def update (h : TemplateHints) : Template :=
  let change := "\x7b \"$set\": \x7b \"" ++ h.fieldOr "field" ++
    "\": \"new value\" \x7d \x7d"
  ofFields "Update" .update h [
    ("updateMany.query", "\x7b \"_id\": ObjectId(\"id_of_document_to_update\") \x7d"),
    ("updateMany.update", change),
    ("updateMany.limit", "SINGLE"),
    ("body", lines ["\x7b", "  \"update\": \"" ++ h.collection ++ "\",", "  \"updates\": [",
      "    \x7b", "      \"q\": \x7b",
      "        \"_id\": ObjectId(\"id_of_document_to_update\")", "      \x7d,",
      "      \"u\": " ++ change, "    \x7d", "  ]", "\x7d"])]

/-- Deleting a document. -/
def delete (h : TemplateHints) : Template :=
  ofFields "Delete" .delete h [
    ("delete.query", "\x7b \"_id\": ObjectId(\"id_of_document_to_delete\") \x7d"),
    ("delete.limit", "SINGLE"),
    ("body", lines ["\x7b", "  \"delete\": \"" ++ h.collection ++ "\",", "  \"deletes\": [",
      "    \x7b", "      \"q\": \x7b", "        \"_id\": \"id_of_document_to_delete\"",
      "      \x7d,", "      \"limit\": 1", "    \x7d", "  ]", "\x7d"])]

/-- Counting documents. -/
def count (h : TemplateHints) : Template :=
  ofFields "Count" .count h [
    ("count.query", "\x7b\"_id\": \x7b\"$exists\": true\x7d\x7d"),
    ("body", lines ["\x7b", "  \"count\": \"" ++ h.collection ++ "\",", "  \"query\": \x7b",
      "    \"_id\": \x7b", "      \"$exists\": true", "    \x7d", "  \x7d", "\x7d"])]

/-- The distinct values of a key. -/
def distinct (h : TemplateHints) : Template :=
  let key := h.fieldOr "_id"
  let query := "\x7b \"_id\": ObjectId(\"id_of_document_to_distinct\") \x7d"
  ofFields "Distinct" .distinct h [
    ("distinct.query", query),
    ("distinct.key", key),
    ("body", lines ["\x7b", "  \"distinct\": \"" ++ h.collection ++ "\",",
      "  \"query\": " ++ query ++ ",", "  \"key\": \"" ++ key ++ "\"", "\x7d"])]

/-- Aggregating documents. -/
def aggregate (h : TemplateHints) : Template :=
  let stages := "[ \x7b\"$sort\" : \x7b\"_id\": 1\x7d \x7d ]"
  ofFields "Aggregate" .aggregate h [
    ("aggregate.arrayPipelines", stages),
    ("aggregate.limit", "10"),
    ("body", lines ["\x7b", "  \"aggregate\": \"" ++ h.collection ++ "\",",
      "  \"pipeline\": " ++ stages ++ ",", "  \"cursor\": \x7b \"batchSize\": 10 \x7d", "\x7d"])]

/-- All templates for a collection. -/
def all (h : TemplateHints) : List Template :=
  [find h, findById h, insert h, update h, delete h, count h, distinct h, aggregate h]

/-- A template as a value. -/
def document (t : Template) : Document :=
  .obj [("title", .str t.title), ("configuration", .obj t.form)]

end Template
end FormDispatch
