/-
# Documents of commands

The document that a command is sent as, and what its reply comes to. Queries that are missing match
everything, save in commands that change documents; there the text must be there to be read. A
single document stands for a list of one where documents or stages are listed.

Specification, sections 4.2 and E8.
-/

import FormDispatch.Command.Basic
import FormDispatch.Query

namespace FormDispatch
namespace Command

/-- The query that matches everything. -/
def matchAll : String := "\x7b\x7d"

/-- How many documents are found unless a form says so. -/
def usualLimit : Int := 10

/-- How much of a text that is no list of documents a problem shows. -/
def shownList : Nat := 40

/-- All items are objects. -/
def areObjects (items : List Document) : Bool :=
  items.all Document.isObject

/-- The objects that a text lists, or the single one that it is. -/
def listed (field text : String) (flaw : Query.Flaw) : Except Failure (List Document) := do
  let refusal : Problem :=
    .unreadableText field (String.ofList (text.toList.take shownList)) flaw.wording
  match ← Query.value field text with
  | .obj members => return [.obj members]
  | .arr items => if areObjects items then return items else .error (.problem refusal)
  | _ => .error (.problem refusal)

/-- The document of a text, under a key. -/
def part (key label text : String) : Except Failure Members := do
  let document ← Query.document label text
  return [(key, .obj document)]

/-- The document of a text under a key, if there is a text. -/
def part? (key label : String) (text : Option String) : Except Failure Members :=
  if isMissing text then .ok [] else part key label (text.getD "")

/-- The text of a query, or the one that matches everything. -/
def queryOr (text : Option String) : String :=
  if isMissing text then matchAll else text.getD ""

/-- The document that a command is sent as. -/
def document (c : Command) : Except Failure Members :=
  let collection : Document := .ofText? c.collection
  match c.body with
  | .find query sort projection limit skip => do
    let filter ← part "filter" "Query" (queryOr query)
    let sort ← part? "sort" "Sort" sort
    let projection ← part? "projection" "Projection" projection
    let limit : Document := .int (limit.getD usualLimit)
    let skip : Members := match skip with
      | some n => [("skip", .int n)]
      | none => []
    return [("find", collection)] ++ filter ++ sort ++ projection ++
      [("limit", limit), ("batchSize", limit)] ++ skip
  | .insert documents => do
    let documents ← listed "Documents" (documents.getD "") .notDocuments
    return [("insert", collection), ("documents", .arr documents)]
  | .update query update multi => do
    let query ← part "q" "Query" (query.getD "")
    let update ← part "u" "Update" (update.getD "")
    return [("update", collection),
      ("updates", .arr [.obj (query ++ update ++ [("multi", .bool multi)])])]
  | .delete query limit => do
    let query ← part "q" "Query" (query.getD "")
    return [("delete", collection), ("deletes", .arr [.obj (query ++ [("limit", .int limit)])])]
  | .count query => do
    let query ← part "query" "Query" (queryOr query)
    return [("count", collection)] ++ query
  | .distinct query key => do
    let query ← part "query" "Query" (queryOr query)
    return [("distinct", collection), ("key", .ofText? key)] ++ query
  | .aggregate stages batchSize => do
    let stages ← listed "Array of Pipelines" (stages.getD "") .notStages
    return [("aggregate", collection), ("pipeline", .arr stages),
      ("cursor", .obj [("batchSize", .int batchSize)])]
  | .raw document => Query.document "Body" (document.getD "")

/-- The first batch of a reply with a cursor, else the reply. -/
def firstBatch (reply : Members) : Document :=
  let cursor := Document.ofOption (reply.get? "cursor")
  match cursor.members.get? "firstBatch" with
  | some batch => batch
  | none => .obj reply

/-- The members of a reply; a reply without members is a defect. -/
def replyMembers : Document → Except Defect Members
  | .obj members => .ok members
  | d => .error (.noMembers d.kindName)

/-- What a reply comes to. -/
def result (c : Command) (reply : Document) : Except Defect Document :=
  match c.body with
  | .find .. | .aggregate .. => (replyMembers reply).map firstBatch
  | .count _ => (replyMembers reply).map fun m =>
      .obj [("n", .ofOption (m.get? "n"))]
  | .distinct .. => (replyMembers reply).map fun m => (m.get? "values").getD (.arr [])
  | _ => .ok reply

end Command
end FormDispatch
