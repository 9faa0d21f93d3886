/-
# Commands

A command of the document database as a form describes it. Reading a form takes the fields of the
kind of command that it names, in order, and the first field of a wrong type is a problem. Texts of
documents are kept as texts; they are read when the command is rendered. Limits say how many
documents a command touches: exactly the word `ALL` means every one, anything else keeps to a single
one.

Specification, sections 4.2 and E8.
-/

import FormDispatch.Form
import FormDispatch.Operation

namespace FormDispatch

/-- What a command of one kind is made of. -/
inductive CommandBody where
  | find (query sort projection : Option String) (limit skip : Option Int)
  | insert (documents : Option String)
  | update (query update : Option String) (multi : Bool)
  | delete (query : Option String) (limit : Int)
  | count (query : Option String)
  | distinct (query key : Option String)
  | aggregate (stages : Option String) (batchSize : Int)
  | raw (document : Option String)
deriving DecidableEq

/-- A command on a collection. -/
structure Command where
  collection : Option String
  body : CommandBody
deriving DecidableEq

namespace CommandKind

/-- The fields that may hold bindings, in the order in which they are filled. -/
def jsonFields : CommandKind → List String
  | find => ["find.query", "find.sort", "find.projection"]
  | insert => ["insert.documents"]
  | update => ["updateMany.query", "updateMany.update"]
  | delete => ["delete.query"]
  | count => ["count.query"]
  | distinct => ["distinct.query"]
  | aggregate => ["aggregate.arrayPipelines"]
  | raw => ["body"]

end CommandKind

namespace Command

/-- A field read as a text. -/
def text? (form : Members) (field : String) : Except Failure (Option String) :=
  (Form.text? form field).mapError Form.FieldError.failure

/-- A field read as an integer. -/
def integer? (form : Members) (field : String) : Except Failure (Option Int) :=
  (Form.integer? form field).mapError Form.FieldError.failure

/-- The kind of command that a form names. -/
def kindOf (form : Members) : Except Failure CommandKind := do
  let name ← text? form "command"
  (CommandKind.resolve name).mapError .problem

/-- A limit that means every document. -/
def isAll (limit : Option String) : Bool :=
  limit == some "ALL"

/-- An integer that fits 64 bits. -/
def fits64 (n : Int) : Bool :=
  -9223372036854775808 ≤ n && n ≤ 9223372036854775807

/-- How many documents to skip: a number that fits 64 bits. -/
def skip? (form : Members) : Except Failure (Option Int) := do
  match ← integer? form "find.skip" with
  | some n =>
    if fits64 n then return some n
    else
      match Numeral.text? n with
      | some s => .error (.problem (.ofMismatch "find.skip" "64-bit integer" (some s)))
      | none => .error (.defect .integerTooLong)
  | none => return none

/-- How many documents a batch of an aggregation holds unless a form says so. -/
def usualBatch : Int := 10

/-- What a form says about a command of a kind. -/
def bodyOf (kind : CommandKind) (form : Members) : Except Failure CommandBody :=
  match kind with
  | .find => do
    let query ← text? form "find.query"
    let sort ← text? form "find.sort"
    let projection ← text? form "find.projection"
    let limit ← integer? form "find.limit"
    let skip ← skip? form
    return .find query sort projection limit skip
  | .insert => (text? form "insert.documents").map .insert
  | .update => do
    let query ← text? form "updateMany.query"
    let update ← text? form "updateMany.update"
    let limit ← text? form "updateMany.limit"
    return .update query update (isAll limit)
  | .delete => do
    let query ← text? form "delete.query"
    let limit ← text? form "delete.limit"
    return .delete query (if isAll limit then 0 else 1)
  | .count => (text? form "count.query").map .count
  | .distinct => do
    let query ← text? form "distinct.query"
    let key ← text? form "distinct.key"
    return .distinct query key
  | .aggregate => do
    let stages ← text? form "aggregate.arrayPipelines"
    let limit ← integer? form "aggregate.limit"
    return .aggregate stages (limit.getD usualBatch)
  | .raw => (text? form "body").map .raw

/-- The command that a form describes. -/
def ofForm (form : Members) : Except Failure Command := do
  let kind ← kindOf form
  let collection ← text? form "collection"
  let body ← bodyOf kind form
  return ⟨collection, body⟩

/-- The kind of a command. -/
def kind (c : Command) : CommandKind :=
  match c.body with
  | .find .. => .find
  | .insert _ => .insert
  | .update .. => .update
  | .delete .. => .delete
  | .count _ => .count
  | .distinct .. => .distinct
  | .aggregate .. => .aggregate
  | .raw _ => .raw

/-- A text that is missing or empty. -/
def isMissing (s : Option String) : Bool :=
  (s.getD "").isEmpty

/-- The labels of required parts that are missing. -/
def missingParts : CommandBody → List String
  | .insert documents => if isMissing documents then ["Documents"] else []
  | .update query update _ =>
    (if isMissing query then ["Query"] else []) ++ if isMissing update then ["Update"] else []
  | .delete query _ => if isMissing query then ["Query"] else []
  | .distinct _ key => if isMissing key then ["Key"] else []
  | .aggregate stages _ => if isMissing stages then ["Array of Pipelines"] else []
  | _ => []

/-- The labels of what is missing: the collection, which all but raw commands need, and if that is
there the parts. -/
def missing (c : Command) : List String :=
  match c.body with
  | .raw document => if isMissing document then ["Body"] else []
  | body => if isMissing c.collection then ["Collection"] else missingParts body

/-- The labels of the parts that take their defaults. -/
def defaulted (c : Command) : List String :=
  match c.body with
  | .find query _ _ limit _ =>
    (if query.isNone then ["Query"] else []) ++ if limit.isNone then ["Limit"] else []
  | .count query => if query.isNone then ["Query"] else []
  | _ => []

end Command
end FormDispatch
