/-
# Envelopes

The result of a request, whatever family it belongs to: whether it succeeded, the status and headers
of the answer if there was one, the result or the message of the problem with its code, and the
bindings that were filled. Lookups have a smaller envelope.

Specification, sections 3 and E10.
-/

import FormDispatch.Substitution.Fill

namespace FormDispatch

/-- The result of a request. -/
structure Envelope where
  status : Option Int
  headers : Entries (List String)
  success : Bool
  body : Document
  code : Option String
  params : List Substitution.BoundParameter
deriving DecidableEq

namespace Envelope

/-- The result of an empty form. -/
def noOperation : Envelope :=
  ⟨none, [], true, .obj [("message", .str "No operation was performed")], none, []⟩

/-- The result of a problem. -/
def failure (p : Problem) (status : Option Int) (headers : Entries (List String))
    (params : List Substitution.BoundParameter) : Envelope :=
  ⟨status, headers, false, .str p.message, some p.code, params⟩

/-- The result of a success. -/
def succeeded (status : Option Int) (headers : Entries (List String)) (body : Document)
    (params : List Substitution.BoundParameter) : Envelope :=
  ⟨status, headers, true, body, none, params⟩

/-- Headers as a value. -/
def headerDocument (headers : Entries (List String)) : Document :=
  .obj (headers.map fun (name, values) => (name, .arr (values.map .str)))

/-- An envelope as a value. -/
def document (e : Envelope) : Document :=
  .obj [("status_code", .ofOption (e.status.map .int)), ("headers", headerDocument e.headers),
    ("is_execution_success", .bool e.success), ("body", e.body),
    ("error_code", .ofText? e.code),
    ("request_params", .arr (e.params.map fun b =>
      .obj [("binding", .str b.binding), ("value", .ofText? b.value),
        ("data_type", .str b.kind.name)]))]

end Envelope

/-- The result of a lookup. -/
structure LookupEnvelope where
  success : Bool
  status : Option Int
  choices : Document
  error : Option String
deriving DecidableEq

namespace LookupEnvelope

/-- The result of a problem. -/
def failure (p : Problem) (status : Option Int) : LookupEnvelope :=
  ⟨false, status, .null, some p.message⟩

/-- An envelope as a value. -/
def document (e : LookupEnvelope) : Document :=
  .obj [("is_execution_success", .bool e.success), ("status_code", .ofOption (e.status.map .int)),
    ("trigger", e.choices), ("error", .ofText? e.error)]

end LookupEnvelope
end FormDispatch
