/-
# The service

Who answers requests: a transport takes a request and gives an answer or a failure, and whatever it
remembers of it. Requests are authorized right before they are sent, and not earlier.

Specification, section 6.
-/

import FormDispatch.Run.Session
import FormDispatch.Sheet.Method
import FormDispatch.Wire.Response

namespace FormDispatch

/-- Who answers requests. -/
structure Transport (σ : Type) where
  send : σ → WireRequest → Except Failure Response × σ

namespace Transport

variable {σ : Type}

/-- A request is sent with credentials, and its answer awaited. -/
def dispatch (t : Transport σ) (c : Credentials) (r : WireRequest) :
    Work σ WireRequest Response := do
  Work.report [.requestSent r.method r.url]
  let s ← get
  let (outcome, service) := t.send s.service (r.authorized c)
  set { s with service, sent := s.sent ++ [r.authorized c] }
  let response ← Work.ofExcept outcome
  Work.report [.responseReceived r.method r.url response.status.code]
  return response

/-- What a method has to look up is looked up. -/
def lookUp (t : Transport σ) (c : Credentials) (lookup : Option Sheet.Lookup) :
    Work σ WireRequest Sheet.Prerequisite :=
  match lookup with
  | none => pure .none
  | some lookup => do
    let response ← t.dispatch c lookup.request
    let body ← Work.ofExcept (response.accepted.mapError .problem)
    Work.ofExcept (lookup.settle body)

end Transport
end FormDispatch
