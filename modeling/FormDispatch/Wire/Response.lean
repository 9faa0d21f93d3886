/-
# Responses

An answer of the service: a status from 100 to 599, headers with all their values, the bytes of the
body, and the text of the status. The body is read as JSON; an empty one is null. When the service
refuses, the message is the one that its body gives under `error` and `message`, else the text of
the status, else its number.

Specification, section 6.
-/

import FormDispatch.Text.Utf8
import FormDispatch.Validation.Integer
import FormDispatch.Wire.Request

namespace FormDispatch

/-- The status of an answer. -/
structure Status where
  code : Nat
  least : 100 ≤ code
  greatest : code ≤ 599
deriving DecidableEq

namespace Status

/-- A number as a status. -/
def ofInt (n : Int) : Checked Status :=
  if low : n < 100 then Checked.issue ["status_code"] .greaterThanEqual
  else if high : 599 < n then Checked.issue ["status_code"] .lessThanEqual
  else .ok ⟨n.toNat, by omega, by omega⟩

/-- A value from outside as a status. -/
def ofDocument (d : Document) : Checked Status :=
  (Checked.integer ["status_code"] d).bind ofInt

/-- A status of success. -/
def isSuccess (s : Status) : Bool :=
  200 ≤ s.code && s.code < 300

/-- The status of an answer that is as it should be. -/
def success : Status := ⟨200, by decide, by decide⟩

end Status

/-- An answer of the service. -/
structure Response where
  status : Status
  headers : Entries (List String)
  content : List UInt8
  reason : String
deriving DecidableEq

namespace Response

/-- An answer that is a success. -/
def isSuccess (r : Response) : Bool :=
  r.status.isSuccess

/-- An answer without headers, its status and the text of it as values from outside. -/
def ofDocuments (status reason : Document) (content : List UInt8) : Checked Response :=
  ((Status.ofDocument status).both (Checked.text ["reason"] 0 reason)).map
    fun (status, reason) => ⟨status, [], content, reason⟩

/-- What the bytes of a body hold; nothing but blanks holds null. -/
def bodyOf (content : List UInt8) : Except Problem Document :=
  let text := Text.utf8Text content
  if Text.isBlankText text then .ok .null
  else
    match Document.read text.toList with
    | .ok d => .ok d
    | .error e => .error (.unreadableBody text (e.message text.toList))

/-- What the body of an answer holds. -/
def body (r : Response) : Except Problem Document :=
  bodyOf r.content

/-- The message of a refusal as the body gives it. -/
def statedMessage? (r : Response) : Option String :=
  match r.body with
  | .error _ => none
  | .ok d =>
    match (d.member "error").member "message" with
    | .str s => some s
    | _ => none

/-- The message of a refusal. -/
def refusalMessage (r : Response) : String :=
  match r.statedMessage? with
  | some s => s
  | none => if r.reason.isEmpty then Numeral.text r.status.code else r.reason

/-- The problem of a refusal. -/
def refusal (r : Response) : Problem :=
  .vendor (some r.status.code) r.refusalMessage

/-- The body of a success, or the problem of a refusal. -/
def accepted (r : Response) : Except Problem Document :=
  if r.isSuccess then r.body else .error r.refusal

end Response
end FormDispatch
