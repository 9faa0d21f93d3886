/-
# Requests

A request on its way to the service: a method, a URL that is not empty, the parameters of its query,
headers, and a body, null when there is none. Requests are built without credentials; `authorized`
adds them right before a request is sent.

`withoutAuthorization_authorized` says that authorization adds nothing else.

Specification, section 6.
-/

import FormDispatch.Problem
import FormDispatch.Text.Blank
import FormDispatch.Validation

namespace FormDispatch

/-- A request on its way to the service. -/
structure WireRequest where
  method : String
  url : String
  params : Entries String
  headers : Entries String
  body : Document
deriving DecidableEq

namespace WireRequest

/-- A request without headers and body. -/
def plain (method url : String) (params : Entries String) : WireRequest :=
  ⟨method, url, params, [], .null⟩

/-- A request with a body. -/
def withBody (method url : String) (params : Entries String) (body : Document) : WireRequest :=
  ⟨method, url, params, [], body⟩

/-- A request from the members of an object. -/
def ofMembers (m : Members) : Checked WireRequest :=
  let method := Checked.required m "method" (Checked.text ["method"] 0)
  let url := Checked.required m "url" (Checked.text ["url"] 1)
  let params := Checked.optional m "params" [] (Checked.texts ["params"])
  let headers := Checked.optional m "headers" [] (Checked.texts ["headers"])
  (method.both (url.both (params.both headers))).map fun (method, url, params, headers) =>
    ⟨method, url, params, headers, Document.ofOption (m.get? "body")⟩

end WireRequest

/-- Credentials of a bearer; the type of the token is not empty. -/
structure Credentials where
  accessToken : Option String
  tokenType : String
deriving DecidableEq

namespace Credentials

/-- Credentials from a token, a text or null, and the type of it, both as values from outside. -/
def ofDocuments (accessToken tokenType : Document) : Checked Credentials :=
  ((Checked.text? ["access_token"] accessToken).both
    (Checked.text ["token_type"] 1 tokenType)).map fun (token, type) => ⟨token, type⟩

/-- Credentials of the usual type. -/
def bearer (accessToken : Option String) : Credentials :=
  ⟨accessToken, "Bearer"⟩

/-- The value of the header that carries credentials with a token. -/
def header (c : Credentials) : String :=
  c.tokenType ++ " " ++ Document.displayedText? c.accessToken

/-- Credentials hold a token that is not blank. -/
def hasToken (c : Credentials) : Bool :=
  !Text.isBlankText (c.accessToken.getD "")

/-- Credentials with a token, or the problem that there are none. -/
def usable : Option Credentials → Except Problem Credentials
  | some c => if c.hasToken then .ok c else .error .noToken
  | none => .error .noToken

end Credentials

namespace WireRequest

/-- The name of the header that carries the credentials. -/
def authorizationHeader : String := "Authorization"

/-- A request with the credentials in its headers. -/
def authorized (r : WireRequest) (c : Credentials) : WireRequest :=
  { r with headers := r.headers.put authorizationHeader c.header }

/-- A request without the header that carries credentials. -/
def withoutAuthorization (r : WireRequest) : WireRequest :=
  { r with headers := r.headers.filter fun h => h.1 != authorizationHeader }

private theorem filter_put (m : Entries String) (key value : String) :
    (m.put key value).filter (fun h => h.1 != key) = m.filter fun h => h.1 != key := by
  induction m with
  | nil => simp [Entries.put]
  | cons p rest ih =>
    by_cases h : p.1 = key
    · simp [Entries.put, h]
    · simp [Entries.put, h, ih]

/-- Authorization changes nothing but its own header. -/
theorem withoutAuthorization_authorized (r : WireRequest) (c : Credentials) :
    (r.authorized c).withoutAuthorization = r.withoutAuthorization := by
  simp [authorized, withoutAuthorization, filter_put]

end WireRequest
end FormDispatch
