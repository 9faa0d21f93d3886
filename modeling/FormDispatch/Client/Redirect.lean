/-
# Redirects

A reply may send a request on to another URL. The request is sent again with the same body, unless
the status asks for the result to be fetched instead; then it has none. Credentials stay with the
server that they were given for: they are dropped when another one is asked, save when only the
scheme becomes the secured one.
-/

import FormDispatch.Client.Outbound
import FormDispatch.Url.Reference

namespace FormDispatch
namespace Client

/-- The statuses that send a request on. -/
def redirectStatuses : List Int := [301, 302, 303, 307, 308]

/-- Where a reply sends a request on to. -/
def location? (reply : Reply) : Option String :=
  if redirectStatuses.contains reply.status && reply.headers.has "Location" then
    some (", ".intercalate (reply.headers.valuesOf "Location"))
  else none

/-- The method of a request that is sent on. -/
def redirectMethod (method : String) (status : Int) : String :=
  if (status = 303 ∨ status = 302) ∧ method ≠ "HEAD" then "GET"
  else if status = 301 ∧ method = "POST" then "GET"
  else method

/-- A text that is no URL, as a defect. -/
def noUrl (e : Url.Flaw) : SendFlaw :=
  .defect (.notUrl e.message)

/-- The URL that a request is sent on to. -/
def redirectUrl (url : Url) (location : String) : Except SendFlaw Url := do
  let target ← (Url.ofText location).mapError fun e =>
    .fault ⟨"RemoteProtocolError", "Invalid URL in location header: " ++ e.message ++ "."⟩
  let target ← if !target.scheme.isEmpty && target.host.isEmpty then
      (target.withHost url.host).mapError noUrl
    else .ok target
  let target ← if target.isAbsolute then .ok target else (url.resolve target).mapError noUrl
  let fragment := Url.unescapedPart (url.fragment.getD "")
  if !fragment.isEmpty && (target.fragment.getD "").isEmpty then
    (target.withFragment fragment).mapError noUrl
  else .ok target

/-- The headers of a request that is sent on. -/
def redirectHeaders (request : Outbound) (target : Url) (bodyless : Bool) : Headers :=
  let hs := request.headers
  let hs := if request.url.sameOrigin target || request.url.isSecured target then hs
    else hs.without "Authorization"
  if bodyless then (hs.without "Content-Length").without "Transfer-Encoding" else hs

/-- A request that is sent on. -/
def redirected (request : Outbound) (status : Int) (location : String) :
    Except SendFlaw Outbound := do
  let method := redirectMethod request.method status
  let url ← redirectUrl request.url location
  let bodyless := method != request.method && method == "GET"
  return ⟨method, url, redirectHeaders request url bodyless, if bodyless then [] else request.body⟩

end Client
end FormDispatch
