/-
# Outbound requests

A client has headers that every request carries, and a limit for the bodies that it takes. A request
becomes an outbound one: its parameters replace the query of its URL, its own headers replace those
of the client, and its body is written as JSON. Bodies that hold numbers that are not finite cannot
be written, and headers must be ASCII. A user in the URL is told to the peer instead of any other
credentials.

Specification, section E2.
-/

import FormDispatch.Client.Message
import FormDispatch.Document.Writer
import FormDispatch.Settings.Basic
import FormDispatch.Text.Base64
import FormDispatch.Text.Case
import FormDispatch.Wire.Request

namespace FormDispatch

/-- A client: what all its requests carry, and how large a body it takes. -/
structure Client where
  headers : Headers
  limit : Int

namespace Client

/-- What all requests carry besides their own headers. -/
def usualHeaders (settings : Settings) : Entries String :=
  [("User-Agent", settings.userAgent), ("Accept", "application/json")]

/-- A client with further headers. -/
def ofSettings (settings : Settings) (more : Entries String) : Except Defect Client := do
  let headers ← Headers.ofEntries (Entries.merge (usualHeaders settings) more)
  return ⟨headers, settings.maxResponseBytes⟩

/-- The URL of a request: one that does not stand on its own is taken from the root. -/
def urlOf (r : WireRequest) : Except Url.Flaw Url := do
  let url ← Url.ofText r.url
  let url ← if url.isAbsolute then .ok url else url.fromRoot
  if r.params.isEmpty then return url
  else
    url.withQuery ("&".intercalate
      (r.params.map fun (key, value) => Text.formEncoded key ++ "=" ++ Text.formEncoded value))

/-- The header that tells the user of a URL, if there is one. -/
def userHeader? (u : Url) : Option String :=
  let (name, rest) := Url.cutAt (· == ':') u.userInfo.toList
  let name := Url.unescapedPart (String.ofList name)
  let password := Url.unescapedPart (String.ofList (rest.drop 1))
  if name.isEmpty && password.isEmpty then none
  else
    some ("Basic " ++ String.ofList (Text.lettersOf (Text.utf8Bytes (name ++ ":" ++ password))))

/-- The methods whose requests tell the length of their bodies even if there is none. -/
def tellsLength (method : String) : Bool :=
  method == "POST" || method == "PUT" || method == "PATCH"

/-- The body of a request with the headers that describe it. -/
def withBody (hs : Headers) (method : String) (body : Document) :
    Except Defect (Headers × List UInt8) :=
  if body = .null then
    let framed := hs.has "Content-Length" || hs.has "Transfer-Encoding"
    .ok (if framed || !tellsLength method then hs else ("Content-Length", "0") :: hs, [])
  else if body.isFinite then
    let bytes := Text.utf8Bytes (body.written .compact)
    .ok ((hs.putIfAbsent "Content-Length" (Numeral.text bytes.length)).putIfAbsent "Content-Type"
      "application/json", bytes)
  else .error .notCompliant

/-- The outbound request of a request. -/
def outbound (c : Client) (r : WireRequest) : Except Defect Outbound := do
  let method := Text.upper r.method
  -- a text that is no URL is told before the headers, a query that is too long after them
  let _ ← (urlOf { r with params := [] }).mapError fun e => Defect.notUrl e.message
  let own ← Headers.ofEntries r.headers
  let url ← (urlOf r).mapError fun e => Defect.notUrl e.message
  let (headers, body) ← withBody (c.headers.replacedBy own) method r.body
  let headers := match userHeader? url with
    | some credentials => headers.put "Authorization" credentials
    | none => headers
  return ⟨method, url, headers, body⟩

end Client
end FormDispatch
