/-
# Exchanges

A request is built, exchanged for a reply, and the body of the reply is gathered chunk by chunk. How
requests are built and exchanged is left to a library (`Library`), of which nothing is known here
but what it gives. A body is whole or refused (specification, section 6, the transport client): once
more bytes have come than the client takes, nothing of it is kept and no more of it is read, and
neither is anything kept of a body that breaks off. Whatever becomes of a body, it is closed in the
end.
-/

import FormDispatch.Run.Event
import FormDispatch.Wire.Response

namespace FormDispatch

/-- A failure of a peer, or of the way to it. -/
structure PeerFault where
  name : String
  wording : String
deriving DecidableEq

/-- The message of a failure of a peer. -/
def PeerFault.message (f : PeerFault) : String :=
  f.name ++ ": " ++ f.wording

namespace Client

/-- Why a request is not replied to. Only faults are caught. -/
inductive SendFlaw where
  | fault (f : PeerFault)
  | defect (d : Defect)

/-- A reply whose body is still to come: what stands before the body, the chunks, and what breaks it
off behind them. -/
structure Streamed where
  status : Int
  headers : Entries (List String)
  reason : String
  chunks : List (List UInt8)
  brokenBy : Option PeerFault := none

/-- What a client relies on; `σ` is what the library remembers, and `ω` what it sends. -/
structure Library (σ ω : Type) where
  /-- the request that is sent for a request -/
  build : WireRequest → Except Defect ω
  /-- what comes back when a request is sent, redirects followed -/
  exchange : σ → ω → Except SendFlaw Streamed × σ
  /-- a number as the status of an answer -/
  checked : Int → Except Defect Status

/-! ### Bodies -/

/-- A body that is coming in: the chunks that have not been read, and what breaks it off behind
them. -/
structure Incoming where
  unread : List (List UInt8)
  brokenBy : Option PeerFault
  closed : Bool := false
deriving DecidableEq

/-- The body of a reply before anything of it is read. -/
def Streamed.incoming (reply : Streamed) : Incoming :=
  { unread := reply.chunks, brokenBy := reply.brokenBy }

/-- Why there is no whole body. -/
inductive BodyFlaw where
  | tooLarge
  | broken (f : PeerFault)

/-- A piece of reading a body: it may fail, and what has been read until then stays read. -/
abbrev Reading := ExceptT BodyFlaw (StateM Incoming)

namespace Reading

/-- Chunks are gathered behind what has been taken. They are those that have not been read. -/
def gather (limit : Int) (taken : List UInt8) : List (List UInt8) → Reading (List UInt8)
  | [] => do
    match (← get).brokenBy with
    | some f => throw (.broken f)
    | none => return taken
  | chunk :: rest => do
    modify fun body => { body with unread := rest }
    if limit < (taken ++ chunk).length then throw .tooLarge
    gather limit (taken ++ chunk) rest

/-- The body is closed. -/
def close : Reading Unit :=
  modify fun body => { body with closed := true }

/-- A body is read to its end or to a flaw, and closed in both cases. -/
def read (limit : Int) : Reading (List UInt8) := do
  try
    gather limit [] (← get).unread
  finally
    close

end Reading

/-! ### Requests -/

/-- What comes of a request: an answer or a failure, what is left of the body of the reply, if there
was one, and what is reported. -/
structure Reception where
  outcome : Except Failure Response
  body : Option Incoming := none
  events : List Event := []

namespace Library

variable {σ ω : Type}

/-- The answer that a reply with a whole body is. -/
def response (lib : Library σ ω) (reply : Streamed) (content : List UInt8) :
    Except Failure Response :=
  ((lib.checked reply.status).map fun status =>
    ⟨status, reply.headers, content, reply.reason⟩).mapError .defect

/-- What comes of a reply to a request with a URL. -/
def received (lib : Library σ ω) (limit : Int) (url : String) (reply : Streamed) : Reception :=
  match (Reading.read limit).run reply.incoming with
  | (.ok content, body) => { outcome := lib.response reply content, body }
  | (.error .tooLarge, body) =>
    { outcome := .error (.problem (.bodyTooLarge limit)), body,
      events := [.answerTooLarge url limit] }
  | (.error (.broken f), body) => { outcome := .error (.problem (.transport f.message)), body }

/-- A request is sent, and its answer received. -/
def receive (lib : Library σ ω) (limit : Int) (s : σ) (r : WireRequest) : Reception × σ :=
  match lib.build r with
  | .error d => ({ outcome := .error (.defect d) }, s)
  | .ok request =>
    match lib.exchange s request with
    | (.error (.fault f), s) =>
      ({ outcome := .error (.problem (.transport f.message)),
         events := [.transportFailed r.method r.url f.name] }, s)
    | (.error (.defect d), s) => ({ outcome := .error (.defect d) }, s)
    | (.ok reply, s) => (lib.received limit r.url reply, s)

end Library
end Client
end FormDispatch
