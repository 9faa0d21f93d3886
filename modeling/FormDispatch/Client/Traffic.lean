/-
# Traffic

A client and a peer. What passes between them is a library for exchanges (`Client.library`): a
request is sent, and sent on as often as replies ask for, up to a limit, and the codings of the last
reply are undone. The exchange itself stands on nothing of this; it is what the program runs with.
-/

import FormDispatch.Client.Coding
import FormDispatch.Client.Redirect
import FormDispatch.Run.Service
import FormDispatch.Wire.Reason

namespace FormDispatch
namespace Client

/-- What passes between a client and a peer: the peer, what has reached it, and what has been
reported. -/
structure Traffic (σ : Type) where
  peer : σ
  sent : List Outbound := []
  events : List Event := []

variable {σ : Type}

/-- How often a request is sent on at most. -/
def mostRedirects : Nat := 20

/-- The failure of a request that is sent on too often. -/
def tooManyRedirects : PeerFault :=
  ⟨"TooManyRedirects", "Exceeded maximum allowed redirects."⟩

/-- A reply that can be read: its headers are ASCII and its codings are undone. -/
def readable (reply : Reply) : Except SendFlaw Reply := do
  let headers ← (Headers.ofEntries reply.headers).mapError .defect
  (undone { reply with headers }).mapError .fault

/-- The last reply to a request that may be sent so many times. -/
def follow (p : Peer σ) : (left : Nat) → Outbound → Traffic σ →
    Except SendFlaw Reply × Traffic σ
  | 0, _, t => (.error (.fault tooManyRedirects), t)
  | left + 1, request, t =>
    let (outcome, peer) := p.exchange t.peer request
    let t := { t with peer, sent := t.sent ++ [request] }
    match (outcome.mapError .fault).bind readable with
    | .error e => (.error e, t)
    | .ok reply =>
      match location? reply with
      | none => (.ok reply, t)
      | some location =>
        match redirected request reply.status location, reply.brokenBy with
        | .error e, _ => (.error e, t)
        | .ok _, some f => (.error (.fault f), t)
        | .ok next, none => follow p left next t

/-- A reply as it is read: no chunk of it is empty. -/
def streamed (reply : Reply) : Streamed where
  status := reply.status
  headers := reply.headers.grouped
  reason := reasonOf reply.status
  chunks := reply.chunks.filter (!·.isEmpty)
  brokenBy := reply.brokenBy

/-- A number as a status, or the defect that it is none. -/
def statusOf (n : Int) : Except Defect Status :=
  (Status.ofInt n).mapError fun _ => .statusOutside n

/-- The library by which a client reaches a peer. -/
def library (c : Client) (p : Peer σ) : Library (Traffic σ) Outbound where
  build := c.outbound
  exchange t request :=
    let (outcome, t) := follow p (mostRedirects + 1) request t
    (outcome.map streamed, t)
  checked := statusOf

/-- A request is sent, and its answer awaited. -/
def send (c : Client) (p : Peer σ) (t : Traffic σ) (r : WireRequest) :
    Except Failure Response × Traffic σ :=
  let (reception, t) := (c.library p).receive c.limit t r
  (reception.outcome, { t with events := t.events ++ reception.events })

/-- A client as the transport of a run. -/
def transport (c : Client) (p : Peer σ) : Transport (Traffic σ) :=
  ⟨c.send p⟩

end Client
end FormDispatch
