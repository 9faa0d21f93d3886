/-
# Messages

What goes over the wire to a peer and comes back from it. A reply comes in chunks, and the peer may
fail before it replies or in the middle of it.
-/

import FormDispatch.Client.Exchange
import FormDispatch.Url.Reader
import FormDispatch.Wire.Header

namespace FormDispatch

/-- A request as it goes over the wire. -/
structure Outbound where
  method : String
  url : Url
  headers : Headers
  body : List UInt8
deriving DecidableEq

/-- A reply as it comes over the wire. -/
structure Reply where
  status : Int
  headers : Headers
  chunks : List (List UInt8)
  /-- the chunks come one by one, after the headers -/
  streamed : Bool := false
  /-- what broke the reply off behind its chunks -/
  brokenBy : Option PeerFault := none
deriving DecidableEq

/-- Who answers what goes over the wire. -/
structure Peer (σ : Type) where
  exchange : σ → Outbound → Except PeerFault Reply × σ

end FormDispatch
