/-
# Codings

The body of a reply may be packed for the wire, also several times over. The headers name the
codings in the order in which they were applied; they are undone from the last to the first, chunk
by chunk, and codings that are not known are left alone. Bytes that cannot be unpacked break a body
off.
-/

import FormDispatch.Client.Message
import FormDispatch.Packed.Container
import FormDispatch.Text.Blank
import FormDispatch.Text.Lines

namespace FormDispatch
namespace Client

/-- How a body is packed for the wire. -/
inductive Coding where
  | gzip
  | deflate
deriving DecidableEq

/-- The coding of a name. -/
def Coding.named? (name : List Char) : Option Coding :=
  match Headers.lower (String.ofList (Text.trim name)) with
  | "gzip" => some .gzip
  | "deflate" => some .deflate
  | _ => none

/-- The codings of a body in the order in which they were applied. -/
def codings (hs : Headers) : List Coding :=
  (hs.valuesOf "Content-Encoding").flatMap fun names =>
    (Text.splitAt ',' names.toList).filterMap Coding.named?

/-- The undoing of a coding: what has been taken so far, and how much of it was given back. -/
structure Undoing where
  coding : Coding
  container : Packed.Container
  begun : Bool := false
  taken : List UInt8 := []
  given : Nat := 0

/-- The undoing of a coding before its first chunk. -/
def Coding.undoing : Coding → Undoing
  | gzip => { coding := gzip, container := .file }
  | deflate => { coding := deflate, container := .sheet }

namespace Undoing

/-- A further chunk is taken, and what it unpacks to is given back. -/
def takeFrom (u : Undoing) (container : Packed.Container) (chunk : List UInt8) :
    Except Packed.Flaw (Undoing × List UInt8) :=
  let taken := u.taken ++ chunk
  (Packed.unpacked container taken).map fun output =>
    ({ u with container, begun := true, taken, given := output.length }, output.drop u.given)

/-- A further chunk is taken. When the first one does not fit the container of its coding, the bytes
are taken for bare ones. -/
def take (u : Undoing) (chunk : List UInt8) : Except Packed.Flaw (Undoing × List UInt8) :=
  match u.takeFrom u.container chunk with
  | .ok r => .ok r
  | .error f =>
    if u.coding = .deflate && !u.begun then u.takeFrom .bare chunk else .error f

/-- A chunk goes through several undoings. -/
def takeThrough : List Undoing → List UInt8 → Except Packed.Flaw (List Undoing × List UInt8)
  | [], chunk => .ok ([], chunk)
  | u :: rest, chunk => do
    let (u, chunk) ← u.take chunk
    let (rest, chunk) ← takeThrough rest chunk
    return (u :: rest, chunk)

/-- Chunks go through several undoings, up to a flaw. -/
def takeAll : List Undoing → List (List UInt8) → List (List UInt8) × Option Packed.Flaw
  | _, [] => ([], none)
  | us, chunk :: rest =>
    match if chunk.isEmpty then .ok (us, chunk) else takeThrough us chunk with
    | .error f => ([], some f)
    | .ok (us, chunk) =>
      let (chunks, flaw) := takeAll us rest
      (chunk :: chunks, flaw)

end Undoing

/-- What breaks off a body that cannot be unpacked. -/
def undoingFault (f : Packed.Flaw) : PeerFault :=
  ⟨"DecodingError",
    match f.wording? with
    | some wording => "Error -3 while decompressing data: " ++ wording
    | none => "Error 2 while decompressing data"⟩

/-- A reply whose codings are undone. One that came at once is not there if it cannot be unpacked,
one that is still coming breaks off where unpacking fails. -/
def undone (reply : Reply) : Except PeerFault Reply :=
  let undoings := (codings reply.headers).reverse.map Coding.undoing
  match Undoing.takeAll undoings reply.chunks with
  | (chunks, none) => .ok { reply with chunks }
  | (chunks, some f) =>
    if reply.streamed then .ok { reply with chunks, brokenBy := some (undoingFault f) }
    else .error (undoingFault f)

end Client
end FormDispatch
