/-
# Containers

Packed bytes come bare or in a container: a header before them that tells how they are packed, and
behind them sums by which damage shows. One container has a header of two bytes and the sum of
Adler; the other one tells of a file, and has a cyclic sum and the length of what was packed.
-/

import FormDispatch.Packed.Block

namespace FormDispatch
namespace Packed

/-- What packed bytes come in. -/
inductive Container where
  | bare
  | sheet
  | file
deriving DecidableEq

/-- The sum of Adler: a sum of bytes, and a sum of these sums. -/
def adlerSum (bytes : Array UInt8) : Nat :=
  let (a, b) := bytes.foldl
    (fun (a, b) byte =>
      let a := (a + byte.toNat) % 65521
      (a, (b + a) % 65521)) (1, 0)
  b * 65536 + a

/-- A step of the cyclic sum: division by a polynomial over two elements, bit by bit. -/
def cyclicStep (sum : Nat) : Nat :=
  if sum % 2 = 1 then (sum / 2) ^^^ 0xEDB88320 else sum / 2

/-- The cyclic sum of bytes. -/
def cyclicSum (bytes : Array UInt8) : Nat :=
  (bytes.foldl (fun sum byte => Nat.repeat cyclicStep 8 (sum ^^^ byte.toNat)) 0xFFFFFFFF) ^^^
    0xFFFFFFFF

open Step

/-- The number that four bytes form, the highest first. -/
def highFirst : Step Nat := do
  let a ← number 8
  let b ← number 8
  let c ← number 8
  let d ← number 8
  return ((a * 256 + b) * 256 + c) * 256 + d

/-- The header of two bytes. -/
def sheetHeader : Step Unit := do
  let header ← number 16
  let first := header % 256
  require ((first * 256 + header / 256) % 31 == 0) .header
  require (first % 16 == 8) .method
  require (first / 16 ≤ 7) .window
  if header.testBit 13 then
    -- the sum of a dictionary that is not told
    let _ ← number 32
    flaw .dictionary

/-- The bytes up to a zero are skipped, so many at most. -/
def skipName : (most : Nat) → Step Unit
  | 0 => throw .starved
  | most + 1 => do
    if (← number 8) = 0 then return else skipName most

/-- The header of a file. Some parts of it are there only if a flag says so. -/
def fileHeader (bytes : List UInt8) : Step Unit := do
  require ((← number 16) == 0x8B1F) .header
  let flags ← number 16
  require (flags % 256 == 8) .method
  require (flags / 8192 == 0) .flags
  let _ ← number 32
  let _ ← number 16
  if flags.testBit 10 then
    let _ ← (List.replicate (← number 16) 8).mapM number
  if flags.testBit 11 then skipName bytes.length
  if flags.testBit 12 then skipName bytes.length
  if flags.testBit 9 then
    let read := bytes.length - (← get).bits.length / 8
    require ((← number 16) == cyclicSum (bytes.take read).toArray % 65536) .headerSum

/-- Bytes are unpacked from their container. -/
def unpack (container : Container) (bytes : List UInt8) : Step Unit := do
  match container with
  | .bare => pure ()
  | .sheet => sheetHeader
  | .file => fileHeader bytes
  readBlocks ((← get).bits.length + 1)
  align
  match container with
  | .bare => pure ()
  | .sheet => require ((← highFirst) == adlerSum (← get).output) .dataSum
  | .file =>
    require ((← number 32) == cyclicSum (← get).output) .dataSum
    require ((← number 32) == (← get).output.size % 4294967296) .dataLength

/-- What is unpacked of bytes, which may be no more than the front of what is packed. -/
def unpacked (container : Container) (bytes : List UInt8) : Except Flaw (List UInt8) :=
  match ((unpack container bytes).run { bits := bitsOf bytes }).run with
  | (.error (.flawed f), _) => .error f
  | (.ok _, u) | (.error .starved, u) => .ok u.output.toList

example : (unpacked .bare [0x01, 0x01, 0x00, 0xFE, 0xFF, 0x61]).toOption = some [0x61] := by
  decide

end Packed
end FormDispatch
