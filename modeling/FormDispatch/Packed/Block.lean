/-
# Blocks

Packed bytes are a row of blocks, each of which says whether it is the last one. A block holds bytes
as they are, or symbols of two codes: a byte, the end of the block, or how many bytes to repeat, and
from how far back. The codes are fixed ones or told at the front of the block, in a third code.

Packed bytes may come in parts. What can be unpacked of a part is there at once, so unpacking ends
in one of three ways: with the last block, for lack of further bits, or with a flaw.
-/

import FormDispatch.Packed.Code

namespace FormDispatch
namespace Packed

/-- Why bytes cannot be unpacked. -/
inductive Flaw where
  | header
  | method
  | flags
  | window
  | headerSum
  | dictionary
  | blockKind
  | storedLength
  | symbolCount
  | lengthCode
  | repetition
  | noEnd
  | literalCode
  | distanceCode
  | literal
  | distance
  | tooFarBack
  | dataSum
  | dataLength
deriving DecidableEq

/-- What a flaw is called; the wish for a dictionary is no error and has no name. -/
def Flaw.wording? : Flaw → Option String
  | header => "incorrect header check"
  | method => "unknown compression method"
  | flags => "unknown header flags set"
  | window => "invalid window size"
  | headerSum => "header crc mismatch"
  | dictionary => none
  | blockKind => "invalid block type"
  | storedLength => "invalid stored block lengths"
  | symbolCount => "too many length or distance symbols"
  | lengthCode => "invalid code lengths set"
  | repetition => "invalid bit length repeat"
  | noEnd => "invalid code -- missing end-of-block"
  | literalCode => "invalid literal/lengths set"
  | distanceCode => "invalid distances set"
  | literal => "invalid literal/length code"
  | distance => "invalid distance code"
  | tooFarBack => "invalid distance too far back"
  | dataSum => "incorrect data check"
  | dataLength => "incorrect length check"

/-- Why unpacking stops before the end: there are no more bits, or a flaw. -/
inductive Halt where
  | starved
  | flawed (f : Flaw)
deriving DecidableEq

/-- Where unpacking has come to. -/
structure Unpacking where
  /-- the bits that are left, those of a byte from the lowest on -/
  bits : List Bool
  output : Array UInt8 := #[]

/-- A step of unpacking. What has been unpacked before it halts is not lost. -/
abbrev Step := ExceptT Halt (StateM Unpacking)

namespace Step

/-- A flaw. -/
def flaw {α : Type} (f : Flaw) : Step α :=
  throw (.flawed f)

/-- A flaw unless a condition holds. -/
def require (condition : Bool) (f : Flaw) : Step Unit :=
  if condition then pure () else flaw f

/-- The number that so many bits form, the lowest first. -/
def number (count : Nat) : Step Nat := do
  let u ← get
  if u.bits.length < count then throw .starved
  set { u with bits := u.bits.drop count }
  return (u.bits.take count).foldr (fun bit n => 2 * n + bit.toNat) 0

/-- A symbol of a code. -/
def symbol? (code : Code) : Step (Option Nat) := do
  let u ← get
  match code.read 0 u.bits with
  | none => throw .starved
  | some (symbol, bits) =>
    set { u with bits }
    return symbol

/-- The rest of a byte is skipped. -/
def align : Step Unit :=
  modify fun u => { u with bits := u.bits.drop (u.bits.length % 8) }

/-- A byte is unpacked. -/
def put (b : UInt8) : Step Unit :=
  modify fun u => { u with output := u.output.push b }

end Step

open Step

/-- The bits of bytes, those of a byte from the lowest on. -/
def bitsOf (bytes : List UInt8) : List Bool :=
  bytes.flatMap fun b => (List.range 8).map fun i => b.toNat.testBit i

/-- How many bytes to repeat, by the symbols from 257 on: the least number and how many bits tell
what to add. -/
def repeats : List (Nat × Nat) := [
  (3, 0), (4, 0), (5, 0), (6, 0), (7, 0), (8, 0), (9, 0), (10, 0), (11, 1), (13, 1), (15, 1),
  (17, 1), (19, 2), (23, 2), (27, 2), (31, 2), (35, 3), (43, 3), (51, 3), (59, 3), (67, 4), (83, 4),
  (99, 4), (115, 4), (131, 5), (163, 5), (195, 5), (227, 5), (258, 0)]

/-- How far back to repeat from, by the symbols. -/
def distances : List (Nat × Nat) := [
  (1, 0), (2, 0), (3, 0), (4, 0), (5, 1), (7, 1), (9, 2), (13, 2), (17, 3), (25, 3), (33, 4),
  (49, 4), (65, 5), (97, 5), (129, 6), (193, 6), (257, 7), (385, 7), (513, 8), (769, 8), (1025, 9),
  (1537, 9), (2049, 10), (3073, 10), (4097, 11), (6145, 11), (8193, 12), (12289, 12), (16385, 13),
  (24577, 13)]

/-- Bytes from a distance back are repeated. -/
def repeatBytes (distance : Nat) : (count : Nat) → Step Unit
  | 0 => pure ()
  | count + 1 => do
    let u ← get
    put (u.output.getD (u.output.size - distance) 0)
    repeatBytes distance count

/-- Symbols up to the end of their block, so many at most. -/
def readSymbols (literals distancesCode : Code) : (most : Nat) → Step Unit
  | 0 => throw .starved
  | most + 1 => do
    match ← symbol? literals with
    | none => flaw .literal
    | some symbol =>
      if symbol < 256 then
        put (UInt8.ofNat symbol)
        readSymbols literals distancesCode most
      else if symbol = 256 then return
      else
        match repeats[symbol - 257]? with
        | none => flaw .literal
        | some (least, bits) =>
          let count := least + (← number bits)
          match (← symbol? distancesCode).bind (distances[·]?) with
          | none => flaw .distance
          | some (least, bits) =>
            let distance := least + (← number bits)
            require (distance ≤ (← get).output.size) .tooFarBack
            repeatBytes distance count
            readSymbols literals distancesCode most

/-- Bytes as they are. -/
def readStored : (count : Nat) → Step Unit
  | 0 => pure ()
  | count + 1 => do
    put (UInt8.ofNat (← number 8))
    readStored count

/-- The order in which the lengths of the words of the third code are told. -/
def lengthOrder : List Nat :=
  [16, 17, 18, 0, 8, 7, 9, 6, 10, 5, 11, 4, 12, 3, 13, 2, 14, 1, 15]

/-- The lengths of words up to a number of them, told in a code: a length, or how often to repeat
the last one or none. -/
def readLengths (code : Code) (wanted : Nat) : (most : Nat) → List Nat → Step (List Nat)
  | 0, known => pure known
  | most + 1, known =>
    if wanted ≤ known.length then pure known
    else do
      -- in a code without symbols every bit tells that there is no word
      let symbol := (← symbol? code).getD 0
      if symbol < 16 then readLengths code wanted most (known ++ [symbol])
      else
        let (length, bits, least) ← match symbol with
          | 16 => pure (known.getLast?, 2, 3)
          | 17 => pure (some 0, 3, 3)
          | _ => pure (some 0, 7, 11)
        let count ← number bits
        match length with
        | none => flaw .repetition
        | some length =>
          let known := known ++ List.replicate (least + count) length
          require (known.length ≤ wanted) .repetition
          readLengths code wanted most known

/-- The codes that a block tells. -/
def readCodes : Step (Code × Code) := do
  let header ← number 14
  let literals := 257 + header % 32
  let others := 1 + header / 32 % 32
  let told := 4 + header / 1024
  require (literals ≤ 286 && others ≤ 30) .symbolCount
  let lengths ← (lengthOrder.take told).mapM fun symbol => do return (symbol, ← number 3)
  let lengths := (List.range 19).map fun symbol => (lengths.lookup symbol).getD 0
  require (Code.isCode false lengths) .lengthCode
  let wanted := literals + others
  let lengths ← readLengths (Code.ofLengths lengths) wanted wanted []
  require (lengths.getD 256 0 != 0) .noEnd
  require (Code.isCode true (lengths.take literals)) .literalCode
  require (Code.isCode true (lengths.drop literals)) .distanceCode
  return (Code.ofLengths (lengths.take literals), Code.ofLengths (lengths.drop literals))

/-- The fixed code of bytes, ends and repetitions. -/
def fixedLiterals : Code :=
  Code.ofLengths ((List.replicate 144 8 ++ List.replicate 112 9) ++
    (List.replicate 24 7 ++ List.replicate 8 8))

/-- The fixed code of distances. -/
def fixedDistances : Code :=
  Code.ofLengths (List.replicate 32 5)

/-- Blocks up to the last one, so many at most. -/
def readBlocks : (most : Nat) → Step Unit
  | 0 => throw .starved
  | most + 1 => do
    let header ← number 3
    match header / 2 with
    | 0 =>
      align
      let lengths ← number 32
      require (lengths % 65536 + lengths / 65536 == 65535) .storedLength
      readStored (lengths % 65536)
    | 1 => readSymbols fixedLiterals fixedDistances ((← get).bits.length + 1)
    | 2 =>
      let (literals, others) ← readCodes
      readSymbols literals others ((← get).bits.length + 1)
    | _ => flaw .blockKind
    if header % 2 == 1 then return else readBlocks most

end Packed
end FormDispatch
