/-
# Hosts

A host is an address of four bytes, one of sixteen bytes in square brackets, or a name. Names are
lower-case; one outside ASCII is written label by label in the form that name servers know, which
tells the characters outside ASCII by their distances and ends in those inside it (RFC 3492).
-/

import FormDispatch.Text.Case
import FormDispatch.Text.Lines
import FormDispatch.Url.Basic
import FormDispatch.Url.Label

namespace FormDispatch
namespace Url

/-- Four runs of digits with any single characters between them: what looks like an address of four
bytes. -/
def looksFourByte : (more : Nat) → List Char → Bool
  | _, [] => false
  | more, c :: rest =>
    c.isDigit && ((more == 0 && rest.isEmpty) || looksFourByte more rest ||
      match more, rest with
      | n + 1, _ :: rest => looksFourByte n rest
      | _, _ => false)

/-- A decimal number that fits a byte, without leading zeros. -/
def isByteText (s : List Char) : Bool :=
  !s.isEmpty && s.all Char.isDigit && s.length ≤ 3 && (s.length == 1 || s.head? != some '0') &&
    Numeral.ofDigits s ≤ 255

/-- An address of four bytes. -/
def isFourByteAddress (s : List Char) : Bool :=
  let bytes := Text.splitAt '.' s
  bytes.length == 4 && bytes.all isByteText

/-- Up to four hexadecimal digits. -/
def isHexGroup (s : List Char) : Bool :=
  !s.isEmpty && s.length ≤ 4 && s.all fun c => (Text.hexValue? c).isSome

/-- The groups of an address of sixteen bytes; an address of four bytes at the end makes two. -/
def addressGroups? (s : List Char) : Option (List (List Char)) :=
  let groups := Text.splitAt ':' s
  match groups.getLast? with
  | some last =>
    if last.contains '.' then
      if isFourByteAddress last then some (groups.dropLast ++ [['0'], ['0']]) else none
    else some groups
  | none => none

/-- Groups of an address of sixteen bytes: eight, or fewer with a single gap for those that are
zero. -/
def areAddressGroups (groups : List (List Char)) : Bool :=
  let inner := groups.tail.dropLast
  match inner.findIdx? List.isEmpty with
  | none => groups.length == 8 && groups.all isHexGroup
  | some i =>
    let before := groups.take (i + 1)
    let after := groups.drop (i + 2)
    let before := if before == [[]] then [] else before
    let after := if after == [[]] then [] else after
    before.length + after.length ≤ 7 && before.all isHexGroup && after.all isHexGroup

/-- An address of sixteen bytes; a percent sign tells a zone. -/
def isSixteenByteAddress (s : List Char) : Bool :=
  let address := s.takeWhile (· != '%')
  let zoned := match s.drop address.length with
    | [] => true
    | _ :: zone => !zone.isEmpty && !zone.contains '%'
  zoned && 3 ≤ (Text.splitAt ':' address).length &&
    match addressGroups? address with
    | some groups => groups.length ≤ 9 && areAddressGroups groups
    | none => false

/-- The digit of a value below thirty-six: letters first. -/
def labelDigit (n : Nat) : Char :=
  Char.ofNat (if n < 26 then 0x61 + n else 0x30 + n - 26)

/-- The bias after a distance has been told: it grows with the size of the distance. -/
def adapted (distance points : Nat) (first : Bool) : Nat :=
  let distance := if first then distance / 700 else distance / 2
  scaledDown (distance + distance / points) 0
where
  /-- The size of a distance, in steps of thirty-five. -/
  scaledDown (distance steps : Nat) : Nat :=
    if 455 < distance then scaledDown (distance / 35) (steps + 36)
    else steps + 36 * distance / (distance + 38)
  termination_by distance

/-- The least digit that is not a last one, at a place counted in thirty-sixes. -/
def threshold (bias place : Nat) : Nat :=
  if place ≤ bias then 1 else if bias + 26 ≤ place then 26 else place - bias

/-- A distance in digits whose weights vary with the bias. -/
def distanceDigits (fuel bias place distance : Nat) : List Char :=
  match fuel with
  | 0 => []
  | fuel + 1 =>
    let t := threshold bias place
    if distance < t then [labelDigit distance]
    else
      labelDigit (t + (distance - t) % (36 - t)) ::
        distanceDigits fuel bias (place + 36) ((distance - t) / (36 - t))

/-- Where the telling of distances has come to. -/
structure Telling where
  /-- the distance counted so far -/
  distance : Nat
  bias : Nat
  /-- how many characters have been told -/
  told : Nat
  written : List Char

/-- The next character in order of code points: all places of it in a label are told. -/
def tellPoint (label : List Nat) (plain : Nat) (point : Nat) (s : Telling) : Telling :=
  label.foldl (fun s c =>
    if c < point then { s with distance := s.distance + 1 }
    else if c = point then
      { distance := 0
        bias := adapted s.distance (s.told + 1) (s.told == plain)
        told := s.told + 1
        written := s.written ++ distanceDigits (s.distance + 1) s.bias 36 s.distance }
    else s) s

/-- A label by its plain characters and the distances of the others. -/
def toldLabel (label : List Char) : List Char :=
  let points := label.map Char.toNat
  let plain := label.filter fun c => c.toNat < 0x80
  let others := ((points.filter (0x80 ≤ ·)).mergeSort (· ≤ ·)).eraseDups
  let start : Telling :=
    ⟨0, 72, plain.length, if plain.isEmpty then [] else plain ++ ['-']⟩
  let (_, told) := others.foldl (fun (next, s) point =>
    let s := { s with distance := s.distance + (point - next) * (s.told + 1) }
    let s := tellPoint points plain.length point s
    (point + 1, { s with distance := s.distance + 1 })) (0x80, start)
  told.written

/-- A dot between labels, in any script. -/
def isLabelDot (c : Char) : Bool :=
  c == '.' || c == '\u3002' || c == '\uff0e' || c == '\uff61'

/-- How a label begins that tells one outside ASCII. -/
def toldStart : List Char := ['x', 'n', '-', '-']

/-- A label as name servers know it. -/
def plainLabel? (label : List Char) : Option (List Char) :=
  let plain := label.all fun c => c.toNat < 0x80
  let told := label.drop toldStart.length
  let written := if plain then label else toldStart ++ toldLabel label
  let right :=
    if plain && toldStart.isPrefixOf label then !told.isEmpty && told.getLast? != some '-'
    else isLabel label
  if right && written.length ≤ 63 then some written else none

/-- A name outside ASCII as name servers know it. A dot may follow the last label. -/
def plainName? (name : List Char) : Option (List Char) :=
  let labels := Text.splitAt '.' (name.map fun c => if isLabelDot c then '.' else c)
  let dotted := labels.getLast? == some []
  let ending : List (List Char) := if dotted then [[]] else []
  match (if dotted then labels.dropLast else labels).mapM plainLabel? with
  | some labels =>
    let written := List.intercalate ['.'] (labels ++ ending)
    if labels.isEmpty || (if dotted then 254 else 253) < written.length then none else some written
  | none => none

/-- A character that the name of a host may hold. -/
def isHostChar (c : Char) : Bool :=
  Text.isUnreserved c || "!$&'()*+,;=\"\x60\x7b\x7d%|\\".toList.contains c

/-- A host as it is kept. -/
def hostOf (host : String) : Except Flaw String :=
  let s := host.toList
  if s.isEmpty then .ok ""
  else if looksFourByte 3 s then
    if isFourByteAddress s then .ok host else .error (.fourByteAddress host)
  else if s.head? == some '[' && s.getLast? == some ']' then
    let address := s.tail.dropLast
    if isSixteenByteAddress address then .ok (String.ofList address)
    else .error (.sixteenByteAddress host)
  else
    let lower := Text.lower host
    if s.all fun c => c.toNat < 0x80 then .ok (escapedPart isHostChar lower)
    else
      match plainName? lower.toList with
      | some name => .ok (String.ofList name)
      | none => .error (.internationalHost host)

example : (hostOf "B\u00fccher.Test").toOption = some "xn--bcher-kva.test" := by decide +kernel

end Url
end FormDispatch
