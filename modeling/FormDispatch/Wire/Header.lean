/-
# Headers

The headers of a message in order. The case of their names does not matter, and one name may occur
several times. Headers are written in ASCII; a text that is not ASCII cannot become one.
-/

import FormDispatch.Problem
import FormDispatch.Text.Quoted

namespace FormDispatch

/-- Names and values of headers, in order. -/
abbrev Headers := List (String × String)

namespace Headers

/-- A name without regard to its case. -/
def lower (name : String) : String :=
  String.ofList (name.toList.map Char.toLower)

/-- Two names of one header. -/
def isNamed (name : String) (h : String × String) : Bool :=
  lower h.1 == lower name

/-- The values of a header, in order. -/
def valuesOf (hs : Headers) (name : String) : List String :=
  (hs.filter (isNamed name)).map Prod.snd

/-- A header of the name is there. -/
def has (hs : Headers) (name : String) : Bool :=
  hs.any (isNamed name)

/-- The headers without those of a name. -/
def without (hs : Headers) (name : String) : Headers :=
  hs.filter (!isNamed name ·)

/-- The headers with one of a name, where the first of that name was, or at the end. -/
def put : Headers → (name value : String) → Headers
  | [], name, value => [(name, value)]
  | h :: rest, name, value =>
    if isNamed name h then (name, value) :: without rest name else h :: put rest name value

/-- The headers with one of a name, unless there is one already. -/
def putIfAbsent (hs : Headers) (name value : String) : Headers :=
  if hs.has name then hs else hs ++ [(name, value)]

/-- The headers with others in the place of those that have the same names. -/
def replacedBy (hs others : Headers) : Headers :=
  hs.filter (fun h => !others.has h.1) ++ others

/-- The names in lower case, each with all its values. -/
def grouped (hs : Headers) : Entries (List String) :=
  (hs.map fun h => lower h.1).eraseDups.map fun name => (name, hs.valuesOf name)

/-- The escape by which a message shows a character that is not ASCII. -/
def shownChar (c : Char) : String :=
  let n := c.toNat
  String.ofList <| '\'' :: '\\' ::
    ((if n ≤ 0xFF then 'x' :: Text.hexDigits 2 n
      else if n ≤ 0xFFFF then 'u' :: Text.hexDigits 4 n
      else 'U' :: Text.hexDigits 8 n) ++ ['\''])

/-- A character of ASCII. -/
def isAscii (c : Char) : Bool :=
  c.toNat < 0x80

/-- A text that is ASCII, or the defect that tells the first characters that are not. -/
def asciiText (s : String) : Except Defect String :=
  let before := s.toList.takeWhile isAscii
  match s.toList.drop before.length with
  | [] => .ok s
  | c :: rest =>
    let others := rest.takeWhile (!isAscii ·)
    .error (.headerText (shownChar c) before.length (before.length + others.length))

/-- Headers from entries, all of them ASCII. -/
def ofEntries : Entries String → Except Defect Headers
  | [] => .ok []
  | (name, value) :: rest => do
    let name ← asciiText name
    let value ← asciiText value
    let others ← ofEntries rest
    return (name, value) :: others

end Headers
end FormDispatch
