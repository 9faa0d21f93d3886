/-
# Query text

Reading the text of queries, which is JSON and more: texts between single quotes, keys without
quotes, a comma after the last item or member, and the calls of `Query.Call`. Blanks are those of
`Text.isBlank`. A numeral starts with an ASCII digit and goes on with digits of any script. Texts
escape with a backslash as JSON does; surrogates must come in pairs.

Objects and arrays nest at most `deepest` levels; calls do not count. The reader works on the
characters that are left, so a place is known by how many were left there. Twice the length of the
text is fuel enough; `read` supplies it.

Specification, sections 4.2 and E8.
-/

import FormDispatch.Document.Reader
import FormDispatch.Query.Call

namespace FormDispatch
namespace Query

/-- How many levels of objects and arrays there may be. -/
def deepest : Nat := 128

namespace Reader

/-- A character that opens a text, and closes it. -/
def isQuote (c : Char) : Bool :=
  c == '"' || c == '\''

/-- A character that a name may start with. -/
def startsName (c : Char) : Bool :=
  c.isAlpha || c == '_' || c == '$'

/-- A character that a name may go on with. -/
def continuesName (c : Char) : Bool :=
  startsName c || c.isDigit || c == '.'

/-- The name that starts a text, and what follows it. -/
def name? : List Char → Option (String × List Char)
  | c :: r =>
    if startsName c then
      some (String.ofList (c :: r.takeWhile continuesName), r.dropWhile continuesName)
    else none
  | [] => none

/-- The character that a one-letter escape stands for. -/
def plainEscape? (c : Char) : Option Char :=
  if c == '\'' then some '\'' else Document.Reader.plainEscape? c

/-- A flaw, unless a surrogate still waits for its partner: then that is the flaw. -/
def flawAt {α : Type} (waiting : Option (Nat × Nat)) (what : Flaw) (left : Nat) :
    Except ReadError α :=
  match waiting with
  | some (_, place) => .error (.flaw .highSurrogate place)
  | none => .error (.flaw what left)

/-- The characters held, and the surrogate that waits with the number of characters left at it,
after a numbered escape with `left` characters left. -/
def withUnit (held : List Char) (waiting : Option (Nat × Nat)) (unit left : Nat) :
    Except ReadError (List Char × Option (Nat × Nat)) :=
  match waiting with
  | some (high, place) =>
    if Document.Reader.isLowSurrogate unit then
      .ok (Document.Reader.pairedChar high unit :: held, none)
    else .error (.flaw .highSurrogate place)
  | none =>
    if Document.Reader.isLowSurrogate unit then .error (.flaw .lowSurrogate left)
    else if Document.Reader.isHighSurrogate unit then .ok (held, some (unit, left))
    else .ok (Char.ofNat unit :: held, none)

/-- What a text between quotes holds, read after its opening quote, and what follows its closing
one. `held` is what has been read, reversed, and `waiting` a surrogate that was read last. -/
def text (quote : Char) (held : List Char) (waiting : Option (Nat × Nat)) (s : List Char) :
    Except ReadError (String × List Char) :=
  match s with
  | [] => flawAt waiting .unterminated 0
  | '\\' :: 'u' :: a :: b :: c :: d :: r =>
    match Document.Reader.unit? a b c d with
    | none => .error (.flaw .unicodeEscape (r.length + 5))
    | some unit =>
      match withUnit held waiting unit (r.length + 5) with
      | .ok (held, waiting) => text quote held waiting r
      | .error e => .error e
  | '\\' :: 'u' :: r => .error (.flaw .unicodeEscape (r.length + 1))
  | '\\' :: c :: r =>
    match waiting, plainEscape? c with
    | none, some x => text quote (x :: held) none r
    | waiting, _ => flawAt waiting (.escape (some c)) (r.length + 1)
  | '\\' :: [] => flawAt waiting (.escape none) 0
  | c :: r =>
    match waiting with
    | some (_, place) => .error (.flaw .highSurrogate place)
    | none =>
      if c == quote then .ok (String.ofList held.reverse, r)
      else if c.toNat < 0x20 then .error (.flaw .controlCharacter (r.length + 1))
      else text quote (c :: held) none r
termination_by structural s

/-- A numeral. -/
def number (s : List Char) : Except ReadError (Document × List Char) :=
  match Document.Reader.numeral? Text.isDecimalDigit Document.Reader.isLeadingDigit s with
  | none => .error (.flaw .number s.length)
  | some (parts, rest) =>
    match parts.number with
    | .ok d => .ok (d, rest)
    | .error (.numeralTooLong digits) => .error (.numeralTooLong digits)
    | .error (.flaw _ left) => .error (.flaw .number left)

/-- The value of a call whose name had `left` characters left. -/
def called (call : Call) (left : Nat) (arguments : List Document) : Except ReadError Document :=
  match call.value arguments with
  | .ok d => .ok d
  | .error (.flaw what) => .error (.flaw what left)
  | .error (.numeralTooLong digits) => .error (.numeralTooLong digits)

/-- The values that have names. -/
def constant? : String → Option Document
  | "true" => some (.bool true)
  | "false" => some (.bool false)
  | "null" => some .null
  | _ => none

/-- A key, with or without quotes, and what follows it. -/
def keyText (s : List Char) : Except ReadError (String × List Char) :=
  match s with
  | c :: r =>
    if isQuote c then text c [] none r
    else
      match name? s with
      | some found => .ok found
      | none => .error (.flaw .missingKey s.length)
  | [] => .error (.flaw .missingKey 0)

mutual

/-- The value that starts a text, with `room` more levels allowed, and what follows it. -/
def value (fuel room : Nat) (s : List Char) : Except ReadError (Document × List Char) :=
  match fuel with
  | 0 => .error (.flaw .endOfInput s.length)
  | fuel + 1 =>
    match Text.trimFront s with
    | [] => .error (.flaw .endOfInput 0)
    | '\x7b' :: r =>
      match room with
      | 0 => .error (.flaw .tooDeep (r.length + 1))
      | room + 1 =>
        match Text.trimFront r with
        | '\x7d' :: rest => .ok (.obj [], rest)
        | r => (memberPairs fuel room r).map fun (held, rest) =>
            (.obj (Entries.ofPairs held), rest)
    | '[' :: r =>
      match room with
      | 0 => .error (.flaw .tooDeep (r.length + 1))
      | room + 1 =>
        match Text.trimFront r with
        | ']' :: rest => .ok (.arr [], rest)
        | r => (items fuel room r).map fun (held, rest) => (.arr held, rest)
    | c :: r =>
      if isQuote c then (text c [] none r).map fun (held, rest) => (.str held, rest)
      else if c == '-' || Text.isDigit c then number (c :: r)
      else
        match name? (c :: r) with
        | none => .error (.flaw (.unexpected c) (r.length + 1))
        | some (name, rest) =>
          match constant? name with
          | some d => .ok (d, rest)
          | none =>
            match Call.ofName? name, Text.trimFront rest with
            | some call, '(' :: rest =>
              match Text.trimFront rest with
              | ')' :: rest => (called call (r.length + 1) []).map fun d => (d, rest)
              | rest => do
                let (held, rest) ← arguments fuel room rest
                let d ← called call (r.length + 1) held
                return (d, rest)
            | _, _ => .error (.flaw (.unknownName name) (r.length + 1))
termination_by structural fuel

/-- The items of an array up to its end, and what follows. -/
def items (fuel room : Nat) (s : List Char) : Except ReadError (List Document × List Char) :=
  match fuel with
  | 0 => .error (.flaw .endOfInput s.length)
  | fuel + 1 => do
    let (first, rest) ← value fuel room s
    match Text.trimFront rest with
    | ']' :: rest => return ([first], rest)
    | ',' :: rest =>
      match Text.trimFront rest with
      | ']' :: rest => return ([first], rest)
      | rest =>
        let (others, rest) ← items fuel room rest
        return (first :: others, rest)
    | rest => .error (.flaw .unclosedArray rest.length)
termination_by structural fuel

/-- The members of an object up to its end, and what follows. -/
def memberPairs (fuel room : Nat) (s : List Char) :
    Except ReadError (List (String × Document) × List Char) :=
  match fuel with
  | 0 => .error (.flaw .missingKey s.length)
  | fuel + 1 => do
    let (key, rest) ← keyText s
    match Text.trimFront rest with
    | ':' :: rest =>
      let (held, rest) ← value fuel room rest
      match Text.trimFront rest with
      | '\x7d' :: rest => return ([(key, held)], rest)
      | ',' :: rest =>
        match Text.trimFront rest with
        | '\x7d' :: rest => return ([(key, held)], rest)
        | rest =>
          let (others, rest) ← memberPairs fuel room rest
          return ((key, held) :: others, rest)
      | rest => .error (.flaw .unclosedObject rest.length)
    | rest => .error (.flaw (.expected ':' rest.head?) rest.length)
termination_by structural fuel

/-- The arguments of a call up to its end, and what follows. -/
def arguments (fuel room : Nat) (s : List Char) : Except ReadError (List Document × List Char) :=
  match fuel with
  | 0 => .error (.flaw .endOfInput s.length)
  | fuel + 1 => do
    let (first, rest) ← value fuel room s
    match Text.trimFront rest with
    | ')' :: rest => return ([first], rest)
    | ',' :: rest =>
      let (others, rest) ← arguments fuel room rest
      return (first :: others, rest)
    | rest => .error (.flaw (.expected ')' rest.head?) rest.length)
termination_by structural fuel

end

end Reader

/-- The document that a query text holds. -/
def read (s : List Char) : Except ReadError Document := do
  let (d, rest) ← Reader.value (2 * s.length + 2) deepest s
  match Text.trimFront rest with
  | [] => return d
  | rest => .error (.flaw .trailing rest.length)

example : (read "\x7ba: [1, 'x',],\x7d".toList).toOption =
    some (.obj [("a", .arr [.int 1, .str "x"])]) := by
  decide +kernel

example : (read "ISODate(1)".toList).toOption = none := by decide +kernel

end Query
end FormDispatch
