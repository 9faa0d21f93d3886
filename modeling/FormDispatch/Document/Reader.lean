/-
# Read documents

Reading JSON text. A reader works on the characters that are left, so that the place of a failure
is known by how many were left there. What may stand in the text is standard JSON, and in addition
the names of the numbers that are not finite, if the reader accepts them: only blank, tab, line feed
and carriage return separate, a text between quotes holds no control character, and numerals use
ASCII digits. An escaped pair of UTF-16 surrogates is one character; a surrogate alone becomes
U+FFFD. Integers beyond the longest numeral are refused with the number of their digits.

Reading an item uses up at least one character, so twice the length of the text is fuel enough;
`read` supplies it.
-/

import FormDispatch.Document.Basic
import FormDispatch.Number.Decimal
import FormDispatch.Text.Percent

namespace FormDispatch
namespace Document

/-- What a reader of JSON text stumbles over. -/
inductive Flaw where
  | missingValue
  | missingName
  | missingColon
  | missingComma
  | unterminated
  | controlCharacter
  | escape
  | unicodeEscape
  | extraData
  | byteOrderMark
deriving DecidableEq

/-- The wording of a flaw. -/
def Flaw.wording : Flaw → String
  | .missingValue => "Expecting value"
  | .missingName => "Expecting property name enclosed in double quotes"
  | .missingColon => "Expecting ':' delimiter"
  | .missingComma => "Expecting ',' delimiter"
  | .unterminated => "Unterminated string starting at"
  | .controlCharacter => "Invalid control character at"
  | .escape => "Invalid \\escape"
  | .unicodeEscape => "Invalid \\uXXXX escape"
  | .extraData => "Extra data"
  | .byteOrderMark => "Unexpected UTF-8 BOM (decode using utf-8-sig)"

/-- Why a text is not read. -/
inductive ReadError where
  /-- a flaw with the given number of characters left -/
  | flaw (what : Flaw) (left : Nat)
  /-- an integer of so many digits -/
  | numeralTooLong (digits : Nat)
deriving DecidableEq

/-- That a numeral is too long to be read. -/
def numeralTooLongMessage (digits : Nat) : String :=
  "Exceeds the limit (4300 digits) for integer string conversion: value has " ++
    Numeral.text digits ++
    " digits; use sys.set_int_max_str_digits() to increase the limit"

/-- The message about a text that is not read: for a flaw with the line, the column and the place,
lines and columns counted from one. -/
def ReadError.message (text : List Char) : ReadError → String
  | .numeralTooLong digits => numeralTooLongMessage digits
  | .flaw what left =>
    let place := text.length - left
    let before := text.take place
    let line := before.count '\n' + 1
    let column := (before.reverse.takeWhile (· != '\n')).length + 1
    what.wording ++ ": line " ++ Numeral.text line ++ " column " ++ Numeral.text column ++
      " (char " ++ Numeral.text place ++ ")"

namespace Reader

/-- A character that separates. -/
def isGap (c : Char) : Bool :=
  c == ' ' || c == '\t' || c == '\n' || c == '\r'

/-- What follows the gap. -/
def skipGap (s : List Char) : List Char :=
  s.dropWhile isGap

/-- The character that a one-letter escape stands for. -/
def plainEscape? : Char → Option Char
  | '"' => some '"'
  | '\\' => some '\\'
  | '/' => some '/'
  | 'b' => some '\x08'
  | 'f' => some '\x0c'
  | 'n' => some '\n'
  | 'r' => some '\r'
  | 't' => some '\t'
  | _ => none

/-- The number that four hexadecimal digits form. -/
def unit? (a b c d : Char) : Option Nat := do
  let a ← Text.hexValue? a
  let b ← Text.hexValue? b
  let c ← Text.hexValue? c
  let d ← Text.hexValue? d
  return ((a * 16 + b) * 16 + c) * 16 + d

/-- The first unit of a surrogate pair. -/
def isHighSurrogate (unit : Nat) : Bool :=
  0xD800 ≤ unit && unit ≤ 0xDBFF

/-- The second unit of a surrogate pair. -/
def isLowSurrogate (unit : Nat) : Bool :=
  0xDC00 ≤ unit && unit ≤ 0xDFFF

/-- The character of a surrogate pair. -/
def pairedChar (high low : Nat) : Char :=
  Char.ofNat (0x10000 + (high - 0xD800) * 0x400 + (low - 0xDC00))

/-- The characters held so far, reversed, when the unit that waits for its partner has none. -/
def settled (held : List Char) : (waiting : Option Nat) → List Char
  | some _ => '\uFFFD' :: held
  | none => held

/-- The characters held, and the unit that waits for its partner, after another unit. -/
def withUnit (held : List Char) (waiting : Option Nat) (unit : Nat) : List Char × Option Nat :=
  if isHighSurrogate unit then (settled held waiting, some unit)
  else if isLowSurrogate unit then
    match waiting with
    | some high => (pairedChar high unit :: held, none)
    | none => ('\uFFFD' :: held, none)
  else (Char.ofNat unit :: settled held waiting, none)

/-- What a text between quotes holds, read after its opening quote, and what follows its closing
one. `opened` is the number of characters left at the opening quote, `held` is what has been read,
reversed, and `waiting` a surrogate that was read last. A numbered escape is only read as one when
the text goes on after it. -/
def text (opened : Nat) (held : List Char) (waiting : Option Nat) (s : List Char) :
    Except ReadError (String × List Char) :=
  match s with
  | [] => .error (.flaw .unterminated opened)
  | '"' :: r => .ok (String.ofList (settled held waiting).reverse, r)
  | '\\' :: 'u' :: a :: b :: c :: d :: r =>
    if r.isEmpty then .error (.flaw .unicodeEscape 5)
    else
      match unit? a b c d with
      | none => .error (.flaw .unicodeEscape (r.length + 5))
      | some unit =>
        text opened (withUnit held waiting unit).1 (withUnit held waiting unit).2 r
  | '\\' :: 'u' :: r => .error (.flaw .unicodeEscape (r.length + 1))
  | '\\' :: c :: r =>
    match plainEscape? c with
    | some x => text opened (x :: settled held waiting) none r
    | none => .error (.flaw .escape (r.length + 2))
  | '\\' :: [] => .error (.flaw .unterminated opened)
  | c :: r =>
    if c.toNat < 0x20 then .error (.flaw .controlCharacter (r.length + 1))
    else text opened (c :: settled held waiting) none r
termination_by structural s

/-- The parts of a numeral. -/
structure NumeralParts where
  negative : Bool
  whole : List Char
  /-- digits after the point, when there is one -/
  fraction : Option (List Char)
  /-- sign and digits of the exponent, when there is one -/
  exponent : Option (Bool × List Char)

/-- The number of a numeral: an integer unless it has a point or an exponent. -/
def NumeralParts.number (parts : NumeralParts) : Except ReadError Document :=
  match parts.fraction, parts.exponent with
  | none, none =>
    match Numeral.readSigned (parts.negative, parts.whole) with
    | .ok n => .ok (.int n)
    | .error digits => .error (.numeralTooLong digits)
  | fraction, exponent =>
    let fraction := fraction.getD []
    let power := match exponent with
      | some (negative, digits) => Numeral.withSign negative (Numeral.ofDigits digits)
      | none => 0
    .ok (.float (Binary64.ofDecimal parts.negative (Numeral.ofDigits (parts.whole ++ fraction))
      (power - fraction.length)))

/-- The longest numeral that starts a text: an optional minus sign, a whole part without needless
zeros in front, then a point with digits and an exponent with digits, if they are there. -/
def numeral? (isDigit isLeading : Char → Bool) (s : List Char) :
    Option (NumeralParts × List Char) :=
  let (negative, s) := match s with
    | '-' :: r => (true, r)
    | r => (false, r)
  let start : Option (List Char × List Char) := match s with
    | '0' :: r => some (['0'], r)
    | c :: r => if isLeading c then some (c :: r.takeWhile isDigit, r.dropWhile isDigit) else none
    | [] => none
  start.map fun (whole, s) =>
    let (fraction, s) : Option (List Char) × List Char := match s with
      | '.' :: r =>
        if (r.takeWhile isDigit).isEmpty then (none, s)
        else (some (r.takeWhile isDigit), r.dropWhile isDigit)
      | _ => (none, s)
    let (exponent, s) : Option (Bool × List Char) × List Char := match s with
      | e :: r =>
        if e == 'e' || e == 'E' then
          let (negative, digits) := match r with
            | '-' :: r => (true, r)
            | '+' :: r => (false, r)
            | r => (false, r)
          if (digits.takeWhile isDigit).isEmpty then (none, s)
          else (some (negative, digits.takeWhile isDigit), digits.dropWhile isDigit)
        else (none, s)
      | [] => (none, s)
    (⟨negative, whole, fraction, exponent⟩, s)

/-- A digit that a numeral may start with, zero apart. -/
def isLeadingDigit (c : Char) : Bool :=
  c.isDigit && c != '0'

/-- A numeral of ASCII digits. -/
def number (s : List Char) : Except ReadError (Document × List Char) :=
  match numeral? Char.isDigit isLeadingDigit s with
  | some (parts, rest) => parts.number.map fun d => (d, rest)
  | none => .error (.flaw .missingValue s.length)

/-- The names of values, with those of numbers that are not finite if they are accepted. -/
def named? (nonFinite : Bool) : List Char → Option (Document × List Char)
  | 'n' :: 'u' :: 'l' :: 'l' :: r => some (.null, r)
  | 't' :: 'r' :: 'u' :: 'e' :: r => some (.bool true, r)
  | 'f' :: 'a' :: 'l' :: 's' :: 'e' :: r => some (.bool false, r)
  | 'N' :: 'a' :: 'N' :: r => if nonFinite then some (.float .nan, r) else none
  | 'I' :: 'n' :: 'f' :: 'i' :: 'n' :: 'i' :: 't' :: 'y' :: r =>
    if nonFinite then some (.float (.infinite false), r) else none
  | '-' :: 'I' :: 'n' :: 'f' :: 'i' :: 'n' :: 'i' :: 't' :: 'y' :: r =>
    if nonFinite then some (.float (.infinite true), r) else none
  | _ => none

mutual

/-- The value that starts a text, and what follows it. -/
def value (nonFinite : Bool) (fuel : Nat) (s : List Char) :
    Except ReadError (Document × List Char) :=
  match fuel with
  | 0 => .error (.flaw .missingValue s.length)
  | fuel + 1 =>
    match s with
    | '"' :: r => (text s.length [] none r).map fun (held, rest) => (.str held, rest)
    | '[' :: r =>
      match skipGap r with
      | ']' :: rest => .ok (.arr [], rest)
      | r => (items nonFinite fuel r).map fun (held, rest) => (.arr held, rest)
    | '\x7b' :: r =>
      match skipGap r with
      | '\x7d' :: rest => .ok (.obj [], rest)
      | r => (memberPairs nonFinite fuel r).map fun (held, rest) =>
          (.obj (Entries.ofPairs held), rest)
    | s =>
      match named? nonFinite s with
      | some found => .ok found
      | none => number s
termination_by structural fuel

/-- The items of an array up to its end, and what follows. -/
def items (nonFinite : Bool) (fuel : Nat) (s : List Char) :
    Except ReadError (List Document × List Char) :=
  match fuel with
  | 0 => .error (.flaw .missingValue s.length)
  | fuel + 1 => do
    let (first, rest) ← value nonFinite fuel s
    match skipGap rest with
    | ']' :: rest => return ([first], rest)
    | ',' :: rest =>
      let (others, rest) ← items nonFinite fuel (skipGap rest)
      return (first :: others, rest)
    | rest => .error (.flaw .missingComma rest.length)
termination_by structural fuel

/-- The members of an object up to its end, and what follows. -/
def memberPairs (nonFinite : Bool) (fuel : Nat) (s : List Char) :
    Except ReadError (List (String × Document) × List Char) :=
  match fuel with
  | 0 => .error (.flaw .missingName s.length)
  | fuel + 1 =>
    match s with
    | '"' :: r => do
      let (name, rest) ← text s.length [] none r
      match skipGap rest with
      | ':' :: rest =>
        let (held, rest) ← value nonFinite fuel (skipGap rest)
        match skipGap rest with
        | '\x7d' :: rest => return ([(name, held)], rest)
        | ',' :: rest =>
          let (others, rest) ← memberPairs nonFinite fuel (skipGap rest)
          return ((name, held) :: others, rest)
        | rest => .error (.flaw .missingComma rest.length)
      | rest => .error (.flaw .missingColon rest.length)
    | s => .error (.flaw .missingName s.length)
termination_by structural fuel

end

end Reader

/-- The document that a whole text holds. -/
def readWith (nonFinite : Bool) (s : List Char) : Except ReadError Document :=
  match s with
  | '\uFEFF' :: _ => .error (.flaw .byteOrderMark s.length)
  | _ => do
    let (held, rest) ← Reader.value nonFinite (2 * s.length + 2) (Reader.skipGap s)
    match Reader.skipGap rest with
    | [] => return held
    | rest => .error (.flaw .extraData rest.length)

/-- The document that a text holds; numbers that are not finite may be named. -/
def read (s : List Char) : Except ReadError Document :=
  readWith true s

/-- The document that a text of standard JSON holds. -/
def readStandard (s : List Char) : Except ReadError Document :=
  readWith false s

example : (read "[1, \"a\\n\"]".toList).toOption = some (.arr [.int 1, .str "a\n"]) := by
  decide +kernel

example : (read "[1,]".toList).toOption = none := by decide +kernel

end Document
end FormDispatch
