/-
# Flaws of query text

What can be wrong with a query text, each cause with its wording. A flaw is reported for a place in
the text, shown by the characters around it. Beside the flaws there is one other failure: an integer
beyond the longest numeral.

Specification, section E8.
-/

import FormDispatch.Number.Numeral

namespace FormDispatch
namespace Query

/-- The values that are written as calls. -/
inductive Call where
  | objectId
  | isoDate
  | numberLong
  | numberInt
  | numberDecimal
deriving DecidableEq

namespace Call

/-- The name of a call. -/
def name : Call → String
  | objectId => "ObjectId"
  | isoDate => "ISODate"
  | numberLong => "NumberLong"
  | numberInt => "NumberInt"
  | numberDecimal => "NumberDecimal"

/-- All calls. -/
def all : List Call := [objectId, isoDate, numberLong, numberInt, numberDecimal]

/-- The call of a name. -/
def ofName? (s : String) : Option Call :=
  all.find? fun call => call.name == s

end Call

/-- What is wrong with a query text. -/
inductive Flaw where
  | endOfInput
  | trailing
  | unexpected (c : Char)
  | expected (wanted : Char) (found : Option Char)
  | unknownName (name : String)
  | tooDeep
  | missingKey
  | unclosedObject
  | unclosedArray
  | unterminated
  | escape (c : Option Char)
  | controlCharacter
  | unicodeEscape
  | lowSurrogate
  | highSurrogate
  | number
  | argumentCount (call : Call)
  | objectIdText
  | dateKind
  | date (text : String)
  | integerKind (call : Call)
  | integerRange
  | decimalKind
  | decimal (text : String)
  | notDocument
  | notStages
  | notDocuments
deriving DecidableEq

/-- The wording of a flaw. -/
def Flaw.wording : Flaw → String
  | .endOfInput => "unexpected end of input"
  | .trailing => "unexpected trailing content"
  | .unexpected c => "unexpected character '" ++ c.toString ++ "'"
  | .expected wanted found =>
    "expected '" ++ wanted.toString ++ "' but found '" ++
      (match found with
        | some c => c.toString
        | none => "end of input") ++ "'"
  | .unknownName name => "unknown literal '" ++ name ++ "'"
  | .tooDeep => "document nested too deeply"
  | .missingKey => "expected an object key"
  | .unclosedObject => "expected ',' or '\x7d' in object"
  | .unclosedArray => "expected ',' or ']' in array"
  | .unterminated => "unterminated string"
  | .escape c => "invalid escape '\\" ++ (c.map Char.toString).getD "" ++ "'"
  | .controlCharacter => "control character in string"
  | .unicodeEscape => "invalid unicode escape"
  | .lowSurrogate => "unpaired low surrogate"
  | .highSurrogate => "unpaired high surrogate"
  | .number => "invalid number"
  | .argumentCount call => call.name ++ "() takes exactly one argument"
  | .objectIdText => "ObjectId() expects a 24 character hex string"
  | .dateKind => "ISODate() expects a string"
  | .date text => "invalid ISO-8601 date '" ++ text ++ "'"
  | .integerKind call => call.name ++ "() expects an integer"
  | .integerRange => "NumberInt() value out of 32-bit range"
  | .decimalKind => "NumberDecimal() expects a string or number"
  | .decimal text => "invalid decimal '" ++ text ++ "'"
  | .notDocument => "expected a document"
  | .notStages => "expected an array of stages"
  | .notDocuments => "expected a document or an array of documents"

/-- Why a query text is not read. -/
inductive ReadError where
  /-- a flaw with the given number of characters left -/
  | flaw (what : Flaw) (left : Nat)
  /-- an integer of so many digits -/
  | numeralTooLong (digits : Nat)
deriving DecidableEq

/-- How many characters on either side of its place show where a flaw is. -/
def fragmentRadius : Nat := 20

/-- The characters around a place. -/
def fragmentAround (text : List Char) (place : Nat) : List Char :=
  let start := place - fragmentRadius
  (text.drop start).take (place + fragmentRadius - start)

example : Call.ofName? "NumberInt" = some .numberInt := by decide

end Query
end FormDispatch
