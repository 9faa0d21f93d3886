/-
# Calls in query text

The values that query text writes as calls of one argument, and the documents they stand for:
an identifier of 24 hexadecimal digits, a moment, integers given as numbers or as texts, and
decimals. What the argument must be is checked here; all but the 32-bit integer become an object of
one member that tells the kind of the value.

Specification, section E8.
-/

import FormDispatch.Document.Display
import FormDispatch.Query.DecimalText
import FormDispatch.Query.Flaw
import FormDispatch.Query.Moment
import FormDispatch.Text.Percent

namespace FormDispatch
namespace Query

/-- Why a call has no value. -/
inductive Refusal where
  | flaw (what : Flaw)
  | numeralTooLong (digits : Nat)
deriving DecidableEq

namespace Call

/-- A text of 24 hexadecimal digits. -/
def isObjectIdText (s : List Char) : Bool :=
  s.length == 24 && s.all fun c => (Text.hexValue? c).isSome

/-- The integer that an argument gives. -/
def integer (call : Call) : Document → Except Refusal Int
  | .int n => .ok n
  | .str s =>
    match Numeral.signed? (Text.trim s.toList) with
    | none => .error (.flaw (.integerKind call))
    | some numeral =>
      match Numeral.readSigned numeral with
      | .ok n => .ok n
      | .error digits => .error (.numeralTooLong digits)
  | _ => .error (.flaw (.integerKind call))

/-- The text of a decimal argument. -/
def decimalText? : Document → Option String
  | .int n => some (Numeral.text n)
  | .float x => some (String.ofList (Document.displayedFloat x))
  | .str s => some s
  | _ => none

/-- The document that a call with an argument stands for. -/
def ofArgument : Call → Document → Except Refusal Document
  | objectId, .str s =>
    if isObjectIdText s.toList then
      .ok (.obj [("$oid", .str (String.ofList (s.toList.map Char.toLower)))])
    else .error (.flaw .objectIdText)
  | objectId, _ => .error (.flaw .objectIdText)
  | isoDate, .str s =>
    if Moment.isMoment s.toList then .ok (.obj [("$date", .str s)])
    else .error (.flaw (.date s))
  | isoDate, _ => .error (.flaw .dateKind)
  | numberLong, d => do
    let n ← integer numberLong d
    return .obj [("$numberLong", .str (Numeral.text n))]
  | numberInt, d => do
    let n ← integer numberInt d
    if -2147483648 ≤ n ∧ n ≤ 2147483647 then return .int n
    else .error (.flaw .integerRange)
  | numberDecimal, d =>
    match decimalText? d with
    | none => .error (.flaw .decimalKind)
    | some s =>
      if DecimalText.isDecimal s.toList then .ok (.obj [("$numberDecimal", .str s)])
      else .error (.flaw (.decimal s))

/-- The document that a call with its arguments stands for. -/
def value (call : Call) : List Document → Except Refusal Document
  | [argument] => call.ofArgument argument
  | _ => .error (.flaw (.argumentCount call))

end Call
end Query
end FormDispatch
