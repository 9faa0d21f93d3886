/-
# Problems

Everything that can stop a request, by cause. A `Problem` belongs to the work of the library: it has
a name, a code that goes into a failed result, and a message. A `Defect` lies outside of it: a
number that cannot be converted, an answer of a shape nobody expects, or whatever a collaborator
raises on its own account. A run turns a defect into the problem `stepFailed`, which tells the step
and the defect's name and message.

Several mismatches of type are one problem, `wrongType`, that keeps them all.

Specification, sections 7 and E4.
-/

import FormDispatch.Document.Display
import FormDispatch.Document.Reader

namespace FormDispatch

/-- A field holds a value of another type than expected. -/
structure TypeMismatch where
  field : String
  expected : String
  /-- what was found, if it can be told -/
  actual : Option String
deriving DecidableEq

/-- The message of one mismatch. -/
def TypeMismatch.message (m : TypeMismatch) : String :=
  let detail := match m.actual with
    | some actual => if actual.isEmpty then "" else " (got " ++ actual ++ ")"
    | none => ""
  "Field '" ++ m.field ++ "' must be of type " ++ m.expected ++ detail

/-- What stops a request. -/
inductive Problem where
  /-- one or more fields hold values of other types than expected -/
  | wrongType (first : TypeMismatch) (others : List TypeMismatch)
  /-- required fields are not configured -/
  | missingFields (fields : List String)
  /-- text that should hold a document does not -/
  | unreadableText (field fragment reason : String)
  /-- an operation that there is not -/
  | unknownOperation (key : String) (known : List String)
  /-- no bearer token is at hand -/
  | missingCredentials (wording : String)
  /-- a configuration does not fit its operation -/
  | invalidRequest (field reason : String)
  /-- a binding has no value -/
  | unboundBinding (binding : String)
  /-- the body of an answer is not JSON -/
  | unreadableBody (raw reason : String)
  /-- the body of an answer is too large -/
  | bodyTooLarge (limit : Int)
  /-- the answer could not be had -/
  | transport (reason : String)
  /-- the service refused -/
  | vendor (status : Option Int) (wording : String)
  /-- a step failed by something that is no problem of this list -/
  | stepFailed (step causeName causeMessage : String)
  /-- a problem of no narrower kind, for collaborators that have one of their own -/
  | other (wording : String)
deriving DecidableEq

namespace Problem

/-- The problem of a mismatch of type. -/
def ofMismatch (field expected : String) (actual : Option String) : Problem :=
  wrongType ⟨field, expected, actual⟩ []

/-- The wording when no bearer token is at hand. -/
def noToken : Problem :=
  missingCredentials "No bearer token available for this datasource"

/-- An operation that there is not, with the sorted keys of those that there are. -/
def unknown (key : String) (known : List String) : Problem :=
  unknownOperation key (known.mergeSort fun a b => a ≤ b)

/-- The name of a problem. -/
def name : Problem → String
  | wrongType .. => "ConfigurationTypeError"
  | missingFields _ => "MissingRequiredFieldError"
  | unreadableText .. => "QuerySyntaxError"
  | unknownOperation .. => "UnknownOperationError"
  | missingCredentials _ => "MissingCredentialsError"
  | invalidRequest .. => "InvalidMethodRequest"
  | unboundBinding _ => "SmartSubstitutionError"
  | unreadableBody .. => "ResponseParseError"
  | bodyTooLarge _ => "ResponseTooLargeError"
  | transport _ => "TransportError"
  | vendor .. => "VendorError"
  | stepFailed .. => "HandlerFailure"
  | other _ => "FormBridgeError"

/-- The code of a problem in a failed result. -/
def code : Problem → String
  | wrongType .. | missingFields _ | unreadableText .. | invalidRequest .. | unboundBinding _ =>
    "PLUGIN_EXECUTE_ARGUMENT_ERROR"
  | unreadableBody .. => "PLUGIN_JSON_PARSE_ERROR"
  | missingCredentials _ => "PLUGIN_AUTHENTICATION_ERROR"
  | bodyTooLarge _ | transport _ => "PLUGIN_TRANSPORT_ERROR"
  | unknownOperation .. | vendor .. | stepFailed .. | other _ => "PLUGIN_ERROR"

/-- How much of a body that is not JSON a message shows. -/
def shownBody : Nat := 500

/-- The message of a problem. -/
def message : Problem → String
  | wrongType first others => "; ".intercalate ((first :: others).map TypeMismatch.message)
  | missingFields fields =>
    "Try again after configuring the fields : " ++ ", ".intercalate fields
  | unreadableText field fragment reason =>
    field ++ " could not be parsed (" ++ reason ++ ") near: " ++ Text.quoted fragment
  | unknownOperation key known =>
    "Unknown operation type: " ++ key ++ " (known: " ++
      (if known.isEmpty then "(none)" else ", ".intercalate known) ++ ")"
  | missingCredentials wording => wording
  | invalidRequest field reason => reason ++ " (" ++ field ++ ")"
  | unboundBinding binding => "Did not receive any value for the binding " ++ binding
  | unreadableBody raw reason =>
    "Failed to parse response as JSON (" ++ reason ++ "): " ++
      String.ofList (raw.toList.take shownBody)
  | bodyTooLarge limit =>
    "Response body exceeded the maximum in-memory size of " ++ Numeral.text limit ++ " bytes"
  | transport reason => reason
  | vendor _ wording => wording
  | stepFailed step causeName causeMessage =>
    step ++ " failed: " ++ causeName ++ ": " ++ causeMessage
  | other wording => wording

/-- All the mismatches of a problem of type. -/
def mismatches : Problem → List TypeMismatch
  | wrongType first others => first :: others
  | _ => []

end Problem

/-- What goes wrong outside the work of the library. -/
inductive Defect where
  /-- an integer text of so many digits -/
  | numeralTooLong (digits : Nat)
  /-- an integer with too many digits for a text -/
  | integerTooLong
  /-- items were asked of a value of a kind that has none -/
  | noItems (kind : String)
  /-- the first item was asked of an object -/
  | noFirstItem
  /-- members were asked of a value of a kind that has none -/
  | noMembers (kind : String)
  /-- a text that is no integer, as it is shown -/
  | notInteger (shown : String)
  /-- a value of a kind that is no integer -/
  | notNumeric (kind : String)
  /-- an integer was asked of an infinity -/
  | infinite
  /-- an integer was asked of something that is no number -/
  | notANumber
  /-- a field was asked for as a type that there is not, as both are shown -/
  | unsupportedType (field type : String)
  /-- a run that was over was continued -/
  | finished (state : String)
  /-- there is no home directory -/
  | noHome
  /-- a number that is not finite was to be sent as JSON -/
  | notCompliant
  /-- a header that is not ASCII: its character or characters, and where they stand -/
  | headerText (shown : String) (first last : Nat)
  /-- a text that is no URL -/
  | notUrl (wording : String)
  /-- a tag that closes nothing in a text to be shown -/
  | badMarkup (wording : String)
  /-- a field was looked for in a value of a kind that holds nothing -/
  | noFields (kind : String)
  /-- a field of an array was written -/
  | arrayField
  /-- a field of a text was written -/
  | textField
  /-- pairs of a key and a value were asked of a value of a kind that has none -/
  | noPairs (kind : String)
  /-- a least level that there is not -/
  | noLevel (name : String)
  /-- a text that was found in the place of a level -/
  | unknownLevel (text : String)
  /-- something else that was found in the place of a level, as it is shown -/
  | unusableLevel (shown : String)
  /-- another case was asked of a value of a kind that has none -/
  | noCase (kind change : String)
  /-- a status outside of the range of statuses -/
  | statusOutside (status : Int)
  /-- raised by a collaborator, under a name and with a message of its own -/
  | raised (name wording : String)
deriving DecidableEq

namespace Defect

/-- The name of a defect. -/
def name : Defect → String
  | numeralTooLong _ | integerTooLong | notInteger _ | notANumber | notCompliant
  | unknownLevel _ => "ValueError"
  | noItems _ | notNumeric _ | unsupportedType .. | unusableLevel _ | noFields _ | arrayField
  | textField => "TypeError"
  | noFirstItem => "KeyError"
  | noMembers _ | noPairs _ | noLevel _ | noCase .. => "AttributeError"
  | infinite => "OverflowError"
  | finished _ | noHome => "RuntimeError"
  | headerText .. => "UnicodeEncodeError"
  | notUrl _ => "InvalidURL"
  | badMarkup _ => "MarkupError"
  | statusOutside _ => "ValidationError"
  | raised name _ => name

/-- The message of a defect. -/
def message : Defect → String
  | numeralTooLong digits => Document.numeralTooLongMessage digits
  | integerTooLong =>
    "Exceeds the limit (4300 digits) for integer string conversion; " ++
      "use sys.set_int_max_str_digits() to increase the limit"
  | noItems kind => "'" ++ kind ++ "' object is not subscriptable"
  | noFirstItem => "0"
  | noMembers kind => "'" ++ kind ++ "' object has no attribute 'get'"
  | notInteger shown => "invalid literal for int() with base 10: " ++ shown
  | notNumeric kind =>
    "int() argument must be a string, a bytes-like object or a real number, not '" ++ kind ++ "'"
  | infinite => "cannot convert float infinity to integer"
  | notANumber => "cannot convert float NaN to integer"
  | unsupportedType field type => "Unsupported expected type for field " ++ field ++ ": " ++ type
  | finished state => "Execution already finished in state " ++ state
  | noHome => "Could not determine home directory."
  | notCompliant => "Out of range float values are not JSON compliant"
  | headerText shown first last =>
    "'ascii' codec can't encode character" ++
      (if first = last then " " ++ shown ++ " in position " ++ Numeral.text first
        else "s in position " ++ Numeral.text first ++ "-" ++ Numeral.text last) ++
      ": ordinal not in range(128)"
  | notUrl wording | badMarkup wording => wording
  | noFields kind => "argument of type '" ++ kind ++ "' is not iterable"
  | arrayField => "list indices must be integers or slices, not str"
  | textField => "'str' object does not support item assignment"
  | noPairs kind => "'" ++ kind ++ "' object has no attribute 'items'"
  | noLevel name => "module 'logging' has no attribute '" ++ name ++ "'"
  | unknownLevel text => "Unknown level: " ++ Text.quoted text
  | unusableLevel shown => "Level not an integer or a valid string: " ++ shown
  | noCase kind change => "'" ++ kind ++ "' object has no attribute '" ++ change ++ "'"
  | statusOutside status => "a status must be from 100 to 599, not " ++ Numeral.text status
  | raised _ wording => wording

end Defect

/-- Why a piece of work failed. -/
inductive Failure where
  | problem (p : Problem)
  | defect (d : Defect)
deriving DecidableEq

namespace Failure

/-- The name of a failure. -/
def name : Failure → String
  | problem p => p.name
  | defect d => d.name

/-- The message of a failure. -/
def message : Failure → String
  | problem p => p.message
  | defect d => d.message

/-- A failure seen as the problem of a step: a defect becomes one, a problem stays what it is. -/
def atStep (step : String) : Failure → Problem
  | problem p => p
  | defect d => .stepFailed step d.name d.message

end Failure

instance : Coe Problem Failure := ⟨.problem⟩

instance : Coe Defect Failure := ⟨.defect⟩

end FormDispatch
