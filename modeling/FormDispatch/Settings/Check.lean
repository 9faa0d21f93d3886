/-
# Checked settings

Settings from loosely typed values. A number may be given as a text, and a boolean counts as zero or
one; a whole number of bytes is read as any integer from outside is. The numbers must be above zero,
the name and the addresses must not be too short, and a level or a form is one of its names. Values
under other keys are ignored.

Specification, section E2.
-/

import FormDispatch.Settings.Basic
import FormDispatch.Validation.Integer

namespace FormDispatch
namespace Settings

/-- The names of numbers that are not finite. -/
def namedNumber? (s : List Char) : Option (Bool → Binary64) :=
  match s.map Char.toLower with
  | ['n', 'a', 'n'] => some fun _ => .nan
  | ['i', 'n', 'f'] => some .infinite
  | ['i', 'n', 'f', 'i', 'n', 'i', 't', 'y'] => some .infinite
  | _ => none

/-- Digits with at most one point, scaled by a power of ten. -/
def decimalNumber? (negative : Bool) (s : List Char) : Option Binary64 :=
  let whole := s.takeWhile Char.isDigit
  let rest := s.drop whole.length
  let (fraction, rest) := match rest with
    | '.' :: r => (r.takeWhile Char.isDigit, r.dropWhile Char.isDigit)
    | r => ([], r)
  let digits := whole ++ fraction
  let power : Option Int := match rest with
    | [] => some 0
    | e :: r =>
      if e == 'e' || e == 'E' then
        match Numeral.signed? r with
        | some (negative, power) =>
          if power.all Char.isDigit then some (Numeral.withSign negative (Numeral.ofDigits power))
          else none
        | none => none
      else none
  if digits.isEmpty then none
  else power.map fun power =>
    Binary64.ofDecimal negative (Numeral.ofDigits digits) (power - fraction.length)

/-- The floating-point number that a text names. -/
def floatOfText? (s : List Char) : Option Binary64 :=
  let (negative, s) := match s with
    | '-' :: r => (true, r)
    | '+' :: r => (false, r)
    | r => (false, r)
  match namedNumber? s with
  | some number => some (number negative)
  | none => decimalNumber? negative s

/-- A positive floating-point number. -/
def seconds (place : List String) (d : Document) : Checked Binary64 :=
  let value : Except IssueKind Binary64 := match d with
    | .float x => .ok x
    | .int n =>
      -- an integer beyond all floating-point numbers is none
      match Binary64.ofInt n with
      | .infinite _ => .error .floatType
      | x => .ok x
    | .bool b => .ok (Binary64.ofInt (if b then 1 else 0))
    | .str s =>
      let found := (floatOfText? (Text.trimOf Text.isWhiteSpace s.toList)).or
        ((Checked.withoutUnderscores? s.toList).bind floatOfText?)
      match found with
      | some x => .ok x
      | none => .error .floatParsing
    | _ => .error .floatType
  match value with
  | .ok x => if x.isPositive then .ok x else Checked.issue place .greaterThan
  | .error kind => Checked.issue place kind

/-- A positive integer. -/
def bytes (place : List String) (d : Document) : Checked Int :=
  (Checked.integer place d).bind fun n =>
    if 0 < n then .ok n else Checked.issue place .greaterThan

/-- One of several names. -/
def oneOf {α : Type} (place : List String) (name : α → String) (all : List α) (d : Document) :
    Checked α :=
  match all.find? fun a => .str (name a) == d with
  | some a => .ok a
  | none => Checked.issue place .literal

/-- All least levels. -/
def allLevels : List LogLevel := [.debug, .info, .warning, .error]

/-- All forms. -/
def allFormats : List LogFormat := [.console, .json]

/-- Settings from values by their keys; those that are missing keep their defaults. -/
def ofMembers (m : Members) : Checked Settings :=
  let base : Settings := {}
  let field {α : Type} (key : String) (default : α) (check : List String → Document → Checked α) :=
    Checked.optional m key default (check [key])
  let timeout := field "http_timeout_seconds" base.timeout seconds
  let maxBytes := field "max_response_bytes" base.maxResponseBytes bytes
  let userAgent := field "user_agent" base.userAgent fun p => Checked.text p 1
  let sheets := field "sheets_base_url" base.sheetsBaseUrl fun p => Checked.text p 8
  let drive := field "drive_base_url" base.driveBaseUrl fun p => Checked.text p 8
  let token := field "access_token" base.accessToken Checked.text?
  let level := field "log_level" base.logLevel fun p => oneOf p LogLevel.name allLevels
  let format := field "log_format" base.logFormat fun p => oneOf p LogFormat.name allFormats
  (timeout.both (maxBytes.both (userAgent.both (sheets.both (drive.both (token.both
    (level.both format))))))).map
    fun (timeout, maxResponseBytes, userAgent, sheetsBaseUrl, driveBaseUrl, accessToken, logLevel,
        logFormat) =>
      { timeout, maxResponseBytes, userAgent, sheetsBaseUrl, driveBaseUrl, accessToken, logLevel,
        logFormat }

/-- Settings as values by their keys. -/
def toMembers (s : Settings) : Members :=
  [("http_timeout_seconds", .float s.timeout), ("max_response_bytes", .int s.maxResponseBytes),
    ("user_agent", .str s.userAgent), ("sheets_base_url", .str s.sheetsBaseUrl),
    ("drive_base_url", .str s.driveBaseUrl), ("access_token", .ofText? s.accessToken),
    ("log_level", .str s.logLevel.name), ("log_format", .str s.logFormat.name)]

end Settings
end FormDispatch
