/-
# Settings

What can be set for all requests: how long one may take, how large an answer may be, by what name
the library makes itself known, where the services are, the token, and what is logged and how.

Specification, section E2.
-/

import FormDispatch.Number.Binary64

namespace FormDispatch

/-- Least levels of what is logged. -/
inductive LogLevel where
  | debug
  | info
  | warning
  | error
deriving DecidableEq

/-- The name of a least level. -/
def LogLevel.name : LogLevel → String
  | debug => "DEBUG"
  | info => "INFO"
  | warning => "WARNING"
  | error => "ERROR"

/-- Forms of what is logged. -/
inductive LogFormat where
  | console
  | json
deriving DecidableEq

/-- The name of a form. -/
def LogFormat.name : LogFormat → String
  | console => "console"
  | json => "json"

/-- What can be set. -/
structure Settings where
  /-- seconds that a request may take -/
  timeout : Binary64 := Binary64.ofInt 30
  /-- bytes that an answer may have -/
  maxResponseBytes : Int := 10485760
  /-- the name by which the library makes itself known -/
  userAgent : String := "formbridge/0.1"
  /-- where the spreadsheets are -/
  sheetsBaseUrl : String := "https://sheets.googleapis.com/v4/spreadsheets"
  /-- where the files are listed -/
  driveBaseUrl : String := "https://www.googleapis.com/drive/v3/files"
  /-- the token of the bearer -/
  accessToken : Option String := none
  /-- the least level of what is logged -/
  logLevel : LogLevel := .info
  /-- the form of what is logged -/
  logFormat : LogFormat := .console

end FormDispatch
