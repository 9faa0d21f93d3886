/-
# URLs

A URL in its parts, each already escaped. A part that may be missing differs from one that is empty:
a text that ends in a question mark has an empty query. `Flaw` tells why a text is no URL.

Escaping keeps what a part may hold and every escape that is already there.
-/

import FormDispatch.Number.Numeral
import FormDispatch.Text.Percent
import FormDispatch.Text.Quoted
import FormDispatch.Text.Utf8

namespace FormDispatch

/-- A URL in its parts. -/
structure Url where
  scheme : String
  userInfo : String
  host : String
  port : Option Int
  path : String
  query : Option String
  fragment : Option String
deriving DecidableEq

namespace Url

/-- Why a text is no URL. -/
inductive Flaw where
  /-- the text, or a named part of it, is too long -/
  | tooLong (part : Option String)
  /-- a control character at a position of the text, or of a named part of it -/
  | control (part : Option String) (c : Char) (position : Nat)
  | port (text : String)
  | fourByteAddress (host : String)
  | sixteenByteAddress (host : String)
  | internationalHost (host : String)
  | pathWithoutSlash
  | pathWithTwoSlashes
  | pathWithColon
deriving DecidableEq

/-- The message of a flaw. -/
def Flaw.message : Flaw → String
  | tooLong none => "URL too long"
  | tooLong (some part) => "URL component '" ++ part ++ "' too long"
  | control part c position =>
    "Invalid non-printable ASCII character in URL" ++
      (match part with
        | some part => " " ++ part ++ " component"
        | none => "") ++
      ", " ++ Text.quoted c.toString ++ " at position " ++ Numeral.text position ++ "."
  | port text => "Invalid port: " ++ Text.quoted text
  | fourByteAddress host => "Invalid IPv4 address: " ++ Text.quoted host
  | sixteenByteAddress host => "Invalid IPv6 address: " ++ Text.quoted host
  | internationalHost host => "Invalid IDNA hostname: " ++ Text.quoted host
  | pathWithoutSlash => "For absolute URLs, path must be empty or begin with '/'"
  | pathWithTwoSlashes => "Relative URLs cannot have a path starting with '//'"
  | pathWithColon => "Relative URLs cannot have a path starting with ':'"

/-- The longest text that is read as a URL. -/
def longest : Nat := 65536

/-- A control character of ASCII. -/
def isControl (c : Char) : Bool :=
  c.toNat < 0x20 || c.toNat == 0x7F

/-- A text that may be a URL or a named part of one: short enough, and without controls. -/
def checked (part : Option String) (s : List Char) : Except Flaw Unit :=
  if s.length > longest then .error (.tooLong part)
  else
    match s.find? isControl with
    | some c => .error (.control part c (s.takeWhile (!isControl ·)).length)
    | none => .ok ()

/-- A printable character of ASCII that is none of those given. -/
def isPrintableBut (others : List Char) (c : Char) : Bool :=
  0x20 ≤ c.toNat && c.toNat < 0x7F && !others.contains c

/-- What no part may hold unescaped. -/
def alwaysEscaped : List Char := [' ', '"', '<', '>']

/-- A character that a fragment may hold. -/
def isFragmentChar : Char → Bool :=
  isPrintableBut ('\x60' :: alwaysEscaped)

/-- A character that a query may hold. -/
def isQueryChar : Char → Bool :=
  isPrintableBut ('#' :: alwaysEscaped)

/-- What a path may not hold unescaped. -/
def pathEscaped : List Char := ['#', '?', '\x60', '\x7b', '\x7d'] ++ alwaysEscaped

/-- A character that a path may hold. -/
def isPathChar : Char → Bool :=
  isPrintableBut pathEscaped

/-- A character that a user name with its password may hold. -/
def isUserChar : Char → Bool :=
  isPrintableBut (['/', ';', '=', '@', '[', '\\', ']', '^', '|'] ++ pathEscaped)

/-- A text with all but the characters that a part may hold escaped. -/
def escapedPart (keep : Char → Bool) (s : String) : String :=
  String.ofList (Text.escapedUnlessEscaped keep s.toList)

/-- A part read back. -/
def unescapedPart (s : String) : String :=
  Text.utf8Text (Text.percentDecodedBytes s.toList)

/-- The user, the host and the port, as they are written. -/
def authority (u : Url) : String :=
  (if u.userInfo.isEmpty then "" else u.userInfo ++ "@") ++
    (if u.host.toList.contains ':' then "[" ++ u.host ++ "]" else u.host) ++
    match u.port with
    | some n => ":" ++ Numeral.text n
    | none => ""

/-- The text of a URL. -/
def text (u : Url) : String :=
  (if u.scheme.isEmpty then "" else u.scheme ++ ":") ++
    (if u.authority.isEmpty then "" else "//" ++ u.authority) ++ u.path ++
    (match u.query with
      | some q => "?" ++ q
      | none => "") ++
    match u.fragment with
    | some f => "#" ++ f
    | none => ""

/-- A URL with a scheme and a host stands on its own. -/
def isAbsolute (u : Url) : Bool :=
  !u.scheme.isEmpty && !u.host.isEmpty

/-- The port that a scheme uses unless a URL says so. -/
def usualPort? : String → Option Int
  | "ftp" => some 21
  | "http" | "ws" => some 80
  | "https" | "wss" => some 443
  | _ => none

/-- The port of a web address. -/
def webPort? (u : Url) : Option Int :=
  match u.port with
  | some n => some n
  | none => if u.scheme = "http" ∨ u.scheme = "https" then usualPort? u.scheme else none

/-- Two URLs of one origin lie at the same server. -/
def sameOrigin (u v : Url) : Bool :=
  u.scheme == v.scheme && u.host == v.host && u.webPort? == v.webPort?

/-- The second URL is the first one's server under the secured scheme. -/
def isSecured (u v : Url) : Bool :=
  u.host == v.host && u.scheme == "http" && u.webPort? == some 80 && v.scheme == "https" &&
    v.webPort? == some 443

end Url
end FormDispatch
