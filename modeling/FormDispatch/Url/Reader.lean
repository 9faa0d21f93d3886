/-
# Reading URLs

A text is cut into the parts of a URL at the first marks of each: a scheme ends in a colon, two
slashes begin the authority, a question mark the query and a number sign the fragment. In an
authority the user stands before the last at sign, and the port behind the host. The parts are then
checked, brought into their usual form and escaped.
-/

import FormDispatch.Document.Integer
import FormDispatch.Url.Host

namespace FormDispatch
namespace Url

/-- The parts of a URL as they are written. -/
structure Parts where
  scheme : List Char := []
  userInfo : List Char := []
  host : List Char := []
  port : Option (List Char) := none
  path : List Char := []
  query : Option (List Char) := none
  fragment : Option (List Char) := none

/-- A character of a scheme behind its first letter. -/
def isSchemeChar (c : Char) : Bool :=
  Text.isAsciiAlphanumeric c || c == '+' || c == '.' || c == '-'

/-- The scheme of a text and the rest behind its colon; a text without one keeps all. -/
def cutScheme (s : List Char) : List Char × List Char :=
  let scheme := match s with
    | c :: rest => if c.isAlpha then c :: rest.takeWhile isSchemeChar else []
    | [] => []
  match s.drop scheme.length with
  | ':' :: rest => (scheme, rest)
  | _ => ([], s)

/-- The text before the first of some marks, and the rest from it on. -/
def cutAt (isMark : Char → Bool) (s : List Char) : List Char × List Char :=
  (s.takeWhile (!isMark ·), s.dropWhile (!isMark ·))

/-- The text behind the last of a character, and before it if it occurs. -/
def cutAtLast (mark : Char) (s : List Char) : Option (List Char) × List Char :=
  let (behind, rest) := cutAt (· == mark) s.reverse
  match rest with
  | _ :: before => (some before.reverse, behind.reverse)
  | [] => (none, s)

/-- The host at the front of an authority, and what stands behind it: an address in square brackets,
or all up to a colon. -/
def cutHost (s : List Char) : List Char × List Char :=
  match s.head?, cutAtLast ']' s with
  | some '[', (some before, behind) => (before ++ [']'], behind)
  | _, _ => cutAt (· == ':') s

/-- The parts of an authority. -/
def withAuthority (p : Parts) (s : List Char) : Parts :=
  let (userInfo, rest) := cutAtLast '@' s
  let (host, port) := cutHost rest
  let port := match port with
    | ':' :: port => port
    | port => port
  { p with userInfo := userInfo.getD [], host, port := some port }

/-- The parts of a text. -/
def partsOf (s : List Char) : Parts :=
  let (scheme, s) := cutScheme s
  let (authority, s) : Option (List Char) × List Char := match s with
    | '/' :: '/' :: rest =>
      let (authority, rest) := cutAt (fun c => c == '/' || c == '?' || c == '#') rest
      (some authority, rest)
    | _ => (none, s)
  let (path, s) := cutAt (fun c => c == '?' || c == '#') s
  let (query, s) : Option (List Char) × List Char := match s with
    | '?' :: rest =>
      let (query, rest) := cutAt (· == '#') rest
      (some query, rest)
    | _ => (none, s)
  let fragment := match s with
    | '#' :: rest => some rest
    | _ => none
  withAuthority { scheme, path, query, fragment } (authority.getD [])

/-- The port that a text tells; the usual one of the scheme is left out. -/
def portOf (scheme : String) (port : Option (List Char)) : Except Flaw (Option Int) :=
  match port with
  | none | some [] => .ok none
  | some digits =>
    match Document.integerOfText (String.ofList digits) with
    | .ok n => .ok (if usualPort? scheme = some n then none else some n)
    | .error _ => .error (.port (String.ofList digits))

/-- A path without the names that lead nowhere or back. -/
def straightened (path : List Char) : List Char :=
  let names := Text.splitAt '/' path
  if names.contains ['.'] || names.contains ['.', '.'] then
    let kept : List (List Char) := names.foldl (fun kept name =>
      if name == ['.'] then kept
      else if name == ['.', '.'] then
        if kept.isEmpty || kept == [[]] then kept else kept.dropLast
      else kept ++ [name]) []
    List.intercalate ['/'] kept
  else path

/-- The path of a URL begins as what stands before it demands. -/
def checkPath (hasScheme hasAuthority : Bool) (path : List Char) : Except Flaw Unit :=
  if hasAuthority then
    match path with
    | [] | '/' :: _ => .ok ()
    | _ => .error .pathWithoutSlash
  else if hasScheme then .ok ()
  else
    match path with
    | '/' :: '/' :: _ => .error .pathWithTwoSlashes
    | ':' :: _ => .error .pathWithColon
    | _ => .ok ()

/-- The URL of its parts. -/
def ofParts (p : Parts) : Except Flaw Url := do
  let scheme := String.ofList (p.scheme.map Char.toLower)
  let userInfo := escapedPart isUserChar (String.ofList p.userInfo)
  let host ← hostOf (String.ofList p.host)
  let port ← portOf (String.ofList p.scheme) p.port
  let hasScheme := !scheme.isEmpty
  let hasAuthority := !userInfo.isEmpty || !host.isEmpty || port.isSome
  checkPath hasScheme hasAuthority p.path
  let path := if hasScheme || hasAuthority then straightened p.path else p.path
  return {
    scheme
    userInfo
    host
    port
    path := escapedPart isPathChar (String.ofList path)
    query := p.query.map fun q => escapedPart isQueryChar (String.ofList q)
    fragment := p.fragment.map fun f => escapedPart isFragmentChar (String.ofList f) }

/-- The URL of a text. -/
def ofText (s : String) : Except Flaw Url := do
  checked none s.toList
  ofParts (partsOf s.toList)

/-- The parts of a URL. -/
def parts (u : Url) : Parts :=
  withAuthority
    { scheme := u.scheme.toList
      path := u.path.toList
      query := u.query.map String.toList
      fragment := u.fragment.map String.toList }
    u.authority.toList

/-- A URL with another query. -/
def withQuery (u : Url) (query : String) : Except Flaw Url := do
  checked (some "query") query.toList
  ofParts { u.parts with query := some query.toList }

/-- A URL with another fragment. -/
def withFragment (u : Url) (fragment : String) : Except Flaw Url := do
  checked (some "fragment") fragment.toList
  ofParts { u.parts with fragment := some fragment.toList }

/-- A URL with another host. -/
def withHost (u : Url) (host : String) : Except Flaw Url :=
  let host := host.toList
  ofParts { u.parts with host := if host.contains ':' then '[' :: (host ++ [']']) else host }

/-- A URL that does not stand on its own, as a path from the root. -/
def fromRoot (u : Url) : Except Flaw Url :=
  ofParts { path := '/' :: u.path.toList.dropWhile (· == '/'), query := u.query.map String.toList }

end Url
end FormDispatch
