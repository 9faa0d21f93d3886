/-
# References

A reference is a URL that may lack parts, which it takes from the URL that it is read against: its
scheme and authority, its path when it gives none, and then also its query. A path that does not
start at the root goes on from the last slash of the other path, and dots in it lead nowhere or back
(RFC 3986, with parameters behind a semicolon kept apart).
-/

import FormDispatch.Url.Reader

namespace FormDispatch
namespace Url

/-- The schemes of which references may be relative. -/
def relativeSchemes : List String :=
  ["", "ftp", "http", "gopher", "nntp", "imap", "wais", "file", "https", "shttp", "mms", "prospero",
    "rtsp", "rtsps", "rtspu", "sftp", "svn", "svn+ssh", "ws", "wss"]

/-- The schemes whose last names may have parameters. -/
def parameterSchemes : List String :=
  ["", "ftp", "hdl", "prospero", "http", "imap", "https", "shttp", "rtsp", "rtsps", "rtspu", "sip",
    "sips", "mms", "sftp", "tel"]

/-- A path without the parameters of its last name, and these. -/
def cutParameters (scheme : String) (path : List Char) : List Char × List Char :=
  if parameterSchemes.contains scheme then
    let (before, last) := cutAtLast '/' path
    let (name, parameters) := cutAt (· == ';') last
    ((match before with
      | some before => before ++ ['/'] ++ name
      | none => name), parameters.drop 1)
  else (path, [])

/-- The names of a path whose dots lead where they say; a dot at the end leads to a directory. -/
def resolvedNames (names : List (List Char)) : List (List Char) :=
  let kept : List (List Char) := names.foldl (fun kept name =>
    if name == ['.', '.'] then kept.dropLast
    else if name == ['.'] then kept
    else kept ++ [name]) []
  match names.getLast? with
  | some last => if last == ['.'] || last == ['.', '.'] then kept ++ [[]] else kept
  | none => kept

/-- A path read against another one. -/
def resolvedPath (base path : List Char) : List Char :=
  let names := Text.splitAt '/' path
  let all := match path with
    | '/' :: _ => names
    | _ =>
      let before := Text.splitAt '/' base
      let before := if before.getLast? == some [] then before else before.dropLast
      let all := before ++ names
      match all with
      | first :: rest =>
        first :: (rest.dropLast.filter (!·.isEmpty) ++ rest.getLast?.toList)
      | [] => []
  match List.intercalate ['/'] (resolvedNames all) with
  | [] => ['/']
  | resolved => resolved

/-- The text of a URL whose empty parts are left out. -/
def textWithout (u : Url) (scheme authority : String) (path parameters : List Char)
    (query : Option String) : String :=
  let path := String.ofList path ++
    if parameters.isEmpty then "" else ";" ++ String.ofList parameters
  let path :=
    if !authority.isEmpty || !scheme.isEmpty || path.startsWith "//" then
      "//" ++ authority ++ (if path.isEmpty || path.startsWith "/" then path else "/" ++ path)
    else path
  (if scheme.isEmpty then "" else scheme ++ ":") ++ path ++
    (match query with
      | some q => if q.isEmpty then "" else "?" ++ q
      | none => "") ++
    match u.fragment with
    | some f => if f.isEmpty then "" else "#" ++ f
    | none => ""

/-- A reference read against a URL, as a text. -/
def resolvedText (base reference : Url) : String :=
  if base.text.isEmpty then reference.text
  else if reference.text.isEmpty then base.text
  else
    let scheme := if reference.scheme.isEmpty then base.scheme else reference.scheme
    if scheme != base.scheme || !relativeSchemes.contains scheme then reference.text
    else
      let (path, parameters) := cutParameters scheme reference.path.toList
      if !reference.authority.isEmpty then
        textWithout reference scheme reference.authority path parameters reference.query
      else
        let (basePath, baseParameters) := cutParameters scheme base.path.toList
        if path.isEmpty && parameters.isEmpty then
          let query := if (reference.query.getD "").isEmpty then base.query else reference.query
          textWithout reference scheme base.authority basePath baseParameters query
        else
          textWithout reference scheme base.authority (resolvedPath basePath path) parameters
            reference.query

/-- A URL as its text reads: a path that begins like a scheme or an authority reads as that. -/
def reread (u : Url) : Url :=
  (ofText u.text).toOption.getD u

/-- A reference read against a URL. -/
def resolve (base reference : Url) : Except Flaw Url :=
  ofText (resolvedText base reference.reread)

end Url
end FormDispatch
