/-
# Paths

A path is a root and the names on the way from it. Reading a path drops empty names and single dots,
which lead nowhere; two dots stay, since a link may lie before them. Exactly two slashes at the
front are a root of their own. A path that is put behind another one continues it, unless it has a
root.
-/

import FormDispatch.Text.Lines

namespace FormDispatch

/-- Where a path begins. -/
inductive PathRoot where
  | relative
  | single
  | double
deriving DecidableEq

/-- The text of a root. -/
def PathRoot.text : PathRoot → String
  | relative => ""
  | single => "/"
  | double => "//"

/-- A path: its root, and the names on the way. -/
structure Path where
  root : PathRoot
  names : List String
deriving DecidableEq

namespace Path

/-- The root of a text. -/
def rootOf : List Char → PathRoot
  | '/' :: '/' :: '/' :: _ => .single
  | '/' :: '/' :: _ => .double
  | '/' :: _ => .single
  | _ => .relative

/-- A name that leads somewhere. -/
def leads (name : String) : Bool :=
  name != "" && name != "."

/-- The path of a text. -/
def ofText (s : String) : Path :=
  ⟨rootOf s.toList, ((Text.splitAt '/' s.toList).map String.ofList).filter leads⟩

/-- The written form of a path. -/
def text (p : Path) : String :=
  if p.root = .relative ∧ p.names = [] then "."
  else p.root.text ++ "/".intercalate p.names

/-- A path put behind another one. -/
def join (p q : Path) : Path :=
  if q.root = .relative then ⟨p.root, p.names ++ q.names⟩ else q

example : (ofText "a//b/./c/").text = "a/b/c" := by decide

example : ((ofText "///a").join (ofText "../b")).text = "/a/../b" := by decide

example : ((ofText "").join (ofText "b")).text = "b" := by decide

end Path
end FormDispatch
