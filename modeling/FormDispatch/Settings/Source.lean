/-
# Where settings come from

Settings are given directly, by variables of the environment, or by files of assignments. What is
given directly counts before the environment, and that before the files, of which a later one counts
before an earlier one. The names of variables begin with the name of the library, and their case
does not matter; of two that differ in case only, the later one counts.

Specification, section E2.
-/

import FormDispatch.Settings.Assignment
import FormDispatch.Settings.Check
import FormDispatch.Text.Case

namespace FormDispatch
namespace Settings

/-- Where settings come from. -/
structure Sources where
  /-- what is given directly, by the keys of the settings -/
  values : Members := []
  environment : Entries String := []
  /-- texts of files of assignments -/
  files : List String := []

/-- How the names of variables begin, in lower case. -/
def variableStart : List Char := "formbridge_".toList

/-- The key of the settings that a name of the environment is for. -/
def keyOf? (name : String) : Option String :=
  let name := (Text.lower name).toList
  if variableStart.isPrefixOf name then some (String.ofList (name.drop variableStart.length))
  else none

/-- The values of variables, by the keys of the settings that they are for. -/
def byKey (assigned : Entries (Option String)) : Entries (Option String) :=
  assigned.foldl (fun m (name, value) =>
    match keyOf? name with
    | some key => m.put key value
    | none => m) []

/-- Those values that are there; a variable without a value has hidden the ones before it. -/
def present (assigned : Entries (Option String)) : Members :=
  assigned.filterMap fun (key, value) => value.map fun text => (key, .str text)

/-- The values of the settings, whichever source they come from. -/
def Sources.members (s : Sources) : Members :=
  let files := s.files.foldl
    (fun m file => Entries.merge m (byKey (Assignment.ofFile s.environment file))) []
  let environment := byKey (s.environment.map fun (name, value) => (name, some value))
  Entries.merge (Entries.merge (present files) (present environment)) s.values

/-- The settings of given sources. -/
def ofSources (s : Sources) : Checked Settings :=
  ofMembers s.members

end Settings
end FormDispatch
