/-
# Where settings are kept

A user's settings are kept in a file below the directory that the platform provides for settings. On
Windows that is the directory for application data, on macOS the one for application support, and
anywhere else the one named for configurations, each with a usual place below the home directory. A
home directory whose name begins with a tilde stands for another one that is not known.

Specification, section E2.
-/

import FormDispatch.Path
import FormDispatch.Problem

namespace FormDispatch

/-- The directories that the environment of a user names. -/
structure UserDirectories where
  /-- the home directory; empty means the root -/
  home : String
  /-- the directory of configurations -/
  config : Option String := none
  /-- the directory of application data -/
  applicationData : Option String := none

namespace UserDirectories

/-- The name of the directory of the settings. -/
def directoryName : String := "formbridge"

/-- The name of the file of the settings. -/
def fileName : String := ".env"

/-- A text without the slashes at its end. -/
def withoutLastSlashes (s : String) : String :=
  String.ofList ((s.toList.reverse.dropWhile (· == '/')).reverse)

/-- The home directory. -/
def homePath (u : UserDirectories) : Except Defect Path :=
  let home := withoutLastSlashes u.home
  if home.startsWith "~" then .error .noHome
  else .ok (Path.ofText (if home.isEmpty then "/" else home))

/-- The directory that holds what a program keeps on a platform. -/
def base (u : UserDirectories) (platform : String) : Except Defect Path :=
  if platform.startsWith "win" then
    u.homePath.map fun home => (u.applicationData.map Path.ofText).getD home
  else if platform = "darwin" then
    u.homePath.map fun home => home.join (Path.ofText "Library/Application Support")
  else
    match u.config.filter fun dir => !dir.isEmpty with
    | some dir => .ok (Path.ofText dir)
    | none => u.homePath.map fun home => home.join (Path.ofText ".config")

/-- The directory of a user's settings. -/
def directory (u : UserDirectories) (platform : String) : Except Defect Path :=
  (u.base platform).map fun base => base.join (Path.ofText directoryName)

/-- The file of the settings in their directory. -/
def fileIn (directory : Path) : Path :=
  directory.join (Path.ofText fileName)

end UserDirectories
end FormDispatch
