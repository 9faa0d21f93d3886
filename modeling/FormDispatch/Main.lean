/-
# The command line

Reads what the program may look at, runs it, and carries out what it has done: text is printed, the
file of settings is written, and the status is handed back. There is no connection to any service
here, so every request fails to connect.

Specification, section E11.
-/

import FormDispatch.Shell.Program

namespace FormDispatch
namespace Main

/-- The variables of the environment that settings may come from. -/
def variableNames : List String :=
  (Settings.toMembers {}).map fun (key, _) =>
    "FORMBRIDGE_" ++ String.ofList (key.toList.map Char.toUpper)

/-- The variables that are there. -/
def readEnvironment : IO (Entries String) := do
  let mut found : Entries String := []
  for name in variableNames do
    if let some value ← IO.getEnv name then
      found := found.put name value
  return found

/-- The directories that the environment names. -/
def readDirectories : IO UserDirectories := do
  return {
    home := (← IO.getEnv "HOME").getD "/"
    config := ← IO.getEnv "XDG_CONFIG_HOME"
    applicationData := ← IO.getEnv "APPDATA" }

/-- Those of the given files that can be read. -/
def readFiles (paths : List String) : IO (Entries (List UInt8)) := do
  let mut found : Entries (List UInt8) := []
  for path in paths do
    try
      let content ← IO.FS.readBinFile path
      found := found.put path content.toList
    catch _ => pure ()
  return found

/-- All that is typed in, if the program is going to ask for it. -/
def readTyped (arguments : List String) : IO String := do
  match Shell.request arguments with
  | .ok .keepToken =>
    let line ← (← IO.getStdin).getLine
    return line
  | _ => return ""

/-- No peer can be reached. -/
def unreachable : Peer Unit where
  exchange _ _ := (.error ⟨"ConnectError", "All connection attempts failed"⟩, ())

/-- The file of the user's settings is written, and its directory made. -/
def writeUserFile (directory file text : String) : IO Unit := do
  IO.FS.createDirAll directory
  IO.FS.writeFile file text

/-- What the program could not deal with, for a person. -/
def escapeMessage : Shell.Escape → String
  | .failure e => e.name ++ ": " ++ e.message
  | .issues issues =>
    "\n".intercalate (issues.map fun i => ".".intercalate i.place ++ ": " ++ i.kind.name)

/-- The program, with the directory of the user's settings. -/
def runWith (directory : Path) (arguments : List String) : IO UInt32 := do
  let userFile := UserDirectories.fileIn directory
  let outcome := Shell.run {
      files := ← readFiles (UserDirectories.fileName :: userFile.text :: arguments)
      environment := ← readEnvironment
      userFile
      typed := ← readTyped arguments
      peer := unreachable
      start := () } arguments
  IO.print outcome.printed
  if let some text := outcome.userFile then
    writeUserFile directory.text userFile.text text
  if let some escaped := outcome.escaped then
    IO.eprintln (escapeMessage escaped)
  return outcome.status.toUInt32

end Main
end FormDispatch

open FormDispatch in
/-- The program. -/
def main (arguments : List String) : IO UInt32 := do
  match (← Main.readDirectories).directory "linux" with
  | .ok directory => Main.runWith directory arguments
  | .error e =>
    IO.eprintln (Main.escapeMessage (.failure (.defect e)))
    return 1
