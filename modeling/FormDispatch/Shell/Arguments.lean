/-
# Arguments

What is asked for on the command line. Switches begin with dashes and may stand anywhere among the
other arguments, until two dashes alone end them; some of them take a value, behind an equals sign
or as the next argument. The other arguments are told apart by their places.

Specification, section E11.
-/

namespace FormDispatch
namespace Shell

/-- A switch: its name behind two dashes, its letter behind one, and whether it takes a value. -/
structure Switch where
  name : String
  letter : Option Char := none
  takesValue : Bool := false

/-- Arguments told apart. -/
structure Given where
  /-- the arguments that are no switches, in order -/
  places : List String := []
  /-- switches with their values, in order -/
  switches : List (String × String) := []

/-- Why nothing is done. -/
inductive Usage where
  /-- the arguments make no sense -/
  | wrong
  /-- help is asked for -/
  | help
deriving DecidableEq

/-- The switch that asks for help. -/
def helpSwitch : Switch := ⟨"help", none, false⟩

/-- An argument that is no switch is put in front of others. -/
def Given.place (g : Given) (argument : String) : Given :=
  { g with places := argument :: g.places }

/-- A switch is put in front of others. -/
def Given.switch (g : Given) (name value : String) : Given :=
  { g with switches := (name, value) :: g.switches }

/-- An argument as a switch: its name or letter, and a value that stands with it. -/
inductive Reading where
  | place
  | flag (name : String)
  | valued (name : String) (value : Option String)
  | unknown

/-- The switch of a name. -/
def named? (switches : List Switch) (name : List Char) : Option Switch :=
  switches.find? fun s => s.name.toList == name

/-- An argument read by the switches that there are. -/
def reading (switches : List Switch) (argument : List Char) : Reading :=
  match argument with
  | '-' :: '-' :: body =>
    let name := body.takeWhile (· != '=')
    let value := (body.drop name.length).tail
    let attached := body.contains '='
    match named? switches name with
    | none => .unknown
    | some s =>
      if s.takesValue then
        .valued s.name (if attached then some (String.ofList value) else none)
      else if attached then .unknown
      else .flag s.name
  | '-' :: letter :: value =>
    match switches.find? fun s => s.letter == some letter with
    | none => .unknown
    | some s =>
      if s.takesValue then
        .valued s.name (if value.isEmpty then none else some (String.ofList value))
      else if value.isEmpty then .flag s.name
      else .unknown
  | _ => .place

/-- Arguments told apart by the switches that there are. -/
def tellApart (switches : List Switch) : List String → Except Usage Given
  | [] => .ok {}
  | "--" :: rest => .ok { places := rest }
  | argument :: rest =>
    match reading switches argument.toList, rest with
    | .place, rest => (tellApart switches rest).map (·.place argument)
    | .flag name, rest => (tellApart switches rest).map (·.switch name "")
    | .valued name (some value), rest => (tellApart switches rest).map (·.switch name value)
    | .valued name none, value :: rest => (tellApart switches rest).map (·.switch name value)
    | .valued _ none, [] | .unknown, _ => .error .wrong

/-- The values of a switch, in order. -/
def Given.values (g : Given) (name : String) : List String :=
  (g.switches.filter fun s => s.1 == name).map Prod.snd

/-- A switch is there. -/
def Given.has (g : Given) (name : String) : Bool :=
  g.switches.any fun s => s.1 == name

/-- What is asked for. -/
inductive Request where
  /-- an operation on spreadsheets -/
  | execute (config : String) (params : List String) (json : Bool)
  /-- choices for whoever fills a form -/
  | lookup (trigger : String) (config : Option String) (json : Bool)
  /-- the document of a command -/
  | render (config : String) (params : List String) (json : Bool)
  /-- ready-made forms for a collection -/
  | templates (collection : String) (sample : Option String) (json : Bool)
  /-- all operations -/
  | operations
  /-- the settings and whether the services can be reached -/
  | diagnose
  /-- keeping a token -/
  | keepToken
deriving DecidableEq

/-- The switch that takes bindings. -/
def paramSwitch : Switch := ⟨"param", some 'p', true⟩

/-- The switch that asks for JSON. -/
def jsonSwitch : Switch := ⟨"json", none, false⟩

/-- The switch that takes a sample document. -/
def sampleSwitch : Switch := ⟨"sample", none, true⟩

/-- A request from arguments told apart, unless help is asked for instead. -/
def fromGiven (switches : List Switch) (arguments : List String)
    (request : Given → Option Request) : Except Usage Request := do
  let given ← tellApart (helpSwitch :: switches) arguments
  if given.has helpSwitch.name then .error .help
  else
    match request given with
    | some r => .ok r
    | none => .error .wrong

/-- A request without arguments. -/
def bare (r : Request) (arguments : List String) : Except Usage Request :=
  fromGiven [] arguments fun g => if g.places.isEmpty then some r else none

/-- A request on a single configuration. -/
def onConfig (r : String → List String → Bool → Request) (arguments : List String) :
    Except Usage Request :=
  fromGiven [paramSwitch, jsonSwitch] arguments fun g =>
    match g.places with
    | [config] => some (r config (g.values paramSwitch.name) (g.has jsonSwitch.name))
    | _ => none

/-- A request of one of several names. -/
def choose (choices : List (String × (List String → Except Usage Request))) :
    List String → Except Usage Request
  | [] => .error .wrong
  | argument :: rest =>
    let (name, rest) := match argument, rest with
      | "--", name :: rest => (name, rest)
      | name, rest => (name, rest)
    if argument = "--" ++ helpSwitch.name then .error .help
    else
      match choices.find? fun c => c.1 == name with
      | some c => c.2 rest
      | none => .error .wrong

/-- Requests on spreadsheets. -/
def sheetRequest : List String → Except Usage Request :=
  choose [
    ("execute", onConfig .execute),
    ("lookup", fun arguments => fromGiven [jsonSwitch] arguments fun g =>
      match g.places with
      | [trigger] => some (.lookup trigger none (g.has jsonSwitch.name))
      | [trigger, config] => some (.lookup trigger (some config) (g.has jsonSwitch.name))
      | _ => none)]

/-- Requests on the document database. -/
def commandRequest : List String → Except Usage Request :=
  choose [
    ("render", onConfig .render),
    ("templates", fun arguments => fromGiven [sampleSwitch, jsonSwitch] arguments fun g =>
      match g.places with
      | [collection] =>
        some (.templates collection (g.values sampleSwitch.name).getLast? (g.has jsonSwitch.name))
      | _ => none)]

/-- Requests on the surroundings. -/
def doctorRequest : List String → Except Usage Request :=
  choose [("run", bare .diagnose), ("setup-token", bare .keepToken)]

/-- What is asked for on a command line. -/
def request : List String → Except Usage Request :=
  choose [("sheets", sheetRequest), ("mongo", commandRequest), ("doctor", doctorRequest),
    ("operations", bare .operations)]

end Shell
end FormDispatch
