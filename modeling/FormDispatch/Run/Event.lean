/-
# Events

What the library reports while it works. Each event has a level, a name and the facts that belong to
it; none of them ever holds a token.

Specification, section E3.
-/

import FormDispatch.Run.State

namespace FormDispatch

/-- How much an event matters. -/
inductive Level where
  | debug
  | info
  | warning
deriving DecidableEq

/-- The name of a level. -/
def Level.name : Level → String
  | debug => "debug"
  | info => "info"
  | warning => "warning"

/-- What is reported. -/
inductive Event where
  /-- bindings of a field were filled -/
  | fieldFilled (field : String) (count : Nat)
  /-- a run entered a state -/
  | stateEntered (operation : String) (previous state : RunState)
  /-- a run failed at a stage -/
  | runFailed (operation : String) (stage : RunState) (failure : Failure)
  /-- a run began -/
  | runStarted (operation : String)
  /-- a command took defaults for fields -/
  | commandDefaulted (operation : String) (fields : List String)
  /-- a command goes to the database; its first key, if it has one -/
  | commandSent (command : Option String)
  /-- a request goes to the service -/
  | requestSent (method url : String)
  /-- the service has answered -/
  | responseReceived (method url : String) (status : Nat)
  /-- a lookup began -/
  | lookupStarted (trigger : String)
  /-- the service refused a lookup -/
  | lookupRefused (trigger : String) (status : Option Int) (message : String)
  /-- a lookup failed by a failure of the given name -/
  | lookupFailed (trigger failure message : String)
  /-- a listing was cut off -/
  | filesTruncated (returned pageSize : Nat)
  /-- a request could not be sent -/
  | transportFailed (method url failure : String)
  /-- an answer was too large -/
  | answerTooLarge (url : String) (limit : Int)
deriving DecidableEq

namespace Event

/-- The level of an event. -/
def level : Event → Level
  | fieldFilled .. | stateEntered .. => .debug
  | runStarted _ | commandDefaulted .. | commandSent _ | requestSent .. | responseReceived ..
  | lookupStarted _ => .info
  | runFailed .. | lookupRefused .. | lookupFailed .. | filesTruncated .. | transportFailed ..
  | answerTooLarge .. => .warning

/-- The name of an event. -/
def name : Event → String
  | fieldFilled .. => "substitution.field"
  | stateEntered .. => "execution.state"
  | runFailed .. => "execution.failed"
  | runStarted _ => "execution.start"
  | commandDefaulted .. => "command.defaulted"
  | commandSent _ => "dispatch.command"
  | requestSent .. => "dispatch.request"
  | responseReceived .. => "dispatch.response"
  | lookupStarted _ => "lookup.start"
  | lookupRefused .. | lookupFailed .. => "lookup.failed"
  | filesTruncated .. => "files.truncated"
  | transportFailed .. => "transport.error"
  | answerTooLarge .. => "transport.too_large"

/-- The facts of an event. -/
def facts : Event → Members
  | fieldFilled field count => [("field", .str field), ("bindings", .int count)]
  | stateEntered operation previous state =>
    [("operation", .str operation), ("previous", .str previous.name), ("state", .str state.name)]
  | runFailed operation stage failure =>
    [("operation", .str operation), ("stage", .str stage.name), ("error", .str failure.name),
      ("message", .str failure.message)]
  | runStarted operation => [("operation", .str operation)]
  | commandDefaulted operation fields =>
    [("operation", .str operation), ("fields", .arr (fields.map .str))]
  | commandSent command => [("command", .ofText? command)]
  | requestSent method url => [("method", .str method), ("url", .str url)]
  | responseReceived method url status =>
    [("method", .str method), ("url", .str url), ("status", .int status)]
  | lookupStarted trigger => [("trigger", .str trigger)]
  | lookupRefused trigger status message =>
    [("trigger", .str trigger), ("status", .ofOption (status.map .int)), ("message", .str message)]
  | lookupFailed trigger failure message =>
    [("trigger", .str trigger), ("error", .str failure), ("message", .str message)]
  | filesTruncated returned pageSize =>
    [("returned", .int returned), ("page_size", .int pageSize)]
  | transportFailed method url failure =>
    [("method", .str method), ("url", .str url), ("error", .str failure)]
  | answerTooLarge url limit => [("url", .str url), ("limit", .int limit)]

/-- The transition that an event tells of, if it does: the state before and the state entered. -/
def transition? : Event → Option (RunState × RunState)
  | stateEntered _ previous state => some (previous, state)
  | _ => none

/-- An event as one document. -/
def document (e : Event) : Document :=
  .obj (e.facts ++ [("event", .str e.name), ("log_level", .str e.level.name)])

/-- An event as a line of text, its facts in the order of their names. -/
def line (e : Event) : String :=
  e.document.sorted.written .inline

end Event
end FormDispatch
