import EventBus.Event.Type

/-! Why a call on a bus is refused; the failures of handlers are not errors of a call. -/

namespace EventBus

/-- Why a call is refused. -/
inductive BusError where
  | invalidSubscription (reason : String)
  | typeMismatch (expected found : EventType)
  | invalidPayload (type : EventType) (reason : String)
  | undeclaredPublication (type : EventType)
  | busClosed
  | noRuntime
  | dispatchAborted (reason : String)
  | serialization (reason : String)
  deriving DecidableEq, Repr

namespace BusError

/-- The name of the kind of an error. -/
def kind : BusError → String
  | .invalidSubscription _ => "InvalidSubscription"
  | .typeMismatch .. => "TypeMismatch"
  | .invalidPayload .. => "InvalidPayload"
  | .undeclaredPublication _ => "UndeclaredPublication"
  | .busClosed => "BusClosed"
  | .noRuntime => "NoRuntime"
  | .dispatchAborted _ => "DispatchAborted"
  | .serialization _ => "Serde"

/-- The text of an error. -/
def message : BusError → String
  | .invalidSubscription reason => "invalid subscription: " ++ reason
  | .typeMismatch expected found =>
    "type mismatch: expected=" ++ expected.name ++ ", found=" ++ found.name
  | .invalidPayload type reason => "invalid payload for " ++ type.name ++ ": " ++ reason
  | .undeclaredPublication type => "undeclared publication: " ++ type.name
  | .busClosed => "event bus closed"
  | .noRuntime => "no tokio runtime available for asynchronous dispatch"
  | .dispatchAborted reason => "dispatch aborted: " ++ reason
  | .serialization reason => "serialization error: " ++ reason

/-- Named fields in braces, as diagnostics show a structure. -/
def debugFields (name : String) (fields : List (String × String)) : String :=
  let shown := fields.map fun (key, value) => key ++ ": " ++ value
  name ++ " \x7b " ++ String.intercalate ", " shown ++ " \x7d"

/-- The error as a diagnostic shows it. -/
def debug (error : BusError) : String :=
  match error with
  | .invalidSubscription reason => debugFields error.kind [("reason", quoted reason)]
  | .typeMismatch expected found =>
    debugFields error.kind [("expected", quoted expected.name), ("found", quoted found.name)]
  | .invalidPayload type reason =>
    debugFields error.kind [("event_type", quoted type.name), ("reason", quoted reason)]
  | .undeclaredPublication type => debugFields error.kind [("event_type", quoted type.name)]
  | .busClosed | .noRuntime => error.kind
  | .dispatchAborted reason => debugFields error.kind [("reason", quoted reason)]
  | .serialization reason =>
    debugFields error.kind [("source", "Error(" ++ quoted reason ++ ", line: 0, column: 0)")]

/-- A subscription to a blank type. -/
def blankType : BusError := .invalidSubscription "empty event type"

/-- A blank type among several. -/
def blankTypeAmong (type : EventType) : BusError :=
  .invalidSubscription ("empty event type " ++ type.debug)

end BusError

end EventBus
