import EventBus.Error
import EventBus.Json.Text

/-! What a bus and its subscribers write to the log, as records with a level, a text and fields. -/

namespace EventBus

/-- How urgent a record is. -/
inductive Level where
  | error | warn | info | debug | trace
  deriving DecidableEq, Repr

namespace Level

/-- The name of a level. -/
def name : Level → String
  | .error => "error"
  | .warn => "warn"
  | .info => "info"
  | .debug => "debug"
  | .trace => "trace"

/-- The level of the given name, in letters of either case. -/
def ofName? (name : String) : Option Level :=
  [error, warn, info, debug, trace].find? fun level => level.name == name.toLower

/-- The position of a level, the most urgent first. -/
def rank : Level → Nat
  | .error => 0
  | .warn => 1
  | .info => 2
  | .debug => 3
  | .trace => 4

/-- A level is written when it is at least as urgent as the threshold. -/
def reaches (level threshold : Level) : Bool := level.rank ≤ threshold.rank

end Level

/-- One record of the log. -/
inductive LogRecord where
  | singleOwner (type : EventType) (handler : String)
  | subscribed (type : EventType) (subscription : Nat) (handler : String)
  | unsubscribed (type : EventType) (subscription : Nat)
  | registryClosed (released : Nat)
  | busClosed
  | dispatched (type : EventType) (invoked skipped failed : Nat)
  | handlerFailed (type : EventType) (handler error : String)
  | noSubscribers (type : EventType)
  | publicationRejected (type : EventType) (error : BusError)
  | groupCleared (total removed : Nat)
  | unobservedFailure (type : EventType) (subscription : Nat) (handler error : String)
  | eventReceived (type : EventType) (source : Option String) (data : Json)
  | line (level : Level) (handler text : String)

namespace LogRecord

/-- The level of a record. -/
def level : LogRecord → Level
  -- The course of dispatches is the least urgent, and failures that nobody awaits are warnings.
  | .dispatched .. | .noSubscribers _ => .trace
  | .unobservedFailure .. => .warn
  | .eventReceived .. => .info
  | .line level _ _ => level
  | _ => .debug

/-- The text of a record. -/
def message : LogRecord → String
  | .singleOwner .. => "weakly held handler has a single owner"
  | .subscribed .. => "subscribed"
  | .unsubscribed .. => "unsubscribed"
  | .registryClosed _ => "registry closed"
  | .busClosed => "event bus closed"
  | .dispatched .. => "dispatched"
  | .handlerFailed .. => "handler failed"
  | .noSubscribers _ => "no subscribers"
  | .publicationRejected .. => "publication rejected"
  | .groupCleared .. => "subscription group cleared"
  | .unobservedFailure .. => "unobserved handler failure"
  | .eventReceived .. => "event received"
  | .line _ _ text => text

/-- The fields of a record. -/
def fields : LogRecord → List (String × String)
  | .singleOwner type handler => [("event_type", type.name), ("handler", handler)]
  | .subscribed type subscription handler =>
    [("event_type", type.name), ("subscription", toString subscription), ("handler", handler)]
  | .unsubscribed type subscription =>
    [("event_type", type.name), ("subscription", toString subscription)]
  | .registryClosed released => [("released", toString released)]
  | .busClosed => []
  | .dispatched type invoked skipped failed =>
    [("event_type", type.name), ("invoked", toString invoked), ("skipped", toString skipped),
      ("failed", toString failed)]
  | .handlerFailed type handler error =>
    [("event_type", type.name), ("handler", handler), ("error", error)]
  | .noSubscribers type => [("event_type", type.name)]
  | .publicationRejected type error => [("event_type", type.name), ("error", error.message)]
  | .groupCleared total removed => [("total", toString total), ("removed", toString removed)]
  | .unobservedFailure type subscription handler error =>
    [("event_type", type.name), ("subscription", toString subscription), ("handler", handler),
      ("error", error)]
  | .eventReceived type source data =>
    [("event_type", type.name), ("event_source", source.getD "-"), ("event_data", data.text)]
  | .line _ handler _ => [("handler", handler)]

end LogRecord

end EventBus
