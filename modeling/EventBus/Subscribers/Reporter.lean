import EventBus.Dispatch.Handling
import EventBus.Json.Text

/-! A reporter flattens every event into one record and writes it to the log. -/

namespace EventBus

/-- A subscriber that writes the events it sees to the log. -/
structure Reporter where
  source : Option String := none
  deriving DecidableEq, Repr

namespace Reporter

/-- The fields of a payload; a value without fields becomes the one field `value`. -/
def payloadFields : Json → List (String × Json)
  | .object fields => fields
  | other => [("value", other)]

/-- The record of an event, where the data on the event take the place of payload fields. -/
def record (reporter : Reporter) (event : Event) : Json :=
  -- Of two fields with one key the later counts.
  Json.record (payloadFields event.payload ++ [
    ("event_type", .string event.type.name),
    ("event_id", .string event.id.text),
    ("event_source", Json.ofText? reporter.source),
    ("publisher", Json.ofText? event.source)])

/-- What a reporter writes to the log of an event. -/
def received (reporter : Reporter) (event : Event) : LogRecord :=
  .eventReceived event.type reporter.source (reporter.record event)

/-- The reporter as a diagnostic shows it. -/
def debug (reporter : Reporter) : String :=
  let source := match reporter.source with
    | none => "None"
    | some source => "Some(" ++ quoted source ++ ")"
  BusError.debugFields "ReportingSubscriber" [("event_source", source)]

/-- The name of every reporter. -/
def name : String := "reporter"

/-- The reporter as a handler, which never fails. -/
def handler {m : Type → Type} [Monad m] (reporter : Reporter) (log : LogRecord → m Unit) :
    EventHandler m where
  name := name
  handle event := do
    log (reporter.received event)
    return none

end Reporter

end EventBus
