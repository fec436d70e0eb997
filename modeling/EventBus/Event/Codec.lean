import EventBus.Calendar.Reader
import EventBus.Event.Basic
import EventBus.Json.Decode

/-! Events have one JSON form that is written and several forms that are read. -/

namespace EventBus

/-- The JSON form of an event. -/
def Event.encode (event : Event) : Json :=
  Json.record [
    ("event_id", .string event.id.text),
    ("event_type", .string event.type.name),
    ("payload", event.payload),
    ("occurred_at", .string event.time.text),
    ("source", Json.ofText? event.source)]

/-- The parts of an event that have been read so far. -/
structure EventDraft where
  id : Option EventId := none
  type : Option EventType := none
  payload : Option Json := none
  time : Option Moment := none
  source : Option String := none

namespace Event

/-- Reads an event type, which is any text. -/
def decodeType (json : Json) : Except DecodeError EventType :=
  (Json.decodeText json).map EventType.mk

/-- Reads an id in any of its spellings. -/
def decodeId : Json → Except DecodeError EventId
  -- A text that is no id is another fault than a value that is no text.
  | .string text =>
    match EventId.parse? text.toList with
    | some id => .ok id
    | none => .error .malformedId
  | other => .error (.wrongType other "a UUID string")

/-- Reads a moment with any offset. -/
def decodeTime : Json → Except DecodeError Moment
  | .string text =>
    match Moment.parse? text.toList with
    | some moment => .ok moment
    | none => .error .malformedTime
  | other => .error (.wrongType other "an RFC 3339 formatted date and time string")

/-- The fields of an event; only the source may be missing. -/
def reader : StructReader EventDraft Event where
  name := "Event"
  keys := ["event_id", "event_type", "payload", "occurred_at", "source"]
  start := {}
  visit draft key value :=
    -- A field that cannot be read ends the reading at once.
    match key with
    | "event_id" => (decodeId value).map fun id => { draft with id := some id }
    | "event_type" => (decodeType value).map fun type => { draft with type := some type }
    | "payload" => .ok { draft with payload := some value }
    | "occurred_at" => (decodeTime value).map fun time => { draft with time := some time }
    | _ => (Json.decodeOption Json.decodeText value).map fun source => { draft with source }
  finish draft := do
    -- Of several missing fields the first in the order of declaration is named.
    let id ← requireField "event_id" draft.id
    let type ← requireField "event_type" draft.type
    let payload ← requireField "payload" draft.payload
    let time ← requireField "occurred_at" draft.time
    return { id, type, payload, time, source := draft.source }

/-- Reads an event from an object or from an array of its five parts. -/
def decode (json : Json) : Except DecodeError Event := reader.read json

end Event

end EventBus
