import EventBus.Json.Parser
import EventBus.Scenario.Session

/-! Questions that need no scenario: what a type, an event or an error looks like. -/

namespace EventBus

namespace Inquiry

/-- An ordering as a number. -/
def orderJson : Ordering → Json
  | .lt => .integer (-1)
  | .eq => .integer 0
  | .gt => .integer 1

/-- What an event type looks like. -/
def eventType (json : Json) : Json :=
  let type : EventType := ⟨json.textField "name"⟩
  let other : EventType := ⟨json.textField "other"⟩
  Json.record [
    ("str", .string type.name), ("ref", .string type.name), ("borrow", .string type.name),
    ("display", .string type.name), ("debug", .string type.debug), ("empty", .bool type.isBlank),
    ("json", .string (Json.string type.name).text), ("equal", .bool (type = other)),
    ("copy", .bool true), ("cmp", orderJson (type.compare other))]

/-- A value that could not be read as an answer shows it. -/
def unreadable (error : DecodeError) : Json :=
  (Fault.refused (.serialization error.message)).json

/-- Reads an event type. -/
def eventTypeJson (json : Json) : Json :=
  match Event.decodeType (json.getD "value") with
  | .ok type => Json.record [("str", .string type.name)]
  | .error error => unreadable error

/-- An event that could not be read, whatever the reason. -/
def noEvent : Json := Json.record [("error", .string (BusError.serialization "").kind)]

/-- Reads an event and writes it again. -/
def eventJson (json : Json) : Json :=
  match Event.decode (json.getD "event") with
  | .error _ => noEvent
  | .ok event =>
    Json.record [
      ("event", event.encode), ("id", .string event.id.text),
      ("at", .string event.time.offsetText), ("source", Json.ofText? event.source)]

/-- What two new events have in common with what was asked for, and with each other. -/
def freshEvent (json : Json) : Json :=
  let make (seed : Nat) : Event :=
    Event.new ⟨EventId.random seed, .epoch⟩ ⟨json.textField "type"⟩ (json.getD "payload")
  -- Two seeds stand for two moments of making.
  let first := make 0
  let second := make 1
  let keys := match first.encode with
    | .object fields => fields.map Prod.fst
    | _ => []
  let same := match Event.decode first.encode with
    | .ok event => decide (event = first)
    | .error _ => false
  Json.record [
    ("keys", Json.ofTexts keys), ("distinct", .bool (first.id ≠ second.id)),
    ("version", .string (toString first.id.version)),
    ("ordered", .bool (first.time.text ≤ second.time.text)), ("same", .bool same),
    ("source", Json.ofText? first.source), ("payload", first.payload),
    ("type", .string first.type.name)]

/-- Reads the payload of an event as a value of some kind. -/
def decode (json : Json) : Json :=
  match PayloadKind.ofName? (json.textField "kind") with
  | none => (Fault.misstep .unknownKind).json
  | some kind =>
    let event := Event.new ⟨EventId.random 0, .epoch⟩ ⟨json.textField "type"⟩ (json.getD "payload")
    match event.data kind.Carrier with
    | .ok value => Json.record [("ok", Steps.valueJson value)]
    | .error error => unreadable error

/-- What a reporter makes of an event. -/
def report (json : Json) : Json :=
  match Event.decode (json.getD "event") with
  | .error _ => noEvent
  | .ok event =>
    let reporter : Reporter := ⟨json.textField? "source"⟩
    let handled := ((reporter.handler (m := Id) fun _ => ()).handle event).isNone
    Json.record [
      ("record", reporter.record event), ("source", Json.ofText? reporter.source),
      ("name", .string Reporter.name), ("handled", .bool handled)]

/-- The error of a kind with the given details. -/
def errorOf? (json : Json) : Option BusError :=
  let reason := json.textField "reason"
  let type : EventType := ⟨json.textField "type"⟩
  match json.textField "kind" with
  | "InvalidSubscription" => some (.invalidSubscription reason)
  | "TypeMismatch" => some (.typeMismatch ⟨json.textField "expected"⟩ ⟨json.textField "found"⟩)
  | "InvalidPayload" => some (.invalidPayload type reason)
  | "UndeclaredPublication" => some (.undeclaredPublication type)
  | "BusClosed" => some .busClosed
  | "NoRuntime" => some .noRuntime
  | "DispatchAborted" => some (.dispatchAborted reason)
  | "Serde" => some (.serialization reason)
  | _ => none

/-- What an error looks like. -/
def busError (json : Json) : Json :=
  match errorOf? json with
  | none => (Fault.misstep .unknownKind).json
  | some error =>
    Json.record [("display", .string error.message), ("debug", .string error.debug)]

/-- The cause of a kind with the given details; the last context is what it says of itself. -/
def causeOf? (json : Json) : Option Cause :=
  let message := json.textField "message"
  match json.textField "kind" with
  | "Failed" =>
    -- The outermost context speaks for the whole chain.
    let context := (json.getD "context").items.filterMap Json.text?
    some (.failed (context.getLast?.getD message))
  | "Panicked" => some (.panicked message)
  | "TimedOut" =>
    let seconds := (json.natField? "secs").getD 0
    some (.timedOut (.ofParts seconds ((json.natField? "nanos").getD 0)))
  | _ => none

/-- What the failure of a handler looks like. -/
def handlerError (json : Json) : Json :=
  match causeOf? json with
  | none => (Fault.misstep .unknownKind).json
  | some cause => Json.record [("display", .string cause.message)]

end Inquiry

/-- The answer to an inquiry or a script. -/
def answer (json : Json) : Json :=
  match json.textField "op" with
  | "script" => Script.run json
  | "event_type" => Inquiry.eventType json
  | "event_type_json" => Inquiry.eventTypeJson json
  | "event_json" => Inquiry.eventJson json
  | "fresh_event" => Inquiry.freshEvent json
  | "decode" => Inquiry.decode json
  | "report" => Inquiry.report json
  | "bus_error" => Inquiry.busError json
  | "handler_error" => Inquiry.handlerError json
  | op => (Fault.misstep (.unknownOp op)).json

/-- The answer to a line of text, which should hold an inquiry or a script. -/
def answerLine (line : String) : String :=
  match Json.parse? line with
  | some json => (answer json).text
  | none => (Fault.misstep .notJson).json.text

end EventBus
