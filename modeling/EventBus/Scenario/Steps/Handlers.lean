import EventBus.Scenario.Arguments

/-! Steps that make handlers and events, and that deal with one handler directly. -/

namespace EventBus

namespace Steps

open Attempt

/-- Makes a handler under a name, whose former bearer is let go. -/
def makeNamed (step : Json) : Attempt Json := do
  let name := step.textField "as"
  let handler ← makeHandler step name
  -- Only the name holds the new handler when the old one dies.
  let former := ((← get).handlerNames.get? name).toList
  Exec.releasing former fun world =>
    { world.release handler with handlerNames := world.handlerNames.put name handler }
  return Json.record [("name", .string handler.name)]

/-- Lets the handler of a name go, if there is one. -/
def dropHandler (step : Json) : Attempt Json := do
  -- There may be no such handler, which is no misstep here.
  let name := step.textField "handler"
  let former := ((← get).handlerNames.get? name).toList
  Exec.releasing former fun world => { world with handlerNames := world.handlerNames.remove name }
  return .bool !former.isEmpty

/-- The number of references to a handler. -/
def owners (step : Json) : Attempt Json := do
  let state ← handlerStateOf step
  return Json.ofNat ((← get).owners state.handler)

/-- Makes an event under a name. -/
def makeEvent (step : Json) : Attempt Json := do
  let name := step.textField "as"
  let event ← eventOf step (step.textField? "as")
  modify fun world => { world with events := world.events.put name event }
  Exec.eventJson event

/-- Calls a handler directly. -/
def handleEvent (step : Json) : Attempt Json :=
  usingHandler step fun handler => do
    let event ← eventOf step none
    match ← ask (Exec.borrowing handler (Exec.call handler event)) with
    | none => return .null
    | some cause => return Json.record [("failed", .string cause.message)]

/-- The reporter in a body, and whether it can be asked for its source. -/
def reporterIn? : Body → Option (Reporter × Bool)
  | .reporter reporter => some (reporter, true)
  | .logged _ (.reporter reporter) => some (reporter, false)
  | _ => none

/-- The record that a reporter makes of an event. -/
def report (step : Json) : Attempt Json := do
  let state ← handlerStateOf step
  match reporterIn? state.body with
  | none => misstep .notReporter
  | some (reporter, direct) =>
    let event ← eventOf step none
    -- A reporter inside another handler cannot be asked.
    let source := if direct then Json.ofText? reporter.source else .null
    return Json.record [("record", ← Exec.recordJson reporter event), ("source", source)]

/-- The line that a logged handler writes for an event. -/
def line (step : Json) : Attempt Json := do
  let state ← handlerStateOf step
  match state.body with
  | .logged style _ =>
    let event ← eventOf step none
    return .string (style.line event)
  | _ => misstep .notLogged

/-- The tracker that a step names. -/
def trackerOf (step : Json) : Attempt (Handler × Tracker) := do
  let state ← handlerStateOf step
  match state.body with
  | .tracker tracker => return (state.handler, tracker)
  | _ => misstep .notTracker

/-- Shows a tracker. -/
def showTracker (step : Json) : Attempt Json := do
  let (_, tracker) ← trackerOf step
  return Json.record [
    ("events", .array (← tracker.log.mapM fun event => Exec.eventJson event)),
    ("len", Json.ofNat tracker.log.length), ("empty", .bool tracker.log.isEmpty),
    ("max_len", Json.ofNat tracker.maxLen), ("source", Json.ofText? tracker.source),
    ("waiting", Json.ofNat tracker.waiting)]

/-- Empties the log of a tracker. -/
def clearTracker (step : Json) : Attempt Json := do
  let (handler, tracker) ← trackerOf step
  Exec.modifyTracker handler Tracker.clear
  return Json.ofNat tracker.clear.log.length

end Steps

end EventBus
