import EventBus.Scenario.Steps.Handlers

/-! Steps that wait for events to reach a tracker. -/

namespace EventBus

namespace Steps

open Attempt

/-- Abandons the wait of a name; the tracker is let go if it was still waited for. -/
def forgetWait (name : String) : Exec Unit := do
  match (← get).waits.get? name with
  | none => return ()
  | some wait =>
    Exec.modifyTracker wait.tracker (·.forget wait.id)
    -- A wait that is over has let go of its tracker already.
    let freed := match wait.state with
      | .waiting => [wait.tracker]
      | _ => []
    Exec.releasing freed fun world => { world with waits := world.waits.remove name }

/-- Begins to wait for an event of a type. -/
def waitFor (step : Json) : Attempt Json := do
  let (handler, _) ← trackerOf step
  let name := step.textField "as"
  forgetWait name
  -- It begins within the step, so that no later event can be missed.
  let world ← get
  let due := world.now + (step.natField? "timeout_ms").getD 100
  let wait : Wait := { id := world.waitsBegun, tracker := handler, due, state := .waiting }
  set { world with waits := world.waits.put name wait, waitsBegun := world.waitsBegun + 1 }
  Exec.modifyTracker handler (·.await wait.id ⟨step.textField "type"⟩)
  return .null

/-- What a wait has come to; the answer is given once. -/
def waitResult (step : Json) : Attempt Json := do
  let name := step.textField "wait"
  let wait ← named World.waits step "wait"
  match wait.state with
  | .waiting => return Json.record [("pending", .bool true)]
  | .lost =>
    forgetWait name
    misstep .waitLost
  | .over event => do
    forgetWait name
    let shown ← match event with
      | none => pure Json.null
      | some event => Exec.eventJson event
    return Json.record [("event", shown)]

/-- Abandons a wait. -/
def dropWait (step : Json) : Attempt Json := do
  let _ ← named World.waits step "wait"
  forgetWait (step.textField "wait")
  return .null

/-- The end of a wait: it is found in the inbox of its tracker, or its time is over. -/
def waitEnd? (world : World) (wait : Wait) : Option (Option Event × Tracker) :=
  match wait.state, (world.handlerState? wait.tracker).map HandlerState.body with
  | .waiting, some (.tracker tracker) =>
    -- An event that has arrived counts even if the time is over.
    match tracker.poll wait.id with
    | (some event, later) => some (some event, later)
    | (none, later) => if wait.due ≤ world.now then some (none, later.forget wait.id) else none
  | _, _ => none

/-- The first wait that can end, and its end. -/
def nextWaitEnd? (world : World) : Option (String × Wait × Option Event × Tracker) :=
  world.waits.findSome? fun (name, wait) =>
    (waitEnd? world wait).map fun (event, tracker) => (name, wait, event, tracker)

/-- Ends a wait. -/
def endWait (name : String) (wait : Wait) (event : Option Event) (tracker : Tracker) :
    Exec Unit := do
  Exec.modifyTracker wait.tracker fun _ => tracker
  Exec.releasing [wait.tracker] fun world =>
    { world with waits := world.waits.put name { wait with state := .over event } }

end Steps

end EventBus
