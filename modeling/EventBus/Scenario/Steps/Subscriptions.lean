import EventBus.Scenario.Arguments

/-! Steps that make and end subscriptions, and that ask a bus about them. -/

namespace EventBus

namespace Steps

open Attempt

/-- Makes a bus. -/
def makeBus (step : Json) : Attempt Json := do
  -- A step may leave the settings as they usually are, whatever else it says.
  let config : BusConfig :=
    if step.get? "config" = some (.bool false) then {}
    else
      { concurrency := (step.natField? "concurrency").getD 8
        timeout := (step.natField? "timeout_ms").map Duration.ofMillis }
  let _ ← Exec.newBus ((step.textField? "bus").getD "main") config
    (step.textField? "sink" = some "collect")
  return .null

/-- Shows the settings of a bus. -/
def showConfig (step : Json) : Attempt Json := do
  let bus ← Exec.busOfStep step
  let timeout := match bus.config.timeout with
    | none => Json.null
    | some timeout => Json.ofNat (timeout.nanos / 1000000)
  return Json.record [("concurrency", Json.ofNat bus.config.concurrency), ("timeout_ms", timeout)]

/-- The event type that a step names. -/
def typeOf (step : Json) : EventType := ⟨step.textField "type"⟩

/-- Subscribes a handler, weakly or retained. -/
def subscribe (step : Json) : Attempt Json :=
  usingHandler step fun handler => do
    let bus ← Exec.busOfStep step
    let answer ←
      if step.textField "mode" = "retained" then bus.subscribeRetained (typeOf step) handler
      else bus.subscribe (typeOf step) handler
    keptHandle step (← accepted answer)

/-- Subscribes a closure. -/
def subscribeFn (step : Json) : Attempt Json := do
  usingHeld (← makeClosure step) fun handler => do
    let bus ← Exec.busOfStep step
    keptHandle step (← accepted (← bus.subscribeRetained (typeOf step) handler))

/-- Subscribes a handler to several types. -/
def subscribeMany (step : Json) : Attempt Json :=
  usingHandler step fun handler => do
    let bus ← Exec.busOfStep step
    let types := (step.getD "types").items.map fun type => EventType.mk (type.text?.getD "")
    let handles ← accepted (← bus.subscribeMany types handler)
    -- Names are given to the handles in order, as far as both go.
    let names := (step.getD "as").items.filterMap Json.text?
    for (name, handle) in names.zip handles do
      modify fun world => { world with handles := world.handles.put name handle }
    return .array (handles.map Show.handle)

/-- Ends a subscription. -/
def unsubscribe (step : Json) : Attempt Json := do
  let handle ← named World.handles step "handle"
  let bus ← Exec.busOfStep step
  return .bool (← accepted (← bus.unsubscribe handle))

/-- Whether two handles are the same. -/
def sameHandle (step : Json) : Attempt Json := do
  let handle ← named World.handles step "handle"
  let other ← named World.handles step "other"
  return .bool (handle = other)

/-- The number of live subscriptions and their types. -/
def size (step : Json) : Attempt Json := do
  let bus ← Exec.busOfStep step
  return Show.size (← bus.size) (← bus.types)

/-- Drops dead subscriptions. -/
def prune (step : Json) : Attempt Json := do
  let bus ← Exec.busOfStep step
  return Json.ofNat (← bus.prune)

/-- Closes a bus, or only its registry. -/
def close (step : Json) : Attempt Json := do
  let bus ← Exec.busOfStep step
  return .bool (← if step.textField "via" = "registry" then bus.closeRegistry else bus.close)

/-- Whether a bus is closed. -/
def isClosed (step : Json) : Attempt Json := do
  let bus ← Exec.busOfStep step
  return .bool (← bus.isClosed)

/-- Takes a snapshot of the subscribers of a type, and keeps it if it gets a name. -/
def takeSnapshot (step : Json) : Attempt Json := do
  let id ← Exec.busIdOf step
  let bus ← Exec.busAt id
  let subscribers ← accepted (← bus.snapshot (typeOf step))
  let handlers := subscribers.map Subscriber.handler
  match step.textField? "as" with
  | none => bus.dropSnapshot subscribers
  | some name =>
    -- The references pass to the name, whose former snapshot is let go of after that.
    let former := ((← get).snapshots.get? name).elim [] HeldSnapshot.handlers
    Exec.releasing former fun world =>
      { handlers.foldl World.release world with
        snapshots := world.snapshots.put name ⟨id, subscribers⟩ }
  return Show.snapshot subscribers

/-- Shows a snapshot. -/
def showSnapshot (step : Json) : Attempt Json := do
  return Show.snapshot (← named World.snapshots step "snapshot").subscribers

/-- Drops a snapshot, if there is one of that name. -/
def dropSnapshot (step : Json) : Attempt Json := do
  -- There may be no such snapshot, which is no misstep here.
  let name := step.textField "snapshot"
  let former := (← get).snapshots.get? name
  Exec.releasing (former.elim [] HeldSnapshot.handlers) fun world =>
    { world with snapshots := world.snapshots.remove name }
  return .bool former.isSome

/-- Which subscribers of a snapshot are a given handler. -/
def snapshotIs (step : Json) : Attempt Json := do
  let snapshot ← named World.snapshots step "snapshot"
  usingHandler step fun handler =>
    return .array (snapshot.subscribers.map fun subscriber => .bool (subscriber.handler == handler))

/-- Calls the handlers of a snapshot one by one, outside of any dispatch. -/
def invokeSnapshot (step : Json) : Attempt Json := do
  let snapshot ← named World.snapshots step "snapshot"
  let event ← eventOf step none
  let answers ← snapshot.subscribers.mapM fun subscriber => do
    let cause ← Exec.call subscriber.handler event
    return Json.ofText? (cause.map Cause.message)
  return .array answers

/-- Publishes an event. -/
def publish (step : Json) : Attempt Json := do
  let event ← eventOf step none
  let bus ← Exec.busOfStep step
  return Show.result (← accepted (← bus.publish event))

end Steps

end EventBus
