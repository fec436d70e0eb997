import EventBus.Scenario.Arguments

/-! The step that has many clients subscribe, unsubscribe and publish on one type. -/

namespace EventBus

namespace Steps

open Attempt

/-- The type that all clients use. -/
def stressType : EventType := ⟨"stress"⟩

/-- One round of a client: two subscriptions that are one, and two attempts to end it. -/
def stressRound (bus : Bus Exec) (handler : Handler) : Attempt Nat := do
  -- The second subscription is the first one, so it can be ended only once.
  let first ← accepted (← bus.subscribe stressType handler)
  let second ← accepted (← bus.subscribe stressType handler)
  let ended ← accepted (← bus.unsubscribe first)
  let again ← accepted (← bus.unsubscribe second)
  return if first = second ∧ ended ∧ !again then 0 else 1

/-- The rounds of one client, each with an event; odd outcomes are counted. -/
def stressRounds (bus : Bus Exec) (handler : Handler) : Nat → Attempt Nat
  | 0 => return 0
  | rounds + 1 => do
    let odd ← stressRound bus handler
    let result ← accepted (← bus.publish (Event.new (← Exec.stamp) stressType .null))
    let others ← stressRounds bus handler rounds
    return odd + others + if result.isSuccess then 0 else 1

/-- The rounds of all clients. -/
def stressAll (bus : Bus Exec) (rounds : Nat) : Nat → Attempt Nat
  | 0 => return 0
  | actors + 1 => do
    let odd ← usingHeld (← Exec.newHandler "actor" "actor" .silent []) fun handler =>
      stressRounds bus handler rounds
    return odd + (← stressAll bus rounds actors)

/-- Lets clients work on a bus while one handler stays subscribed, and counts its calls. -/
def stress (step : Json) : Attempt Json := do
  let bus ← Exec.busOfStep step
  usingHeld (← Exec.newHandler "stable" "stable" .silent []) fun stable => do
    -- It is called once for every event, and is alone again when all clients have gone.
    let _ ← accepted (← bus.subscribe stressType stable)
    let odd ← stressAll bus ((step.natField? "rounds").getD 0) ((step.natField? "actors").getD 0)
    let hits := ((← get).handlerState? stable).elim 0 HandlerState.calls
    let left ← accepted (← bus.snapshot stressType)
    bus.dropSnapshot left
    return Json.record [
      ("hits", Json.ofNat hits), ("odd", Json.ofNat odd), ("left", Json.ofNat left.length)]

end Steps

end EventBus
