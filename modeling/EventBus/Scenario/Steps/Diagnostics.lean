import EventBus.Scenario.Arguments

/-! The step that shows things as diagnostics do. -/

namespace EventBus

namespace Steps

open Attempt

/-- An optional duration as a diagnostic shows it. -/
def timeoutDebug : Option Duration → String
  | none => "None"
  | some timeout => "Some(" ++ timeout.text ++ ")"

/-- The registry of a bus as a diagnostic shows it. -/
def registryDebug (bus : Bus Exec) : Exec String := do
  let registry ← bus.load
  return registry.debug (← bus.alive)

/-- A bus as a diagnostic shows it. -/
def busDebug (id : Nat) : Exec String := do
  let bus ← Exec.busAt id
  let config := BusError.debugFields "EventBusConfig" [
    ("handler_concurrency", toString bus.config.concurrency),
    ("dispatch_timeout", timeoutDebug bus.config.timeout)]
  let flights := (← get).flights.filter (·.bus = id)
  let tasks := flights.foldl (fun count state => count + state.flight.tasks) 0
  return BusError.debugFields "EventBus" [
    ("config", config), ("registry", ← registryDebug bus), ("in_flight", toString tasks)]

/-- A subscriber as a diagnostic shows it. -/
def subscriberDebug (subscriber : Subscriber) : String :=
  BusError.debugFields "Subscriber" [
    ("id", toString subscriber.id), ("name", quoted subscriber.handler.name)]

/-- A handler as a diagnostic shows it, if its kind can be shown. -/
def handlerDebug (state : HandlerState) : Attempt String :=
  match state.body with
  | .scripted true _ =>
    return BusError.debugFields "FnHandler" [("name", quoted state.handler.name)]
  | .reporter reporter => return reporter.debug
  | _ => misstep .noDebug

/-- The thing of a kind that a step names. -/
def shownThing {α : Type} (what : String) (names : World → Names α) (step : Json) : Attempt α := do
  let name := step.textField "name"
  match (names (← get)).get? name with
  | some thing => return thing
  | none => misstep (.absent what name)

/-- Shows a thing as a diagnostic does. -/
def debug (step : Json) : Attempt Json := do
  let what := step.textField "what"
  let busName := (step.textField? "name").getD "main"
  -- Buses need not have been made before, and all other things have.
  let text ← match what with
    | "bus" => busDebug (← Exec.busNamed busName)
    | "registry" => registryDebug (← Exec.busAt (← Exec.busNamed busName))
    | "handle" => pure (← shownThing what World.handles step).debug
    | "snapshot" =>
      let snapshot ← shownThing what World.snapshots step
      pure ("[" ++ String.intercalate ", " (snapshot.subscribers.map subscriberDebug) ++ "]")
    | "publication" =>
      let held ← shownThing what World.publications step
      pure (held.publication.debug (← get).home)
    | "publisher" => pure (← shownThing what World.publishers step).publisher.debug
    | "group" => pure (← shownThing what World.groups step).group.debug
    | "handler" =>
      let handler ← shownThing what World.handlerNames step
      match (← get).handlerState? handler with
      | some state => handlerDebug state
      | none => misstep .noDebug
    | _ => misstep (.notDebuggable what)
  return .string text

end Steps

end EventBus
