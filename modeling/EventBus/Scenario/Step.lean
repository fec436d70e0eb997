import EventBus.Scenario.Steps.Contracts
import EventBus.Scenario.Steps.Diagnostics
import EventBus.Scenario.Steps.Groups
import EventBus.Scenario.Steps.Stress
import EventBus.Scenario.Steps.Subscriptions
import EventBus.Scenario.Steps.Waits

/-! A step is carried out by the name of its operation; some operations cannot be nested. -/

namespace EventBus

namespace Step

open Attempt Steps

/-- The operations that move time or wait, which only the script itself can do. -/
def topOnly : List String :=
  ["join", "drain", "advance", "wait_for", "wait_result", "wait_drop", "shutdown_runtime"]

/-- Carries out a step that is no repetition. -/
def attempt (step : Json) : Attempt Json :=
  match step.textField "op" with
  -- Buses and subscriptions.
  | "bus" => makeBus step
  | "config" => showConfig step
  | "subscribe" => subscribe step
  | "subscribe_fn" => subscribeFn step
  | "subscribe_many" => subscribeMany step
  | "unsubscribe" => unsubscribe step
  | "same_handle" => sameHandle step
  | "handlers" => takeSnapshot step
  | "snapshot" => showSnapshot step
  | "drop_snapshot" => dropSnapshot step
  | "snapshot_is" => snapshotIs step
  | "snapshot_invoke" => invokeSnapshot step
  | "len" => size step
  | "prune" => prune step
  | "close" => close step
  | "is_closed" => isClosed step
  | "publish" => publish step
  -- Handlers and events.
  | "handler" => makeNamed step
  | "drop_handler" => dropHandler step
  | "owners" => owners step
  | "event" => makeEvent step
  | "handle_event" => handleEvent step
  | "report" => report step
  | "line" => line step
  | "tracker" => showTracker step
  | "tracker_clear" => clearTracker step
  -- Flights, time and waits.
  | "publish_async" => publishAsync step
  | "token" => showToken step
  | "cancel" => cancel step
  | "detach" => detach step
  | "join" => join step
  | "drain" => drain step
  | "open" => openGate step
  | "advance" => advance step
  | "shutdown_runtime" => shutDown
  | "wait_for" => waitFor step
  | "wait_result" => waitResult step
  | "wait_drop" => dropWait step
  -- Publications, publishers and groups.
  | "publication" => makePublication step
  | "pub_event" => makePublicationEvent step
  | "pub_check" => checkPublication step
  | "pub_decode" => decodePublication step
  | "publisher" => makePublisher step
  | "declare" => declare step
  | "publications" => showPublications step
  | "declares" => declares step
  | "publisher_subscribe" => subscribeByPublisher step
  | "trigger" => trigger step
  | "publisher_publish" => publishByPublisher step
  | "publisher_publish_async" => publishAsyncByPublisher step
  | "group" => makeGroup step
  | "group_drop" => endGroup step
  | "group_subscribe" => subscribeInGroup step
  | "group_subscribe_fn" => subscribeFnInGroup step
  | "group_remove" => removeMember step
  | "group_clear" => clearGroup step
  | "group_contains" => groupContains step
  | "group_show" => showGroup step
  -- Everything else.
  | "debug" => debug step
  | "stress" => stress step
  | op => misstep (.unknownOp op)

mutual

/-- A step in a round: its number stands for a mark inside texts and for a text of its own. -/
def inRound (round : Nat) : Json → Json
  -- The mark for the number has to be the whole text.
  | .string "\x7b#\x7d" => Json.ofNat round
  | .string text => .string (text.replace "\x7bi\x7d" (toString round))
  | .array items => .array (inRoundItems round items)
  | .object fields => .object (inRoundFields round fields)
  | other => other

/-- The items of an array in a round. -/
def inRoundItems (round : Nat) : List Json → List Json
  | [] => []
  | item :: rest => inRound round item :: inRoundItems round rest

/-- The fields of an object in a round. -/
def inRoundFields (round : Nat) : List (String × Json) → List (String × Json)
  | [] => []
  | (key, value) :: rest => (key, inRound round value) :: inRoundFields round rest

end

/-- How often a repetition goes round. -/
def times (step : Json) : Nat := (step.natField? "times").getD 0

/-- The steps of one round of a repetition. -/
def roundOf (step : Json) (round : Nat) : List Json := (step.getD "ops").items.map (inRound round)

/-- Goes round inside a handler and answers with the results of the last round. -/
def repeatNested (step : Json) : Exec Json := do
  let mut last := Json.null
  for round in List.range (times step) do
    last := .array (← (roundOf step round).mapM Exec.nested)
  return last

/-- Where a step is carried out: some ask to be outside of the runtime. -/
def placeOf (step : Json) (place : Place) : Place :=
  { place with runtime := place.runtime && step.get? "no_runtime" ≠ some (.bool true) }

/-- Carries out a step inside a handler. -/
def nested (step : Json) : Exec Json :=
  -- Repetitions go round here without anything else happening in between.
  let op := step.textField "op"
  if op = "repeat" then repeatNested step
  else if topOnly.contains op then (misstep .topOnly : Attempt Json).shown
  else (attempt step).shown

/-- Carries out nested steps, down to a given depth. -/
def perform : Nat → Place → Json → World → Run World Json
  | 0, _, _, world => .done .null world
  -- What the step sets off is one level deeper.
  | depth + 1, place, step, world =>
    nested step { place := placeOf step place, nested := perform depth } world

end Step

end EventBus
