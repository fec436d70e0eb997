import EventBus.Scenario.Arguments

/-! Steps that publish asynchronously, deal with tokens, and move time and gates. -/

namespace EventBus

namespace Steps

open Attempt

/-- A token is dropped, which detaches its flight. -/
def dropToken (token : HeldToken) : Exec Unit := do
  let _ ← Exec.moveFlight token.flight .drop

/-- The flight of a number. -/
def flightOf (index : Nat) : Attempt Flight := do
  match (← get).flights[index]? with
  | some state => return state.flight
  | none => misstep (.absent "token" "")

/-- Keeps the token of a new flight under the name that a step gives it, or drops it. -/
def keepToken (step : Json) (index : Nat) : Attempt Json := do
  -- The answer shows the token as it was when the flight began.
  let shown := Show.token (← flightOf index)
  let token : HeldToken := ⟨index, false⟩
  match step.textField? "as" with
  | none => dropToken token
  | some name =>
    -- The new token has the name already when the old one is dropped.
    let former := (← get).tokens.get? name
    modify fun world => { world with tokens := world.tokens.put name token }
    former.forM fun token => dropToken token
  return shown

/-- Publishes an event asynchronously. -/
def publishAsync (step : Json) : Attempt Json := do
  let event ← eventOf step none
  let bus ← Exec.busOfStep step
  let runtime := (← Exec.place).runtime
  keepToken step (← accepted (← bus.publishAsync runtime event))

/-- The token that a step names, unless it can only be joined. -/
def freeToken (step : Json) : Attempt HeldToken := do
  let token ← named World.tokens step "token"
  if token.joining then misstep (.absent "token" (step.textField "token")) else return token

/-- Shows a token. -/
def showToken (step : Json) : Attempt Json := do
  let token ← freeToken step
  return Show.token (← flightOf token.flight)

/-- Cancels a flight. -/
def cancel (step : Json) : Attempt Json := do
  let token ← freeToken step
  let _ ← Exec.moveFlight token.flight .cancel
  return Show.token (← flightOf token.flight)

/-- Forgets the token of a name. -/
def forgetToken (name : String) : Exec Unit :=
  modify fun world => { world with tokens := world.tokens.remove name }

/-- Detaches a flight. -/
def detach (step : Json) : Attempt Json := do
  let token ← freeToken step
  forgetToken (step.textField "token")
  dropToken token
  return .null

/-- Takes the result of a flight, or leaves the token to be joined again. -/
def join (step : Json) : Attempt Json := do
  let name := step.textField "token"
  let token ← named World.tokens step "token"
  -- The move is only possible once there is a result, or will never be one.
  match ← Exec.moveFlight token.flight .join with
  | [.answered result] =>
    forgetToken name
    return Show.result result
  | [.aborted] =>
    forgetToken name
    throw (.refused (.dispatchAborted "dispatch task ended without a result"))
  | _ =>
    modify fun world =>
      { world with tokens := world.tokens.put name { token with joining := true } }
    return Json.record [("pending", .bool true)]

/-- Whether nothing of a bus is under way. -/
def drain (step : Json) : Attempt Json := do
  let id ← Exec.busIdOf step
  let world ← get
  let busy := world.flights.any fun state => state.bus = id && state.flight.tasks > 0
  return Json.record [("drained", .bool !busy)]

/-- Opens a gate for good and counts the calls that it held. -/
def openGate (step : Json) : Attempt Json := do
  -- The calls behind the gate go on after the step.
  let gate := step.textField "gate"
  let world ← get
  set { world with openGates := gate :: world.openGates }
  return Json.ofNat (world.parked.count gate)

/-- Lets time pass. -/
def advance (step : Json) : Attempt Json := do
  modify fun world => { world with now := world.now + (step.natField? "ms").getD 0 }
  return .null

/-- Ends the runtime: flights are abandoned, and waits that are not over are lost. -/
def shutDown : Attempt Json := do
  -- Flights that have delivered their results are not touched by their abandonment.
  for index in List.range (← get).flights.length do
    let _ ← Exec.moveFlight index .abandon
  let lost := (← get).waits.filterMap fun (_, wait) =>
    match wait.state with
    | .waiting => some (wait.id, wait.tracker)
    | _ => none
  -- Nobody is left to look into the inboxes.
  for (id, tracker) in lost do
    Exec.modifyTracker tracker (·.forget id)
  Exec.releasing (lost.map Prod.snd) fun world =>
    { world with
      parked := []
      waits := world.waits.map fun (name, wait) =>
        match wait.state with
        | .waiting => (name, { wait with state := .lost })
        | _ => (name, wait) }
  return .null

end Steps

end EventBus
