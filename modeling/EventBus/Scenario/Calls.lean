import EventBus.Scenario.Ownership

/-! Calling a handler carries out its acts or does what its kind of subscriber does. -/

namespace EventBus

namespace Exec

/-- Notes what a handler says of itself. -/
def noteOf (key : String) (fields : List (String × Json)) : Exec Unit :=
  note (Json.record (("h", .string key) :: fields))

/-- Waits at a gate on the pool; on the thread of the script every gate lets pass. -/
def passGate (gate : String) : Exec Unit := do
  let world ← get
  match (← place).thread with
  | .script => return ()
  | .pool => if !world.openGates.contains gate then waitAt gate

/-- Carries out steps inside a handler, each of which is noted. -/
def carryOutSteps (key : String) : List Json → Exec Unit
  | [] => return ()
  | step :: rest => do
    let answer ← nested step
    noteOf key [("op", .string (step.textField "op")), ("r", answer)]
    carryOutSteps key rest

/-- Publishes the number below the payload of an event, until one is reached. -/
def countDown (key : String) (event : Event) : Exec Unit := do
  -- Nothing happens at zero, which ends the descent.
  match event.payload.nat? with
  | some (below + 1) =>
    let answer ← nested <| Json.record [
      ("op", .string "publish"), ("type", .string event.type.name), ("payload", Json.ofNat below)]
    noteOf key [("r", answer)]
  | _ => return ()

/-- How reading a payload goes wrong. -/
def decodeCause (kind : Option PayloadKind) (event : Event) : Option Cause :=
  match kind with
  | none => some (.failed Misstep.unknownKind.message)
  | some kind =>
    match event.data kind.Carrier with
    | .ok _ => none
    | .error error => some (.failed (BusError.serialization error.message).message)

mutual

/-- Carries out one act, and says how it ends the call, if it does. -/
def carryOut (key : String) (call : Nat) (event : Event) : Act → Exec (Option Cause)
  | .fail message => return some (.failed message)
  | .panic message => return some (.panicked message)
  | .decode kind => return decodeCause kind event
  | .gate gate => do
    passGate gate
    noteOf key [("passed", .string gate)]
    return none
  | .when payload onlyCall acts => do
    -- A condition that is not given holds, and a zero is a zero whatever its sign.
    let fits := payload.all (·.unsignedZeros == event.payload.unsignedZeros) &&
      onlyCall.all (· == call)
    if fits then carryOutAll key call event acts else return none
  | .countdown => do
    countDown key event
    return none
  | .steps steps => do
    carryOutSteps key steps
    return none
  | .idle => return none

/-- Carries out acts in order, up to the first that ends the call. -/
def carryOutAll (key : String) (call : Nat) (event : Event) : List Act → Exec (Option Cause)
  | [] => return none
  | act :: rest => do
    match ← carryOut key call event act with
    | some cause => return some cause
    | none => carryOutAll key call event rest

end

/-- A log record with a label in the place of an event's id. -/
def relabel (label : String) : LogRecord → LogRecord
  | .eventReceived type source data =>
    .eventReceived type source (data.set "event_id" (.string label))
  | other => other

/-- Notes what a reporter writes of an event, which appears under its label. -/
def traceReceived (id : EventId) (record : LogRecord) : Exec Unit := do
  -- A record that nobody observes does not use up a number.
  if ← observes record.level then trace (relabel (← label id) record)

/-- The behaviour of a handler in one of its calls. -/
def behaviour (state : HandlerState) (call : Nat) : Body → EventHandler Exec
  | .scripted _ acts =>
    { name := state.handler.name
      handle := fun event => do
        noteOf state.key (← eventFields event)
        carryOutAll state.key call event acts }
  | .reporter reporter =>
    { name := Reporter.name
      handle := fun event => (reporter.handler (traceReceived event.id)).handle event }
  | .tracker _ => Tracker.handler (modifyTracker state.handler)
  | .logged style inner => (behaviour state call inner).logged style trace
  | .silent => { name := state.handler.name, handle := fun _ => return none }

/-- Calls a handler. -/
def call (handler : Handler) (event : Event) : Exec (Option Cause) := do
  match (← get).handlerState? handler with
  | none => return none
  | some state =>
    -- The number of this call is fixed now, whatever calls follow inside it.
    modifyHandler handler fun state => { state with calls := state.calls + 1 }
    (behaviour state (state.calls + 1) state.body).handle event

end Exec

end EventBus
