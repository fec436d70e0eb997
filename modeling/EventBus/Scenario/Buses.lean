import EventBus.Scenario.Calls

/-! The buses of a scenario, each of which comes into being when it is first used. -/

namespace EventBus

namespace Exec

/-- A change of one bus. -/
def modifyBus (id : Nat) (change : BusState → BusState) : Exec Unit :=
  modify fun world => { world with busStates := world.busStates.modify (id - 1) change }

/-- Makes a bus under a name. -/
def newBus (name : String) (config : BusConfig) (collects : Bool) : Exec Nat :=
  modifyGet fun world =>
    let id := world.busStates.length + 1
    let state : BusState := { registry := .new id, config, collects }
    let busNames := world.busNames.put name id
    (id, { world with busStates := world.busStates ++ [state], busNames })

/-- The bus of a name; one that is not there yet has the usual settings. -/
def busNamed (name : String) : Exec Nat := do
  match (← get).busNames.get? name with
  | some id => return id
  -- The first use of a name makes a bus.
  | none => newBus name {} false

/-- The bus that a step names. -/
def busIdOf (step : Json) : Exec Nat := busNamed ((step.textField? "bus").getD "main")

/-- A bus of the scenario by its effects on the world. -/
def busAt (id : Nat) : Exec (Bus Exec) := do
  let config := match (← get).busState? id with
    | some state => state.config
    | none => {}
  return {
    config
    load := do
      match (← get).busState? id with
      | some state => return state.registry
      | none => return .new id
    store := fun registry => modifyBus id fun state => { state with registry }
    owners := do
      let world ← get
      return world.owners
    hold, drop
    log := trace
    call
    spawn := fun flight => modifyGet fun world =>
      -- The clock of a flight starts when it is set going.
      let due := flight.timeout.map fun timeout => world.now + timeout.nanos / 1000000
      (world.flights.length,
        { world with flights := world.flights ++ [{ flight, bus := id, due }] }) }

/-- The bus that a step names, by its effects on the world. -/
def busOfStep (step : Json) : Exec (Bus Exec) := do busAt (← busIdOf step)

/-- Notes what a move of a flight makes noticeable, save calls of handlers. -/
def notice (state : FlightState) : Notice → Exec Unit
  | .concluded result => result.records.forM trace
  | .unobserved failure => do
    let type := state.flight.event.type
    match (← get).busState? state.bus with
    | some state =>
      -- A sink that collects shows its failures, and any other writes them to the log.
      if state.collects then
        let fields := ("type", Json.string type.name) :: Show.failureFields failure
        observe fun seen => { seen with sink := Json.record fields :: seen.sink }
      else trace (failure.unobserved type)
    | none => return ()
  | _ => return ()

/-- The subscribers whose handlers a move may let go. -/
def touched (flight : Flight) : Move → List Subscriber
  | .finish id _ => flight.running.filter (·.id == id)
  | .receive | .drain => (flight.channel.take 1).map Prod.fst
  | .submit => flight.queued.take 1
  | .timeOut | .depart | .abandon =>
    flight.pending ++ flight.queued ++ flight.submitted ++ flight.running
  | _ => []

/--
Makes a move of a flight, if it is possible, and answers with what is noticed of it. The handlers
whose references go with the move are released after it.
-/
def moveFlight (index : Nat) (move : Move) : Exec (List Notice) := do
  match (← get).flights[index]? with
  | none => return []
  | some state =>
    match state.flight.step? move with
    | none => return []
    | some (flight, notices) =>
      modify fun world =>
        { world with flights := world.flights.set index { state with flight } }
      -- The world has the new flight already when a handler dies.
      (touched state.flight move).forM fun subscriber => reap subscriber.handler
      notices.forM (notice state)
      return notices

end Exec

end EventBus
