import EventBus.Scenario.Step

/-!
A session carries out a script step by step. After each step it serves the flights and the waits
until nothing more can happen without a gate being opened or time passing.
-/

namespace EventBus

/-- A call that is held at a gate, with what it does once the gate is open. -/
structure ParkedJob where
  gate : String
  rest : World → Run World Unit

/-- The world together with the calls that are held in it. -/
structure Session where
  world : World
  jobs : List ParkedJob

namespace Session

variable (depth : Nat)

/-- The surroundings of the code of handlers in a flight. -/
def onPool : Surroundings := ⟨⟨.pool, true⟩, Step.perform depth⟩

/-- The surroundings of the steps of the script. -/
def onScript (step : Json) : Surroundings :=
  ⟨Step.placeOf step ⟨.script, true⟩, Step.perform depth⟩

/-- The session after a run on the pool, which may have been held. -/
def after (session : Session) : Run World Unit → Session
  | .done _ world => { session with world }
  -- The world goes on, and the rest of the run waits.
  | .held gate world rest =>
    { world := { world with parked := world.parked ++ [gate] }
      jobs := session.jobs ++ [⟨gate, rest⟩] }

/-- The call of a subscriber in a flight, up to its end. -/
def callOf (index : Nat) (event : Event) (subscriber : Subscriber) : Exec Unit := do
  -- The end of the call belongs to it, so a held call ends when it has gone on.
  let cause ← Exec.call subscriber.handler event
  let _ ← Exec.moveFlight index (.finish subscriber.id cause)

/-- A move of a flight; the handler that it starts is called at once. -/
def serve (index : Nat) (event : Event) (move : Move) : Exec Unit := do
  for notice in ← Exec.moveFlight index move do
    if let .called subscriber := notice then callOf index event subscriber

/-- The first flight that something can be done for, and what that is. -/
def nextMove? (world : World) : Option (Nat × Event × Move) :=
  (List.range world.flights.length).findSome? fun index =>
    -- Earlier flights are served first.
    world.flights[index]?.bind fun state =>
      let due := state.due.any (· ≤ world.now)
      (state.flight.next? due).map fun move => (index, state.flight.event, move)

/-- A job that goes on, now that its gate is open. -/
def resume? (session : Session) : Option Session := do
  -- Of several calls at one gate the first comes first.
  let job ← session.jobs.find? fun job => session.world.openGates.contains job.gate
  let world := { session.world with parked := session.world.parked.erase job.gate }
  let rest := session.jobs.eraseP fun other => other.gate == job.gate
  return after { world, jobs := rest } (job.rest world)

/-- The session after the next thing that can happen by itself. -/
def advance? (session : Session) : Option Session :=
  -- Calls go on before new ones begin, and waits are looked at when all flights rest.
  match session.resume? with
  | some later => some later
  | none =>
    match nextMove? session.world with
    | some (index, event, move) =>
      some (session.after (serve index event move (onPool depth) session.world))
    | none =>
      (Steps.nextWaitEnd? session.world).map fun (name, wait, event, tracker) =>
        session.after (Steps.endWait name wait event tracker (onPool depth) session.world)

/-- Lets everything happen that can happen by itself. -/
def settle : Nat → Session → Session
  | 0, session => session
  | limit + 1, session =>
    match session.advance? depth with
    | some later => settle limit later
    | none => session

/-- A runtime that ends takes the calls with it that were held on it. -/
def withoutLost (session : Session) : Session :=
  if session.world.parked.isEmpty then { session with jobs := [] } else session

/-- Carries out one step of the script. -/
def single (step : Json) (session : Session) : Json × Session :=
  -- On the thread of the script nothing is ever held.
  let (answer, world) :=
    ((Step.attempt step).shown (onScript depth step) session.world).finish
  (answer, settle depth depth (withoutLost { session with world }))

/-- Carries out steps in order. -/
def inOrder (carryOut : Json → Session → Json × Session) :
    List Json → Session → List Json × Session
  | [], session => ([], session)
  | step :: rest, session =>
    let (answer, session) := carryOut step session
    let (answers, session) := inOrder carryOut rest session
    (answer :: answers, session)

/-- Goes round and answers with the results of the last round. -/
def rounds (carryOut : Json → Session → Json × Session) (step : Json) (session : Session) :
    Json × Session :=
  -- Each step of a round is followed by everything that can happen by itself.
  (List.range (Step.times step)).foldl
    (fun (_, session) round =>
      let (answers, session) := inOrder carryOut (Step.roundOf step round) session
      (.array answers, session))
    (.null, session)

/-- Carries out a step of the script, which may be a repetition of others. -/
def step : Nat → Json → Session → Json × Session
  | 0, _, session => (.null, session)
  | limit + 1, json, session =>
    if json.textField "op" = "repeat" then rounds (step limit) json session
    else session.single depth json

/-- A list of entries under a key, if there are any. -/
def entries (key : String) (values : List Json) : List (String × Json) :=
  if values.isEmpty then [] else [(key, .array values)]

/-- The answer to a step, and what was observed during it. -/
def shown (answer : Json) (seen : Observation) : Json :=
  -- What happened on several threads has no order of its own, and is sorted.
  let drops := seen.drops.mergeSort fun a b => decide (a ≤ b)
  Json.record <| ("r", answer) :: entries "log" seen.log.reverse
    ++ entries "alog" (Json.sortByText seen.asyncLog) ++ entries "drops" (drops.map Json.string)
    ++ entries "sink" (Json.sortByText seen.sink) ++ entries "trace" seen.trace.reverse
    ++ entries "atrace" (Json.sortByText seen.asyncTrace)

/-- Carries out a step and shows it with its observations. -/
def observedStep (json : Json) (session : Session) : Json × Session :=
  -- Observations start anew with every step.
  let world := { session.world with observed := {} }
  let (answer, later) := step depth depth json { session with world }
  (shown answer later.world.observed, later)

end Session

mutual

/-- The number of values in a value and the sum of its numbers. -/
def Json.weight : Json → Nat
  | .integer value => 1 + value.natAbs
  | .array items => 1 + Json.weightItems items
  | .object fields => 1 + Json.weightFields fields
  | _ => 1

/-- The weight of a list of values. -/
def Json.weightItems : List Json → Nat
  | [] => 0
  | item :: rest => item.weight + Json.weightItems rest

/-- The weight of a list of fields. -/
def Json.weightFields : List (String × Json) → Nat
  | [] => 0
  | (_, value) :: rest => value.weight + Json.weightFields rest

end

/-- Carries out a script and answers with what each of its steps has come to. -/
def Script.run (script : Json) : Json :=
  -- No script goes deeper than its size and its numbers let it.
  let depth := 1000 * (script.weight + 1).pow 2
  let world : World := { threshold := (script.textField? "trace").bind Level.ofName? }
  let (answers, _) := Session.inOrder (Session.observedStep depth) (script.getD "steps").items
    { world, jobs := [] }
  .array answers

end EventBus
