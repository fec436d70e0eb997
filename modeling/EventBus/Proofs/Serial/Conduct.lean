import EventBus.Proofs.Serial.Routine

/-!
Handlers that share a state and act on their bus while they are called. What a handler does is a
tree again, but here every step of it is one of its own, so that other parties can act in between.
-/

namespace EventBus

/-- A bus with its surroundings, and the state that its handlers share. -/
structure Scene (σ : Type) where
  hub : Hub
  shared : σ

/-- How a handler ends by itself. -/
inductive Ending where
  | succeeded
  | failed (message : String)
  | panicked (message : String)
  deriving DecidableEq, Repr

/-- What an ending counts as. -/
def Ending.cause : Ending → Option Cause
  | .succeeded => none
  | .failed message => some (.failed message)
  | .panicked message => some (.panicked message)

/--
What a handler does in one call; it always comes to an end.

It goes on from the shared state that it reads, from the answers of the bus, and from the results of
its publications, of which it says how the handlers act that these call.
-/
inductive Conduct (σ : Type) where
  | done (ending : Ending)
  /-- Reads the shared state and changes it, in one step. -/
  | update (change : σ → σ) (next : σ → Conduct σ)
  /-- Makes a request of the bus; nothing happens if it is not allowed. -/
  | ask (request : Request) (next : Option Answer → Conduct σ)
  | publish (event : Event) (react : Handler → Event → Conduct σ)
    (next : Except BusError DispatchResult → Conduct σ)

/-- How all handlers act when they are called. -/
abbrev Cast (σ : Type) := Handler → Event → Conduct σ

/-- Makes a request of a hub, if that is allowed. -/
def Hub.attempt (config : BusConfig) (request : Request) : StateM Hub (Option Answer) := fun hub =>
  match hub.step? config (.request request) with
  | some (answer, later) => (some answer, later)
  | none => (none, hub)

variable {σ : Type}

namespace Routine

/-- Does something at the hub in a single step. -/
def atHub {α : Type} (task : StateM Hub α) : Routine (Scene σ) α :=
  .act fun scene => ((task scene.hub).1, { scene with hub := (task scene.hub).2 })

/-- A call of a handler with the marks of its beginning and of its end. -/
def called (depth : Nat) (handler : Handler) (event : Event) (routine : Routine (Scene σ) Ending) :
    Routine (Scene σ) Ending := do
  mark (.began depth handler event)
  let ending ← routine
  mark (.ended depth handler ending.cause)
  return ending

/-- The bus of a scene for publications at a depth, whose handlers respond with routines. -/
def bus (config : BusConfig) (depth : Nat)
    (respond : Handler → Event → Routine (Scene σ) Ending) : Bus (Routine (Scene σ)) :=
  let quiet := Hub.bus config fun _ _ => none
  { config
    load := .atHub quiet.load
    store := fun registry => .atHub (quiet.store registry)
    owners := .atHub quiet.owners
    hold := fun handler => .atHub (quiet.hold handler)
    drop := fun handler => .atHub (quiet.drop handler)
    log := fun record => .atHub (quiet.log record)
    call := fun handler event => do
      let ending ← called depth handler event (respond handler event)
      return ending.cause
    spawn := fun flight => .atHub (quiet.spawn flight) }

end Routine

/-- The routine of a handler that was called by a publication at some depth. -/
def Conduct.enact (config : BusConfig) : Nat → Conduct σ → Routine (Scene σ) Ending
  | _, .done ending => .done ending
  | depth, .update change next =>
    .step (fun scene => { scene with shared := change scene.shared }) [] fun scene =>
      enact config depth (next scene.shared)
  | depth, .ask request next => do
    let answer ← Routine.atHub (Hub.attempt config request)
    enact config depth (next answer)
  | depth, .publish event react next => do
    let respond := fun handler event => enact config (depth + 1) (react handler event)
    let answer ← (Routine.bus config (depth + 1) respond).publish event
    enact config depth (next answer)

namespace Cast

variable (config : BusConfig) (depth : Nat) (cast : Cast σ)

/-- How handlers respond to the calls of a publication at some depth. -/
def respond (handler : Handler) (event : Event) : Routine (Scene σ) Ending :=
  (cast handler event).enact config depth

/-- Publishes an event in the calling thread, at some depth inside other publications. -/
def publication (event : Event) : Routine (Scene σ) (Except BusError DispatchResult) :=
  (Routine.bus config depth (cast.respond config depth)).publish event

end Cast

namespace Routine

variable {config : BusConfig} {depth : Nat} {respond : Handler → Event → Routine (Scene σ) Ending}

/-- A call is answered by how the handler has ended. -/
theorem run_call (handler : Handler) (event : Event) (scene : Scene σ) :
    ((bus config depth respond).call handler event).run scene =
      let ended := (called depth handler event (respond handler event)).run scene
      ⟨ended.answer.cause, ended.marks, ended.world⟩ := by
  -- Handlers are the only ones to leave marks, so these are the marks of the call.
  simp only [bus, run_bind, run_pure, List.append_nil]

/-- The end of a publication, when its result is logged and its snapshot is given up. -/
def closing (config : BusConfig) (result : DispatchResult) (subscribers : List Subscriber)
    (scene : Scene σ) : Scene σ :=
  { scene with hub := (Activity.closing config result subscribers scene.hub).2 }

end Routine

end EventBus
