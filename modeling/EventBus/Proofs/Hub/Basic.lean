import EventBus.Bus
import EventBus.Proofs.Dispatch.Advance

/-!
A hub is a bus together with its clients: the references to handlers that they hold, and the flights
that they have set going. Clients and flights act one after the other, in any order.
-/

namespace EventBus

/-- A flight with the moves that it has made and all that was noticed of them. -/
structure Voyage where
  origin : Flight
  moves : List Move
  notices : List Notice
  flight : Flight
  replayed : origin.replay? moves = some (flight, notices)

namespace Voyage

/-- A voyage that has not begun. -/
def new (origin : Flight) : Voyage := ⟨origin, [], [], origin, rfl⟩

/-- The voyage with one more move, if that is possible. -/
def extend? (voyage : Voyage) (move : Move) : Option Voyage :=
  match moved : voyage.flight.step? move with
  | none => none
  | some (next, notices) => some {
      origin := voyage.origin
      moves := voyage.moves ++ [move]
      notices := voyage.notices ++ notices
      flight := next
      replayed := Flight.replay?_concat_iff.mpr
        ⟨voyage.flight, voyage.notices, notices, voyage.replayed, moved, rfl⟩ }

end Voyage

/-- A bus with its surroundings. -/
structure Hub where
  registry : Registry
  /-- How many references to each handler the clients hold. -/
  outside : Handler → Nat
  /-- The handlers that have ever come into being. -/
  born : List Handler
  voyages : List Voyage
  /-- The calls of handlers that were made without a flight. -/
  calls : List (Handler × Event)
  records : List LogRecord

/-- What a client asks of a hub. -/
inductive Request where
  /-- A handler comes into being, and the client holds the first reference to it. -/
  | create (handler : Handler)
  /-- Another reference is taken to a handler that a client holds. -/
  | clone (handler : Handler)
  /-- A client gives up a reference. -/
  | release (handler : Handler)
  | subscribe (type : EventType) (handler : Handler)
  | subscribeRetained (type : EventType) (handler : Handler)
  | subscribeMany (types : List EventType) (handler : Handler)
  | unsubscribe (handle : SubscriptionHandle)
  /-- The live subscribers of a type, each of which the client holds from now on. -/
  | snapshot (type : EventType)
  | size
  | isEmpty
  | types
  | prune
  | close
  | isClosed
  deriving DecidableEq, Repr

/-- What a hub answers. -/
inductive Answer where
  | done
  | subscribed (answer : Except BusError SubscriptionHandle)
  | subscribedMany (answer : Except BusError (List SubscriptionHandle))
  | unsubscribed (answer : Except BusError Bool)
  | snapshot (answer : Except BusError (List Subscriber))
  | size (size : Nat)
  | isEmpty (empty : Bool)
  | types (types : List EventType)
  | pruned (count : Nat)
  | closed (closed : Bool)
  | launched (answer : Except BusError Nat)

/-- What happens at a hub. -/
inductive Incident where
  | request (request : Request)
  | publishAsync (runtime : Bool) (event : Event)
  /-- A flight makes a move. -/
  | move (index : Nat) (move : Move)

namespace Hub

/-- A hub at which nothing has happened yet. -/
def new (id : Nat) : Hub := ⟨.new id, fun _ => 0, [], [], [], []⟩

/-- The number of references to a handler. -/
def owners (hub : Hub) (handler : Handler) : Nat :=
  -- Clients, flights and retained subscriptions are all owners.
  hub.outside handler
    + hub.voyages.foldl (fun count voyage => count + voyage.flight.holds handler) 0
    + hub.registry.holds handler

/-- Whether a handler has an owner. -/
def alive (hub : Hub) (handler : Handler) : Bool := 0 < hub.owners handler

/-- The hub after a client has taken a reference. -/
def take (hub : Hub) (handler : Handler) : Hub :=
  { hub with
    outside := fun other => if other = handler then hub.outside other + 1 else hub.outside other }

/-- The hub after a client has given up a reference. -/
def giveUp (hub : Hub) (handler : Handler) : Hub :=
  { hub with
    outside := fun other => if other = handler then hub.outside other - 1 else hub.outside other }

/-- The bus of a hub by its effects; `outcome` says how a handler ends that is called directly. -/
def bus (config : BusConfig) (outcome : Handler → Event → Option Cause) : Bus (StateM Hub) where
  config
  load := return (← get).registry
  store registry := modify fun hub => { hub with registry }
  owners := return (← get).owners
  hold handler := modify fun hub => hub.take handler
  drop handler := modify fun hub => hub.giveUp handler
  log record := modify fun hub => { hub with records := hub.records ++ [record] }
  call handler event := do
    modify fun hub => { hub with calls := hub.calls ++ [(handler, event)] }
    return outcome handler event
  spawn flight := modifyGet fun hub =>
    (hub.voyages.length, { hub with voyages := hub.voyages ++ [.new flight] })

/-- How a request is answered and what it changes. -/
def serve (bus : Bus (StateM Hub)) : Request → StateM Hub Answer
  | .create handler => do
    modify fun hub => { hub.take handler with born := handler :: hub.born }
    return .done
  | .clone handler => do
    bus.hold handler
    return .done
  | .release handler => do
    bus.drop handler
    return .done
  | .subscribe type handler => return .subscribed (← bus.subscribe type handler)
  | .subscribeRetained type handler => return .subscribed (← bus.subscribeRetained type handler)
  | .subscribeMany types handler => return .subscribedMany (← bus.subscribeMany types handler)
  | .unsubscribe handle => return .unsubscribed (← bus.unsubscribe handle)
  | .snapshot type => return .snapshot (← bus.snapshot type)
  | .size => return .size (← bus.size)
  | .isEmpty => return .isEmpty ((← bus.size) == 0)
  | .types => return .types (← bus.types)
  | .prune => return .pruned (← bus.prune)
  | .close => return .closed (← bus.close)
  | .isClosed => return .closed (← bus.isClosed)

/-- Clients can only pass on handlers that they hold, and no handler comes into being twice. -/
def allows (outside : Handler → Nat) (born : List Handler) : Request → Bool
  | .create handler => !born.contains handler
  | .clone handler | .release handler | .subscribe _ handler | .subscribeRetained _ handler
  | .subscribeMany _ handler => 0 < outside handler
  | _ => true

/-- The hub after an incident and the answer to it, or nothing where it cannot happen. -/
def step? (config : BusConfig) (hub : Hub) : Incident → Option (Answer × Hub)
  | .request request =>
    if allows hub.outside hub.born request then
      some (serve (bus config fun _ _ => none) request hub)
    else none
  | .publishAsync runtime event =>
    let (answer, later) := (bus config fun _ _ => none).publishAsync runtime event hub
    some (.launched answer, later)
  | .move index move =>
    -- What a flight does is noticed on its own voyage.
    if move.isGenuine then do
      let voyage ← hub.voyages[index]?
      let later ← voyage.extend? move
      return (.done, { hub with voyages := hub.voyages.set index later })
    else none

/-- The answers to a list of requests, if each of them was possible. -/
def answers? (config : BusConfig) (hub : Hub) : List Request → Option (List Answer)
  | [] => some []
  | request :: rest => do
    let (answer, later) ← hub.step? config (.request request)
    let answers ← answers? config later rest
    return answer :: answers

/-- The hubs that can come about, whatever happens in whichever order. -/
inductive Reachable (config : BusConfig) : Hub → Prop
  | new (id : Nat) : Reachable config (Hub.new id)
  | step {hub next : Hub} {incident : Incident} {answer : Answer} (before : Reachable config hub)
    (happened : hub.step? config incident = some (answer, next)) : Reachable config next

/-- The hub after a list of incidents, if each of them can happen. -/
def run? (config : BusConfig) (hub : Hub) : List Incident → Option Hub
  | [] => some hub
  | incident :: rest =>
    match hub.step? config incident with
    | none => none
    | some (_, next) => run? config next rest

/-- What holds through every incident holds through a list of them. -/
theorem run_keeps {config : BusConfig} {motive : Hub → Prop}
    (step : ∀ {hub next : Hub} {incident : Incident} {answer : Answer}, motive hub →
      hub.step? config incident = some (answer, next) → motive next)
    {hub last : Hub} {incidents : List Incident}
    (ran : hub.run? config incidents = some last) (held : motive hub) : motive last := by
  -- The first incident leads to a hub at which the others happen.
  induction incidents generalizing hub with
  | nil =>
    cases ran
    exact held
  | cons incident rest ih =>
    unfold Hub.run? at ran
    split at ran
    · cases ran
    · rename_i answer next happened
      exact ih ran (step held happened)

/-- What can happen to a hub that can come about leads to another one. -/
theorem Reachable.run? {config : BusConfig} {hub last : Hub} {incidents : List Incident}
    (reachable : Reachable config hub) (ran : hub.run? config incidents = some last) :
    Reachable config last :=
  run_keeps Reachable.step ran reachable

end Hub

end EventBus
