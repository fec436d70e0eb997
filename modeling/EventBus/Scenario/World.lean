import EventBus.Contract.Kinds
import EventBus.Contract.Publication
import EventBus.Scenario.Act
import EventBus.Scenario.Names
import EventBus.Subscribers.Logged
import EventBus.Subscribers.Reporter
import EventBus.Subscribers.Tracker
import EventBus.SubscriptionGroup

/-!
The world of a scenario holds its buses, its handlers with what they do, the things that the script
has named, the flights under way, and what has been observed during the current step.
-/

namespace EventBus

/-- What a handler does when it is called. -/
inductive Body where
  /-- It logs the event and carries out acts; a closure is one that shows itself as such. -/
  | scripted (closure : Bool) (acts : List Act)
  | reporter (reporter : Reporter)
  | tracker (tracker : Tracker)
  /-- It writes a line before the body inside it. -/
  | logged (style : LineStyle) (inner : Body)
  /-- It does nothing that can be seen. -/
  | silent

namespace Body

/-- Whether the death of a handler is observed, which it is for scripted ones. -/
def isScripted : Body → Bool
  | .scripted .. => true
  | .logged _ inner => inner.isScripted
  | _ => false

/-- The body with its tracker changed, if it is one. -/
def modifyTracker (change : Tracker → Tracker) : Body → Body
  | .tracker current => .tracker (change current)
  | other => other

end Body

/-- A handler with all that the scenario knows of it. -/
structure HandlerState where
  handler : Handler
  /-- The name under which it appears in the observations. -/
  key : String
  body : Body
  /-- The steps that its death sets off. -/
  onDrop : List Json
  calls : Nat
  gone : Bool

/-- A bus with its settings; `collects` says whether its failure sink keeps what it gets. -/
structure BusState where
  registry : Registry
  config : BusConfig
  collects : Bool

/-- A flight with the bus that it left from and the moment of its deadline. -/
structure FlightState where
  flight : Flight
  bus : Nat
  due : Option Nat

/-- A token under a name; once it has been joined in vain it can only be joined again. -/
structure HeldToken where
  flight : Nat
  joining : Bool

/-- A snapshot that the script keeps. -/
structure HeldSnapshot where
  bus : Nat
  subscribers : List Subscriber

/-- The handlers that a snapshot holds. -/
def HeldSnapshot.handlers (snapshot : HeldSnapshot) : List Handler :=
  snapshot.subscribers.map Subscriber.handler

/-- A publication of any kind. -/
structure HeldPublication where
  kind : PayloadKind
  publication : Publication kind.Carrier

/-- A publisher on a bus. -/
structure HeldPublisher where
  bus : Nat
  publisher : Publisher

/-- A group on a bus. -/
structure HeldGroup where
  bus : Nat
  group : SubscriptionGroup

/-- What has become of a wait. -/
inductive WaitState where
  | waiting
  | over (event : Option Event)
  | lost

/-- A wait for an event. -/
structure Wait where
  id : Nat
  tracker : Handler
  due : Nat
  state : WaitState

/-- What is observed during one step, the latest entries first. -/
structure Observation where
  log : List Json := []
  asyncLog : List Json := []
  drops : List String := []
  sink : List Json := []
  trace : List Json := []
  asyncTrace : List Json := []

/-- The whole state of a scenario. -/
structure World where
  /-- The least urgent level of log records that are observed. -/
  threshold : Option Level
  /-- Where the types that scripts bring with them are at home, as their full names show it. -/
  home : String := "oracle_driver::kinds"
  now : Nat := 0
  /-- How many events have been numbered. -/
  numbered : Nat := 0
  /-- The seed of the next id; it starts where no script will look for ids. -/
  nextSeed : Nat := 0x1d9a7c4be06f3258a1c5e7b9034d6f
  labels : List (EventId × String) := []
  /-- The buses; the registry of the first one has the id 1. -/
  busStates : List BusState := []
  handlerStates : List HandlerState := []
  /-- One reference for each time that a call in progress holds a handler. -/
  held : List Handler := []
  /-- The handlers that the script is calling, whose names it may give up meanwhile. -/
  borrowed : List Handler := []
  flights : List FlightState := []
  /-- The gates that are open. -/
  openGates : List String := []
  /-- One entry for each call that is held at a gate. -/
  parked : List String := []
  busNames : Names Nat := []
  handlerNames : Names Handler := []
  handles : Names SubscriptionHandle := []
  snapshots : Names HeldSnapshot := []
  events : Names Event := []
  tokens : Names HeldToken := []
  publications : Names HeldPublication := []
  publishers : Names HeldPublisher := []
  groups : Names HeldGroup := []
  waits : Names Wait := []
  waitsBegun : Nat := 0
  observed : Observation := {}

namespace World

/-- The number of references that a list of handlers holds. -/
def countIn (handler : Handler) (handlers : List Handler) : Nat :=
  handlers.countP (·.id == handler.id)

/--
How many references there are to a handler: the one of the script, those of calls in progress, of
snapshots and waits, of flights, and of retained subscriptions. The script has one reference for as
long as it names the handler or calls it.
-/
def owners (world : World) (handler : Handler) : Nat :=
  -- Every place that can hold a handler is counted, so no count has to be kept up to date.
  let ofScript := world.handlerNames.map Prod.snd ++ world.borrowed
  let ofSnapshots := world.snapshots.flatMap fun (_, snapshot) => snapshot.handlers
  let waits := world.waits.countP fun (_, wait) =>
    match wait.state with
    | .waiting => wait.tracker.id == handler.id
    | _ => false
  let flights := world.flights.foldl (fun count state => count + state.flight.holds handler) 0
  let retained := world.busStates.foldl (fun count state => count + state.registry.holds handler) 0
  min 1 (countIn handler ofScript) + countIn handler world.held + countIn handler ofSnapshots
    + waits + flights + retained

/-- The world after a call in progress has given up one of its references. -/
def release (world : World) (handler : Handler) : World :=
  { world with held := world.held.eraseP (·.id == handler.id) }

/-- The state of a handler. -/
def handlerState? (world : World) (handler : Handler) : Option HandlerState :=
  world.handlerStates[handler.id]?

/-- The bus of an id. -/
def busState? (world : World) (id : Nat) : Option BusState :=
  if id = 0 then none else world.busStates[id - 1]?

end World

end EventBus
