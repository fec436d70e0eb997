import EventBus.Dispatch.Flight
import EventBus.Registry.Section

/-!
A bus puts a registry to work in some monad. It says how its registry is stored, who owns which
handler and what calling a handler does; every operation is written once for all monads.
-/

namespace EventBus

/-- The settings of asynchronous dispatch. -/
structure BusConfig where
  /-- How many handlers of one dispatch may run at once; zero counts as one. -/
  concurrency : Nat := 8
  /-- How long one dispatch is waited for. -/
  timeout : Option Duration := none
  deriving DecidableEq, Repr

/-- A bus by its effects. -/
structure Bus (m : Type → Type) where
  config : BusConfig
  load : m Registry
  store : Registry → m Unit
  /-- How many references there are to each handler. -/
  owners : m (Handler → Nat)
  /-- Takes a reference to a handler. -/
  hold : Handler → m Unit
  /-- Gives up a reference that was taken; the handler dies with the last one. -/
  drop : Handler → m Unit
  log : LogRecord → m Unit
  /-- Calls a handler and says how it failed, if it did. -/
  call : Handler → Event → m (Option Cause)
  /-- Sets a flight going and names it. -/
  spawn : Flight → m Nat

namespace Bus

variable {m : Type → Type} [Monad m] (bus : Bus m)

/-- Whether each handler has an owner. -/
def alive : m (Handler → Bool) := do
  let owners ← bus.owners
  return fun handler => 0 < owners handler

/--
Carries out a section. The references that it gives up pass from the registry to the caller first,
and are dropped once the registry is changed; only then is the log written.
-/
def carryOut {α : Type} (section? : Registry → (Handler → Bool) → Section α) : m α := do
  let registry ← bus.load
  let done := section? registry (← bus.alive)
  -- A handler that dies with its subscription must not find that subscription any more.
  done.released.forM bus.hold
  bus.store done.registry
  done.released.forM bus.drop
  done.records.forM bus.log
  return done.answer

/-- Subscribes a handler without becoming its owner. -/
def subscribe (type : EventType) (handler : Handler) :
    m (Except BusError SubscriptionHandle) := do
  -- With a single owner the subscription will end as soon as that one lets go.
  let owners ← bus.owners
  if owners handler = 1 then bus.log (.singleOwner type handler.name)
  bus.carryOut fun registry alive => registry.subscribe alive type handler false

/-- Subscribes a handler and keeps it alive until the subscription ends. -/
def subscribeRetained (type : EventType) (handler : Handler) :
    m (Except BusError SubscriptionHandle) :=
  bus.carryOut fun registry alive => registry.subscribe alive type handler true

/-- Subscribes a handler to types one by one, up to the first that is refused. -/
def subscribeEach (handler : Handler) :
    List EventType → m (Except BusError (List SubscriptionHandle))
  | [] => return .ok []
  -- Each type is a section of its own, so others may come in between.
  | type :: rest => do
    match ← bus.subscribe type handler with
    | .error error => return .error error
    | .ok handle =>
      match ← subscribeEach handler rest with
      | .error error => return .error error
      | .ok handles => return .ok (handle :: handles)

/-- Subscribes a handler to several types, or to none of them if one is blank. -/
def subscribeMany (types : List EventType) (handler : Handler) :
    m (Except BusError (List SubscriptionHandle)) :=
  -- All types are checked before the first of them is subscribed to.
  match types.find? EventType.isBlank with
  | some blank => return .error (.blankTypeAmong blank)
  | none => bus.subscribeEach handler types

/-- Ends a subscription and says whether it was there. -/
def unsubscribe (handle : SubscriptionHandle) : m (Except BusError Bool) :=
  bus.carryOut fun registry alive => registry.unsubscribe alive handle

/-- The live subscribers of a type, each of them held for the caller. -/
def snapshot (type : EventType) : m (Except BusError (List Subscriber)) := do
  let registry ← bus.load
  let answer := registry.snapshot (← bus.alive) type
  -- From now on no subscriber can die before the caller gives it up.
  if let .ok subscribers := answer then
    subscribers.forM fun subscriber => bus.hold subscriber.handler
  return answer

/-- Gives up a snapshot. -/
def dropSnapshot (subscribers : List Subscriber) : m Unit :=
  subscribers.forM fun subscriber => bus.drop subscriber.handler

/-- The number of live subscriptions. -/
def size : m Nat := do
  let registry ← bus.load
  return registry.size (← bus.alive)

/-- The types with a live subscription. -/
def types : m (List EventType) := do
  let registry ← bus.load
  return registry.types (← bus.alive)

/-- Drops all dead subscriptions and counts them. -/
def prune : m Nat := bus.carryOut fun registry alive => registry.prune alive

/-- Closes the registry alone. -/
def closeRegistry : m Bool := bus.carryOut fun registry _ => registry.close

/-- Closes the bus; flights that have begun are not touched. -/
def close : m Bool := do
  let closed ← bus.closeRegistry
  -- Only the call that closed it says so.
  if closed then bus.log .busClosed
  return closed

/-- Whether the bus is closed. -/
def isClosed : m Bool := do
  let registry ← bus.load
  return registry.closed

/-- Calls every live subscriber of an event's type in order, and answers with the result. -/
def publish (event : Event) : m (Except BusError DispatchResult) := do
  match ← bus.snapshot event.type with
  | .error error => return .error error
  | .ok subscribers =>
    -- Handlers may change the registry as they like, since the snapshot is taken.
    let result ← DispatchResult.gather bus.call event (.empty event.type) subscribers
    result.records.forM bus.log
    bus.dropSnapshot subscribers
    return .ok result

/-- Sets a flight going over the live subscribers; without any, no runtime is needed. -/
def publishAsync (runtime : Bool) (event : Event) : m (Except BusError Nat) := do
  match ← bus.snapshot event.type with
  | .error error => return .error error
  -- A dispatch to nobody is over at once, and needs no runtime for that.
  | .ok [] =>
    bus.log (.noSubscribers event.type)
    return .ok (← bus.spawn (.grounded event))
  | .ok subscribers =>
    if runtime then
      let flight := Flight.new event subscribers bus.config.concurrency bus.config.timeout
      let name ← bus.spawn flight
      -- The flight holds its subscribers itself.
      bus.dropSnapshot subscribers
      return .ok name
    else
      bus.dropSnapshot subscribers
      return .error .noRuntime

end Bus

end EventBus
