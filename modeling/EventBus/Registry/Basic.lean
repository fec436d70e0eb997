import EventBus.Dispatch.Result

/-!
A registry keeps the subscriptions of each event type in the order of their making. It holds most
handlers weakly: an entry whose handler has died is dead, and is only dropped by a later change.
-/

namespace EventBus

/-- A handler by its identity; its name never changes. -/
structure Handler where
  id : Nat
  name : String
  deriving DecidableEq, Repr

/-- One subscription of a handler; a retained entry is an owner of its handler. -/
structure Entry where
  id : Nat
  handler : Handler
  retained : Bool
  deriving DecidableEq, Repr

/-- What a client keeps of a subscription in order to end it. -/
structure SubscriptionHandle where
  registry : Nat
  id : Nat
  type : EventType
  deriving DecidableEq, Repr

/-- A live subscription in a snapshot, which owns its handler. -/
structure Subscriber where
  id : Nat
  handler : Handler
  deriving DecidableEq, Repr

/-- The subscriptions of one bus. -/
structure Registry where
  id : Nat
  closed : Bool
  nextId : Nat
  lists : List (EventType × List Entry)
  deriving DecidableEq, Repr

/-- The failure of a subscriber for some cause. -/
def Subscriber.failure (subscriber : Subscriber) (cause : Cause) : Failure :=
  ⟨subscriber.id, subscriber.handler.name, cause⟩

namespace SubscriptionHandle

/-- The handle as a diagnostic shows it. -/
def debug (handle : SubscriptionHandle) : String :=
  BusError.debugFields "SubscriptionHandle" [
    ("registry", toString handle.registry), ("id", toString handle.id),
    ("event_type", handle.type.debug)]

end SubscriptionHandle

namespace Entry

/-- An entry is alive while its handler is, and a retained one keeps its handler alive. -/
def isAlive (alive : Handler → Bool) (entry : Entry) : Bool := entry.retained || alive entry.handler

/-- An entry in a snapshot. -/
def subscriber (entry : Entry) : Subscriber := ⟨entry.id, entry.handler⟩

end Entry

namespace Registry

/-- A registry without subscriptions. -/
def new (id : Nat) : Registry := ⟨id, false, 0, []⟩

/-- The entries of a type, dead ones included. -/
def entries (registry : Registry) (type : EventType) : List Entry :=
  (registry.lists.lookup type).getD []

/-- The lists with the entries of one type replaced. -/
def putList (type : EventType) (entries : List Entry) :
    List (EventType × List Entry) → List (EventType × List Entry)
  | [] => [(type, entries)]
  -- A type appears once, so the first match is the only one.
  | (other, old) :: rest =>
    if other = type then (type, entries) :: rest else (other, old) :: putList type entries rest

/-- The registry with the entries of one type replaced; a type without entries is forgotten. -/
def setEntries (registry : Registry) (type : EventType) (entries : List Entry) : Registry :=
  { registry with
    lists :=
      if entries.isEmpty then registry.lists.filter fun (other, _) => other ≠ type
      else putList type entries registry.lists }

/-- The entries of all types. -/
def allEntries (registry : Registry) : List Entry := registry.lists.flatMap Prod.snd

/-- How many references to a handler the registry holds. -/
def holds (registry : Registry) (handler : Handler) : Nat :=
  registry.allEntries.countP fun entry => entry.retained && entry.handler == handler

/-- The number of live subscriptions. -/
def size (registry : Registry) (alive : Handler → Bool) : Nat :=
  registry.allEntries.countP (Entry.isAlive alive)

/-- The types with a live subscription, in ascending order. -/
def types (registry : Registry) (alive : Handler → Bool) : List EventType :=
  EventType.sort <| registry.lists.filterMap fun (type, entries) =>
    if entries.any (Entry.isAlive alive) then some type else none

/-- The live subscribers of a type, in the order of their subscriptions. -/
def snapshot (registry : Registry) (alive : Handler → Bool) (type : EventType) :
    Except BusError (List Subscriber) :=
  -- Dead entries are passed over and stay where they are: looking changes nothing.
  if registry.closed then .error .busClosed
  else .ok (((registry.entries type).filter (Entry.isAlive alive)).map Entry.subscriber)

/-- The registry as a diagnostic shows it. -/
def debug (registry : Registry) (alive : Handler → Bool) : String :=
  BusError.debugFields "Registry" [
    ("id", toString registry.id), ("subscriptions", toString (registry.size alive)),
    ("closed", toString registry.closed)]

end Registry

end EventBus
