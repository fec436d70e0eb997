import EventBus.Registry.Basic

/-!
Every change of a registry is one section, which nothing can interrupt. References that a section
gives up are released after it, so that a dying handler sees the change complete.
-/

namespace EventBus

/-- What a section leaves behind. -/
structure Section (α : Type) where
  answer : α
  registry : Registry
  /-- The handlers whose references are released once the section is over. -/
  released : List Handler := []
  /-- What is written to the log after that. -/
  records : List LogRecord := []

namespace Registry

/-- A section that changes nothing. -/
def unchanged {α : Type} (registry : Registry) (answer : α) : Section α := { answer, registry }

/-- The handle of a subscription in this registry. -/
def handle (registry : Registry) (id : Nat) (type : EventType) : SubscriptionHandle :=
  ⟨registry.id, id, type⟩

/--
Subscribes a handler that its caller holds for as long as the call lasts. A handler that is
subscribed to the type already keeps its subscription, which becomes retained if that is asked for.
-/
def subscribe (registry : Registry) (alive : Handler → Bool) (type : EventType)
    (handler : Handler) (retain : Bool) : Section (Except BusError SubscriptionHandle) :=
  -- A blank type is refused even by a closed registry.
  if type.isBlank then registry.unchanged (.error .blankType)
  else if registry.closed then registry.unchanged (.error .busClosed)
  else
    -- Dead entries of the type go first, so that none of them can be taken for the handler.
    let live := (registry.entries type).filter (Entry.isAlive alive)
    match live.find? (·.handler == handler) with
    | some existing =>
      -- The subscription keeps its id and its place; it is never made weak again.
      let updated := live.map fun entry =>
        if entry.id = existing.id then { entry with retained := entry.retained || retain }
        else entry
      { answer := .ok (registry.handle existing.id type),
        registry := registry.setEntries type updated }
    | none =>
      -- A new subscription takes the next id and goes to the end of the order.
      let id := registry.nextId + 1
      let counted := { registry with nextId := id }
      { answer := .ok (registry.handle id type),
        registry := counted.setEntries type (live ++ [⟨id, handler, retain⟩]),
        records := [.subscribed type id handler.name] }

/--
Ends a subscription. The entry is looked for before dead ones are dropped, so a dead subscription
that is still stored counts as found.
-/
def unsubscribe (registry : Registry) (alive : Handler → Bool) (handle : SubscriptionHandle) :
    Section (Except BusError Bool) :=
  if registry.closed then registry.unchanged (.error .busClosed)
  else if handle.registry ≠ registry.id then registry.unchanged (.ok false)
  else
    -- The handle of another registry may have the same id, so it is told apart by its origin.
    let stored := registry.entries handle.type
    let kept := stored.eraseP (·.id == handle.id)
    let pruned := registry.setEntries handle.type (kept.filter (Entry.isAlive alive))
    match stored.find? (·.id == handle.id) with
    | none => { answer := .ok false, registry := pruned }
    | some removed =>
      -- Only a retained entry was an owner, so only it gives up a reference.
      { answer := .ok true, registry := pruned,
        released := if removed.retained then [removed.handler] else [],
        records := [.unsubscribed handle.type handle.id] }

/-- Drops all dead entries and counts them. -/
def prune (registry : Registry) (alive : Handler → Bool) : Section Nat :=
  let lists := registry.lists.map fun (type, entries) =>
    (type, entries.filter (Entry.isAlive alive))
  -- A type that has no entries left is forgotten.
  let kept := { registry with lists := lists.filter fun (_, entries) => !entries.isEmpty }
  { answer := registry.allEntries.length - kept.allEntries.length, registry := kept }

/-- Closes the registry for good and gives up all its entries; only the first close succeeds. -/
def close (registry : Registry) : Section Bool :=
  if registry.closed then registry.unchanged false
  else
    -- Dead entries count among those that are given up.
    let entries := registry.allEntries
    { answer := true,
      registry := { registry with closed := true, lists := [] },
      released := (entries.filter Entry.retained).map Entry.handler,
      records := [.registryClosed entries.length] }

end Registry

end EventBus
