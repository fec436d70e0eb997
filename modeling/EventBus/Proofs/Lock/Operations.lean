import EventBus.Proofs.Lock.Procedure

/-!
The operations of a bus, instruction by instruction. Every operation ends with what it has still to
give up and to write to the log, so that it is seen what happens before that and what after.
-/

namespace EventBus.Locked

/-- What is left to do once an operation has its answer. -/
structure Remainder (α : Type) where
  answer : α
  /-- The references that are given up. -/
  released : List Handler := []
  /-- What is written to the log after that. -/
  records : List LogRecord := []

/-- Gives up what an operation leaves, and writes its records. -/
def Remainder.settle {α : Type} (remainder : Remainder α) : Procedure Unit := do
  remainder.released.forM fun handler => perform (.release handler)
  remainder.records.forM fun record => perform (.log record)

/-- The same with another answer. -/
def Remainder.map {α β : Type} (remainder : Remainder α) (change : α → β) : Remainder β :=
  { remainder with answer := change remainder.answer }

/-- Carries an operation through to its end. -/
def finish {α : Type} (operation : Procedure (Remainder α)) : Procedure α := do
  let remainder ← operation
  remainder.settle
  return remainder.answer

/-- Does something only if a condition holds. -/
def provided (condition : Bool) (procedure : Procedure Unit) : Procedure Unit :=
  if condition then procedure else return ()

namespace Procedure

/-- Keeps the entries that are alive and drops all others. -/
def retainLiving : List Entry → Procedure (List Entry)
  | [] => return []
  | entry :: rest => do
    let owners ← perform (.count entry.handler)
    if 0 < owners then
      let kept ← retainLiving rest
      return entry :: kept
    else
      -- With a retained entry its own reference would go here, under the lock.
      provided entry.retained (perform (.release entry.handler))
      retainLiving rest

/-- The first entry that is alive and holds the handler. -/
def findHolding (handler : Handler) : List Entry → Procedure (Option Entry)
  | [] => return none
  | entry :: rest => do
    -- Only addresses are compared: a reference taken to compare handlers might become the last one.
    let owners ← perform (.count entry.handler)
    if 0 < owners ∧ entry.handler = handler then return some entry else findHolding handler rest

/-- Subscribes a handler again that has an entry among the living ones of the type. -/
def subscribeAgain (registry : Registry) (type : EventType) (handler : Handler) (retain : Bool)
    (live : List Entry) (existing : Entry) :
    Procedure (Remainder (Except BusError SubscriptionHandle)) := do
  perform (.store (registry.setEntries type (live.map (Entry.upgrade existing.id retain))))
  perform .unlock
  return {
    answer := .ok (registry.handle existing.id type)
    -- The reference stays with the entry if that has none, and is given up outside the lock.
    released := if retain && !existing.retained then [] else [handler] }

/-- Subscribes a handler that has no entry among the living ones of the type. -/
def subscribeNew (registry : Registry) (type : EventType) (handler : Handler) (retain : Bool)
    (live : List Entry) : Procedure (Remainder (Except BusError SubscriptionHandle)) := do
  let id := registry.nextId + 1
  -- A weak entry needs no reference: this one goes, under the lock, but the caller has another.
  provided (!retain) (perform (.release handler))
  perform (.store (registry.next.setEntries type (live ++ [⟨id, handler, retain⟩])))
  perform .unlock
  return {
    answer := .ok (registry.handle id type)
    records := [.subscribed type id handler.name] }

/-- Subscribes a handler with a reference of its own, which is used up. -/
def insert (type : EventType) (handler : Handler) (retain : Bool) :
    Procedure (Remainder (Except BusError SubscriptionHandle)) :=
  if type.isBlank then return { answer := .error .blankType, released := [handler] }
  else do
    perform (.lock .exclusive)
    let registry ← perform .look
    if registry.closed then
      perform .unlock
      return { answer := .error .busClosed, released := [handler] }
    else
      let live ← retainLiving (registry.entries type)
      match ← findHolding handler live with
      | some existing => subscribeAgain registry type handler retain live existing
      | none => subscribeNew registry type handler retain live

/-- Subscribes a handler weakly, for a caller that holds it all the while. -/
def subscribe (type : EventType) (handler : Handler) :
    Procedure (Remainder (Except BusError SubscriptionHandle)) := do
  let owners ← perform (.count handler)
  provided (owners == 1) (perform (.log (.singleOwner type handler.name)))
  let _ ← perform (.take handler)
  insert type handler false

/-- Subscribes a handler to types one by one, up to the first that is refused. -/
def subscribeEach (handler : Handler) :
    List EventType → Procedure (Except BusError (List SubscriptionHandle))
  | [] => return .ok []
  | type :: rest => do
    match ← finish (subscribe type handler) with
    | .error error => return .error error
    | .ok handle =>
      let others ← subscribeEach handler rest
      return others.map (handle :: ·)

/-- Subscribes a handler to several types, or to none of them if one is blank. -/
def subscribeMany (types : List EventType) (handler : Handler) :
    Procedure (Except BusError (List SubscriptionHandle)) :=
  match types.find? EventType.isBlank with
  | some blank => return .error (.blankTypeAmong blank)
  | none => subscribeEach handler types

/-- What the end of a subscription leaves, depending on the entry that was taken out. -/
def removal (handle : SubscriptionHandle) : Option Entry → Remainder (Except BusError Bool)
  | none => { answer := .ok false }
  | some removed => {
      answer := .ok true
      released := if removed.retained then [removed.handler] else []
      records := [.unsubscribed handle.type handle.id] }

/-- Ends a subscription. -/
def unsubscribe (handle : SubscriptionHandle) :
    Procedure (Remainder (Except BusError Bool)) := do
  perform (.lock .exclusive)
  let registry ← perform .look
  if registry.closed then
    perform .unlock
    return { answer := .error .busClosed }
  else if handle.registry ≠ registry.id then
    perform .unlock
    return { answer := .ok false }
  else
    let stored := registry.entries handle.type
    let kept ← retainLiving (stored.eraseP (·.id == handle.id))
    perform (.store (registry.setEntries handle.type kept))
    perform .unlock
    return removal handle (stored.find? (·.id == handle.id))

/-- Takes a reference to the handler of each entry that is alive. -/
def upgradeEach : List Entry → Procedure (List Subscriber)
  | [] => return []
  | entry :: rest => do
    let upgraded ← perform (.take entry.handler)
    let others ← upgradeEach rest
    return if upgraded then entry.subscriber :: others else others

/-- The live subscribers of a type, with a reference to each. -/
def snapshot (type : EventType) : Procedure (Except BusError (List Subscriber)) := do
  perform (.lock .shared)
  let registry ← perform .look
  if registry.closed then
    perform .unlock
    return .error .busClosed
  else
    let subscribers ← upgradeEach (registry.entries type)
    perform .unlock
    return .ok subscribers

/-- The entries that are found alive, looked at one after the other. -/
def pickLiving : List Entry → Procedure (List Entry)
  | [] => return []
  | entry :: rest => do
    let owners ← perform (.count entry.handler)
    let others ← pickLiving rest
    return if 0 < owners then entry :: others else others

/-- What the living entries of each type are found to be. -/
def survey : List (EventType × List Entry) → Procedure (List (EventType × List Entry))
  | [] => return []
  | (type, entries) :: rest => do
    let living ← pickLiving entries
    let others ← survey rest
    return (type, living) :: others

/-- Looks at the living entries of all types. -/
def inspect : Procedure (List (EventType × List Entry)) := do
  perform (.lock .shared)
  let registry ← perform .look
  let living ← survey registry.lists
  perform .unlock
  return living

/-- The number of live subscriptions. -/
def size : Procedure Nat := do
  let living ← inspect
  return (living.flatMap Prod.snd).length

/-- The types with a live subscription, in ascending order. -/
def types : Procedure (List EventType) := do
  let living ← inspect
  return EventType.sort ((living.filter fun (_, entries) => !entries.isEmpty).map Prod.fst)

/-- Drops the dead entries of some types. -/
def pruneEach (registry : Registry) : List EventType → Procedure Registry
  | [] => return registry
  | type :: rest => do
    let kept ← retainLiving (registry.entries type)
    let later := registry.setEntries type kept
    perform (.store later)
    pruneEach later rest

/-- Drops all dead entries and counts them. -/
def prune : Procedure Nat := do
  perform (.lock .exclusive)
  let registry ← perform .look
  let kept ← pruneEach registry (registry.lists.map Prod.fst)
  perform .unlock
  return registry.allEntries.length - kept.allEntries.length

/-- Closes the registry for good. -/
def closeRegistry : Procedure (Remainder Bool) := do
  perform (.lock .exclusive)
  let registry ← perform .look
  if registry.closed then
    perform .unlock
    return { answer := false }
  else
    perform (.store { registry with closed := true, lists := [] })
    perform .unlock
    let entries := registry.allEntries
    -- Nobody can say in which order the lists of different types are dropped.
    let released ← perform (.arrange ((entries.filter Entry.retained).map Entry.handler))
    return { answer := true, released, records := [.registryClosed entries.length] }

/-- Closes the bus; only the call that closed it says so. -/
def close : Procedure (Remainder Bool) := do
  let remainder ← closeRegistry
  return { remainder with
    records := remainder.records ++ if remainder.answer then [.busClosed] else [] }

/-- Whether the bus is closed. -/
def isClosed : Procedure Bool := do
  perform (.lock .shared)
  let registry ← perform .look
  perform .unlock
  return registry.closed

/-- Calls every live subscriber of an event's type in order. -/
def publish (event : Event) : Procedure (Remainder (Except BusError DispatchResult)) := do
  match ← snapshot event.type with
  | .error error => return { answer := .error error }
  | .ok subscribers =>
    let result ← DispatchResult.gather (fun handler event => perform (.call handler event)) event
      (.empty event.type) subscribers
    -- The log is written first here; only then does the snapshot go.
    result.records.forM fun record => perform (.log record)
    return { answer := .ok result, released := subscribers.map Subscriber.handler }

/-- Sets a flight going over the live subscribers. -/
def launch (runtime : Bool) (event : Event) : Procedure (Remainder (Except BusError Unit)) := do
  match ← snapshot event.type with
  | .error error => return { answer := .error error }
  | .ok [] =>
    perform (.log (.noSubscribers event.type))
    return { answer := .ok () }
  | .ok subscribers =>
    if runtime then
      subscribers.forM fun subscriber => perform (.stash subscriber.handler)
      return { answer := .ok () }
    else
      return { answer := .error .noRuntime, released := subscribers.map Subscriber.handler }

/-- What a request does, up to what it leaves to give up and to write. -/
def serve : Request → Procedure (Remainder Answer)
  | .create handler => do
    let _ ← perform (.create handler)
    return { answer := .done }
  | .clone handler => do
    let _ ← perform (.take handler)
    return { answer := .done }
  | .release handler => return { answer := .done, released := [handler] }
  | .subscribe type handler => return (← subscribe type handler).map .subscribed
  | .subscribeRetained type handler => do
    -- The client keeps its own reference and passes on another.
    let _ ← perform (.take handler)
    return (← insert type handler true).map .subscribed
  | .subscribeMany types handler => do
    let answer ← subscribeMany types handler
    return { answer := .subscribedMany answer }
  | .unsubscribe handle => return (← unsubscribe handle).map .unsubscribed
  | .snapshot type => return { answer := .snapshot (← snapshot type) }
  | .size => return { answer := .size (← size) }
  | .isEmpty => return { answer := .isEmpty ((← size) == 0) }
  | .types => return { answer := .types (← types) }
  | .prune => return { answer := .pruned (← prune) }
  | .close => return (← close).map .closed
  | .isClosed => return { answer := .closed (← isClosed) }

end Procedure

/-- What a task does, up to what it leaves to give up and to write. -/
def Task.body : (task : Task) → Procedure (Remainder task.Result)
  | .request asked => Procedure.serve asked
  | .give type handler => Procedure.insert type handler true
  | .publish event => Procedure.publish event
  | .launch runtime event => Procedure.launch runtime event
  | .stash handler => do
    perform (.stash handler)
    return { answer := () }
  | .fetch handler => return { answer := ← perform (.fetch handler) }

/-- Does a task, up to what it leaves, if the thread holds what the task needs. -/
def Task.attempt (task : Task) : Procedure (Option (Remainder task.Result)) := do
  let allowed ← perform (.may task)
  if allowed then
    let remainder ← task.body
    return some remainder
  else return none

/-- What a client does, task by task, and how it ends. -/
abbrev Client := Program Task.Result (Option Cause)

/-- A client carries out its tasks one after the other; it stops at one that it cannot take on. -/
def Client.procedure : Client → Procedure (Option Cause)
  | .done cause => return cause
  | .step task next => do
    match ← task.attempt with
    | none => return none
    | some remainder =>
      remainder.settle
      Client.procedure (next remainder.answer)

end EventBus.Locked
