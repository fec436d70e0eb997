import EventBus.Proofs.Dispatch.Sums
import EventBus.Proofs.Hub.Basic

/-! What each operation of a bus answers at a hub, and which parts of the hub it changes. -/

namespace EventBus

/-- Subscribing to several types stops at the first that is refused. -/
theorem Bus.subscribeEach_cons {σ : Type} (bus : Bus (StateM σ)) (handler : Handler)
    (type : EventType) (rest : List EventType) (state : σ) :
    bus.subscribeEach handler (type :: rest) state =
      match bus.subscribe type handler state with
      | (.error error, next) => (.error error, next)
      | (.ok handle, next) =>
        let (answer, last) := bus.subscribeEach handler rest next
        (answer.map (handle :: ·), last) := by
  simp only [subscribeEach, bind, StateT.bind]
  obtain ⟨answer, next⟩ := bus.subscribe type handler state
  -- A refusal ends the series, and what was subscribed before it stays.
  cases answer with
  | error error => rfl
  | ok handle =>
    simp only [StateT.bind, bind]
    obtain ⟨answer, last⟩ := bus.subscribeEach handler rest next
    cases answer <;> rfl

namespace Hub

variable (config : BusConfig) (outcome : Handler → Event → Option Cause) (hub : Hub)

/-- Taking references to a list of handlers changes nothing but how many the clients hold. -/
theorem forM_hold (handlers : List Handler) :
    handlers.forM (bus config outcome).hold hub =
      ((), { hub with
        outside := fun handler => hub.outside handler + handlers.count handler }) := by
  induction handlers generalizing hub with
  | nil => rfl
  | cons first rest ih =>
    show rest.forM (bus config outcome).hold (hub.take first) = _
    rw [ih]
    simp only [take, List.count_cons]
    congr 2
    funext handler
    -- Only the count of the first handler grows by one.
    by_cases same : first = handler
    · subst same
      simp
      omega
    · simp [same, Ne.symm same]

/-- Giving up references to a list of handlers changes nothing but how many the clients hold. -/
theorem forM_drop (handlers : List Handler) :
    handlers.forM (bus config outcome).drop hub =
      ((), { hub with
        outside := fun handler => hub.outside handler - handlers.count handler }) := by
  induction handlers generalizing hub with
  | nil => rfl
  | cons first rest ih =>
    show rest.forM (bus config outcome).drop (hub.giveUp first) = _
    rw [ih]
    simp only [giveUp, List.count_cons]
    congr 2
    funext handler
    -- The references that are left are counted without falling below none.
    by_cases same : first = handler
    · subst same
      simp
      omega
    · simp [same, Ne.symm same]

/-- Going through subscribers for their handlers is going through the handlers. -/
theorem forM_handler {m : Type → Type} [Monad m] (visit : Handler → m Unit)
    (subscribers : List Subscriber) :
    (subscribers.forM fun subscriber => visit subscriber.handler) =
      (subscribers.map Subscriber.handler).forM visit := by
  -- The subscribers are gone through in the same order.
  induction subscribers with
  | nil => rfl
  | cons first rest ih => exact congrArg (fun later => do visit first.handler; later) ih

/-- Log records are added in order. -/
theorem forM_log (records : List LogRecord) :
    records.forM (bus config outcome).log hub =
      ((), { hub with records := hub.records ++ records }) := by
  -- The first record comes behind those of the past and before the others.
  induction records generalizing hub with
  | nil =>
    rw [List.append_nil]
    rfl
  | cons first rest ih =>
    show rest.forM (bus config outcome).log { hub with records := hub.records ++ [first] } = _
    rw [ih]
    simp

/-- Storing a registry changes nothing else. -/
theorem store_eq (registry : Registry) :
    (bus config outcome).store registry hub = ((), { hub with registry }) := rfl

/-- A section changes the registry and the log; what it releases passes through the clients. -/
theorem carryOut_eq {α : Type} (section? : Registry → (Handler → Bool) → Section α) :
    (bus config outcome).carryOut section? hub =
      let done := section? hub.registry hub.alive
      (done.answer,
        { hub with registry := done.registry, records := hub.records ++ done.records }) := by
  let done := section? hub.registry hub.alive
  show (do
    done.released.forM (bus config outcome).hold
    (bus config outcome).store done.registry
    done.released.forM (bus config outcome).drop
    done.records.forM (bus config outcome).log
    return done.answer : StateM Hub α) hub = _
  -- What is released is held for as long as the section lasts, and let go behind it.
  simp only [bind, StateT.bind, forM_hold, store_eq, forM_drop, forM_log, Nat.add_sub_cancel]
  rfl

/-- The hub after a section. -/
def after {α : Type} (hub : Hub) (done : Section α) : Hub :=
  { hub with registry := done.registry, records := hub.records ++ done.records }

/-- The hub after a log record. -/
def note (hub : Hub) (record : LogRecord) : Hub := { hub with records := hub.records ++ [record] }

/-- Looking at the owners changes nothing. -/
theorem owners_eq : (bus config outcome).owners hub = (hub.owners, hub) := rfl

/-- Looking at the registry changes nothing. -/
theorem load_eq : (bus config outcome).load hub = (hub.registry, hub) := rfl

/-- Looking at what is alive changes nothing. -/
theorem alive_eq : (bus config outcome).alive hub = (hub.alive, hub) := rfl

/-- A weak subscription is a section, and a single owner is noted before it. -/
theorem subscribe_eq (type : EventType) (handler : Handler) :
    (bus config outcome).subscribe type handler hub =
      let noted := if hub.owners handler = 1 then hub.note (.singleOwner type handler.name) else hub
      let done := hub.registry.subscribe hub.alive type handler false
      (done.answer, noted.after done) := by
  have unfolded : (bus config outcome).subscribe type handler hub =
      (bus config outcome).carryOut
        (fun registry alive => registry.subscribe alive type handler false)
        (if hub.owners handler = 1 then hub.note (.singleOwner type handler.name) else hub) := by
    -- The number of owners is looked at before the section begins.
    simp only [Bus.subscribe, bind, StateT.bind, owners_eq]
    by_cases single : hub.owners handler = 1
    · rw [if_pos single, if_pos single]
      rfl
    · rw [if_neg single, if_neg single]
  rw [unfolded, carryOut_eq]
  split <;> rfl

/-- A retained subscription is a section. -/
theorem subscribeRetained_eq (type : EventType) (handler : Handler) :
    (bus config outcome).subscribeRetained type handler hub =
      let done := hub.registry.subscribe hub.alive type handler true
      (done.answer, hub.after done) :=
  carryOut_eq config outcome hub _

/-- Subscribing to several types stops at the first that is refused. -/
theorem subscribeEach_cons (handler : Handler) (type : EventType) (rest : List EventType) :
    (bus config outcome).subscribeEach handler (type :: rest) hub =
      match (bus config outcome).subscribe type handler hub with
      | (.error error, next) => (.error error, next)
      | (.ok handle, next) =>
        let (answer, last) := (bus config outcome).subscribeEach handler rest next
        (answer.map (handle :: ·), last) := by
  -- The answer for the first type decides whether there is a next one.
  rw [Bus.subscribeEach_cons]
  rcases (bus config outcome).subscribe type handler hub with ⟨_ | _, _⟩ <;> rfl

/-- The end of a subscription is a section. -/
theorem unsubscribe_eq (handle : SubscriptionHandle) :
    (bus config outcome).unsubscribe handle hub =
      let done := hub.registry.unsubscribe hub.alive handle
      (done.answer, hub.after done) :=
  carryOut_eq config outcome hub _

/-- Pruning is a section. -/
theorem prune_eq :
    (bus config outcome).prune hub =
      let done := hub.registry.prune hub.alive
      (done.answer, hub.after done) :=
  carryOut_eq config outcome hub _

/-- Closing is a section, and the call that closed the bus says so. -/
theorem close_eq :
    (bus config outcome).close hub =
      let done := hub.registry.close
      (done.answer,
        if done.answer then (hub.after done).note .busClosed else hub.after done) := by
  -- The answer tells whether the registry was open before.
  simp only [Bus.close, Bus.closeRegistry, bind, StateT.bind, carryOut_eq]
  by_cases closed : hub.registry.close.answer = true
  · rw [if_pos closed, if_pos closed]
    rfl
  · rw [if_neg closed, if_neg closed]
    rfl

/-- A snapshot is read from the registry, and the clients hold every subscriber in it. -/
theorem snapshot_eq (type : EventType) :
    (bus config outcome).snapshot type hub =
      (hub.registry.snapshot hub.alive type,
        match hub.registry.snapshot hub.alive type with
        | .ok subscribers =>
          { hub with
            outside := fun handler =>
              hub.outside handler + (subscribers.map Subscriber.handler).count handler }
        | .error _ => hub) := by
  simp only [Bus.snapshot, bind, StateT.bind, load_eq, alive_eq]
  -- A closed registry gives out nothing that could be held.
  cases hub.registry.snapshot hub.alive type with
  | error error => rfl
  | ok subscribers =>
    simp only [forM_handler, StateT.bind, forM_hold]
    rfl

/-- Giving up a snapshot gives up one reference for each subscriber in it. -/
theorem dropSnapshot_eq (subscribers : List Subscriber) :
    (bus config outcome).dropSnapshot subscribers hub =
      ((), { hub with
        outside := fun handler =>
          hub.outside handler - (subscribers.map Subscriber.handler).count handler }) := by
  -- The subscribers are given up for their handlers, one reference for each.
  rw [Bus.dropSnapshot, forM_handler, forM_drop]

/-- A flight over a snapshot leaves the clients with the references that they had. -/
theorem publishAsync_eq (runtime : Bool) (event : Event) :
    (bus config outcome).publishAsync runtime event hub =
      match hub.registry.snapshot hub.alive event.type with
      | .error error => (.error error, hub)
      | .ok [] =>
        (.ok hub.voyages.length,
          { hub.note (.noSubscribers event.type) with
            voyages := hub.voyages ++ [.new (.grounded event)] })
      | .ok subscribers =>
        if runtime then
          (.ok hub.voyages.length,
            { hub with
              voyages := hub.voyages ++
                [.new (.new event subscribers config.concurrency config.timeout)] })
        else (.error .noRuntime, hub) := by
  -- What is held for the snapshot goes to the flight, or is given up again.
  simp only [Bus.publishAsync, bind, StateT.bind, snapshot_eq]
  cases hub.registry.snapshot hub.alive event.type with
  | error error => rfl
  | ok subscribers =>
    cases subscribers with
    | nil => rfl
    | cons first rest =>
      let subscribers := first :: rest
      let held : Hub :=
        { hub with
          outside := fun handler =>
            hub.outside handler + (subscribers.map Subscriber.handler).count handler }
      cases runtime with
      | true =>
        let flight := Flight.new event subscribers config.concurrency config.timeout
        let spawned : Hub := { held with voyages := hub.voyages ++ [.new flight] }
        -- The clients let go of the snapshot once the flight has it.
        show (Except.ok hub.voyages.length,
          ((bus config outcome).dropSnapshot subscribers spawned).2) = _
        simp only [dropSnapshot_eq, spawned, held, Nat.add_sub_cancel, if_true]
        rfl
      | false =>
        -- Nobody takes the snapshot over, so it is as if it had never been taken.
        show (Except.error BusError.noRuntime,
          ((bus config outcome).dropSnapshot subscribers held).2) = _
        simp only [dropSnapshot_eq, held, Nat.add_sub_cancel]
        rfl

/-- Gathering outcomes counts what each handler is said to do. -/
theorem gather_eq (event : Event) (result : DispatchResult) (subscribers : List Subscriber) :
    DispatchResult.gather (bus config outcome).call event result subscribers hub =
      ((subscribers.map fun subscriber =>
          subscriber.outcome (outcome subscriber.handler event)).foldl
            DispatchResult.record result,
        { hub with
          calls := hub.calls ++ subscribers.map fun subscriber =>
            (subscriber.handler, event) }) := by
  induction subscribers generalizing hub result with
  | nil =>
    rw [List.map_nil, List.map_nil, List.append_nil]
    rfl
  | cons subscriber rest ih =>
    -- The first subscriber is called, and the rest starts from the result with its outcome.
    show DispatchResult.gather (bus config outcome).call event
      (result.record (subscriber.outcome (outcome subscriber.handler event))) rest
      { hub with calls := hub.calls ++ [(subscriber.handler, event)] } = _
    rw [ih]
    simp

/-- Publishing calls the snapshot in order and leaves clients with the references they had. -/
theorem publish_eq (event : Event) :
    (bus config outcome).publish event hub =
      match hub.registry.snapshot hub.alive event.type with
      | .error error => (.error error, hub)
      | .ok subscribers =>
        let result := DispatchResult.sum event.type (subscribers.map fun subscriber =>
          subscriber.outcome (outcome subscriber.handler event))
        (.ok result,
          { hub with
            calls := hub.calls ++ subscribers.map fun subscriber => (subscriber.handler, event)
            records := hub.records ++ result.records }) := by
  -- The references that the snapshot takes are given up again at the end.
  simp only [Bus.publish, bind, StateT.bind, snapshot_eq]
  cases hub.registry.snapshot hub.alive event.type with
  | error error => rfl
  | ok subscribers =>
    simp only [bind, StateT.bind, gather_eq, forM_log, dropSnapshot_eq, Nat.add_sub_cancel]
    rfl

end Hub

end EventBus
