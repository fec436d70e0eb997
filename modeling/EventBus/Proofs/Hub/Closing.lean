import EventBus.Proofs.Hub.Nesting

/-!
A bus is closed once and for good. Whether it is closed can be read off from what has happened, and
decides alone which operations are refused for it.
-/

namespace EventBus

namespace Registry

/-- A closed registry has no live subscriptions. -/
theorem WellFormed.size_closed {registry : Registry} (wellFormed : registry.WellFormed)
    (closed : registry.closed = true) (alive : Handler → Bool) : registry.size alive = 0 := by
  -- A closed registry has no entries, dead or alive.
  simp [size, allEntries, wellFormed.emptied closed]

/-- A closed registry has no types. -/
theorem WellFormed.types_closed {registry : Registry} (wellFormed : registry.WellFormed)
    (closed : registry.closed = true) (alive : Handler → Bool) : registry.types alive = [] := by
  -- A closed registry has no lists that a type could be read off.
  rw [types, wellFormed.emptied closed, List.filterMap_nil, EventType.sort, List.mergeSort_nil]

/-- There is nothing left to prune in a closed registry. -/
theorem WellFormed.prune_closed {registry : Registry} (wellFormed : registry.WellFormed)
    (closed : registry.closed = true) (alive : Handler → Bool) :
    (registry.prune alive).answer = 0 := by
  -- Pruning counts entries, of which there are none.
  simp [Registry.prune, allEntries, wellFormed.emptied closed]

/-- A close says whether the registry was open before it. -/
theorem close_answer (registry : Registry) : registry.close.answer = !registry.closed := by
  -- The answer is given before the registry is looked at any further.
  unfold close
  split
  · rename_i closed
    simp [unchanged, closed]
  · rename_i opened
    simp [opened]

/-- No other change opens or closes a registry. -/
theorem survives_closed (closed : Bool) {change : Change} (other : change ≠ .close) :
    Survives (fun registry => registry.WellFormed ∧ registry.closed = closed) change := by
  -- Whatever else a section does, it passes on whether the registry is open.
  rintro registry alive ⟨wellFormed, same⟩
  refine ⟨wellFormed.change alive change, ?_⟩
  cases change with
  | subscribe type handler retain =>
    rcases registry.subscribe_cases alive type handler retain with
      ⟨_, made⟩ | ⟨_, _, ⟨_, _, made⟩ | ⟨_, made⟩⟩ <;> simp only [Registry.change, made] <;>
      exact same
  | unsubscribe handle =>
    rcases wellFormed.unsubscribe_cases alive handle with ⟨_, made⟩ | ⟨_, _, made⟩ <;>
      simp only [Registry.change, made] <;> exact same
  | prune => exact same
  | close => exact absurd rfl other

/-- An open registry refuses a subscription for its type alone. -/
theorem subscribe_open {registry : Registry} (opened : registry.closed = false)
    (alive : Handler → Bool) (type : EventType) (handler : Handler) (retain : Bool) :
    (registry.subscribe alive type handler retain).answer ≠ .error .busClosed := by
  -- An open registry refuses a blank type, with another error, and accepts all the others.
  intro refused
  by_cases blank : type.isBlank = true
  · rw [subscribe_blank blank] at refused
    cases refused
  · have named : type.isBlank = false := by simpa using blank
    obtain ⟨handle, accepted⟩ := @subscribe_accepted registry alive type handler retain named opened
    cases accepted.symm.trans refused

/-- An open registry answers whether it has a subscription, whichever handle it is given. -/
theorem unsubscribe_open {registry : Registry} (opened : registry.closed = false)
    (alive : Handler → Bool) (handle : SubscriptionHandle) :
    (registry.unsubscribe alive handle).answer ≠ .error .busClosed := by
  -- Whether the handle is its own or not, an open registry answers with yes or no.
  intro refused
  by_cases own : handle.registry = registry.id
  · rw [unsubscribe_answer opened own] at refused
    cases refused
  · rw [unsubscribe_foreign opened own] at refused
    cases refused

end Registry

/-- Only a close makes the change that closes a registry. -/
theorem Incident.eq_close {incident : Incident} (made : .close ∈ incident.changes) :
    incident = .request .close := by
  -- Of all incidents only requests change a registry, and of these one alone closes it.
  cases incident with
  | request request =>
    cases request with
    | subscribeMany types handler =>
      obtain ⟨type, _, same⟩ := List.mem_map.mp made
      cases same
    | _ => simp_all [Incident.changes, Request.changes]
  | _ => exact absurd made List.not_mem_nil

/-- What a bus does as long as it is not closed. -/
inductive Operation where
  | subscribe (type : EventType) (handler : Handler)
  | subscribeRetained (type : EventType) (handler : Handler)
  /-- A handler is made from a closure, and the registry alone holds it in the end. -/
  | subscribeClosure (type : EventType) (handler : Handler)
  | subscribeMany (types : List EventType) (handler : Handler)
  | unsubscribe (handle : SubscriptionHandle)
  | snapshot (type : EventType)
  | publish (depth : Nat) (react : Reactions) (event : Event)
  | publishAsync (runtime : Bool) (event : Event)

/-- The error with which something is refused. -/
def refusal? {α : Type} : Except BusError α → Option BusError
  | .error error => some error
  | .ok _ => none

/-- Nothing that is answered, or refused with another error, is refused for a closed bus. -/
theorem refusal?_ne {α : Type} {answer : Except BusError α} (differs : answer ≠ .error .busClosed) :
    refusal? answer ≠ some .busClosed := by
  -- An error is refused under its own name.
  intro same
  cases answer with
  | ok _ => cases same
  | error error =>
    obtain rfl : error = .busClosed := Option.some.inj same
    exact differs rfl

namespace Operation

/--
Whether an operation gets as far as the registry.

Blank types are refused before that, and a subscription to no types has nothing to ask.
-/
def isProper : Operation → Bool
  | subscribe type _ | subscribeRetained type _ | subscribeClosure type _ => !type.isBlank
  | subscribeMany types _ => !types.isEmpty && types.all fun type => !type.isBlank
  | _ => true

/-- The error with which an operation is refused at a hub, if it is. -/
def refusal? (config : BusConfig) (hub : Hub) : Operation → Option BusError :=
  let bus := Hub.bus config fun _ _ => none
  fun
  | subscribe type handler => EventBus.refusal? (bus.subscribe type handler hub).1
  | subscribeRetained type handler => EventBus.refusal? (bus.subscribeRetained type handler hub).1
  | subscribeClosure type handler =>
    let made := (Hub.serve bus (.create handler) hub).2
    EventBus.refusal? (bus.subscribeRetained type handler made).1
  | subscribeMany types handler => EventBus.refusal? (bus.subscribeMany types handler hub).1
  | unsubscribe handle => EventBus.refusal? (bus.unsubscribe handle hub).1
  | snapshot type => EventBus.refusal? (bus.snapshot type hub).1
  | publish depth react event =>
    EventBus.refusal? (Hub.publication config depth react event hub).answer
  | publishAsync runtime event => EventBus.refusal? (bus.publishAsync runtime event hub).1

end Operation

namespace Hub

variable {config : BusConfig} {hub : Hub}

/-- A closed hub refuses every snapshot. -/
theorem snapshot_closed (closed : hub.registry.closed = true) (alive : Handler → Bool)
    (type : EventType) : hub.registry.snapshot alive type = .error .busClosed := if_pos closed

/-- A publication at a closed hub calls nobody. -/
theorem publication_closed (closed : hub.registry.closed = true) (depth : Nat) (react : Reactions)
    (event : Event) :
    Hub.publication config depth react event hub = ⟨.error .busClosed, [], hub⟩ := by
  -- The snapshot that comes first is refused, and nothing is called.
  simp only [publication, Activity.publish_eq, snapshot_eq, snapshot_closed closed]

/-- No flight begins at a closed hub, with or without a runtime. -/
theorem publishAsync_closed (closed : hub.registry.closed = true) (runtime : Bool) (event : Event) :
    (bus config fun _ _ => none).publishAsync runtime event hub = (.error .busClosed, hub) := by
  -- The snapshot comes before the question whether there is a runtime.
  simp only [publishAsync_eq, snapshot_closed closed]

/-- An open hub subscribes a handler to any number of types that are not blank. -/
theorem subscribeEach_open (config : BusConfig) (opened : hub.registry.closed = false)
    (wellFormed : hub.registry.WellFormed) {types : List EventType} (handler : Handler)
    (named : ∀ type ∈ types, type.isBlank = false) :
    ∃ handles, ((bus config fun _ _ => none).subscribeEach handler types hub).1 = .ok handles := by
  -- The induction is on the types, with a hub that stays open from one to the next.
  induction types generalizing hub with
  | nil => exact ⟨[], rfl⟩
  | cons type rest ih =>
    have other : Change.subscribe type handler false ≠ .close := nofun
    have keeps := (subscribe_keeps config (fun _ _ => none) hub
      (Registry.survives_closed false other)).2 ⟨wellFormed, opened⟩
    obtain ⟨handle, accepted⟩ := @Registry.subscribe_accepted hub.registry hub.alive type handler
      false (named type List.mem_cons_self) opened
    have answered : ((bus config fun _ _ => none).subscribe type handler hub).1 = .ok handle := by
      rw [subscribe_eq]
      exact accepted
    rw [subscribeEach_cons]
    -- The first type is accepted and leaves the hub open for the others.
    generalize (bus config fun _ _ => none).subscribe type handler hub = done at keeps answered ⊢
    obtain ⟨answer, next⟩ := done
    obtain rfl : answer = .ok handle := answered
    obtain ⟨handles, later⟩ := ih keeps.2 keeps.1 fun other there =>
      named other (List.mem_cons_of_mem type there)
    refine ⟨handle :: handles, ?_⟩
    show (((bus config fun _ _ => none).subscribeEach handler rest next).1.map (handle :: ·)) = _
    exact congrArg (Except.map (handle :: ·)) later

/-- An open hub refuses nothing for being closed. -/
theorem refusal?_open (opened : hub.registry.closed = false)
    (wellFormed : hub.registry.WellFormed) (operation : Operation) :
    operation.refusal? config hub ≠ some .busClosed := by
  -- The only refusal that could be in question is the one that the registry itself gives.
  cases operation with
  | subscribe type handler =>
    simp only [Operation.refusal?, subscribe_eq]
    exact refusal?_ne (Registry.subscribe_open opened hub.alive type handler false)
  | subscribeRetained type handler =>
    simp only [Operation.refusal?, subscribeRetained_eq]
    exact refusal?_ne (Registry.subscribe_open opened hub.alive type handler true)
  | subscribeClosure type handler =>
    let made := (serve (bus config fun _ _ => none) (.create handler) hub).2
    have stillOpen : made.registry.closed = false := opened
    simp only [Operation.refusal?, subscribeRetained_eq]
    exact refusal?_ne (Registry.subscribe_open stillOpen made.alive type handler true)
  | subscribeMany types handler =>
    simp only [Operation.refusal?, Bus.subscribeMany]
    cases found : types.find? EventType.isBlank with
    | some blank =>
      have other : BusError.blankTypeAmong blank ≠ .busClosed := by simp [BusError.blankTypeAmong]
      exact refusal?_ne fun same => other (Except.error.inj same)
    | none =>
      obtain ⟨handles, accepted⟩ := subscribeEach_open config opened wellFormed handler
        fun type there => by simpa using List.find?_eq_none.mp found type there
      simp only [accepted]
      exact refusal?_ne (by simp)
  | unsubscribe handle =>
    simp only [Operation.refusal?, unsubscribe_eq]
    exact refusal?_ne (Registry.unsubscribe_open opened hub.alive handle)
  | snapshot type =>
    simp only [Operation.refusal?, snapshot_eq, Registry.snapshot, opened]
    exact refusal?_ne (by simp)
  | publish depth react event =>
    simp only [Operation.refusal?, publication, Activity.publish_eq, Registry.snapshot, opened]
    exact refusal?_ne (by simp)
  | publishAsync runtime event =>
    simp only [Operation.refusal?, publishAsync_eq, Registry.snapshot, opened]
    -- Without a runtime a flight may be refused, but for that alone.
    split
    · rename_i error refusal
      cases refusal
    · exact refusal?_ne (by simp)
    · split <;> exact refusal?_ne (by simp)

/-- A closed hub refuses all that comes to its registry, and for no other reason. -/
theorem refusal?_closed (closed : hub.registry.closed = true) {operation : Operation}
    (proper : operation.isProper = true) :
    operation.refusal? config hub = some .busClosed := by
  -- Every proper operation asks the registry, and that is the first to refuse.
  cases operation with
  | subscribe type handler =>
    have named : type.isBlank = false := by simpa [Operation.isProper] using proper
    simp only [Operation.refusal?, subscribe_eq, Registry.subscribe_closed named closed]
    rfl
  | subscribeRetained type handler =>
    have named : type.isBlank = false := by simpa [Operation.isProper] using proper
    simp only [Operation.refusal?, subscribeRetained_eq, Registry.subscribe_closed named closed]
    rfl
  | subscribeClosure type handler =>
    have named : type.isBlank = false := by simpa [Operation.isProper] using proper
    let made := (serve (bus config fun _ _ => none) (.create handler) hub).2
    have stillClosed : made.registry.closed = true := closed
    simp only [Operation.refusal?, subscribeRetained_eq]
    rw [Registry.subscribe_closed named stillClosed]
    rfl
  | subscribeMany types handler =>
    cases types with
    | nil => cases proper
    | cons type rest =>
      have named : ∀ other ∈ type :: rest, other.isBlank = false := by
        simpa [Operation.isProper] using proper
      have nobody : (type :: rest).find? EventType.isBlank = none :=
        List.find?_eq_none.mpr fun other there => by simp [named other there]
      -- The first of the types is refused, and the others are not tried.
      simp only [Operation.refusal?, Bus.subscribeMany, nobody, subscribeEach_cons, subscribe_eq,
        Registry.subscribe_closed (named type List.mem_cons_self) closed]
      rfl
  | unsubscribe handle =>
    simp only [Operation.refusal?, unsubscribe_eq, Registry.unsubscribe_closed closed]
    rfl
  | snapshot type =>
    simp only [Operation.refusal?, snapshot_eq, snapshot_closed closed]
    rfl
  | publish depth react event =>
    simp only [Operation.refusal?, publication_closed closed]
    rfl
  | publishAsync runtime event =>
    simp only [Operation.refusal?, publishAsync_closed closed]
    rfl

/--
The hubs that can come about, each with all that has happened there and how it was answered.

A publication in the calling thread is made of the same incidents as everything else. Besides them
it notes its calls and writes to the log.
-/
inductive Storied (config : BusConfig) : List (Incident × Answer) → Hub → Prop
  | new (id : Nat) : Storied config [] (Hub.new id)
  | step {past : List (Incident × Answer)} {hub next : Hub} {incident : Incident} {answer : Answer}
    (before : Storied config past hub)
    (happened : hub.step? config incident = some (answer, next)) :
    Storied config (past ++ [(incident, answer)]) next
  | noted {past : List (Incident × Answer)} {hub : Hub} (before : Storied config past hub)
    (calls : List (Handler × Event)) (records : List LogRecord) :
    Storied config past { hub with calls, records }

/-- Whether something that has happened is a close that closed the bus. -/
def closes : Incident × Answer → Bool
  | (.request .close, .closed true) => true
  | _ => false

/-- A hub is closed after an incident if it was before, or if the incident closed it. -/
theorem closed_step {next : Hub} {incident : Incident} {answer : Answer}
    (wellFormed : hub.registry.WellFormed)
    (happened : hub.step? config incident = some (answer, next)) :
    (next.registry.closed = true ∧ closes (incident, answer) = !hub.registry.closed) ∨
      (next.registry.closed = hub.registry.closed ∧ closes (incident, answer) = false) := by
  -- A close is the only incident of which the answer can say that it closed the bus.
  by_cases close : incident = .request .close
  · subst close
    simp only [step?, allows, if_true, serve, bind, StateT.bind, close_eq, Option.some.injEq]
      at happened
    obtain ⟨rfl, rfl⟩ := Prod.mk.inj happened
    refine Or.inl ⟨?_, ?_⟩
    · split <;> exact Registry.closed_close hub.registry
    · rw [Registry.close_answer]
      cases hub.registry.closed <;> rfl
  · have others : ∀ change ∈ incident.changes, change ≠ .close := by
      rintro change made rfl
      exact close (Incident.eq_close made)
    have same := (registry_survives
      (fun change made => Registry.survives_closed hub.registry.closed (others change made))
      happened ⟨wellFormed, rfl⟩).2
    refine Or.inr ⟨same, ?_⟩
    unfold closes
    split
    · exact absurd (congrArg Prod.fst ‹(incident, answer) = _›) close
    · rfl

namespace Storied

variable {past : List (Incident × Answer)}

/-- A hub with a history can come about. -/
theorem attainable (storied : Storied config past hub) : hub.Attainable config := by
  -- The history only names what the hub came about by.
  induction storied with
  | new id => exact .new id
  | step before happened ih => exact ih.step happened
  | noted before calls records ih => exact ih.noted calls records

/-- A hub has been closed once or not at all, and is closed accordingly. -/
theorem countP_closes (storied : Storied config past hub) :
    past.countP closes = hub.registry.closed.toNat := by
  -- The last incident has closed the hub if it was a close and the hub was open.
  induction storied with
  | new id => rfl
  | @step past hub next incident answer before happened ih =>
    rw [List.countP_append, List.countP_singleton, ih]
    rcases closed_step before.attainable.intact.1 happened with ⟨closed, now⟩ | ⟨same, not⟩
    · rw [closed, now]
      cases hub.registry.closed <;> rfl
    · rw [same, not]
      rfl
  | noted before calls records ih => exact ih

/-- A hub is closed if and only if a close has closed it. -/
theorem any_closes (storied : Storied config past hub) :
    past.any closes = hub.registry.closed := by
  -- A count of one at most says no more than whether there is any.
  have counted := storied.countP_closes
  cases closed : hub.registry.closed with
  | true =>
    rw [closed] at counted
    have some_close : 0 < past.countP closes := by simp [counted]
    simpa using List.countP_pos_iff.mp some_close
  | false =>
    rw [closed] at counted
    simpa using List.countP_eq_zero.mp counted

/-- Every flight began at a hub with an earlier history. -/
theorem begun (storied : Storied config past hub) {voyage : Voyage}
    (sailing : voyage ∈ hub.voyages) :
    ∃ earlier later before, past = earlier ++ later ∧ Storied config earlier before ∧
      voyage.origin.BegunAt config before := by
  -- A flight that sails now has begun just now, or before, and its beginning is kept.
  induction storied generalizing voyage with
  | new id => simp [Hub.new] at sailing
  | @step past hub next incident answer before happened ih =>
    have further : ∀ {voyage}, voyage ∈ hub.voyages → ∃ earlier later before,
        past ++ [(incident, answer)] = earlier ++ later ∧ Storied config earlier before ∧
          voyage.origin.BegunAt config before := fun old => by
      obtain ⟨earlier, later, there, rfl, storied, begun⟩ := ih old
      exact ⟨earlier, later ++ [(incident, answer)], there, by simp, storied, begun⟩
    rcases voyages_step happened sailing with old | ⟨origin, rfl, begun⟩ |
      ⟨voyaging, old, move, _, extended⟩
    · exact further old
    · exact ⟨past, [(incident, answer)], hub, rfl, before, begun⟩
    · -- A move leaves the beginning of its voyage as it was.
      rw [(Voyage.extend?_eq_some extended).1]
      exact further old
  | noted before calls records ih => exact ih sailing

end Storied

end Hub

/-- What can be seen of a bus that is closed. -/
structure Hub.Shut (config : BusConfig) (hub : Hub) : Prop where
  isClosed : ((bus config fun _ _ => none).isClosed hub).1 = true
  size : ((bus config fun _ _ => none).size hub).1 = 0
  types : ((bus config fun _ _ => none).types hub).1 = []
  prune : ((bus config fun _ _ => none).prune hub).1 = 0
  close : ((bus config fun _ _ => none).close hub).1 = false
  refuses : ∀ operation : Operation, operation.isProper = true →
    operation.refusal? config hub = some .busClosed
  /-- A publication leaves no mark of a call, and the hub as it was. -/
  silent : ∀ depth react event,
    Hub.publication config depth react event hub = ⟨.error .busClosed, [], hub⟩
  grounded : ∀ runtime event,
    (bus config fun _ _ => none).publishAsync runtime event hub = (.error .busClosed, hub)

/-- What can be seen of a bus that is not closed. -/
structure Hub.Unshut (config : BusConfig) (hub : Hub) : Prop where
  isClosed : ((bus config fun _ _ => none).isClosed hub).1 = false
  close : ((bus config fun _ _ => none).close hub).1 = true
  accepts : ∀ operation : Operation, operation.refusal? config hub ≠ some .busClosed

/--
A bus is closed by one close at most, for good, and for everybody.

From then on it is empty, and everything that comes to its registry is refused for this reason;
before that, nothing is. Every flight took its snapshot when no close had closed the bus yet.
-/
theorem close_is_final {config : BusConfig} {past : List (Incident × Answer)} {hub : Hub}
    (storied : Hub.Storied config past hub) :
    past.countP Hub.closes ≤ 1 ∧
      (past.any Hub.closes = true → hub.Shut config) ∧
      (past.any Hub.closes = false → hub.Unshut config) ∧
      ∀ voyage ∈ hub.voyages, ∃ earlier later before, past = earlier ++ later ∧
        earlier.any Hub.closes = false ∧ Hub.Storied config earlier before ∧
        voyage.origin.BegunAt config before := by
  -- The history has a close that closed the bus exactly if the registry is closed.
  have wellFormed := storied.attainable.intact.1
  rw [storied.any_closes]
  refine ⟨?_, fun closed => ?_, fun opened => ?_, fun voyage sailing => ?_⟩
  · rw [storied.countP_closes]
    exact hub.registry.closed.toNat_le
  · exact {
      isClosed := closed
      size := wellFormed.size_closed closed hub.alive
      types := wellFormed.types_closed closed hub.alive
      prune := by
        rw [Hub.prune_eq]
        exact wellFormed.prune_closed closed hub.alive
      close := by
        rw [Hub.close_eq]
        exact (Registry.close_answer _).trans (by simp [closed])
      refuses := fun operation => Hub.refusal?_closed closed
      silent := Hub.publication_closed closed
      grounded := Hub.publishAsync_closed closed }
  · exact {
      isClosed := opened
      close := by
        rw [Hub.close_eq]
        exact (Registry.close_answer _).trans (by simp [opened])
      accepts := Hub.refusal?_open opened wellFormed }
  · obtain ⟨earlier, later, before, same, there, begun⟩ := storied.begun sailing
    refine ⟨earlier, later, before, same, ?_, there, begun⟩
    -- A closed bus would have refused the snapshot that the flight has.
    rw [there.any_closes]
    refine Bool.eq_false_iff.mpr fun closed => ?_
    cases begun.snapshot.symm.trans (Hub.snapshot_closed closed before.alive _)

/-- A flight is under way when its bus is closed, twice, and its handler is called after that. -/
def closedDispatch : List (Incident × Answer) :=
  let audit : Handler := ⟨1, "audit"⟩
  let event : Event := ⟨⟨0⟩, ⟨"order"⟩, .null, .epoch, none⟩
  [(.request (.create audit), .done),
    (.request (.subscribe ⟨"order"⟩ audit), .subscribed (.ok ⟨0, 1, ⟨"order"⟩⟩)),
    (.publishAsync true event, .launched (.ok 0)),
    (.request .close, .closed true), (.request .close, .closed false),
    (.move 0 .launch, .done), (.move 0 .submit, .done), (.move 0 (.start 1), .done)]

/-- The flight began before the bus was closed, and the bus refuses a handle that it gave out. -/
theorem closedDispatch_final :
    ∃ hub voyage, Hub.Storied {} closedDispatch hub ∧ hub.voyages = [voyage] ∧
      voyage.notices = [.called ⟨1, ⟨1, "audit"⟩⟩] ∧
      (∃ earlier later before, closedDispatch = earlier ++ later ∧
        earlier.any Hub.closes = false ∧ Hub.Storied {} earlier before ∧
        voyage.origin.BegunAt {} before) ∧
      (Operation.unsubscribe ⟨0, 1, ⟨"order"⟩⟩).refusal? {} hub = some .busClosed := by
  -- The dispatch is run incident by incident, with the close after the launch.
  obtain ⟨hub, voyage, storied, sole, called⟩ : ∃ hub voyage,
      Hub.Storied {} closedDispatch hub ∧ hub.voyages = [voyage] ∧
        voyage.notices = [.called ⟨1, ⟨1, "audit"⟩⟩] :=
    ⟨_, _, .step (.step (.step (.step (.step (.step (.step (.step (.new 0) rfl) rfl) rfl) rfl) rfl)
      rfl) rfl) rfl, rfl, rfl⟩
  obtain ⟨_, shut, _, begun⟩ := close_is_final storied
  exact ⟨hub, voyage, storied, sole, called, begun voyage (sole ▸ List.mem_cons_self),
    (shut (by decide)).refuses _ rfl⟩

end EventBus
