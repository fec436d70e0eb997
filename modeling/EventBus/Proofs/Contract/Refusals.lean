import EventBus.Proofs.Contract.Gate
import EventBus.Proofs.Hub.Closing

/-!
A call that is refused leaves no trace. Whatever a client asks of a bus or of a publisher in front
of it, an error in answer means that the registry is as it was, that nobody has been called, that no
flight has begun and that the clients hold what they held.
-/

namespace EventBus

/-- Whether an error is one with which a bus or a publisher refuses a call. -/
def BusError.isRejection : BusError → Bool
  -- The one is for those who read an event, the other for those who wait for a flight.
  | .typeMismatch .. | .dispatchAborted _ => false
  | _ => true

/-- Whether a record may be written in the course of a call that is refused in the end. -/
def LogRecord.isRemark : LogRecord → Bool
  | .singleOwner .. | .publicationRejected .. => true
  | _ => false

/-- All that makes a difference to a hub is as it was before something was done there. -/
structure Aftermath.Untraced {α : Type} (done : Aftermath α) (hub : Hub) : Prop where
  /-- It is as open as before, counts its ids from the same one, and has the same entries. -/
  registry : done.hub.registry = hub.registry
  outside : done.hub.outside = hub.outside
  /-- No flight has begun, and none has noticed anything. -/
  voyages : done.hub.voyages = hub.voyages
  calls : done.hub.calls = hub.calls
  marks : done.marks = []
  born : ∀ handler ∈ hub.born, handler ∈ done.hub.born
  /-- The log may say why, but nothing in it is a failure that nobody has observed. -/
  records : ∃ remarks, done.hub.records = hub.records ++ remarks ∧
    ∀ record ∈ remarks, record.isRemark = true

/-- Who is alive is the same where no trace is left. -/
theorem Aftermath.Untraced.alive_eq {α : Type} {done : Aftermath α} {hub : Hub}
    (untraced : done.Untraced hub) : done.hub.alive = hub.alive := by
  -- Clients, flights and the registry are all the owners that there are.
  funext handler
  have owners : done.hub.owners handler = hub.owners handler := by
    simp only [Hub.owners, untraced.registry, untraced.outside, untraced.voyages]
  simp only [Hub.alive, owners]

namespace Activity

variable {α : Type}

/-- Does something and tells the error with which it was refused, if it was. -/
def verdict (activity : Activity (Except BusError α)) : Activity (Option BusError) := fun hub =>
  ⟨refusal? (activity hub).answer, (activity hub).marks, (activity hub).hub⟩

/-- Something that leaves no trace at a hub where it is refused. -/
def Careful (activity : Activity (Except BusError α)) (hub : Hub) : Prop :=
  ∀ error, (activity hub).answer = .error error →
    error.isRejection = true ∧ (activity hub).Untraced hub

/-- Where something careful is refused, what it comes to is only the error. -/
theorem Careful.verdict {activity : Activity (Except BusError α)} {hub : Hub}
    (careful : activity.Careful hub) {error : BusError}
    (refused : (activity.verdict hub).answer = some error) :
    error.isRejection = true ∧ (activity.verdict hub).Untraced hub := by
  -- There is an error to be told only if the activity itself was answered with it.
  have refused : refusal? (activity hub).answer = some error := refused
  have answered : (activity hub).answer = .error error := by
    cases answer : (activity hub).answer with
    | error other =>
      rw [answer] at refused
      exact congrArg Except.error (Option.some.inj refused)
    | ok _ =>
      rw [answer] at refused
      cases refused
  obtain ⟨rejection, untraced⟩ := careful error answered
  -- Telling the error changes neither the marks nor the hub.
  exact ⟨rejection, { untraced with }⟩

end Activity

/-- Subscribes a handler that is made for it, and that the registry alone holds in the end. -/
def Hub.subscribeNew (config : BusConfig) (type : EventType) (handler : Handler) :
    StateM Hub (Except BusError SubscriptionHandle) := do
  let bus := Hub.bus config fun _ _ => none
  let _ ← Hub.serve bus (.create handler)
  let answer ← bus.subscribeRetained type handler
  -- The reference with which the handler was made is given up.
  bus.drop handler
  return answer

/-- What a client does as long as the bus is not closed, with the error if it is refused. -/
def Operation.enact (config : BusConfig) : Operation → Activity (Option BusError) :=
  let bus := Hub.bus config fun _ _ => none
  fun
  | subscribe type handler => .verdict (.quietly (bus.subscribe type handler))
  | subscribeRetained type handler => .verdict (.quietly (bus.subscribeRetained type handler))
  | subscribeClosure type handler => .verdict (.quietly (Hub.subscribeNew config type handler))
  | subscribeMany types handler => .verdict (.quietly (bus.subscribeMany types handler))
  | unsubscribe handle => .verdict (.quietly (bus.unsubscribe handle))
  | snapshot type => .verdict (.quietly (bus.snapshot type))
  | publish depth react event => .verdict (Hub.publication config depth react event)
  | publishAsync runtime event => .verdict (.quietly (bus.publishAsync runtime event))

/-- What a client asks of a bus, or of a publisher in front of it, and may be refused. -/
inductive Errand where
  | plain (operation : Operation)
  | subscribe (publisher : Publisher) (declaration : Declaration) (handler : Handler)
  | publish (publisher : Publisher) (depth : Nat) (react : Reactions) (event : Event)
  | publishAsync (publisher : Publisher) (runtime : Bool) (event : Event)
  | trigger (publisher : Publisher) (depth : Nat) (react : Reactions) (declaration : Declaration)
    (stamp : Stamp) (value : declaration.Carrier)

/-- Carries out an errand and tells the error with which it was refused, if it was. -/
def Errand.enact (config : BusConfig) : Errand → Activity (Option BusError)
  | .plain operation => operation.enact config
  | .subscribe publisher declaration handler =>
    .verdict (.quietly (publisher.subscribe (Hub.bus config fun _ _ => none)
      declaration.publication handler))
  | .publish publisher depth react event =>
    .verdict (publisher.publish (Activity.bus config depth (react.respond config depth)) event)
  | .publishAsync publisher runtime event =>
    -- The flight calls nobody before it makes its first moves.
    .verdict (publisher.publishAsync (Activity.bus config 0 fun _ _ => pure none) runtime event)
  | .trigger publisher depth react declaration stamp value =>
    .verdict (publisher.trigger (Activity.bus config depth (react.respond config depth))
      declaration.publication stamp value)

namespace Registry

variable {registry : Registry} {alive : Handler → Bool} {error : BusError}

/--
A subscription is refused for its type or for a closed registry, before anything is done.

So it is refused whichever the handler is, and whoever is alive.
-/
theorem subscribe_rejected {type : EventType} {handler : Handler} {retain : Bool}
    (refused : (registry.subscribe alive type handler retain).answer = .error error) :
    (∀ alive handler retain,
      registry.subscribe alive type handler retain = registry.unchanged (.error error)) ∧
      error.isRejection = true := by
  -- A blank type is noticed first, even by a closed registry.
  by_cases blank : type.isBlank = true
  · rw [subscribe_blank blank] at refused
    cases refused
    exact ⟨fun _ _ _ => subscribe_blank blank, rfl⟩
  have named : type.isBlank = false := by simpa using blank
  by_cases closed : registry.closed = true
  · rw [subscribe_closed named closed] at refused
    cases refused
    exact ⟨fun _ _ _ => subscribe_closed named closed, rfl⟩
  · obtain ⟨handle, accepted⟩ := @subscribe_accepted registry alive type handler retain named
      (by simpa using closed)
    cases accepted.symm.trans refused

/-- The end of a subscription is refused for a closed registry alone, before anything is done. -/
theorem unsubscribe_rejected {handle : SubscriptionHandle}
    (refused : (registry.unsubscribe alive handle).answer = .error error) :
    registry.unsubscribe alive handle = registry.unchanged (.error error) ∧
      error = .busClosed ∧ registry.closed = true := by
  by_cases closed : registry.closed = true
  · rw [unsubscribe_closed closed] at refused ⊢
    cases refused
    exact ⟨rfl, rfl, closed⟩
  -- An open registry has an answer to every handle, its own or not.
  have opened : registry.closed = false := by simpa using closed
  by_cases own : handle.registry = registry.id
  · cases (unsubscribe_answer opened own).symm.trans refused
  · rw [unsubscribe_foreign opened own] at refused
    cases refused

/-- A snapshot is refused for a closed registry alone. -/
theorem snapshot_rejected {type : EventType}
    (refused : registry.snapshot alive type = .error error) :
    error = .busClosed ∧ registry.closed = true := by
  -- The registry looks at nothing but whether it is closed.
  unfold snapshot at refused
  split at refused
  · cases refused
    exact ⟨rfl, by assumption⟩
  · cases refused

end Registry

namespace Hub

variable (config : BusConfig) (hub : Hub)

/-- What leaves nothing but remarks in the log leaves no trace. -/
theorem untraced_of_remarks {α : Type} {hub : Hub} {done : Aftermath α} {remarks : List LogRecord}
    (remarked : ∀ record ∈ remarks, record.isRemark = true) (marks : done.marks = [])
    (same : done.hub = { hub with records := hub.records ++ remarks }) : done.Untraced hub := by
  -- No part of the hub but the log has changed, so each comparison is one with itself.
  obtain ⟨answer, own, last⟩ := done
  obtain rfl : own = [] := marks
  obtain rfl : last = { hub with records := hub.records ++ remarks } := same
  exact ⟨rfl, rfl, rfl, rfl, rfl, fun _ there => there, remarks, rfl, remarked⟩

/-- What leaves the hub itself leaves no trace. -/
theorem untraced_of_same {α : Type} {hub : Hub} {done : Aftermath α} (marks : done.marks = [])
    (same : done.hub = hub) : done.Untraced hub := by
  -- Leaving nothing at all is to leave an empty list of remarks.
  have nothing : ∀ record ∈ ([] : List LogRecord), record.isRemark = true := nofun
  refine untraced_of_remarks nothing marks ?_
  rw [same, List.append_nil]

/-- A section that changes nothing leaves the hub as it is. -/
theorem after_unchanged {α : Type} (hub : Hub) (answer : α) :
    hub.after (hub.registry.unchanged answer) = hub := by
  -- It writes nothing to the log either.
  simp [after, Registry.unchanged]

/-- A weak subscription that is refused leaves at most a warning. -/
theorem careful_subscribe (type : EventType) (handler : Handler) :
    (Activity.quietly ((bus config fun _ _ => none).subscribe type handler)).Careful hub := by
  intro error refused
  -- A registry that refuses is unchanged, so only the log can differ.
  simp only [Activity.quietly, subscribe_eq] at refused ⊢
  obtain ⟨unchanged, rejection⟩ := Registry.subscribe_rejected refused
  refine ⟨rejection, ?_⟩
  rw [unchanged]
  -- The warning is written before the registry is asked.
  split
  · have remarked : ∀ record ∈ [LogRecord.singleOwner type handler.name],
        record.isRemark = true := by
      intro record there
      rw [List.mem_singleton.mp there]
      rfl
    apply untraced_of_remarks remarked
    · rfl
    · simp [after, note, Registry.unchanged]
  · apply untraced_of_same
    · rfl
    · exact after_unchanged hub _

/-- A retained subscription that is refused leaves nothing. -/
theorem careful_subscribeRetained (type : EventType) (handler : Handler) :
    (Activity.quietly ((bus config fun _ _ => none).subscribeRetained type handler)).Careful
      hub := by
  intro error refused
  simp only [Activity.quietly, subscribeRetained_eq] at refused ⊢
  -- A subscription that retains gives no warning, so not even the log differs.
  obtain ⟨unchanged, rejection⟩ := Registry.subscribe_rejected refused
  refine ⟨rejection, untraced_of_same rfl ?_⟩
  rw [unchanged]
  exact after_unchanged hub _

/-- The handler that is made for a subscription is held until the registry has answered. -/
theorem subscribeNew_eq (type : EventType) (handler : Handler) :
    subscribeNew config type handler hub =
      let made : Hub := { hub.take handler with born := handler :: hub.born }
      let done := (bus config fun _ _ => none).subscribeRetained type handler made
      (done.1, done.2.giveUp handler) :=
  rfl

/-- A handler that was made for a subscription is let go of when that is refused. -/
theorem careful_subscribeNew (type : EventType) (handler : Handler) :
    (Activity.quietly (subscribeNew config type handler)).Careful hub := by
  intro error refused
  let made : Hub := { hub.take handler with born := handler :: hub.born }
  -- The subscription itself leaves no trace; what remains is the making of the handler.
  have careful := careful_subscribeRetained config made type handler error
  simp only [Activity.quietly, subscribeNew_eq] at refused careful ⊢
  generalize (bus config fun _ _ => none).subscribeRetained type handler made = done
    at refused careful ⊢
  obtain ⟨rejection, untraced⟩ := careful refused
  refine ⟨rejection, ⟨untraced.registry, ?_, untraced.voyages, untraced.calls, rfl, ?_,
    untraced.records⟩⟩
  · -- The client gives up the reference that it took to make the handler.
    have outside : done.2.outside = made.outside := untraced.outside
    show (done.2.giveUp handler).outside = hub.outside
    funext other
    simp only [giveUp, outside, made, take]
    split <;> simp
  · intro other there
    exact untraced.born other (List.mem_cons_of_mem handler there)

/-- The end of a subscription that is refused leaves nothing. -/
theorem careful_unsubscribe (handle : SubscriptionHandle) :
    (Activity.quietly ((bus config fun _ _ => none).unsubscribe handle)).Careful hub := by
  intro error refused
  simp only [Activity.quietly, unsubscribe_eq] at refused ⊢
  -- A refused end has changed neither the registry nor the log.
  obtain ⟨unchanged, rfl, _⟩ := Registry.unsubscribe_rejected refused
  refine ⟨rfl, untraced_of_same rfl ?_⟩
  rw [unchanged]
  exact after_unchanged hub _

/-- A snapshot that is refused is held by nobody. -/
theorem careful_snapshot (type : EventType) :
    (Activity.quietly ((bus config fun _ _ => none).snapshot type)).Careful hub := by
  intro error refused
  simp only [Activity.quietly, snapshot_eq] at refused ⊢
  -- A refused snapshot holds no subscriber.
  obtain ⟨rfl, _⟩ := Registry.snapshot_rejected refused
  rw [refused]
  exact ⟨rfl, untraced_of_same rfl rfl⟩

/-- Several subscriptions are refused together, for a blank type or for a closed bus. -/
theorem careful_subscribeMany {hub : Hub} (wellFormed : hub.registry.WellFormed)
    (types : List EventType) (handler : Handler) :
    (Activity.quietly ((bus config fun _ _ => none).subscribeMany types handler)).Careful hub := by
  intro error refused
  simp only [Activity.quietly, Bus.subscribeMany] at refused ⊢
  -- A blank type stops everything before the registry is asked; otherwise the bus must be closed.
  cases found : types.find? EventType.isBlank with
  | some blank =>
    simp only [found] at refused ⊢
    cases refused
    exact ⟨rfl, untraced_of_same rfl rfl⟩
  | none =>
    simp only [found] at refused ⊢
    have named : ∀ type ∈ types, type.isBlank = false := fun type there => by
      simpa using List.find?_eq_none.mp found type there
    by_cases closed : hub.registry.closed = true
    · cases types with
      | nil => cases refused
      | cons type rest =>
        -- The first subscription is refused, and no other is tried.
        have first := careful_subscribe config hub type handler
        have rejected : ((bus config fun _ _ => none).subscribe type handler hub).1 =
            .error .busClosed := by
          rw [subscribe_eq, Registry.subscribe_closed (named type List.mem_cons_self) closed]
          rfl
        simp only [Activity.Careful, Activity.quietly] at first
        rw [subscribeEach_cons] at refused ⊢
        generalize (bus config fun _ _ => none).subscribe type handler hub = done
          at first rejected refused ⊢
        obtain ⟨answer, next⟩ := done
        obtain rfl : answer = .error .busClosed := rejected
        obtain ⟨rejection, untraced⟩ := first _ rfl
        cases refused
        exact ⟨rejection, ⟨untraced.registry, untraced.outside, untraced.voyages, untraced.calls,
          rfl, untraced.born, untraced.records⟩⟩
    · -- An open bus subscribes the handler to all of them.
      obtain ⟨handles, accepted⟩ := subscribeEach_open config (by simpa using closed) wellFormed
        handler named
      cases accepted.symm.trans refused

/-- A publication that is refused calls nobody. -/
theorem careful_publication (depth : Nat) (react : Reactions) (event : Event) :
    (publication config depth react event).Careful hub := by
  -- Only a closed bus refuses a publication, and it does so before it looks for subscribers.
  intro error refused
  obtain ⟨rfl, closed⟩ := (publication_error_iff hub react event error).mp refused
  rw [publication_closed closed]
  exact ⟨rfl, untraced_of_same rfl rfl⟩

/-- A flight that is refused does not begin, and whom it would have called is let go of. -/
theorem careful_publishAsync (runtime : Bool) (event : Event) :
    (Activity.quietly ((bus config fun _ _ => none).publishAsync runtime event)).Careful hub := by
  intro error refused
  simp only [Activity.quietly, publishAsync_eq] at refused ⊢
  cases taken : hub.registry.snapshot hub.alive event.type with
  | error _ =>
    -- Without a snapshot there is nobody to be held.
    simp only [taken] at refused ⊢
    cases refused
    obtain ⟨rfl, _⟩ := Registry.snapshot_rejected taken
    exact ⟨rfl, untraced_of_same rfl rfl⟩
  | ok subscribers =>
    simp only [taken] at refused ⊢
    cases subscribers with
    | nil => cases refused
    | cons first rest =>
      -- Only the lack of a runtime is in the way now.
      cases runtime with
      | true => cases refused
      | false =>
        cases refused
        exact ⟨rfl, untraced_of_same rfl rfl⟩

end Hub

namespace Publisher

variable {m : Type → Type} [Monad m] (publisher : Publisher) (bus : Bus m)

/-- A type has been declared, or its events are refused. -/
theorem declaration_cases (type : EventType) :
    publisher.declaration type = .error (.undeclaredPublication type) ∨
      ∃ check, publisher.declaration type = .ok check := by
  -- What a look-up finds is the check of the last declaration.
  unfold declaration
  cases publisher.declared.lookup type with
  | none => exact Or.inl rfl
  | some check => exact Or.inr ⟨check, rfl⟩

/-- An event is of no declared type, or has a payload that does not fit, or is let through. -/
theorem validate_cases (event : Event) :
    publisher.validate bus event = pure (.error (.undeclaredPublication event.type)) ∨
      (∃ reason, publisher.validate bus event = (do
        bus.log (.publicationRejected event.type (.invalidPayload event.type reason))
        return .error (.invalidPayload event.type reason))) ∨
      publisher.validate bus event = pure (.ok ()) := by
  rcases publisher.declaration_cases event.type with unknown | ⟨check, known⟩
  · exact Or.inl (by simp only [validate, unknown])
  -- The type was declared, so it is up to the check of its payload.
  refine Or.inr ?_
  cases verdict : check event.payload with
  | error error =>
    have refused : check.run event = .error (.invalidPayload event.type error.message) := by
      rw [PayloadCheck.run, verdict]
      rfl
    exact Or.inl ⟨error.message, by simp only [validate, known, refused]⟩
  | ok _ =>
    have passed : check.run event = .ok () := by
      rw [PayloadCheck.run, verdict]
      rfl
    exact Or.inr (by simp only [validate, known, passed])

/--
An event is stopped by the publisher, or left to the bus.

It is stopped without a word if its type has not been declared, and otherwise with a remark.
-/
theorem gate_cases [LawfulMonad m] (event : Event) :
    (∃ error : BusError, error.isRejection = true ∧
        publisher.publish bus event = pure (.error error) ∧
        ∀ runtime, publisher.publishAsync bus runtime event = pure (.error error)) ∨
      (∃ error : BusError, error.isRejection = true ∧
        publisher.publish bus event =
          (do bus.log (.publicationRejected event.type error); return .error error) ∧
        ∀ runtime, publisher.publishAsync bus runtime event =
          (do bus.log (.publicationRejected event.type error); return .error error)) ∨
      (publisher.publish bus event = bus.publish event ∧
        ∀ runtime, publisher.publishAsync bus runtime event = bus.publishAsync runtime event) := by
  -- Both kinds of publication ask the same gate first, and go on to the bus only after it.
  rcases publisher.validate_cases bus event with unknown | ⟨reason, misfit⟩ | passed
  · refine Or.inl ⟨.undeclaredPublication event.type, rfl, ?_, fun runtime => ?_⟩
    · simp only [publish, unknown, pure_bind]
    · simp only [publishAsync, unknown, pure_bind]
  · refine Or.inr (Or.inl ⟨.invalidPayload event.type reason, rfl, ?_, fun runtime => ?_⟩)
    · simp only [publish, misfit, bind_assoc, pure_bind]
    · simp only [publishAsync, misfit, bind_assoc, pure_bind]
  · refine Or.inr (Or.inr ⟨?_, fun runtime => ?_⟩)
    · simp only [publish, passed, pure_bind]
    · simp only [publishAsync, passed, pure_bind]

variable (config : BusConfig) {hub : Hub}

/-- To stop an event without a word leaves no trace. -/
theorem careful_pure {α : Type} {error : BusError} (rejection : error.isRejection = true) :
    Activity.Careful (pure (.error error) : Activity (Except BusError α)) hub := by
  -- Nothing is done but to answer.
  intro other refused
  cases refused
  exact ⟨rejection, Hub.untraced_of_same rfl rfl⟩

/-- To stop an event with a remark leaves no trace but the remark. -/
theorem careful_remark {α : Type} {error : BusError} (rejection : error.isRejection = true)
    (depth : Nat) (respond : Handler → Event → Activity (Option Cause)) (type : EventType) :
    Activity.Careful (do
      (Activity.bus config depth respond).log (.publicationRejected type error)
      return .error error : Activity (Except BusError α)) hub := by
  -- The remark is the only difference.
  intro other refused
  cases refused
  have remarked : ∀ record ∈ [LogRecord.publicationRejected type error],
      record.isRemark = true := by
    intro record there
    rw [List.mem_singleton.mp there]
    rfl
  exact ⟨rejection, Hub.untraced_of_remarks remarked rfl rfl⟩

/-- A publication through a publisher leaves no trace where it is refused, by whichever of them. -/
theorem careful_publish (depth : Nat) (react : Reactions) (event : Event) :
    (publisher.publish (Activity.bus config depth (react.respond config depth)) event).Careful
      hub := by
  -- The error is one of the gate, told silently or with a remark, or it is one of the bus.
  rcases publisher.gate_cases (Activity.bus config depth (react.respond config depth)) event with
    ⟨error, rejection, stopped, _⟩ | ⟨error, rejection, stopped, _⟩ | ⟨through, _⟩
  · rw [stopped]
    exact careful_pure rejection
  · rw [stopped]
    exact careful_remark config rejection depth _ event.type
  · rw [through]
    exact Hub.careful_publication config hub depth react event

/-- So does an asynchronous one. -/
theorem careful_publishAsync (runtime : Bool) (event : Event) :
    (publisher.publishAsync (Activity.bus config 0 fun _ _ => pure none) runtime event).Careful
      hub := by
  -- The gate is the same for both kinds of publication.
  rcases publisher.gate_cases (Activity.bus config 0 fun _ _ => pure none) event with
    ⟨error, rejection, _, stopped⟩ | ⟨error, rejection, _, stopped⟩ | ⟨_, through⟩
  · rw [stopped]
    exact careful_pure rejection
  · rw [stopped]
    exact careful_remark config rejection 0 _ event.type
  · rw [through, funext (Activity.publishAsync_eq _ runtime event)]
    exact Hub.careful_publishAsync config hub runtime event

/-- A value that cannot be written makes no event, and an event is published like any other. -/
theorem careful_trigger (depth : Nat) (react : Reactions) (declaration : Declaration)
    (stamp : Stamp) (value : declaration.Carrier) :
    (publisher.trigger (Activity.bus config depth (react.respond config depth))
      declaration.publication stamp value).Careful hub := by
  unfold trigger
  cases made : declaration.publication.event stamp value with
  | error error =>
    refine careful_pure ?_
    -- The only error that can come of writing is that of the writing itself.
    unfold Publication.event at made
    cases written : Event.ofData stamp declaration.publication.type value with
    | ok event =>
      rw [written] at made
      cases made
    | error reason =>
      rw [written] at made
      cases made
      rfl
  | ok event => exact careful_publish publisher config depth react event

/-- A subscription through a publisher leaves no trace where it is refused, by whichever of them. -/
theorem careful_subscribe (declaration : Declaration) (handler : Handler) :
    (Activity.quietly (publisher.subscribe (Hub.bus config fun _ _ => none)
      declaration.publication handler)).Careful hub := by
  -- A type that was not declared does not get as far as the bus.
  unfold subscribe
  rcases publisher.declaration_cases declaration.publication.type with unknown | ⟨check, known⟩
  · rw [unknown]
    intro error refused
    cases refused
    exact ⟨rfl, Hub.untraced_of_same rfl rfl⟩
  · rw [known]
    exact Hub.careful_subscribe config hub declaration.publication.type handler

end Publisher

/--
A call that is refused leaves no trace, whichever it is and whatever state the bus is in.

This goes for every operation of a registry and of its bus, and for all that a publisher does in
front of it. The error is one of those that a client is told of; the registry is the same as before,
with its ids and its entries and the references that these hold; nobody has been called, no flight
has begun or noticed a failure, the clients hold what they held, and so the same handlers live.
-/
theorem refused_calls_leave_no_trace {config : BusConfig} {hub : Hub}
    (attainable : hub.Attainable config) (errand : Errand) (error : BusError)
    (refused : (errand.enact config hub).answer = some error) :
    error.isRejection = true ∧ (errand.enact config hub).Untraced hub ∧
      (errand.enact config hub).hub.alive = hub.alive := by
  -- Each errand is careful, and telling its error adds nothing to that.
  have careful : error.isRejection = true ∧ (errand.enact config hub).Untraced hub := by
    cases errand with
    | plain operation =>
      cases operation with
      | subscribe type handler =>
        exact (Hub.careful_subscribe config hub type handler).verdict refused
      | subscribeRetained type handler =>
        exact (Hub.careful_subscribeRetained config hub type handler).verdict refused
      | subscribeClosure type handler =>
        exact (Hub.careful_subscribeNew config hub type handler).verdict refused
      | subscribeMany types handler =>
        exact (Hub.careful_subscribeMany config attainable.intact.1 types handler).verdict refused
      | unsubscribe handle => exact (Hub.careful_unsubscribe config hub handle).verdict refused
      | snapshot type => exact (Hub.careful_snapshot config hub type).verdict refused
      | publish depth react event =>
        exact (Hub.careful_publication config hub depth react event).verdict refused
      | publishAsync runtime event =>
        exact (Hub.careful_publishAsync config hub runtime event).verdict refused
    | subscribe publisher declaration handler =>
      exact (publisher.careful_subscribe config declaration handler).verdict refused
    | publish publisher depth react event =>
      exact (publisher.careful_publish config depth react event).verdict refused
    | publishAsync publisher runtime event =>
      exact (publisher.careful_publishAsync config runtime event).verdict refused
    | trigger publisher depth react declaration stamp value =>
      exact (publisher.careful_trigger config depth react declaration stamp value).verdict refused
  exact ⟨careful.1, careful.2, careful.2.alive_eq⟩

/-- A handler is subscribed to orders, and nothing runs in which a flight could take place. -/
def soleSubscriber : List Incident :=
  [.request (.create ⟨1, "audit"⟩), .request (.subscribe ⟨"order"⟩ ⟨1, "audit"⟩)]

/-- An order that cannot fly is as if it had never been published, though its type was declared. -/
theorem soleSubscriber_grounded :
    let order := Event.new ⟨⟨0⟩, .epoch⟩ ⟨"order"⟩ (.object [("message", .string "late")])
    let publisher := Declaration.publisher [⟨AuditNote, ⟨⟨"order"⟩⟩⟩]
    let errand : Errand := .publishAsync publisher false order
    ∃ hub : Hub, (Hub.new 0).run? {} soleSubscriber = some hub ∧
      hub.registry.size hub.alive = 1 ∧ (errand.enact {} hub).answer = some .noRuntime ∧
      (errand.enact {} hub).Untraced hub := by
  intro order publisher errand
  have seen : ((Hub.new 0).run? {} soleSubscriber).map (fun hub =>
      decide (hub.registry.size hub.alive = 1 ∧
        (errand.enact {} hub).answer = some .noRuntime)) = some true := by decide +kernel
  -- The hub that came about has the errand refused, and refusals leave no trace.
  obtain ⟨hub, ran, facts⟩ := Option.map_eq_some_iff.mp seen
  obtain ⟨alive, refused⟩ := of_decide_eq_true facts
  have attainable := ((Hub.Reachable.new 0).run? ran).attainable
  exact ⟨hub, ran, alive, refused,
    (refused_calls_leave_no_trace attainable errand .noRuntime refused).2.1⟩

end EventBus
