import EventBus.Contract.Publication
import EventBus.Proofs.Contract.Payloads
import EventBus.Proofs.Hub.Agreement
import EventBus.Proofs.Hub.Isolation

/-!
What is triggered at a publisher is what its subscribers read, provided that the publication is the
one last declared for its type.
-/

namespace EventBus

/-- A publication is the one that a publisher has declared last for its type. -/
inductive Publication.LastOf {α : Type} [Payload α] (publication : Publication α) :
    Publisher → Prop
  | declared (publisher : Publisher) : LastOf publication (publisher.declare publication)
  /-- Declarations for other types may follow. -/
  | followed {publisher : Publisher} {β : Type} [Payload β] (other : Publication β)
    (before : LastOf publication publisher) (differs : other.type ≠ publication.type) :
    LastOf publication (publisher.declare other)

namespace Publisher

variable {α : Type} [Payload α] {publication : Publication α} {publisher : Publisher}

/-- A declaration for another type does not change what is declared for a type. -/
theorem declaration_declare_of_ne {type : EventType} (publisher : Publisher)
    (differs : publication.type ≠ type) :
    (publisher.declare publication).declaration type = publisher.declaration type := by
  have kept : ∀ declared : List (EventType × PayloadCheck),
      (declared.filter fun declaration => declaration.1 ≠ publication.type).lookup type =
        declared.lookup type := by
    intro declared
    induction declared with
    | nil => rfl
    | cons first rest ih =>
      obtain ⟨other, check⟩ := first
      by_cases replaced : other = publication.type
      · -- The declaration that is replaced is for another type than the one looked up.
        have passed : (type == other) = false := by simpa [replaced] using Ne.symm differs
        rw [List.filter_cons_of_neg (by simpa using replaced), List.lookup_cons, passed, ih]
      · rw [List.filter_cons_of_pos (by simpa using replaced), List.lookup_cons,
          List.lookup_cons, ih]
  -- The new declaration comes first in the list and is passed over.
  have passed : (type == publication.type) = false := by simp [Ne.symm differs]
  have same : (publisher.declare publication).declared.lookup type =
      publisher.declared.lookup type := by
    rw [declare, List.lookup_cons, passed]
    exact kept publisher.declared
  rw [declaration, declaration, same]

/-- The publication last declared for a type decides what its events have to pass. -/
theorem declaration_of_lastOf (last : publication.LastOf publisher) :
    publisher.declaration publication.type = .ok (Payload.check α) := by
  -- The induction is on the declarations that came after the last one for the type.
  induction last with
  | declared publisher => simp [declaration, declare]
  | followed other before differs ih => exact (declaration_declare_of_ne _ differs).trans ih

end Publisher

namespace Publication

variable {α : Type} [Payload α] {publication : Publication α} {value : α} {json : Json}

/-- The event of a value that can be written carries what was written. -/
theorem event_of_encode (stamp : Stamp) (written : Payload.encode value = .ok json) :
    publication.event stamp value = .ok (Event.new stamp publication.type json) := by
  -- Only what cannot be written fails to become an event.
  simp [Publication.event, Event.ofData, written, Except.map, Except.mapError]

variable [Payload.Faithful α]

/-- What was written passes the check of its payload type. -/
theorem run_check_of_encode {event : Event} (written : Payload.encode value = .ok event.payload) :
    PayloadCheck.run (Payload.check α) event = .ok () := by
  -- The check reads the payload, and what was written is read back.
  have reads : (Payload.decode event.payload : Except DecodeError α) = .ok value :=
    Payload.Faithful.decode_encode written
  simp [PayloadCheck.run, Payload.check, reads, Except.map, Except.mapError]

/-- An event of the publication's type with a written payload passes the publication's check. -/
theorem check_of_encode {event : Event} (own : event.type = publication.type)
    (written : Payload.encode value = .ok event.payload) : publication.check event = .ok () := by
  -- The type is looked at first, and only then the payload.
  rw [Publication.check, if_pos own]
  exact run_check_of_encode written

/-- The value that was written is the one that the publication reads. -/
theorem decode_of_encode {event : Event} (own : event.type = publication.type)
    (written : Payload.encode value = .ok event.payload) :
    publication.decode event = .ok value := by
  -- The check lets the event through, and then the same reading gives the value.
  have reads : event.data α = .ok value := Payload.Faithful.decode_encode written
  rw [Publication.decode, check_of_encode own written, reads]
  rfl

end Publication

namespace Publisher

variable {α : Type} [Payload α] [Payload.Faithful α] {publication : Publication α} {value : α}
  {publisher : Publisher} {m : Type → Type} [Monad m] (bus : Bus m)

/-- An event with a written payload is let through, and nothing is logged. -/
theorem validate_of_encode (last : publication.LastOf publisher) {event : Event}
    (own : event.type = publication.type) (written : Payload.encode value = .ok event.payload) :
    publisher.validate bus event = pure (.ok ()) := by
  -- The check that counts is the one that was declared last, which the event passes.
  have declared := declaration_of_lastOf last
  rw [← own] at declared
  simp only [validate, declared, Publication.run_check_of_encode written]

/-- To trigger a value that can be written is to publish its event. -/
theorem trigger_eq [LawfulMonad m] (last : publication.LastOf publisher) (stamp : Stamp)
    {json : Json} (written : Payload.encode value = .ok json) :
    publisher.trigger bus publication stamp value =
      bus.publish (Event.new stamp publication.type json) := by
  -- A value that is written becomes an event, and its event is let through.
  let event := Event.new stamp publication.type json
  have through : publisher.validate bus event = pure (.ok ()) :=
    validate_of_encode bus last rfl written
  simp only [trigger, Publication.event_of_encode stamp written, publish, event, through, pure_bind]

end Publisher

variable {config : BusConfig} {depth : Nat}

/-- A publication is refused by a closed bus, and by no other. -/
theorem Hub.publication_error_iff (hub : Hub) (react : Reactions) (event : Event)
    (error : BusError) :
    (Hub.publication config depth react event hub).answer = .error error ↔
      error = .busClosed ∧ hub.registry.closed = true := by
  -- Only the snapshot is refused, and only by a registry that is closed.
  by_cases closed : hub.registry.closed = true
  · have refused : hub.registry.snapshot hub.alive event.type = .error .busClosed := if_pos closed
    simp only [Hub.publication, Activity.publish_eq, refused, closed, and_true]
    exact ⟨fun same => (Except.error.inj same).symm, fun same => congrArg Except.error same.symm⟩
  · -- An open bus always gives a snapshot, and then there is a result.
    obtain ⟨turns, _, _, answered⟩ := Activity.publication_turns config depth
      (if_neg closed : hub.registry.snapshot hub.alive event.type = .ok _) react
    rw [answered]
    refine ⟨fun same => ?_, fun both => absurd both.2 closed⟩
    cases same

/--
What is to become of a value that is triggered: its event passes the check of the publication, which
reads from it the very value, only a closed bus refuses it, and on an open one each live subscriber
of the type is called once with it.
-/
structure Publication.Delivers {α : Type} [Payload α] (publication : Publication α) (value : α)
    (depth : Nat) (hub : Hub) (done : Aftermath (Except BusError DispatchResult))
    (event : Event) : Prop where
  type_eq : event.type = publication.type
  check : publication.check event = .ok ()
  decode : publication.decode event = .ok value
  data : event.data α = .ok value
  refused : ∀ error, done.answer = .error error ↔ error = .busClosed ∧ hub.registry.closed = true
  called : hub.registry.closed = false → ∃ turns : List Turn,
    (turns.map Turn.subscriber =
      (hub.registry.live hub.alive publication.type).map fun entry => ⟨entry.id, entry.handler⟩) ∧
    (turns.map fun turn => turn.subscriber.handler).Nodup ∧
    done.marks.filter (·.depth = depth) = turns.flatMap (Turn.marks depth event) ∧
    done.answer = .ok ⟨publication.type, turns.length, 0, turns.filterMap Turn.failure?⟩

/-- A value is delivered whenever values of its type are read back from what is written of them. -/
theorem Publisher.trigger_faithful {α : Type} [Payload α] [Payload.Faithful α]
    (publication : Publication α) {value : α} {json : Json}
    (written : Payload.encode value = .ok json) {publisher : Publisher}
    (last : publication.LastOf publisher) (stamp : Stamp) {hub : Hub}
    (attainable : hub.Attainable config) (react : Reactions) :
    let bus := Activity.bus config depth (react.respond config depth)
    let done := publisher.trigger bus publication stamp value hub
    ∃ event, publication.event stamp value = .ok event ∧
      publication.Delivers value depth hub done event := by
  intro bus done
  let event := Event.new stamp publication.type json
  -- What is triggered gets through the gate, so it is published like any other event.
  have triggered : done = Hub.publication config depth react event hub :=
    congrFun (Publisher.trigger_eq bus last stamp written) hub
  refine ⟨event, Publication.event_of_encode stamp written, rfl,
    Publication.check_of_encode rfl written, Publication.decode_of_encode rfl written,
    Payload.Faithful.decode_encode written, ?_, ?_⟩
  · rw [triggered]
    exact Hub.publication_error_iff hub react event
  · -- The event has the publication's type, so its subscribers are those of the publication.
    intro opened
    let live := (hub.registry.live hub.alive publication.type).map Entry.subscriber
    have taken : hub.registry.snapshot hub.alive event.type = .ok live := if_neg (by simp [opened])
    obtain ⟨turns, subscribers, own, answered⟩ :=
      Activity.publication_turns config depth taken react
    have handlers : (live.map Subscriber.handler).Nodup := attainable.intact.2.snapshot taken
    rw [← subscribers, List.map_map] at handlers
    refine ⟨turns, subscribers, handlers, ?_, ?_⟩
    · rw [triggered]
      exact own
    · rw [triggered, answered]
      exact congrArg Except.ok (DispatchResult.sum_outcomes event.type turns Turn.subscriber _)

/--
What is triggered is delivered, for every kind of payload and every value that can be written.

The event passes the check of its publication, which reads from it the very value. Where the
publication is the one last declared for its type, triggering is refused only by a closed bus; on an
open one each live subscriber of the type is called once, with an event from which it can read the
value, whatever the handlers do meanwhile.
-/
theorem trigger_delivers (kind : PayloadKind) (publication : Publication kind.Carrier)
    {value : kind.Carrier} {json : Json} (written : Payload.encode value = .ok json)
    {publisher : Publisher} (last : publication.LastOf publisher) (stamp : Stamp)
    {hub : Hub} (attainable : hub.Attainable config) (react : Reactions) :
    let bus := Activity.bus config depth (react.respond config depth)
    let done := publisher.trigger bus publication stamp value hub
    ∃ event, publication.event stamp value = .ok event ∧
      publication.Delivers value depth hub done event :=
  -- The values of every kind are read back, and nothing else is needed of a kind.
  Publisher.trigger_faithful publication written last stamp attainable react

/-- Another type of payload was declared first, and a declaration for another type comes last. -/
def redeclared : Publisher :=
  let notes : Publication AuditNote := ⟨⟨"order"⟩⟩
  let sales : Publication Sale := ⟨⟨"order"⟩⟩
  let counts : Publication UInt8 := ⟨⟨"count"⟩⟩
  ((({} : Publisher).declare notes).declare sales).declare counts

/-- The largest sale there is comes to both subscribers, though one of them fails. -/
theorem largest_sale_delivered :
    let sale : Sale := ⟨18446744073709551615, 18446744073709551615⟩
    let sales : Publication Sale := ⟨⟨"order"⟩⟩
    let react : Reactions := fun _ handler _ =>
      .done (if handler.id = 1 then some (.failed "full") else none)
    ∃ (hub : Hub) (event : Event), hub.Attainable {} ∧ sales.LastOf redeclared ∧
      event.type = ⟨"order"⟩ ∧ event.data Sale = .ok sale ∧
      let done := redeclared.trigger (Activity.bus {} 0 (react.respond {} 0)) sales ⟨⟨0⟩, .epoch⟩
        sale hub
      done.marks.filter (·.depth = 0) =
        [.began 0 ⟨1, "mailer"⟩ event, .ended 0 ⟨1, "mailer"⟩ (some (.failed "full")),
          .began 0 ⟨2, "audit"⟩ event, .ended 0 ⟨2, "audit"⟩ none] ∧
      done.answer = .ok ⟨⟨"order"⟩, 2, 0, [⟨1, "mailer", .failed "full"⟩]⟩ := by
  intro sale sales react
  obtain ⟨hub, ran, opened, two, answer⟩ : ∃ hub, (Hub.new 0).run? {} twoSubscribers = some hub ∧
      hub.registry.closed = false ∧
      ((hub.registry.live hub.alive ⟨"order"⟩).map fun entry => ⟨entry.id, entry.handler⟩) =
        ([⟨1, 1, "mailer"⟩, ⟨2, 2, "audit"⟩] : List Subscriber) ∧
      (redeclared.trigger (Activity.bus {} 0 (react.respond {} 0)) sales ⟨⟨0⟩, .epoch⟩ sale
        hub).answer = .ok ⟨⟨"order"⟩, 2, 0, [⟨1, "mailer", .failed "full"⟩]⟩ :=
    ⟨_, rfl, rfl, rfl, rfl⟩
  have attainable := ((Hub.Reachable.new 0).run? ran).attainable
  -- The other declaration is for another type, so the first one is still the last of its own.
  have last : sales.LastOf redeclared := .followed ⟨⟨"count"⟩⟩ (.declared _) (by decide)
  obtain ⟨event, _, delivers⟩ :=
    @trigger_delivers {} 0 .sale sales sale _ rfl redeclared last ⟨⟨0⟩, .epoch⟩ hub attainable react
  refine ⟨hub, event, attainable, last, delivers.type_eq, delivers.data, ?_, answer⟩
  obtain ⟨turns, subscribers, _, own, answered⟩ := delivers.called opened
  -- The subscribers are known, and the only failure of the result is the first one's.
  match turns, subscribers.trans two with
  | [⟨_, first⟩, ⟨_, second⟩], listed =>
    cases listed
    have failures : [Turn.mk ⟨1, 1, "mailer"⟩ first, ⟨⟨2, 2, "audit"⟩, second⟩].filterMap
        Turn.failure? = [⟨1, "mailer", .failed "full"⟩] :=
      congrArg DispatchResult.failures (Except.ok.inj (answered.symm.trans answer))
    obtain ⟨rfl, rfl⟩ : first = some (.failed "full") ∧ second = none := by
      cases first <;> cases second <;> simp_all [Turn.failure?, List.filterMap_cons]
    exact own

end EventBus
