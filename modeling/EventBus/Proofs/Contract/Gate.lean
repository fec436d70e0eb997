import EventBus.Proofs.Contract.Deliveries
import EventBus.Proofs.Dispatch.Calls

/-!
A publisher is a gate. Whatever was declared before, an event passes it just when it passes the
check of the publication last declared for its type, and then the gate makes no difference.
-/

namespace EventBus

/-- A publication as it is declared, with the type of its payloads. -/
structure Declaration where
  Carrier : Type
  [payload : Payload Carrier]
  publication : Publication Carrier

attribute [instance] Declaration.payload

namespace Declaration

/-- A publisher that has made declarations, one after the other. -/
def publisher (declarations : List Declaration) : Publisher :=
  declarations.foldl (fun publisher declaration => publisher.declare declaration.publication) {}

/-- The last of the declarations for a type. -/
def last? (declarations : List Declaration) (type : EventType) : Option Declaration :=
  (declarations.filter (·.publication.type = type)).getLast?

/-- Whether the payload of an event is read as a value of the type last declared for the event. -/
def Reads (declarations : List Declaration) (event : Event) : Prop :=
  ∃ last value, last? declarations event.type = some last ∧ event.data last.Carrier = .ok value

/-- Whether the last of the declarations for the type of an event accepts it. -/
def Passes (declarations : List Declaration) (event : Event) : Prop :=
  ∃ last, last? declarations event.type = some last ∧ last.publication.check event = .ok ()

variable (declarations : List Declaration)

/-- A declaration is the last for its own type, and changes nothing for all others. -/
theorem last?_concat (declaration : Declaration) (type : EventType) :
    last? (declarations ++ [declaration]) type =
      if declaration.publication.type = type then some declaration
      else last? declarations type := by
  -- The last of the longer list is the new one, unless that is filtered out.
  rw [last?, List.filter_append]
  by_cases own : declaration.publication.type = type
  · rw [if_pos own, List.filter_cons_of_pos (by simpa using own), List.filter_nil,
      List.getLast?_concat]
  · rw [if_neg own, List.filter_cons_of_neg (by simpa using own), List.filter_nil,
      List.append_nil, last?]

/-- A declaration that is found is one for the type. -/
theorem type_of_last? {type : EventType} {last : Declaration}
    (found : last? declarations type = some last) : last.publication.type = type := by
  -- Whatever is found has passed the filter for its type.
  have listed := List.mem_filter.mp (List.mem_of_getLast? found)
  simpa using listed.2

/-- A publisher knows of each type what was declared for it last. -/
theorem declaration_publisher (type : EventType) :
    (publisher declarations).declaration type =
      match last? declarations type with
      | some last => .ok (Payload.check last.Carrier)
      | none => .error (.undeclaredPublication type) := by
  -- The induction is on the latest declaration, which takes the place of one for the same type.
  induction declarations using List.reverseRecOn with
  | nil => rfl
  | append_singleton before latest ih =>
    have made : publisher (before ++ [latest]) = (publisher before).declare latest.publication := by
      rw [publisher, List.foldl_concat, publisher]
    rw [made, last?_concat]
    by_cases own : latest.publication.type = type
    · subst own
      rw [if_pos rfl]
      exact Publisher.declaration_of_lastOf (.declared _)
    · rw [if_neg own, Publisher.declaration_declare_of_ne _ own]
      exact ih

end Declaration

namespace Publication

variable {α : Type} [Payload α] {publication : Publication α} {event : Event}

/-- An event of the publication's type is refused for its payload, if at all. -/
theorem check_of_type (own : publication.type = event.type) :
    publication.check event = PayloadCheck.run (Payload.check α) event := if_pos own.symm

/-- The payload of an event that passes the check is read, and no other is. -/
theorem check_eq_ok_iff (own : publication.type = event.type) :
    publication.check event = .ok () ↔ ∃ value, event.data α = .ok value := by
  -- For an event of its own type the check does nothing but read the payload.
  rw [check_of_type own, PayloadCheck.run, Payload.check, Event.data]
  cases (Payload.decode event.payload : Except DecodeError α) with
  | error error => simp [Except.map, Except.mapError]
  | ok value => simp [Except.map, Except.mapError]

/-- A payload that is not read is refused with a reason. -/
theorem invalid_of_check (own : publication.type = event.type) {error : BusError}
    (refused : publication.check event = .error error) :
    ∃ reason, error = .invalidPayload event.type reason := by
  -- The reading alone can fail, and its failure becomes the reason.
  rw [check_of_type own, PayloadCheck.run] at refused
  cases checked : Payload.check α event.payload with
  | ok _ =>
    rw [checked] at refused
    cases refused
  | error reason =>
    rw [checked] at refused
    cases refused
    exact ⟨reason.message, rfl⟩

end Publication

namespace Publisher

open Declaration

variable {m : Type → Type} [Monad m] (bus : Bus m) (declarations : List Declaration) {event : Event}

/-- An event is looked at by the check of its last declaration. -/
theorem validate_eq {last : Declaration} (found : last? declarations event.type = some last) :
    (publisher declarations).validate bus event =
      match last.publication.check event with
      | .error error => do
        bus.log (.publicationRejected event.type error)
        return .error error
      | .ok () => return .ok () := by
  -- The publisher has the check of the last declaration under the type, and looks at nothing else.
  have declared := declaration_publisher declarations event.type
  simp only [found] at declared
  rw [Publication.check_of_type (type_of_last? declarations found)]
  cases verdict : PayloadCheck.run (Payload.check last.Carrier) event <;>
    simp only [validate, declared, verdict]

variable [LawfulMonad m]

/-- What follows an event that is let through is what the bus does with it. -/
theorem publish_passed (passes : Passes declarations event) :
    (publisher declarations).publish bus event = bus.publish event ∧
      ∀ runtime, (publisher declarations).publishAsync bus runtime event =
        bus.publishAsync runtime event := by
  -- Once the gate has answered, both kinds of publication go straight to the bus.
  obtain ⟨last, found, checked⟩ := passes
  have through := validate_eq bus declarations found
  rw [checked] at through
  constructor
  · simp only [publish, through, pure_bind]
  · intro runtime
    simp only [publishAsync, through, pure_bind]

/-- An event that is not let through is written to the log, and the bus is not asked. -/
theorem publish_rejected {last : Declaration} (found : last? declarations event.type = some last)
    {error : BusError} (refused : last.publication.check event = .error error) :
    (publisher declarations).publish bus event =
        (do bus.log (.publicationRejected event.type error); return .error error) ∧
      ∀ runtime, (publisher declarations).publishAsync bus runtime event =
        (do bus.log (.publicationRejected event.type error); return .error error) := by
  -- The gate answers with the error, after writing it down.
  have stopped := validate_eq bus declarations found
  rw [refused] at stopped
  constructor
  · simp only [publish, stopped, bind_assoc, pure_bind]
  · intro runtime
    simp only [publishAsync, stopped, bind_assoc, pure_bind]

/-- An event of a type that was never declared is not even looked at. -/
theorem publish_undeclared (unknown : last? declarations event.type = none) :
    (publisher declarations).publish bus event =
        pure (.error (.undeclaredPublication event.type)) ∧
      ∀ runtime, (publisher declarations).publishAsync bus runtime event =
        pure (.error (.undeclaredPublication event.type)) := by
  -- Where no check is found there is nothing to write down either.
  have declared := declaration_publisher declarations event.type
  simp only [unknown] at declared
  constructor
  · simp only [publish, validate, declared, pure_bind]
  · intro runtime
    simp only [publishAsync, validate, declared, pure_bind]

end Publisher

/-- What passes the check of a type is read as a value of it. -/
theorem Declaration.Passes.reads {declarations : List Declaration} {event : Event}
    (passes : Passes declarations event) : Reads declarations event := by
  -- The check reads the payload to accept it, and the value is the one that has been read.
  obtain ⟨last, found, checked⟩ := passes
  have own := type_of_last? declarations found
  obtain ⟨value, read⟩ := (Publication.check_eq_ok_iff own).mp checked
  exact ⟨last, value, found, read⟩

/-- Whether an error is one of a gate, rather than of the bus behind it. -/
def BusError.isRefusal : BusError → Bool
  | .undeclaredPublication _ | .invalidPayload .. => true
  | _ => false

variable {config : BusConfig} {depth : Nat}

/-- An asynchronous publication leaves no marks, since its flight has yet to call anybody. -/
theorem Activity.publishAsync_eq (respond : Handler → Event → Activity (Option Cause))
    (runtime : Bool) (event : Event) (hub : Hub) :
    (Activity.bus config depth respond).publishAsync runtime event hub =
      quietly ((Hub.bus config fun _ _ => none).publishAsync runtime event) hub := by
  -- The turns of a flight come later, so here there are only the snapshot and the launch.
  simp only [Bus.publishAsync, bind, snapshot_eq, quietly, StateT.bind, Hub.snapshot_eq]
  cases hub.registry.snapshot hub.alive event.type with
  | error error => rfl
  | ok subscribers =>
    cases subscribers with
    | nil => rfl
    | cons first rest =>
      cases runtime with
      | true =>
        simp only [if_true, dropSnapshot_eq]
        rfl
      | false =>
        simp only [Bool.false_eq_true, if_false, dropSnapshot_eq]
        rfl

/-- The bus does not refuse an event for what it is. -/
theorem Hub.publishAsync_isRefusal {hub : Hub} {runtime : Bool} {event : Event} {error : BusError}
    (refused : ((Hub.bus config fun _ _ => none).publishAsync runtime event hub).1 =
      .error error) : error.isRefusal = false := by
  rw [publishAsync_eq, Registry.snapshot] at refused
  -- Either the bus is closed, or there is nothing for the flight to run on.
  by_cases closed : hub.registry.closed = true
  · simp only [closed, if_true] at refused
    cases refused
    rfl
  · simp only [closed, Bool.false_eq_true, if_false] at refused
    split at refused
    · rename_i impossible
      cases impossible
    · cases refused
    · cases runtime <;> cases refused
      rfl

/-- The calls of a publication are made with its event. -/
theorem Hub.event_of_began {hub : Hub} {react : Reactions} {event other : Event} {handler : Handler}
    (began : .began depth handler other ∈ (Hub.publication config depth react event hub).marks) :
    other = event := by
  -- The marks at this depth are those of its own turns.
  cases taken : hub.registry.snapshot hub.alive event.type with
  | error error =>
    simp only [Hub.publication, Activity.publish_eq, taken] at began
    exact absurd began List.not_mem_nil
  | ok live =>
    obtain ⟨turns, _, own, _⟩ := Activity.publication_turns config depth taken react
    have listed : Mark.began depth handler other ∈ turns.flatMap (Turn.marks depth event) := by
      rw [← own]
      exact List.mem_filter.mpr ⟨began, by simp⟩
    obtain ⟨turn, _, there⟩ := List.mem_flatMap.mp listed
    simp only [Turn.marks, List.mem_cons, Mark.began.injEq, List.not_mem_nil, reduceCtorEq,
      or_false] at there
    exact there.2.2

/-- The flights that an asynchronous publication sets going are those of its event. -/
theorem Hub.event_of_publishAsync (config : BusConfig) (hub : Hub) (runtime : Bool)
    (event : Event) :
    ∃ more, ((Hub.bus config fun _ _ => none).publishAsync runtime event hub).2.voyages =
        hub.voyages ++ more ∧ ∀ voyage ∈ more, voyage.origin.event = event := by
  -- A publication begins a flight with its event, or none.
  rw [publishAsync_eq]
  split
  · exact ⟨[], (List.append_nil _).symm, fun _ there => absurd there List.not_mem_nil⟩
  · exact ⟨_, rfl, fun _ there => congrArg (·.origin.event) (List.mem_singleton.mp there)⟩
  · cases runtime with
    | false => exact ⟨[], (List.append_nil _).symm, fun _ there => absurd there List.not_mem_nil⟩
    | true => exact ⟨_, rfl, fun _ there => congrArg (·.origin.event) (List.mem_singleton.mp there)⟩

namespace Publisher

variable (config : BusConfig) (depth : Nat) (declarations : List Declaration) (event : Event)
  (runtime : Bool) (hub : Hub)

/-- An event that does not pass is stopped by the gate itself, and only the log is written to. -/
theorem stopped_of_not_passes (respond : Handler → Event → Activity (Option Cause))
    (blocked : ¬Declaration.Passes declarations event) :
    let publisher := Declaration.publisher declarations
    let bus := Activity.bus config depth respond
    ∃ error records, error.isRefusal = true ∧
      publisher.publish bus event hub = ⟨.error error, [], { hub with records }⟩ ∧
      publisher.publishAsync bus runtime event hub = ⟨.error error, [], { hub with records }⟩ := by
  intro publisher bus
  -- Nothing is declared, or the last declaration refuses the event.
  cases found : Declaration.last? declarations event.type with
  | none =>
    obtain ⟨refused, refusedAsync⟩ := publish_undeclared bus declarations found
    exact ⟨_, hub.records, rfl, congrFun refused hub, congrFun (refusedAsync runtime) hub⟩
  | some last =>
    cases checked : last.publication.check event with
    | ok _ => exact absurd ⟨last, found, checked⟩ blocked
    | error error =>
      obtain ⟨refused, refusedAsync⟩ := publish_rejected bus declarations found checked
      have own := Declaration.type_of_last? declarations found
      obtain ⟨reason, rfl⟩ := Publication.invalid_of_check own checked
      exact ⟨_, _, rfl, congrFun refused hub, congrFun (refusedAsync runtime) hub⟩

/-- The bus behind the gate refuses no event for what it is. -/
theorem not_refused_of_passes (react : Reactions)
    (passes : Declaration.Passes declarations event) :
    let publisher := Declaration.publisher declarations
    let bus := Activity.bus config depth (react.respond config depth)
    (∀ error, (publisher.publish bus event hub).answer = .error error →
      error.isRefusal = false) ∧
    ∀ error, (publisher.publishAsync bus runtime event hub).answer = .error error →
      error.isRefusal = false := by
  intro publisher bus
  -- The bus can only say that it is closed or that there is no runtime.
  obtain ⟨through, throughAsync⟩ := publish_passed bus declarations passes
  constructor
  · intro error refused
    rw [through] at refused
    obtain ⟨rfl, _⟩ := (Hub.publication_error_iff hub react event error).mp refused
    rfl
  · intro error refused
    rw [throughAsync runtime, Activity.publishAsync_eq] at refused
    exact Hub.publishAsync_isRefusal refused

/--
A publisher is an exact gate, whatever was declared and in whichever state the bus is.

An event of a type that was never declared is refused, and so is one that the publication last
declared for its type does not accept, with the error of that publication. Nobody is called then, no
flight begins, and of the hub only the log is written to. Any other event is published as if there
were no publisher. So whoever is called can read what it is called with.
-/
theorem gates_events (react : Reactions) :
    let publisher := Declaration.publisher declarations
    let bus := Activity.bus config depth (react.respond config depth)
    let done := publisher.publish bus event hub
    let launched := publisher.publishAsync bus runtime event hub
    (Declaration.last? declarations event.type = none →
      done = ⟨.error (.undeclaredPublication event.type), [], hub⟩ ∧
      launched = ⟨.error (.undeclaredPublication event.type), [], hub⟩) ∧
    (∀ last error, Declaration.last? declarations event.type = some last →
      last.publication.check event = .error error →
        let noted := hub.note (.publicationRejected event.type error)
        (∃ reason, error = .invalidPayload event.type reason) ∧
          done = ⟨.error error, [], noted⟩ ∧ launched = ⟨.error error, [], noted⟩) ∧
    (Declaration.Passes declarations event →
      done = bus.publish event hub ∧ launched = bus.publishAsync runtime event hub) ∧
    ((∀ error, done.answer = .error error → error.isRefusal = false) ↔
      Declaration.Passes declarations event) ∧
    ((∀ error, launched.answer = .error error → error.isRefusal = false) ↔
      Declaration.Passes declarations event) ∧
    (∀ handler other, .began depth handler other ∈ done.marks →
      Declaration.Reads declarations other) ∧
    ∃ more, launched.hub.voyages = hub.voyages ++ more ∧ ∀ voyage ∈ more,
      ∀ moves flight notices, voyage.origin.replay? moves = some (flight, notices) →
        Declaration.Reads declarations flight.event := by
  intro publisher bus done launched
  -- The first three cases are those of the gate, and the rest follows from which of them it is.
  refine ⟨fun unknown => ?_, fun last error found checked => ?_, fun passes => ?_, ?_⟩
  · obtain ⟨refused, refusedAsync⟩ := publish_undeclared bus declarations unknown
    exact ⟨congrFun refused hub, congrFun (refusedAsync runtime) hub⟩
  · obtain ⟨refused, refusedAsync⟩ := publish_rejected bus declarations found checked
    exact ⟨Publication.invalid_of_check (Declaration.type_of_last? declarations found) checked,
      congrFun refused hub, congrFun (refusedAsync runtime) hub⟩
  · obtain ⟨through, throughAsync⟩ := publish_passed bus declarations passes
    exact ⟨congrFun through hub, congrFun (throughAsync runtime) hub⟩
  by_cases passes : Declaration.Passes declarations event
  · obtain ⟨through, throughAsync⟩ := publish_passed bus declarations passes
    obtain ⟨own, ownAsync⟩ :=
      not_refused_of_passes config depth declarations event runtime hub react passes
    refine ⟨iff_of_true own passes, iff_of_true ownAsync passes, fun handler other began => ?_, ?_⟩
    · have published : done = Hub.publication config depth react event hub := congrFun through hub
      rw [published] at began
      exact Hub.event_of_began began ▸ passes.reads
    · have flown : launched = bus.publishAsync runtime event hub :=
        congrFun (throughAsync runtime) hub
      obtain ⟨more, begun, carried⟩ := Hub.event_of_publishAsync config hub runtime event
      rw [flown, Activity.publishAsync_eq]
      refine ⟨more, begun, fun voyage new moves flight notices ran => ?_⟩
      -- A flight carries the event of its beginning to the end.
      rw [(Flight.given_eq ran).1, carried voyage new]
      exact passes.reads
  · -- Where the gate refuses, there are neither calls nor flights, and the error is its own.
    obtain ⟨error, records, refusal, stopped, grounded⟩ := stopped_of_not_passes config depth
      declarations event runtime hub (react.respond config depth) passes
    have conflict : ¬error.isRefusal = false := by simp [refusal]
    refine ⟨
      iff_of_false (fun own => conflict (own error (congrArg Aftermath.answer stopped))) passes,
      iff_of_false (fun own => conflict (own error (congrArg Aftermath.answer grounded))) passes,
      fun handler other began => ?_, [], ?_, fun _ there => absurd there List.not_mem_nil⟩
    · have silent : done.marks = [] := congrArg Aftermath.marks stopped
      rw [silent] at began
      exact absurd began List.not_mem_nil
    · rw [List.append_nil]
      exact congrArg (fun aftermath => aftermath.hub.voyages) grounded

/-- An order was declared as a note first, so a note is read no more. -/
example :
    let declarations : List Declaration := [⟨AuditNote, ⟨⟨"order"⟩⟩⟩, ⟨Sale, ⟨⟨"order"⟩⟩⟩]
    let note := Event.new ⟨⟨0⟩, .epoch⟩ ⟨"order"⟩ (.object [("message", .string "late")])
    let bus := Activity.bus {} 0 fun _ _ => pure none
    ((Declaration.publisher declarations).publish bus note (Hub.new 1)).answer =
      .error (.invalidPayload ⟨"order"⟩ "missing field `id`") := by
  rfl

end Publisher

end EventBus
