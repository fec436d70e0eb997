import EventBus.Bus
import EventBus.Contract.Payload

/-!
A publication binds an event type to a payload type, and a publisher lets only events through that
fit the publication last declared for their type.
-/

namespace EventBus

/-- Events of one type whose payloads are values of `α`. -/
structure Publication (α : Type) where
  type : EventType
  deriving DecidableEq, Repr

/-- A check of a payload, remembered without its type. -/
abbrev PayloadCheck := Json → Except DecodeError Unit

/-- The refusal of a payload that does not fit. -/
def PayloadCheck.run (check : PayloadCheck) (event : Event) : Except BusError Unit :=
  (check event.payload).mapError fun error => .invalidPayload event.type error.message

namespace Publication

variable {α : Type} [Payload α] (publication : Publication α)

/-- An event of this publication with a typed payload. -/
def event (stamp : Stamp) (data : α) : Except BusError Event :=
  (Event.ofData stamp publication.type data).mapError .serialization

/-- The check that an event is of the publication's type and its payload a value of `α`. -/
def check (event : Event) : Except BusError Unit :=
  -- An event of another type is refused before its payload is looked at.
  if event.type = publication.type then PayloadCheck.run (Payload.check α) event
  else .error (.typeMismatch publication.type event.type)

/-- The typed payload of an event that passes the check. -/
def decode (event : Event) : Except BusError α := do
  publication.check event
  -- After the check reading cannot fail any more.
  (event.data α).mapError fun error => .serialization error.message

/-- The publication as a diagnostic shows it, where structures have the given home. -/
def debug (home : String) : String :=
  BusError.debugFields "Publication" [
    ("event_type", publication.type.debug), ("payload", quoted (Payload.typeName α home))]

end Publication

/-- What a publisher has declared: one payload check for each type. -/
structure Publisher where
  declared : List (EventType × PayloadCheck) := []

namespace Publisher

variable (publisher : Publisher)

/-- A declaration takes the place of an earlier one for the same type. -/
def declare {α : Type} [Payload α] (publication : Publication α) : Publisher :=
  -- Each type is declared once, so a look-up finds its last declaration.
  ⟨(publication.type, Payload.check α) ::
    publisher.declared.filter fun (type, _) => type ≠ publication.type⟩

/-- Whether a type has been declared. -/
def declares (type : EventType) : Bool := (publisher.declared.lookup type).isSome

/-- The declared types in ascending order. -/
def publications : List EventType := EventType.sort (publisher.declared.map Prod.fst)

/-- The check that was declared for a type. -/
def declaration (type : EventType) : Except BusError PayloadCheck :=
  match publisher.declared.lookup type with
  | some check => .ok check
  | none => .error (.undeclaredPublication type)

/-- The publisher as a diagnostic shows it. -/
def debug : String :=
  let shown := publisher.publications.map EventType.debug
  BusError.debugFields "Publisher" [("publications", "[" ++ String.intercalate ", " shown ++ "]")]

variable {m : Type → Type} [Monad m] (bus : Bus m)

/-- Subscribes a handler to a publication that has been declared. -/
def subscribe {α : Type} (publication : Publication α) (handler : Handler) :
    m (Except BusError SubscriptionHandle) :=
  match publisher.declaration publication.type with
  | .error error => return .error error
  | .ok _ => bus.subscribe publication.type handler

/-- Lets an event through, or refuses it; a payload that does not fit is logged. -/
def validate (event : Event) : m (Except BusError Unit) :=
  match publisher.declaration event.type with
  | .error error => return .error error
  | .ok check =>
    match check.run event with
    -- The refusal is logged before anything of the bus has been touched.
    | .error error => do
      bus.log (.publicationRejected event.type error)
      return .error error
    | .ok () => return .ok ()

/-- Publishes an event that is let through. -/
def publish (event : Event) : m (Except BusError DispatchResult) := do
  match ← publisher.validate bus event with
  | .error error => return .error error
  | .ok () => bus.publish event

/-- Publishes an event that is let through, asynchronously. -/
def publishAsync (runtime : Bool) (event : Event) : m (Except BusError Nat) := do
  match ← publisher.validate bus event with
  | .error error => return .error error
  | .ok () => bus.publishAsync runtime event

/-- Publishes a typed payload. -/
def trigger {α : Type} [Payload α] (publication : Publication α) (stamp : Stamp) (data : α) :
    m (Except BusError DispatchResult) :=
  -- A value that cannot be written makes no event, declared or not.
  match publication.event stamp data with
  | .error error => return .error error
  | .ok event => publisher.publish bus event

end Publisher

end EventBus
