import EventBus.Calendar.Moment
import EventBus.Event.Id
import EventBus.Event.Type
import EventBus.Json.Basic

/-! An event is a value that never changes once it has been made. -/

namespace EventBus

/-- What tells a new event from all others: an id and the moment of its making. -/
structure Stamp where
  id : EventId
  time : Moment
  deriving DecidableEq, Repr

/-- Something that happened, with the data that belong to it. -/
structure Event where
  id : EventId
  type : EventType
  payload : Json
  time : Moment
  source : Option String
  deriving DecidableEq, Repr

namespace Event

/-- A new event that names no source. -/
def new (stamp : Stamp) (type : EventType) (payload : Json) : Event :=
  { id := stamp.id, type, payload, time := stamp.time, source := none }

/-- The same event with a source. -/
def withSource (event : Event) (source : String) : Event := { event with source := some source }

end Event

end EventBus
