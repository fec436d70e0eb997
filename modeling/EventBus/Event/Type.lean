import EventBus.Text.Blank
import EventBus.Text.Quoted

/-! The type of an event decides which handlers see it. -/

namespace EventBus

/-- The type of an event; two types are the same when their names are. -/
structure EventType where
  name : String
  deriving DecidableEq, Repr

namespace EventType

/-- Nothing can be subscribed to a type whose name is blank. -/
def isBlank (type : EventType) : Bool := EventBus.isBlank type.name

/-- The type as a diagnostic shows it. -/
def debug (type : EventType) : String := "EventType(" ++ quoted type.name ++ ")"

/-- Types are ordered by the code points of their names. -/
def compare (a b : EventType) : Ordering := Ord.compare a.name b.name

/-- Types in ascending order. -/
def sort (types : List EventType) : List EventType :=
  -- The order of names by their code points is that of their encoded bytes, too.
  types.mergeSort (fun a b => decide (a.name ≤ b.name))

end EventType

end EventBus
