import EventBus.Event.Basic
import EventBus.Json.Decode

/-! A payload type says which JSON values stand for its values. -/

namespace EventBus

/-- A type whose values travel as the payloads of events. -/
class Payload (α : Type) where
  /-- The full name of the type; a structure of one's own has the name of its home before it. -/
  typeName (home : String) : String
  /-- Reads a value. -/
  decode : Json → Except DecodeError α
  /-- Writes a value, or says why it cannot be written. -/
  encode : α → Except String Json

namespace Payload

/-- The check that a payload stands for some value of a type. -/
def check (α : Type) [Payload α] (json : Json) : Except DecodeError Unit :=
  (decode json : Except DecodeError α).map fun _ => ()

end Payload

/-- Reads a natural number of 64 bits. -/
def Json.decodeUInt64 (json : Json) : Except DecodeError UInt64 :=
  -- The bounds are checked on whole numbers, so the conversion loses nothing.
  (json.decodeBetween 0 18446744073709551615 "u64").map fun n => UInt64.ofNat n.toNat

namespace Event

/-- An event whose payload is a typed value. -/
def ofData {α : Type} [Payload α] (stamp : Stamp) (type : EventType) (data : α) :
    Except String Event :=
  (Payload.encode data).map (Event.new stamp type)

/-- The typed value in the payload of an event. -/
def data (α : Type) [Payload α] (event : Event) : Except DecodeError α :=
  Payload.decode event.payload

end Event

end EventBus
