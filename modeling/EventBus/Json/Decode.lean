import EventBus.Json.Basic
import EventBus.Text.Quoted

/-!
Reading typed values from JSON. The first fault in the order of the fields decides; a field that is
missing is only noticed once all the others have been read.
-/

namespace EventBus

/-- Why a JSON value is not a value of some type. -/
inductive DecodeError where
  | wrongType (found : Json) (expected : String)
  | outOfRange (found : Int) (expected : String)
  | missingField (key : String)
  | tooFewItems (count : Nat) (expected : String)
  | tooManyItems (count : Nat)
  | malformedId
  | malformedTime
  deriving Repr

namespace Json

/-- The form of a value as an error names it. -/
def describe : Json → String
  | .null => "null"
  | .bool value => "boolean `" ++ toString value ++ "`"
  | .integer value => "integer `" ++ toString value ++ "`"
  | .decimal value => "floating point `" ++ String.ofList value.chars ++ "`"
  | .string text => "string " ++ quoted text
  | .array _ => "sequence"
  | .object _ => "map"

end Json

namespace DecodeError

/-- The text of an error. -/
def message : DecodeError → String
  | .wrongType found expected => "invalid type: " ++ found.describe ++ ", expected " ++ expected
  | .outOfRange found expected =>
    "invalid value: integer `" ++ toString found ++ "`, expected " ++ expected
  | .missingField key => "missing field `" ++ key ++ "`"
  | .tooFewItems count expected => "invalid length " ++ toString count ++ ", expected " ++ expected
  | .tooManyItems count =>
    "invalid length " ++ toString count ++ ", expected fewer elements in array"
  | .malformedId => "malformed event id"
  | .malformedTime => "malformed time"

end DecodeError

namespace Json

/-- Reads any text. -/
def decodeText : Json → Except DecodeError String
  | .string text => .ok text
  | other => .error (.wrongType other "a string")

/-- Reads a truth value. -/
def decodeBool : Json → Except DecodeError Bool
  | .bool value => .ok value
  | other => .error (.wrongType other "a boolean")

/-- Reads a whole number between two bounds. -/
def decodeBetween (low high : Int) (expected : String) : Json → Except DecodeError Int
  -- A number out of range is another fault than a value that is no whole number.
  | .integer value =>
    if low ≤ value ∧ value ≤ high then .ok value else .error (.outOfRange value expected)
  | other => .error (.wrongType other expected)

/-- Reads null as nothing and any other value as something. -/
def decodeOption {α : Type} (decode : Json → Except DecodeError α) :
    Json → Except DecodeError (Option α)
  | .null => .ok none
  | other => (decode other).map some

/-- Reads a list item by item. -/
def decodeList {α : Type} (decode : Json → Except DecodeError α) :
    Json → Except DecodeError (List α)
  -- The first item that cannot be read decides.
  | .array items => items.mapM decode
  | other => .error (.wrongType other "a sequence")

end Json

/-- How a structure is gathered from its fields, which come one by one. -/
structure StructReader (σ α : Type) where
  name : String
  keys : List String
  start : σ
  visit : σ → String → Json → Except DecodeError σ
  finish : σ → Except DecodeError α

namespace StructReader

variable {σ α : Type} (reader : StructReader σ α)

/-- The structure with the number of its elements, as an error names it. -/
def expectation : String :=
  "struct " ++ reader.name ++ " with " ++ toString reader.keys.length ++
    if reader.keys.length = 1 then " element" else " elements"

/-- Visits the fields of an object and passes over the unknown ones. -/
def readObject (fields : List (String × Json)) : Except DecodeError α := do
  -- The fields come in the order of their keys, which decides between several faults.
  let known := fields.filter fun (key, _) => reader.keys.contains key
  let gathered ← known.foldlM (fun found (key, value) => reader.visit found key value) reader.start
  reader.finish gathered

/-- Visits the items of an array, each of which stands for the key of its position. -/
def readArray (items : List Json) : Except DecodeError α := do
  let gathered ← (reader.keys.zip items).foldlM
    (fun found (key, value) => reader.visit found key value) reader.start
  -- A wrong number of items is only noticed once those that have a place were read.
  if items.length < reader.keys.length then
    throw (.tooFewItems items.length reader.expectation)
  let answer ← reader.finish gathered
  if reader.keys.length < items.length then throw (.tooManyItems items.length)
  return answer

/-- Reads a structure from an object or from an array. -/
def read : Json → Except DecodeError α
  | .object fields => reader.readObject fields
  | .array items => reader.readArray items
  | other => .error (.wrongType other ("struct " ++ reader.name))

end StructReader

/-- The value of a field that must be there. -/
def requireField {α : Type} (key : String) : Option α → Except DecodeError α
  | some value => .ok value
  | none => .error (.missingField key)

end EventBus
