import EventBus.Contract.Payload

/-! The payload types at hand: three structures, plain values, any value, and one without a text. -/

namespace EventBus

/-- An order with its number. -/
structure OrderCreated where
  id : UInt64
  deriving DecidableEq, Repr

/-- A note for the books. -/
structure AuditNote where
  message : String
  deriving DecidableEq, Repr

/-- A sale with its number and its amount. -/
structure Sale where
  id : UInt64
  amount : UInt64
  deriving DecidableEq, Repr

/-- A value that can be read from anything and cannot be written. -/
inductive Refusing where
  | refusing
  deriving DecidableEq, Repr

namespace Payload

/-- A structure of one field. -/
def oneField {β α : Type} (name key : String) (decode : Json → Except DecodeError β)
    (make : β → α) : StructReader (Option β) α where
  name
  keys := [key]
  start := none
  visit _ _ value := (decode value).map some
  finish found := (requireField key found).map make

/-- The fields of a sale. -/
def saleReader : StructReader (Option UInt64 × Option UInt64) Sale where
  name := "Sale"
  keys := ["id", "amount"]
  start := (none, none)
  visit found key value :=
    -- Both fields are numbers of one kind, and only the key tells them apart.
    (Json.decodeUInt64 value).map fun number =>
      if key = "id" then (some number, found.2) else (found.1, some number)
  finish found := do
    let id ← requireField "id" found.1
    let amount ← requireField "amount" found.2
    return { id, amount }

instance : Payload OrderCreated where
  typeName home := home ++ "::OrderCreated"
  decode := (oneField "OrderCreated" "id" Json.decodeUInt64 OrderCreated.mk).read
  encode order := .ok (Json.record [("id", Json.ofNat order.id.toNat)])

instance : Payload AuditNote where
  typeName home := home ++ "::AuditNote"
  decode := (oneField "AuditNote" "message" Json.decodeText AuditNote.mk).read
  encode note := .ok (Json.record [("message", .string note.message)])

instance : Payload Sale where
  typeName home := home ++ "::Sale"
  decode := saleReader.read
  encode sale := .ok (Json.record [
    ("id", Json.ofNat sale.id.toNat), ("amount", Json.ofNat sale.amount.toNat)])

instance : Payload UInt8 where
  typeName _ := "u8"
  decode json := (json.decodeBetween 0 255 "u8").map fun n => UInt8.ofNat n.toNat
  encode value := .ok (Json.ofNat value.toNat)

instance : Payload String where
  typeName _ := "alloc::string::String"
  decode := Json.decodeText
  encode text := .ok (.string text)

instance : Payload (List Bool) where
  typeName _ := "alloc::vec::Vec<bool>"
  decode := Json.decodeList Json.decodeBool
  encode values := .ok (.array (values.map Json.bool))

instance : Payload (Option Int64) where
  typeName _ := "core::option::Option<i64>"
  decode := Json.decodeOption fun json =>
    (json.decodeBetween (-9223372036854775808) 9223372036854775807 "i64").map Int64.ofInt
  encode
    | none => .ok .null
    | some value => .ok (.integer value.toInt)

instance : Payload Json where
  typeName _ := "serde_json::value::Value"
  -- Every value stands for itself.
  decode json := .ok json
  encode json := .ok json

instance : Payload Refusing where
  typeName home := home ++ "::Refusing"
  -- Reading always works, so that only writing can go wrong.
  decode _ := .ok .refusing
  encode _ := .error "refused to serialize"

end Payload

/-- The names of the payload types. -/
inductive PayloadKind where
  | order | note | sale | u8 | text | bools | maybe | any | refusing
  deriving DecidableEq, Repr

namespace PayloadKind

/-- The kind of the given name. -/
def ofName? : String → Option PayloadKind
  | "order" => some .order
  | "note" => some .note
  | "sale" => some .sale
  | "u8" => some .u8
  | "text" => some .text
  | "bools" => some .bools
  | "maybe" => some .maybe
  | "any" => some .any
  | "refusing" => some .refusing
  | _ => none

/-- The type of the values of a kind. -/
abbrev Carrier : PayloadKind → Type
  | .order => OrderCreated
  | .note => AuditNote
  | .sale => Sale
  | .u8 => UInt8
  | .text => String
  | .bools => List Bool
  | .maybe => Option Int64
  | .any => Json
  | .refusing => Refusing

instance (kind : PayloadKind) : Payload kind.Carrier :=
  match kind with
  | .order => inferInstanceAs (Payload OrderCreated)
  | .note => inferInstanceAs (Payload AuditNote)
  | .sale => inferInstanceAs (Payload Sale)
  | .u8 => inferInstanceAs (Payload UInt8)
  | .text => inferInstanceAs (Payload String)
  | .bools => inferInstanceAs (Payload (List Bool))
  | .maybe => inferInstanceAs (Payload (Option Int64))
  | .any => inferInstanceAs (Payload Json)
  | .refusing => inferInstanceAs (Payload Refusing)

end PayloadKind

end EventBus
