import EventBus.Contract.Kinds

/-! Every value that can be written as a payload is read back from what was written. -/

namespace EventBus

/-- A payload type whose values are read back from what is written of them. -/
class Payload.Faithful (α : Type) [Payload α] : Prop where
  decode_encode : ∀ {value : α} {json : Json},
    Payload.encode value = .ok json → Payload.decode json = .ok value

namespace Json

/-- A whole number is read when it is within the bounds. -/
theorem decodeBetween_integer {low high value : Int} (expected : String) (above : low ≤ value)
    (below : value ≤ high) : decodeBetween low high expected (.integer value) = .ok value :=
  if_pos ⟨above, below⟩

/-- Every number of 64 bits is within the bounds that it is read with. -/
theorem decodeUInt64_ofNat (number : UInt64) : decodeUInt64 (ofNat number.toNat) = .ok number := by
  -- A number of 64 bits is never outside of its own range.
  have below := number.toNat_lt
  rw [decodeUInt64, ofNat, decodeBetween_integer "u64" (by omega) (by omega)]
  simp [Except.map]

/-- A list is read back when each of its items is. -/
theorem decodeList_map {α : Type} {decode : Json → Except DecodeError α} {encode : α → Json}
    (items : List α) (faithful : ∀ item ∈ items, decode (encode item) = .ok item) :
    decodeList decode (.array (items.map encode)) = .ok items := by
  show (items.map encode).mapM decode = .ok items
  -- The induction is on the items, and the first failure would end the reading.
  induction items with
  | nil => rfl
  | cons first rest ih =>
    rw [List.map_cons, List.mapM_cons, faithful first List.mem_cons_self,
      ih fun item there => faithful item (List.mem_cons_of_mem first there)]
    rfl

/-- What is not written as null is read back as something. -/
theorem decodeOption_some {α : Type} {decode : Json → Except DecodeError α} {json : Json}
    {value : α} (reads : decode json = .ok value) (something : json ≠ .null) :
    decodeOption decode json = .ok (some value) := by
  -- Null would be taken for nothing, whatever it could be read as.
  cases json with
  | null => exact absurd rfl something
  | _ => simp [decodeOption, reads, Except.map]

end Json

namespace Payload

/-- A structure of one field is read back when its field is. -/
theorem oneField_read {β α : Type} (name key : String) {decode : Json → Except DecodeError β}
    (make : β → α) {json : Json} {value : β} (reads : decode json = .ok value) :
    (oneField name key decode make).read (Json.record [(key, json)]) = .ok (make value) := by
  -- The only field of the object has the key that the structure asks for.
  simp [StructReader.read, StructReader.readObject, Json.record, Json.sortFields,
    Json.insertField, oneField, reads, requireField]
  rfl

/-- A sale is read back from the object that is written for it. -/
theorem saleReader_read (sale : Sale) :
    saleReader.read (Json.record [
      ("id", Json.ofNat sale.id.toNat), ("amount", Json.ofNat sale.amount.toNat)]) = .ok sale := by
  -- The amount comes first in the object, since the fields are in the order of their keys.
  have sorted : Json.record [
      ("id", Json.ofNat sale.id.toNat), ("amount", Json.ofNat sale.amount.toNat)] =
    .object [("amount", Json.ofNat sale.amount.toNat), ("id", Json.ofNat sale.id.toNat)] := rfl
  rw [sorted]
  simp [StructReader.read, StructReader.readObject, saleReader, Json.decodeUInt64_ofNat,
    requireField]
  rfl

instance : Faithful OrderCreated where
  decode_encode {order _} written := by
    cases written
    exact oneField_read "OrderCreated" "id" OrderCreated.mk (Json.decodeUInt64_ofNat order.id)

instance : Faithful AuditNote where
  decode_encode {note _} written := by
    cases written
    exact oneField_read "AuditNote" "message" AuditNote.mk rfl

instance : Faithful Sale where
  decode_encode {sale _} written := by
    cases written
    exact saleReader_read sale

instance : Faithful UInt8 where
  decode_encode {value _} written := by
    cases written
    have below := value.toNat_lt
    show (Json.decodeBetween 0 255 "u8" (.integer value.toNat)).map _ = _
    rw [Json.decodeBetween_integer "u8" (by omega) (by omega)]
    simp [Except.map]

instance : Faithful String where
  decode_encode written := by
    cases written
    rfl

instance : Faithful (List Bool) where
  decode_encode {values _} written := by
    cases written
    exact Json.decodeList_map values fun _ _ => rfl

instance : Faithful (Option Int64) where
  decode_encode {value _} written := by
    cases value with
    | none =>
      cases written
      rfl
    | some value =>
      cases written
      have above := value.le_toInt
      have below := value.toInt_lt
      have reads : (Json.decodeBetween (-9223372036854775808) 9223372036854775807 "i64"
          (.integer value.toInt)).map Int64.ofInt = .ok value := by
        rw [Json.decodeBetween_integer "i64" (by omega) (by omega)]
        simp [Except.map]
      exact Json.decodeOption_some reads nofun

instance : Faithful Json where
  decode_encode written := by
    cases written
    rfl

instance : Faithful Refusing where
  -- A value that is never written need not be read back.
  decode_encode written := nomatch written

instance (kind : PayloadKind) : Faithful kind.Carrier :=
  match kind with
  | .order => inferInstanceAs (Faithful OrderCreated)
  | .note => inferInstanceAs (Faithful AuditNote)
  | .sale => inferInstanceAs (Faithful Sale)
  | .u8 => inferInstanceAs (Faithful UInt8)
  | .text => inferInstanceAs (Faithful String)
  | .bools => inferInstanceAs (Faithful (List Bool))
  | .maybe => inferInstanceAs (Faithful (Option Int64))
  | .any => inferInstanceAs (Faithful Json)
  | .refusing => inferInstanceAs (Faithful Refusing)

end Payload

end EventBus
