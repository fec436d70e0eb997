import EventBus.Proofs.Event.Codec
import EventBus.Proofs.Json.Fields
import EventBus.Subscribers.Reporter

/-!
The record of an event has the fields of its payload and four more on the event. Where the payload
has a field under one of these four keys, the field is lost.
-/

namespace EventBus.Reporter

/-- The data on an event that its record has besides the payload. -/
def metadata (reporter : Reporter) (event : Event) : List (String × Json) := [
  ("event_type", .string event.type.name),
  ("event_id", .string event.id.text),
  ("event_source", Json.ofText? reporter.source),
  ("publisher", Json.ofText? event.source)]

/-- The keys under which a record has the data on its event. -/
def metadataKeys : List String := ["event_type", "event_id", "event_source", "publisher"]

variable {reporter : Reporter} {event : Event}

/-- A record has the data on the event, and what the payload has under other keys. -/
theorem get?_record (distinct : event.payload.KeysDistinct) (key : String) :
    (reporter.record event).get? key =
      ((reporter.metadata event).lookup key).or ((payloadFields event.payload).lookup key) := by
  -- The payload uses no key twice, and neither do the data on the event.
  have payload : ((payloadFields event.payload).map Prod.fst).Nodup := by
    cases held : event.payload with
    | object fields => rwa [held] at distinct
    | _ => exact List.nodup_singleton _
  have own : ((reporter.metadata event).map Prod.fst).Nodup := by
    show metadataKeys.Nodup
    decide
  calc (reporter.record event).get? key
      = (payloadFields event.payload ++ reporter.metadata event).reverse.lookup key :=
        Json.lookup_sortFields _ key
    _ = ((reporter.metadata event).reverse.lookup key).or
          ((payloadFields event.payload).reverse.lookup key) := by
        rw [List.reverse_append, List.lookup_append]
    _ = _ := by rw [Json.lookup_reverse payload, Json.lookup_reverse own]

/-- The record of an event, as against its payload. -/
structure Flattens (reporter : Reporter) (event : Event) (record : Json) : Prop where
  /-- The fields are in the order of their keys, and no key is used twice. -/
  object : ∃ fields, record = .object fields ∧ Json.Ordered fields
  type : record.get? "event_type" = some (.string event.type.name)
  id : record.get? "event_id" = some (.string event.id.text)
  source : record.get? "event_source" = some (Json.ofText? reporter.source)
  publisher : record.get? "publisher" = some (Json.ofText? event.source)
  /-- A field of the payload stays unless its key is taken for the data on the event. -/
  kept : ∀ fields, event.payload = .object fields → ∀ key value, fields.lookup key = some value →
    (record.get? key = some value ↔
      key ∉ metadataKeys ∨ (reporter.metadata event).lookup key = some value)
  /-- A payload without fields is one field of the record. -/
  whole : (∀ fields, event.payload ≠ .object fields) → record.get? "value" = some event.payload
  keys : ∀ key, (record.get? key).isSome = true ↔
    key ∈ metadataKeys ∨ key ∈ (payloadFields event.payload).map Prod.fst

/-- A record loses nothing of the payload but what is under the keys of the data on the event. -/
theorem record_flattens (reporter : Reporter) (event : Event)
    (distinct : event.payload.KeysDistinct) : reporter.Flattens event (reporter.record event) := by
  -- The four keys of the data are taken, and all others are free for the payload.
  have taken : ∀ key, ((reporter.metadata event).lookup key).isSome = true ↔ key ∈ metadataKeys :=
    Json.lookup_isSome_iff (reporter.metadata event)
  have free : ∀ key, key ∉ metadataKeys → (reporter.metadata event).lookup key = none :=
    fun key other => by rwa [← Option.not_isSome_iff_eq_none, taken]
  refine ⟨⟨_, rfl, Json.ordered_sortFields _⟩, get?_record distinct "event_type",
    get?_record distinct "event_id", get?_record distinct "event_source",
    get?_record distinct "publisher", fun fields same key value held => ?_, fun scalar => ?_,
    fun key => ?_⟩
  · have held : (payloadFields event.payload).lookup key = some value := by rwa [same]
    rw [get?_record distinct, held]
    by_cases listed : key ∈ metadataKeys
    · obtain ⟨data, found⟩ := Option.isSome_iff_exists.mp ((taken key).mpr listed)
      rw [found, Option.some_or, or_iff_right (not_not.mpr listed)]
    · rw [free key listed, Option.none_or, eq_self_iff_true, true_iff]
      exact .inl listed
  · rw [get?_record distinct, free "value" (by decide), Option.none_or]
    cases held : event.payload with
    | object fields => exact absurd held (scalar fields)
    | _ => rfl
  · -- Something is in the record under the keys of the data and under those of the payload.
    rw [get?_record distinct, Option.isSome_or, Bool.or_eq_true, taken, Json.lookup_isSome_iff]

/-- An event with a payload that has a field of its own and one under a key that is taken. -/
def misfiled : Event where
  id := ⟨0⟩
  type := ⟨"order"⟩
  payload := .object [("amount", .integer 3), ("event_type", .string "mine")]
  time := .epoch
  source := none

/-- The record has one of the two fields, and the type of the event in place of the other. -/
theorem misfiled_flattens :
    let reporter : Reporter := ⟨some "audit"⟩
    misfiled.payload.KeysDistinct ∧ reporter.Flattens misfiled (reporter.record misfiled) ∧
      (reporter.record misfiled).get? "amount" = some (.integer 3) ∧
      (reporter.record misfiled).get? "event_type" = some (.string "order") := by
  intro reporter
  -- The payload has two fields of different keys.
  have distinct : misfiled.payload.KeysDistinct := by
    show ["amount", "event_type"].Nodup
    decide
  have flattens := record_flattens reporter misfiled distinct
  exact ⟨distinct, flattens, (flattens.kept _ rfl "amount" _ rfl).mpr (.inl (by decide)),
    flattens.type⟩

/-- A field of the payload is not in the record with its value. -/
theorem misfiled_loses :
    let reporter : Reporter := ⟨some "audit"⟩
    misfiled.payload.KeysDistinct ∧
      misfiled.payload.get? "event_type" = some (.string "mine") ∧
      (reporter.record misfiled).get? "event_type" ≠ some (.string "mine") := by
  -- Two of the three facts are found by evaluation.
  refine ⟨?_, rfl, by decide⟩
  show ["amount", "event_type"].Nodup
  decide

end EventBus.Reporter
