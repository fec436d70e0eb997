import EventBus.Proofs.Event.Codec

/-! The JSON form that is written of an event is the one normal form of all that is read as it. -/

namespace EventBus

namespace Event

variable (event : Event)

/-- The written fields are in the order of their keys. -/
theorem encode_eq : event.encode = .object [
    ("event_id", .string event.id.text), ("event_type", .string event.type.name),
    ("occurred_at", .string event.time.text), ("payload", event.payload),
    ("source", Json.ofText? event.source)] := rfl

/-- What is written of an event is one of its forms. -/
theorem encode_form : event.Form event.encode := by
  -- The encoding has the five keys of an event, each with its part in written form.
  rw [encode_eq]
  refine .object ?_ ⟨⟨_, rfl, event.id.text_spelling⟩, rfl, rfl, ⟨_, rfl, event.time.text_spelling⟩,
    rfl⟩
  show ["event_id", "event_type", "occurred_at", "payload", "source"].Nodup
  decide

variable {event}

/-- A form has different keys. -/
theorem Form.keysDistinct {json : Json} (form : event.Form json) : json.KeysDistinct := by
  -- An object needs different keys to be a form, and an array has no keys.
  cases form with
  | object distinct => exact distinct
  | array => trivial

/-- A form of an event is read as that event. -/
theorem Form.decode {json : Json} (form : event.Form json) : decode json = .ok event :=
  (decode_eq_ok_iff form.keysDistinct).mpr form

/-- Reading what was written gives the event back. -/
theorem decode_encode (event : Event) : decode event.encode = .ok event :=
  event.encode_form.decode

/--
Each event has one encoding, which is read back as that event with all its parts. The values that
are read as the event are just its forms: objects and arrays, with every spelling of the id and of
the time. Each of them leads to the same encoding, and so does reading that once more.
-/
theorem encode_normal_form (event : Event) :
    decode event.encode = .ok event ∧
    (∀ other : Event, other.encode = event.encode → other = event) ∧
    ∀ json : Json, json.KeysDistinct →
      (decode json = .ok event ↔ event.Form json) ∧
      (event.Form json →
        (decode json).map encode = .ok event.encode ∧
        (decode json >>= fun found => decode found.encode) = .ok event) := by
  refine ⟨decode_encode event, ?_, ?_⟩
  · intro other same
    -- Both events are what the common encoding is read as.
    have reads : decode event.encode = .ok other := same ▸ decode_encode other
    rw [decode_encode event] at reads
    exact (Except.ok.inj reads).symm
  · intro json distinct
    refine ⟨decode_eq_ok_iff distinct, ?_⟩
    intro form
    exact ⟨map_eq_ok_iff.mpr ⟨event, form.decode, rfl⟩,
      bind_eq_ok_iff.mpr ⟨event, form.decode, decode_encode event⟩⟩

/-- An object with its keys out of order, an id in capitals and a leap second in local time. -/
def leapDayJson : Json := .object [
  ("source", .null), ("occurred_at", .string "2016-02-29 23:59:60.5 -02:15"), ("note", .null),
  ("payload", .null), ("event_type", .string " "),
  ("event_id", .string "URN:uuid:01234567-89AB-CDEF-0123-456789ABCDEF")]

/-- The event of that object, for which the month of March had begun in universal time. -/
def leapDay : Event where
  id := ⟨0x0123456789abcdef0123456789abcdef#128⟩
  type := ⟨" "⟩
  payload := .null
  time :=
    ⟨⟨2016, 3, 1, by decide, by decide, by decide⟩,
      ⟨2, 14, 60, 500000000, by decide, by decide, by decide, by decide⟩⟩
  source := none

/-- The object is one of the forms of the event and leads to its encoding. -/
theorem leapDay_normal_form :
    leapDay.Form leapDayJson ∧ (decode leapDayJson).map encode = .ok leapDay.encode := by
  -- That the object is read is found by evaluation, and the rest follows from the theorem.
  have reads : decode leapDayJson = .ok leapDay := by rfl
  have distinct : leapDayJson.KeysDistinct := by
    show ["source", "occurred_at", "note", "payload", "event_type", "event_id"].Nodup
    decide
  obtain ⟨-, -, forms⟩ := encode_normal_form leapDay
  have form := (forms leapDayJson distinct).1.mp reads
  exact ⟨form, ((forms leapDayJson distinct).2 form).1⟩

end Event

end EventBus
