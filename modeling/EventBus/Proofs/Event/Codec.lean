import EventBus.Event.Codec
import EventBus.Proofs.Calendar.Spelling
import EventBus.Proofs.Event.Id

/-!
The JSON values that are read as an event are its forms: objects with the fields in any order, and
arrays of its five parts.
-/

namespace EventBus

namespace Event

/-- What the fields of an event hold; a missing source is the same as null. -/
structure Fields (event : Event) (fields : List (String × Json)) : Prop where
  id : ∃ text, fields.lookup "event_id" = some (.string text) ∧ event.id.Spelling text.toList
  type : fields.lookup "event_type" = some (.string event.type.name)
  payload : fields.lookup "payload" = some event.payload
  time : ∃ text, fields.lookup "occurred_at" = some (.string text) ∧
    event.time.Spelling text.toList
  source : (fields.lookup "source").getD .null = Json.ofText? event.source

/-- The forms of an event. -/
inductive Form (event : Event) : Json → Prop
  /-- The fields stand in any order, among any others, and no key is used twice. -/
  | object {fields : List (String × Json)} (distinct : (fields.map Prod.fst).Nodup)
    (held : event.Fields fields) : Form event (.object fields)
  /-- Each of five items stands for the key of its position. -/
  | array {items : List Json} (five : items.length = 5)
    (held : event.Fields (reader.keys.zip items)) : Form event (.array items)

end Event

/-- No key of an object is used twice. -/
def Json.KeysDistinct : Json → Prop
  | .object fields => (fields.map Prod.fst).Nodup
  | _ => True

/-- A result that has been mapped is the image of a result. -/
theorem map_eq_ok_iff {ε α β : Type} {f : α → β} {result : Except ε α} {image : β} :
    result.map f = .ok image ↔ ∃ value, result = .ok value ∧ f value = image := by
  -- A mapping does nothing to an error.
  cases result <;> simp [Except.map]

/-- A result that depends on another one needs that one first. -/
theorem bind_eq_ok_iff {ε α β : Type} {f : α → Except ε β} {result : Except ε α} {image : β} :
    (result >>= f) = .ok image ↔ ∃ value, result = .ok value ∧ f value = .ok image := by
  -- An error is passed on, and otherwise the second result decides.
  cases result <;> simp [bind, Except.bind]

namespace EventDraft

variable {α : Type} {read : Json → Except DecodeError (Option α)} {found later : Option Json}
  {before after : Option α}

/-- A part of a draft is what its field is read as, or what it was if there is no such field. -/
def Settled (read : Json → Except DecodeError (Option α)) (found : Option Json)
    (before after : Option α) : Prop :=
  match found with
  | none => after = before
  | some json => read json = .ok after

/-- A part that is found at most once is settled where it is found. -/
theorem settled_or (once : found = none ∨ later = none) :
    Settled read (found.or later) before after ↔
      ∃ between, Settled read found before between ∧ Settled read later between after := by
  -- Where one of the two is not found, settling it changes nothing.
  rcases once with rfl | rfl
  · constructor
    · intro settled
      exact ⟨before, rfl, settled⟩
    · rintro ⟨between, rfl, settled⟩
      exact settled
  · rw [Option.or_none]
    constructor
    · intro settled
      exact ⟨after, settled, rfl⟩
    · rintro ⟨between, settled, rfl⟩
      exact settled

/-- What some fields make of a draft. -/
structure Gathered (draft : EventDraft) (fields : List (String × Json)) (final : EventDraft) :
    Prop where
  id : Settled (fun json => (Event.decodeId json).map some) (fields.lookup "event_id") draft.id
    final.id
  type : Settled (fun json => (Event.decodeType json).map some) (fields.lookup "event_type")
    draft.type final.type
  payload : Settled (fun json => .ok (some json)) (fields.lookup "payload") draft.payload
    final.payload
  time : Settled (fun json => (Event.decodeTime json).map some) (fields.lookup "occurred_at")
    draft.time final.time
  source : Settled (Json.decodeOption Json.decodeText) (fields.lookup "source") draft.source
    final.source

variable {draft final : EventDraft} {key : String} {value : Json}
  {fields : List (String × Json)}

/-- Drafts are the same if their five parts are. -/
theorem eq_of_parts {other : EventDraft} (ids : draft.id = other.id)
    (types : draft.type = other.type) (payloads : draft.payload = other.payload)
    (times : draft.time = other.time) (sources : draft.source = other.source) : draft = other := by
  -- The five parts are all there is of a draft.
  cases draft
  cases other
  cases ids
  cases types
  cases payloads
  cases times
  cases sources
  rfl

/-- One field is read as the part of its key and leaves the others alone. -/
theorem visit_eq_ok_iff (known : key ∈ Event.reader.keys) :
    Event.reader.visit draft key value = .ok final ↔ draft.Gathered [(key, value)] final := by
  simp only [Event.reader, List.mem_cons, List.not_mem_nil, or_false] at known
  -- Each key is found in a list of one field exactly if it is the key of that field.
  rcases known with rfl | rfl | rfl | rfl | rfl
  · constructor
    · intro visited
      obtain ⟨id, reads, rfl⟩ := map_eq_ok_iff.mp visited
      exact ⟨map_eq_ok_iff.mpr ⟨id, reads, rfl⟩, rfl, rfl, rfl, rfl⟩
    · rintro ⟨settled, types, payloads, times, sources⟩
      obtain ⟨id, reads, made⟩ := map_eq_ok_iff.mp settled
      exact map_eq_ok_iff.mpr ⟨id, reads,
        eq_of_parts made types.symm payloads.symm times.symm sources.symm⟩
  · constructor
    · intro visited
      obtain ⟨type, reads, rfl⟩ := map_eq_ok_iff.mp visited
      exact ⟨rfl, map_eq_ok_iff.mpr ⟨type, reads, rfl⟩, rfl, rfl, rfl⟩
    · rintro ⟨ids, settled, payloads, times, sources⟩
      obtain ⟨type, reads, made⟩ := map_eq_ok_iff.mp settled
      exact map_eq_ok_iff.mpr ⟨type, reads,
        eq_of_parts ids.symm made payloads.symm times.symm sources.symm⟩
  · -- A payload is taken as it is, so reading it cannot fail.
    constructor
    · intro visited
      cases visited
      exact ⟨rfl, rfl, rfl, rfl, rfl⟩
    · rintro ⟨ids, types, settled, times, sources⟩
      exact congrArg Except.ok (eq_of_parts ids.symm types.symm (Except.ok.inj settled)
        times.symm sources.symm)
  · constructor
    · intro visited
      obtain ⟨time, reads, rfl⟩ := map_eq_ok_iff.mp visited
      exact ⟨rfl, rfl, rfl, map_eq_ok_iff.mpr ⟨time, reads, rfl⟩, rfl⟩
    · rintro ⟨ids, types, payloads, settled, sources⟩
      obtain ⟨time, reads, made⟩ := map_eq_ok_iff.mp settled
      exact map_eq_ok_iff.mpr ⟨time, reads,
        eq_of_parts ids.symm types.symm payloads.symm made sources.symm⟩
  · constructor
    · intro visited
      obtain ⟨source, reads, rfl⟩ := map_eq_ok_iff.mp visited
      exact ⟨rfl, rfl, rfl, rfl, reads⟩
    · rintro ⟨ids, types, payloads, times, settled⟩
      exact map_eq_ok_iff.mpr ⟨final.source, settled,
        eq_of_parts ids.symm types.symm payloads.symm times.symm rfl⟩

/-- Fields with different keys are gathered one by one. -/
theorem gathered_cons_iff (fresh : key ∉ fields.map Prod.fst) :
    draft.Gathered ((key, value) :: fields) final ↔
      ∃ next, draft.Gathered [(key, value)] next ∧ next.Gathered fields final := by
  -- No key is found both in the first field and behind it.
  have once (k : String) : [(key, value)].lookup k = none ∨ fields.lookup k = none := by
    by_cases same : k = key
    · subst same
      refine .inr (List.lookup_eq_none_iff.mpr ?_)
      intro field member
      rw [bne_iff_ne]
      rintro rfl
      exact fresh (List.mem_map_of_mem member)
    · refine .inl (List.lookup_eq_none_iff.mpr ?_)
      intro field member
      rw [List.mem_singleton.mp member, bne_iff_ne]
      exact same
  have cut (k : String) : ((key, value) :: fields).lookup k
      = ([(key, value)].lookup k).or (fields.lookup k) := by
    rw [← List.singleton_append, List.lookup_append]
  -- What is found in all fields is found in the first one or in the others.
  constructor
  · rintro ⟨ids, types, payloads, times, sources⟩
    rw [cut] at ids types payloads times sources
    obtain ⟨id, id₁, id₂⟩ := (settled_or (once _)).mp ids
    obtain ⟨type, type₁, type₂⟩ := (settled_or (once _)).mp types
    obtain ⟨payload, payload₁, payload₂⟩ := (settled_or (once _)).mp payloads
    obtain ⟨time, time₁, time₂⟩ := (settled_or (once _)).mp times
    obtain ⟨source, source₁, source₂⟩ := (settled_or (once _)).mp sources
    exact ⟨⟨id, type, payload, time, source⟩, ⟨id₁, type₁, payload₁, time₁, source₁⟩,
      ⟨id₂, type₂, payload₂, time₂, source₂⟩⟩
  · -- Each part is settled by one of the two, and the other leaves it alone.
    rintro ⟨next, first, others⟩
    constructor <;> rw [cut]
    · exact (settled_or (once _)).mpr ⟨next.id, first.id, others.id⟩
    · exact (settled_or (once _)).mpr ⟨next.type, first.type, others.type⟩
    · exact (settled_or (once _)).mpr ⟨next.payload, first.payload, others.payload⟩
    · exact (settled_or (once _)).mpr ⟨next.time, first.time, others.time⟩
    · exact (settled_or (once _)).mpr ⟨next.source, first.source, others.source⟩

/-- Visiting known fields with different keys gathers them. -/
theorem foldlM_visit_eq_ok_iff (distinct : (fields.map Prod.fst).Nodup)
    (known : ∀ key ∈ fields.map Prod.fst, key ∈ Event.reader.keys) :
    fields.foldlM (fun found field => Event.reader.visit found field.1 field.2) draft = .ok final ↔
      draft.Gathered fields final := by
  -- The first field leaves a draft from which the others go on.
  induction fields generalizing draft with
  | nil =>
    constructor
    · intro same
      cases same
      exact ⟨rfl, rfl, rfl, rfl, rfl⟩
    · rintro ⟨ids, types, payloads, times, sources⟩
      exact congrArg Except.ok
        (eq_of_parts ids.symm types.symm payloads.symm times.symm sources.symm)
  | cons field fields ih =>
    rw [List.map_cons, List.nodup_cons] at distinct
    have others {next : EventDraft} := @ih next distinct.2
      fun key member => known key (List.mem_cons_of_mem _ member)
    rw [List.foldlM_cons, bind_eq_ok_iff, gathered_cons_iff distinct.1]
    simp only [others, visit_eq_ok_iff (known field.1 List.mem_cons_self)]

/-- A draft with all the parts of an event. -/
def full (event : Event) : EventDraft where
  id := some event.id
  type := some event.type
  payload := some event.payload
  time := some event.time
  source := event.source

/-- A draft is an event exactly if it has all its parts. -/
theorem finish_eq_ok_iff {event : Event} :
    Event.reader.finish draft = .ok event ↔ draft = full event := by
  -- A part that is required has to be there.
  have required {β : Type} {key : String} {found : Option β} {value : β} :
      requireField key found = .ok value ↔ found = some value := by
    cases found <;> simp [requireField]
  constructor
  · -- Only the source may be missing.
    intro finished
    obtain ⟨id, ids, finished⟩ := bind_eq_ok_iff.mp finished
    obtain ⟨type, types, finished⟩ := bind_eq_ok_iff.mp finished
    obtain ⟨payload, payloads, finished⟩ := bind_eq_ok_iff.mp finished
    obtain ⟨time, times, finished⟩ := bind_eq_ok_iff.mp finished
    cases finished
    exact eq_of_parts (required.mp ids) (required.mp types) (required.mp payloads)
      (required.mp times) rfl
  · rintro rfl
    rfl

/-- A part that was missing is there once its field has been read. -/
theorem settled_some {value : α} :
    Settled read found none (some value) ↔
      ∃ json, found = some json ∧ read json = .ok (some value) := by
  -- Nothing is settled where nothing is found.
  cases found <;> simp [Settled]

end EventDraft

namespace Event

variable {event : Event} {json : Json} {fields : List (String × Json)}

/-- The texts that are read as an id are its spellings. -/
theorem decodeId_eq_ok_iff {id : EventId} :
    decodeId json = .ok id ↔ ∃ text, json = .string text ∧ id.Spelling text.toList := by
  constructor
  · intro reads
    -- Only a text can be read at all.
    cases json with
    | string text =>
      rw [decodeId] at reads
      split at reads
      · next found =>
        cases reads
        exact ⟨text, rfl, EventId.parse?_eq_some_iff.mp found⟩
      · cases reads
    | _ => cases reads
  · rintro ⟨text, rfl, spelling⟩
    rw [decodeId, EventId.parse?_eq_some_iff.mpr spelling]

/-- The texts that are read as a moment are its spellings. -/
theorem decodeTime_eq_ok_iff {moment : Moment} :
    decodeTime json = .ok moment ↔ ∃ text, json = .string text ∧ moment.Spelling text.toList := by
  constructor
  · -- Only a text can tell a time, and it has to be read as one.
    intro reads
    cases json with
    | string text =>
      rw [decodeTime] at reads
      split at reads
      · next found =>
        cases reads
        exact ⟨text, rfl, Moment.parse?_eq_some_iff.mp found⟩
      · cases reads
    | _ => cases reads
  · rintro ⟨text, rfl, spelling⟩
    rw [decodeTime, Moment.parse?_eq_some_iff.mpr spelling]

/-- A text is read as it is. -/
theorem decodeText_eq_ok_iff {text : String} :
    json.decodeText = .ok text ↔ json = .string text := by
  -- No other value is a text.
  cases json <;> simp [Json.decodeText]

/-- A type is read from its name. -/
theorem decodeType_eq_ok_iff {type : EventType} :
    decodeType json = .ok type ↔ json = .string type.name := by
  -- The name of a type is its text.
  rw [decodeType, map_eq_ok_iff]
  constructor
  · rintro ⟨name, reads, rfl⟩
    exact decodeText_eq_ok_iff.mp reads
  · intro same
    exact ⟨type.name, decodeText_eq_ok_iff.mpr same, rfl⟩

/-- A source is read from a text, and from null if there is none. -/
theorem decodeSource_eq_ok_iff {source : Option String} :
    json.decodeOption Json.decodeText = .ok source ↔ json = Json.ofText? source := by
  -- Null stands for no source at all.
  cases json with
  | null => cases source <;> simp [Json.decodeOption, Json.ofText?]
  | _ => cases source <;> simp [Json.decodeOption, Json.decodeText, Json.ofText?, Except.map]

/-- What is gathered of an event from some fields is what it needs to have in them. -/
theorem gathered_full_iff :
    ({} : EventDraft).Gathered fields (.full event) ↔ event.Fields fields := by
  -- All parts but the source are required, and each has a reader of its own.
  have parts {α : Type} {decode : Json → Except DecodeError α} {found : Option Json} {value : α} :
      EventDraft.Settled (fun json => (decode json).map some) found none (some value) ↔
        ∃ json, found = some json ∧ decode json = .ok value := by
    simp only [EventDraft.settled_some, map_eq_ok_iff, Option.some.injEq, exists_eq_right]
  constructor
  · rintro ⟨ids, types, payloads, times, sources⟩
    obtain ⟨_, id, reads⟩ := parts.mp ids
    obtain ⟨_, type, named⟩ := parts.mp types
    obtain ⟨_, payload, held⟩ := EventDraft.settled_some.mp payloads
    obtain ⟨_, time, tells⟩ := parts.mp times
    obtain ⟨text, rfl, spelt⟩ := decodeId_eq_ok_iff.mp reads
    obtain rfl := decodeType_eq_ok_iff.mp named
    obtain ⟨clock, rfl, shown⟩ := decodeTime_eq_ok_iff.mp tells
    cases held
    refine ⟨⟨text, id, spelt⟩, type, payload, ⟨clock, time, shown⟩, ?_⟩
    cases found : fields.lookup "source" with
    | none =>
      rw [found] at sources
      have none : event.source = none := sources
      rw [none]
      rfl
    | some json =>
      rw [found] at sources
      exact decodeSource_eq_ok_iff.mp sources
  · -- What the event needs is found under each key and read there.
    rintro ⟨⟨text, id, spelt⟩, type, payload, ⟨clock, time, shown⟩, source⟩
    refine ⟨parts.mpr ⟨_, id, decodeId_eq_ok_iff.mpr ⟨text, rfl, spelt⟩⟩,
      parts.mpr ⟨_, type, decodeType_eq_ok_iff.mpr rfl⟩,
      EventDraft.settled_some.mpr ⟨_, payload, rfl⟩,
      parts.mpr ⟨_, time, decodeTime_eq_ok_iff.mpr ⟨clock, rfl, shown⟩⟩, ?_⟩
    cases found : fields.lookup "source" with
    | none =>
      rw [found] at source
      -- A missing source is the same as null.
      show event.source = none
      cases named : event.source with
      | none => rfl
      | some text =>
        rw [named] at source
        cases source
    | some json =>
      rw [found] at source
      exact decodeSource_eq_ok_iff.mpr source

/-- Passing over fields of other keys does not change what is found under a listed key. -/
theorem lookup_filter_keys {keys : List String} {key : String} (listed : key ∈ keys) :
    (fields.filter fun field => keys.contains field.1).lookup key = fields.lookup key := by
  -- The induction is on the fields, each of which is passed over or kept.
  induction fields with
  | nil => rfl
  | cons field fields ih =>
    by_cases same : key = field.1
    · have kept : keys.contains field.1 = true := List.contains_iff_mem.mpr (same ▸ listed)
      rw [List.filter_cons, if_pos kept, List.lookup_cons, List.lookup_cons, same, beq_self_eq_true]
    · have other : (key == field.1) = false := beq_eq_false_iff_ne.mpr same
      by_cases kept : keys.contains field.1 = true
      · rw [List.filter_cons, if_pos kept, List.lookup_cons, List.lookup_cons, other, ih]
      · rw [List.filter_cons, if_neg kept, List.lookup_cons, other, ih]

/-- Only what is found under the keys of an event counts. -/
theorem Fields.of_lookup_eq {others : List (String × Json)} (held : event.Fields fields)
    (same : ∀ key ∈ reader.keys, others.lookup key = fields.lookup key) : event.Fields others where
  id := by
    -- Each part is asked for under one key of the event.
    rw [same _ (by simp [reader])]
    exact held.id
  type := by
    rw [same _ (by simp [reader])]
    exact held.type
  payload := by
    rw [same _ (by simp [reader])]
    exact held.payload
  time := by
    rw [same _ (by simp [reader])]
    exact held.time
  source := by
    rw [same _ (by simp [reader])]
    exact held.source

/-- Known fields with different keys stand for an event exactly if they hold its parts. -/
theorem gather_eq_ok_iff (apart : (fields.map Prod.fst).Nodup)
    (listed : ∀ key ∈ fields.map Prod.fst, key ∈ reader.keys) :
    (∃ draft, fields.foldlM (fun found field => reader.visit found field.1 field.2) reader.start
        = .ok draft ∧ reader.finish draft = .ok event) ↔ event.Fields fields := by
  -- A draft is an event if it is full, and it is full if the fields have settled every part.
  rw [← gathered_full_iff, ← EventDraft.foldlM_visit_eq_ok_iff apart listed]
  constructor
  · rintro ⟨draft, gathered, finished⟩
    rwa [← EventDraft.finish_eq_ok_iff.mp finished]
  · intro gathered
    exact ⟨_, gathered, EventDraft.finish_eq_ok_iff.mpr rfl⟩

/-- Fields with different keys stand for an event exactly if they hold its parts. -/
theorem readObject_eq_ok_iff (distinct : (fields.map Prod.fst).Nodup) :
    reader.readObject fields = .ok event ↔ event.Fields fields := by
  -- Fields of other keys are passed over, and without them nothing else is found.
  let known := fields.filter fun field => reader.keys.contains field.1
  have apart : (known.map Prod.fst).Nodup := distinct.sublist (List.filter_sublist.map _)
  have listed : ∀ key ∈ known.map Prod.fst, key ∈ reader.keys := by
    intro key member
    obtain ⟨field, kept, rfl⟩ := List.mem_map.mp member
    exact List.contains_iff_mem.mp (List.mem_filter.mp kept).2
  calc reader.readObject fields = .ok event
      ↔ event.Fields known := bind_eq_ok_iff.trans (gather_eq_ok_iff apart listed)
    _ ↔ event.Fields fields :=
        ⟨fun held => held.of_lookup_eq fun _ there => (lookup_filter_keys there).symm,
          fun held => held.of_lookup_eq fun _ there => lookup_filter_keys there⟩

/-- Five items stand for an event exactly if they hold its parts in order. -/
theorem readArray_eq_ok_iff {items : List Json} :
    reader.readArray items = .ok event ↔
      items.length = 5 ∧ event.Fields (reader.keys.zip items) := by
  have five : reader.keys.length = 5 := rfl
  -- Five items have all the keys.
  have gather (whole : items.length = 5) := by
    have keys : (reader.keys.zip items).map Prod.fst = reader.keys :=
      List.map_fst_zip (five.trans whole.symm).le
    refine @gather_eq_ok_iff event (reader.keys.zip items) ?_ ?_
    · rw [keys]
      decide
    · rw [keys]
      exact fun _ there => there
  constructor
  · -- Too few and too many items are refused, before and after the parts are put together.
    intro reads
    obtain ⟨draft, gathered, reads⟩ := bind_eq_ok_iff.mp reads
    rw [five] at reads
    by_cases few : items.length < 5
    · rw [if_pos few] at reads
      cases reads
    · rw [if_neg few] at reads
      obtain ⟨answer, finished, reads⟩ := bind_eq_ok_iff.mp reads
      by_cases many : 5 < items.length
      · rw [if_pos many] at reads
        cases reads
      · rw [if_neg many] at reads
        cases reads
        have whole : items.length = 5 := by omega
        exact ⟨whole, (gather whole).mp ⟨draft, gathered, finished⟩⟩
  · -- With five items neither refusal applies.
    rintro ⟨whole, held⟩
    obtain ⟨draft, gathered, finished⟩ := (gather whole).mpr held
    refine bind_eq_ok_iff.mpr ⟨draft, gathered, ?_⟩
    rw [five, if_neg (by omega)]
    refine bind_eq_ok_iff.mpr ⟨event, finished, ?_⟩
    rw [if_neg (by omega)]
    rfl

/-- A value is read as an event exactly if it is one of the forms of that event. -/
theorem decode_eq_ok_iff (distinct : json.KeysDistinct) :
    decode json = .ok event ↔ event.Form json := by
  -- Only objects and arrays are read, each by a reader of its own.
  cases json with
  | object fields =>
    constructor
    · intro reads
      exact .object distinct ((readObject_eq_ok_iff distinct).mp reads)
    · rintro ⟨-, held⟩
      exact (readObject_eq_ok_iff distinct).mpr held
  | array items =>
    constructor
    · intro reads
      obtain ⟨five, held⟩ := readArray_eq_ok_iff.mp reads
      exact .array five held
    · intro form
      cases form with
      | array five held => exact readArray_eq_ok_iff.mpr ⟨five, held⟩
  | _ =>
    constructor
    · intro reads
      cases reads
    · intro form
      cases form

end Event

end EventBus
