import EventBus.Proofs.Group.Chronicle
import EventBus.Proofs.Hub.Mortality
import EventBus.Proofs.Registry.Identity

/-!
A hub goes on in strides, each of which carries out one section of its registry at most. What a
chronicle tells of the strides so far is what the registry can be known by.
-/

namespace EventBus

namespace Hub

/-- What is told of a section of the registry. -/
def tells (hub : Hub) (party : Party) : Change → List Occurrence
  | .subscribe type handler retain =>
    Occurrence.subscribed party type handler
      (hub.registry.subscribe hub.alive type handler retain).answer
  | .unsubscribe handle =>
    Occurrence.unsubscribed handle (hub.registry.unsubscribe hub.alive handle).answer
  | _ => []

/-- One stride of a hub, and what is told of it. -/
inductive Stride (party : Party) (hub : Hub) : List Occurrence → Hub → Prop
  /-- The registry is left alone. -/
  | idle {next : Hub} (registry : next.registry = hub.registry) (mortal : hub.Mortal next) :
    Stride party hub [] next
  /-- A section is carried out. -/
  | changed {change : Change} {next : Hub} (backed : hub.backs change = true)
    (registry : next.registry = hub.registry.change hub.alive change)
    (mortal : hub.Mortal next) : Stride party hub (hub.tells party change) next

/-- Several strides, one after the other. -/
inductive Walk (party : Party) (hub : Hub) : List Occurrence → Hub → Prop
  | stay : Walk party hub [] hub
  | on {told more : List Occurrence} {between next : Hub} (walk : Walk party hub told between)
    (stride : Stride party between more next) : Walk party hub (told ++ more) next

/-- A single stride is a walk. -/
theorem Stride.walk {party : Party} {hub next : Hub} {told : List Occurrence}
    (stride : Stride party hub told next) : Walk party hub told next :=
  .on .stay stride

/-- Whatever leaves the registry alone and brings nobody back is a walk of which nothing is told. -/
theorem Mortal.walk {party : Party} {hub next : Hub} (mortal : hub.Mortal next)
    (registry : next.registry = hub.registry) : Walk party hub [] next :=
  (Stride.idle registry mortal).walk

/-- What a hub notes is a walk of which nothing is told. -/
theorem Walk.noted (party : Party) (hub : Hub) (calls : List (Handler × Event))
    (records : List LogRecord) : Walk party hub [] { hub with calls, records } := by
  -- Who is alive depends on neither of them.
  have mortal : hub.Mortal { hub with calls, records } := .of_fading rfl fun _ living => living
  exact mortal.walk rfl

/-- A walk can be continued by another one. -/
theorem Walk.trans {party : Party} {hub between next : Hub} {told more : List Occurrence}
    (here : Walk party hub told between) (there : Walk party between more next) :
    Walk party hub (told ++ more) next := by
  -- The induction is on the second walk, stride by stride.
  induction there with
  | stay =>
    rw [List.append_nil]
    exact here
  | on _ stride ih =>
    rw [← List.append_assoc]
    exact .on ih stride

/-- Of a section nothing is told, or a subscription that is answered, or an end that is found. -/
theorem tells_cases (hub : Hub) (party : Party) (change : Change) :
    hub.tells party change = [] ∨
      (∃ type handler retain handle, change = .subscribe type handler retain ∧
        (hub.registry.subscribe hub.alive type handler retain).answer = .ok handle ∧
        hub.tells party change = [.given ⟨party, type, handler, handle⟩]) ∨
      ∃ handle, change = .unsubscribe handle ∧
        (hub.registry.unsubscribe hub.alive handle).answer = .ok true ∧
        hub.tells party change = [.ended handle] := by
  -- Only a subscription and an unsubscription are answered with something to tell.
  cases change with
  | subscribe type handler retain =>
    cases answered : (hub.registry.subscribe hub.alive type handler retain).answer with
    | error error => exact Or.inl (congrArg (Occurrence.subscribed party type handler) answered)
    | ok handle =>
      exact Or.inr (Or.inl ⟨type, handler, retain, handle, rfl, answered,
        congrArg (Occurrence.subscribed party type handler) answered⟩)
  | unsubscribe handle =>
    match answered : (hub.registry.unsubscribe hub.alive handle).answer with
    | .error error => exact Or.inl (congrArg (Occurrence.unsubscribed handle) answered)
    | .ok false => exact Or.inl (congrArg (Occurrence.unsubscribed handle) answered)
    | .ok true =>
      exact Or.inr (Or.inr ⟨handle, rfl, answered,
        congrArg (Occurrence.unsubscribed handle) answered⟩)
  | prune => exact Or.inl rfl
  | close => exact Or.inl rfl

/-- What is known at a hub of a call that the registry has answered. -/
structure Knows (chronicle : List Occurrence) (hub : Hub) (call : Call) : Prop where
  registry : call.handle.registry = hub.registry.id
  type : call.handle.type = call.type
  counted : call.handle.id ≤ hub.registry.nextId
  born : call.handler ∈ hub.born
  /-- No entry but that of the call has its id. -/
  only : ∀ {type : EventType} {entry : Entry}, entry ∈ hub.registry.entries type →
    entry.id = call.handle.id → type = call.type ∧ entry.handler = call.handler
  /-- As long as the handler lives, its entry is there. -/
  standing : .ended call.handle ∈ chronicle ∨ hub.registry.closed = true ∨
    hub.alive call.handler = false ∨
    ∃ entry ∈ hub.registry.entries call.type, entry.id = call.handle.id

/-- What a chronicle tells is what there is at a hub. -/
structure Remembers (chronicle : List Occurrence) (hub : Hub) : Prop where
  wellFormed : hub.registry.WellFormed
  apart : hub.registry.HandlersApart
  born : ∀ handler, hub.alive handler = true → handler ∈ hub.born
  given : ∀ {call : Call}, .given call ∈ chronicle → hub.Knows chronicle call
  ended : ∀ {handle : SubscriptionHandle}, .ended handle ∈ chronicle →
    Registry.Vanished handle.id hub.registry
  /-- Every entry was given to somebody. -/
  stored : ∀ {type : EventType} {entry : Entry}, entry ∈ hub.registry.entries type →
    ∃ call, .given call ∈ chronicle ∧ call.handler = entry.handler ∧
      call.handle = hub.registry.handle entry.id type
  consistent : Consistent chronicle

/-- There is nothing to remember in the beginning. -/
theorem remembers_new (id : Nat) : (Hub.new id).Remembers [] where
  -- There is nobody at a new hub, and nothing has been told.
  wellFormed := Registry.wellFormed_new id
  apart := Registry.handlersApart_new id
  born handler living := by
    have nobody : (Hub.new id).alive handler = false := rfl
    exact absurd (living.symm.trans nobody) (by decide)
  given told := absurd told List.not_mem_nil
  ended told := absurd told List.not_mem_nil
  stored there := absurd there List.not_mem_nil
  consistent := .nil

section Sections

variable {chronicle : List Occurrence} {hub next : Hub} {call : Call} {party : Party}

/-- What is known of a call is still known when the registry is left alone. -/
theorem Knows.idle (knows : hub.Knows chronicle call) (registry : next.registry = hub.registry)
    (mortal : hub.Mortal next) : next.Knows chronicle call where
  -- Nothing but who is alive can have changed, and nobody comes back to life.
  registry := registry ▸ knows.registry
  type := knows.type
  counted := registry ▸ knows.counted
  born := mortal.born _ knows.born
  only there := knows.only (registry ▸ there)
  standing := by
    rw [registry]
    exact knows.standing.imp_right (Or.imp_right (Or.imp_left (mortal.dead knows.born)))

section Entries

variable (knows : hub.Knows chronicle call) {entry : Entry} (same : entry.id = call.handle.id)

include knows same

/-- The entry of a call has the handle of the call. -/
theorem Knows.handle_eq : hub.registry.handle entry.id call.type = call.handle := by
  -- The call was given a handle of this registry and of its own type.
  rw [Registry.handle, same, ← knows.registry, ← knows.type]

variable (stored : entry ∈ hub.registry.entries call.type)

include stored

/-- The entry of a call is alive as long as its handler is. -/
theorem Knows.live (alive : hub.alive call.handler = true) :
    entry ∈ hub.registry.live hub.alive call.type := by
  -- What is stored under the number of the call is for the handler of the call.
  have meant := (knows.only stored same).2
  exact List.mem_filter.mpr ⟨stored, by simp [Entry.isAlive, meant, alive]⟩

/-- Of the end of a call's entry is told that the handle of the call was ended. -/
theorem Knows.ended (wellFormed : hub.registry.WellFormed) :
    .ended call.handle ∈ hub.tells party (.unsubscribe call.handle) := by
  -- The entry is found by the handle, so its end is answered with yes.
  have found : hub.registry.find? call.handle = some entry :=
    wellFormed.find?_eq_some.mpr ⟨knows.type ▸ stored, knows.type ▸ knows.handle_eq same⟩
  have isSome := Option.isSome_iff_exists.mpr ⟨entry, found⟩
  have answered : (hub.registry.unsubscribe hub.alive call.handle).answer = .ok true :=
    wellFormed.unsubscribe_found.mpr isSome
  simp only [tells, answered, Occurrence.unsubscribed, List.mem_singleton]

end Entries

/-- What is known of a call is still known after a section, with what is told of it. -/
theorem Knows.change (knows : hub.Knows chronicle call) (wellFormed : hub.registry.WellFormed)
    {change : Change} (registry : next.registry = hub.registry.change hub.alive change)
    (mortal : hub.Mortal next) : next.Knows (chronicle ++ hub.tells party change) call := by
  -- Whatever is stored afterwards was stored before or is new.
  have succeeds := wellFormed.succeeds_change hub.alive change
  rw [← registry] at succeeds
  exact {
    registry := knows.registry.trans succeeds.id_eq.symm
    type := knows.type
    counted := Nat.le_trans knows.counted succeeds.nextId_le
    born := mortal.born _ knows.born
    only := fun there same => by
      rw [registry] at there
      cases wellFormed.origin there with
      | earlier earlier stored continues _ =>
        have meant := knows.only stored (continues.id_eq.symm.trans same)
        exact ⟨meant.1, continues.handler_eq.trans meant.2⟩
      | made later _ =>
        -- A new entry has an id above that of the call.
        have counted := knows.counted
        omega
    standing := by
      -- The entry may have been ended, closed or died before, or it goes through this section.
      rcases knows.standing with ended | closed | dead | ⟨entry, stored, same⟩
      · exact Or.inl (List.mem_append_left _ ended)
      · exact Or.inr (Or.inl (succeeds.closed_of closed))
      · exact Or.inr (Or.inr (Or.inl (mortal.dead knows.born dead)))
      cases alive : hub.alive call.handler with
      | false => exact Or.inr (Or.inr (Or.inl (mortal.dead knows.born alive)))
      | true =>
        rcases wellFormed.stays (knows.live same stored alive) change with
          closed | ended | ⟨later, there, continues⟩
        · exact Or.inr (Or.inl (registry ▸ closed))
        · -- The handle has been put to use, and its entry was found.
          rw [ended, knows.handle_eq same]
          exact Or.inl (List.mem_append_right _ (knows.ended same stored wellFormed))
        · exact Or.inr (Or.inr (Or.inr
            ⟨later, registry ▸ there, continues.id_eq.trans same⟩)) }

/-- What is known of a call that has just been answered. -/
theorem knows_new {type : EventType} {handler : Handler} {retain : Bool}
    {handle : SubscriptionHandle} (wellFormed : hub.registry.WellFormed)
    (born : handler ∈ next.born)
    (answered : (hub.registry.subscribe hub.alive type handler retain).answer = .ok handle)
    (registry : next.registry =
      hub.registry.change hub.alive (.subscribe type handler retain)) :
    next.Knows chronicle ⟨party, type, handler, handle⟩ := by
  -- The registry finds what it has just answered, and numbers are given only once.
  obtain ⟨_, _, rfl, entry, found, same, _⟩ := wellFormed.find?_subscribe answered
  have found : next.registry.find? handle = some entry := registry ▸ found
  have later : next.registry.WellFormed := registry ▸ wellFormed.change hub.alive _
  obtain ⟨own, counted⟩ := later.issued_of_find? found
  obtain ⟨stored, meant⟩ := later.find?_eq_some.mp found
  have hit : entry.id = handle.id := congrArg SubscriptionHandle.id meant
  exact {
    registry := own
    type := rfl
    counted
    born
    only := fun there again => by
      have one := later.eq_of_id (later.mem_entries.mp there) (later.mem_entries.mp stored)
        (again.trans hit.symm)
      obtain ⟨rfl, rfl⟩ := Subscription.mk.inj one
      exact ⟨rfl, same⟩
    standing := Or.inr (Or.inr (Or.inr ⟨entry, stored, hit⟩)) }

end Sections

namespace Remembers

variable {chronicle : List Occurrence} {hub next : Hub} (remembers : hub.Remembers chronicle)

include remembers

/-- The answer to a subscription goes with all that was told before. -/
theorem fits {party : Party} {type : EventType} {handler : Handler} {retain : Bool}
    {handle : SubscriptionHandle} (living : hub.alive handler = true)
    (answered : (hub.registry.subscribe hub.alive type handler retain).answer = .ok handle) :
    Call.Fits chronicle ⟨party, type, handler, handle⟩ := by
  have opened := (remembers.wellFormed.find?_subscribe answered).2.1
  obtain ⟨own, rfl, found⟩ := Registry.subscribe_answered answered
  refine ⟨fun {i earlier} told => ⟨fun (same : earlier.handle = handle) => ?_,
    fun ⟨ofType, sameHandler, lasting⟩ => ?_⟩, ?_, ?_⟩
  · have knows := remembers.given (List.mem_of_getElem? told)
    -- The id has been given out before, so the answer is an entry that was there.
    rcases found with ⟨entry, there, hit, meant⟩ | ⟨new, _⟩
    · have stored := List.mem_of_mem_filter there
      obtain ⟨ofType, ofHandler⟩ := knows.only stored (hit.trans (congrArg _ same.symm))
      refine ⟨ofType.symm, ofHandler.symm.trans meant, fun l _ ended => ?_⟩
      have vanished := remembers.ended (List.mem_of_getElem? ended)
      exact vanished.gone _ entry stored (hit.trans (congrArg _ same.symm))
    · have counted := knows.counted
      rw [same] at counted
      omega
  · have knows := remembers.given (List.mem_of_getElem? told)
    rcases knows.standing with ended | closed | dead | ⟨entry, stored, hit⟩
    · -- What was ended before the earlier call could not have been its answer.
      obtain ⟨l, ended⟩ := List.mem_iff_getElem?.mp ended
      rcases Nat.lt_trichotomy l i with before | rfl | after
      · exact absurd rfl (remembers.consistent.never_again before ended told)
      · cases ended.symm.trans told
      · exact absurd ended (lasting l after)
    · exact absurd (closed.symm.trans opened) (by decide)
    · rw [sameHandler] at dead
      exact absurd (dead.symm.trans living) (by decide)
    · have meant : entry.handler = handler := (knows.only stored hit).2.trans sameHandler
      have there := knows.live hit stored (sameHandler ▸ living)
      have ofType : earlier.type = handle.type := ofType
      rw [← meant, ← ofType] at answered
      -- The entry is still there, and so it is answered again.
      show earlier.handle = handle
      rw [remembers.apart.answered_same there answered, knows.handle_eq hit]
  · intro (ended : .ended handle ∈ chronicle)
    have vanished := remembers.ended ended
    -- The answer has an id that an entry has or that is new, and neither can have been ended.
    rcases found with ⟨entry, there, hit, _⟩ | ⟨new, _⟩
    · exact vanished.gone _ entry (List.mem_of_mem_filter there) hit
    · have counted := vanished.given
      omega
  · -- An entry that was there has been given before, and a new id is above all others.
    rcases found with ⟨entry, there, hit, _⟩ | ⟨new, _⟩
    · obtain ⟨earlier, told, _, same⟩ := remembers.stored (List.mem_of_mem_filter there)
      refine Or.inl ⟨earlier, told, ?_⟩
      rw [same, Registry.handle, hit, ← own]
    · refine Or.inr fun earlier told => ?_
      have counted := (remembers.given told).counted
      show earlier.handle.id < handle.id
      omega

/-- What is told of a section goes with what was told before. -/
theorem consistent_change {change : Change} (backed : hub.backs change = true) (party : Party) :
    Consistent (chronicle ++ hub.tells party change) := by
  rcases hub.tells_cases party change with
    silent | ⟨type, handler, retain, handle, rfl, answered, told⟩ | ⟨handle, rfl, answered, told⟩
  · rw [silent, List.append_nil]
    exact remembers.consistent
  · rw [told]
    have fits : (Occurrence.given ⟨party, type, handler, handle⟩).Fits chronicle :=
      remembers.fits backed answered
    exact remembers.consistent.concat fits
  · rw [told]
    -- What has vanished is not found again.
    have fits : (Occurrence.ended handle).Fits chronicle := fun before => by
      have found := remembers.wellFormed.unsubscribe_found.mp answered
      obtain ⟨entry, there⟩ := Option.isSome_iff_exists.mp found
      obtain ⟨stored, same⟩ := remembers.wellFormed.find?_eq_some.mp there
      exact (remembers.ended before).gone _ entry stored (congrArg SubscriptionHandle.id same)
    exact remembers.consistent.concat fits

/-- Who is alive afterwards has come into being. -/
theorem born_of_alive (mortal : hub.Mortal next) {handler : Handler}
    (living : next.alive handler = true) : handler ∈ next.born := by
  -- Of those who are alive, all were alive before or have come into being now.
  rcases mortal.living handler living with before | ⟨_, new⟩
  · exact mortal.born handler (remembers.born handler before)
  · exact new

section Changes

variable {party : Party} {change : Change}
  (registry : next.registry = hub.registry.change hub.alive change)

include registry

/-- A section leaves a hub that knows every call that has been answered so far. -/
theorem given_change (backed : hub.backs change = true) (mortal : hub.Mortal next) {call : Call}
    (told : .given call ∈ chronicle ++ hub.tells party change) :
    next.Knows (chronicle ++ hub.tells party change) call := by
  -- A call was answered before, or it is the one that this section has answered.
  have wellFormed := remembers.wellFormed
  rcases List.mem_append.mp told with before | now
  · exact (remembers.given before).change wellFormed registry mortal
  rcases hub.tells_cases party change with
    silent | ⟨type, handler, retain, handle, rfl, answered, given⟩ | ⟨_, _, _, other⟩
  · rw [silent] at now
    exact absurd now List.not_mem_nil
  · rw [given, List.mem_singleton] at now
    obtain rfl := Occurrence.given.inj now
    have born := mortal.born handler (remembers.born handler backed)
    exact knows_new wellFormed born answered registry
  · rw [other, List.mem_singleton] at now
    cases now

/-- A section leaves a hub from which all that has been ended so far has vanished. -/
theorem ended_change {handle : SubscriptionHandle}
    (told : .ended handle ∈ chronicle ++ hub.tells party change) :
    Registry.Vanished handle.id next.registry := by
  -- A handle was ended before, or it is the one that this section has ended.
  rw [registry]
  rcases List.mem_append.mp told with before | now
  · exact (Registry.kept_vanished handle.id).survives change hub.registry hub.alive
      (remembers.ended before)
  rcases hub.tells_cases party change with
    silent | ⟨_, _, _, _, _, _, other⟩ | ⟨used, rfl, answered, ended⟩
  · rw [silent] at now
    exact absurd now List.not_mem_nil
  · rw [other, List.mem_singleton] at now
    cases now
  · rw [ended, List.mem_singleton] at now
    obtain rfl := Occurrence.ended.inj now
    exact remembers.wellFormed.vanished_unsubscribe answered

/-- A section leaves a hub at which every entry was given to somebody. -/
theorem stored_change {type : EventType} {entry : Entry}
    (there : entry ∈ next.registry.entries type) :
    ∃ call, .given call ∈ chronicle ++ hub.tells party change ∧ call.handler = entry.handler ∧
      call.handle = next.registry.handle entry.id type := by
  have wellFormed := remembers.wellFormed
  have succeeds := wellFormed.succeeds_change hub.alive change
  rw [registry] at there ⊢
  have own : (hub.registry.change hub.alive change).handle entry.id type =
      hub.registry.handle entry.id type := by
    rw [Registry.handle, Registry.handle, succeeds.id_eq]
  rw [own]
  -- An entry was given before, or it is the one that this section has made.
  cases wellFormed.origin there with
  | earlier earlier stored continues _ =>
    obtain ⟨call, told, sameHandler, sameHandle⟩ := remembers.stored stored
    refine ⟨call, List.mem_append_left _ told, ?_, ?_⟩
    · exact sameHandler.trans continues.handler_eq.symm
    · rw [sameHandle, continues.id_eq]
  | made later _ =>
    -- A new entry is that of the subscription that the section has answered.
    obtain ⟨retain, rfl, answered⟩ := wellFormed.made_of_new there later
    refine ⟨⟨party, type, entry.handler, hub.registry.handle entry.id type⟩,
      List.mem_append_right _ ?_, rfl, rfl⟩
    simp only [tells, answered, Occurrence.subscribed, List.mem_singleton]

end Changes

/-- A stride leaves a hub that remembers what is told of it, too. -/
theorem stride {party : Party} {told : List Occurrence} (stride : Stride party hub told next) :
    next.Remembers (chronicle ++ told) := by
  -- Of an idle stride nothing is told; any other is one section of the registry.
  cases stride with
  | idle registry mortal =>
    rw [List.append_nil]
    exact {
      wellFormed := registry ▸ remembers.wellFormed
      apart := registry ▸ remembers.apart
      born := fun _ => remembers.born_of_alive mortal
      given := fun told => (remembers.given told).idle registry mortal
      ended := fun told => registry ▸ remembers.ended told
      stored := fun there => registry ▸ remembers.stored (registry ▸ there)
      consistent := remembers.consistent }
  | @changed change _ backed registry mortal =>
    have intact := Registry.kept_handlersApart.survives change hub.registry hub.alive
      ⟨remembers.wellFormed, remembers.apart⟩
    rw [← registry] at intact
    exact {
      wellFormed := intact.1
      apart := intact.2
      born := fun _ => remembers.born_of_alive mortal
      given := remembers.given_change registry backed mortal
      ended := remembers.ended_change registry
      stored := remembers.stored_change registry
      consistent := remembers.consistent_change backed party }

/-- A walk leaves a hub that remembers what is told of it, too. -/
theorem walk {party : Party} {told : List Occurrence} (walk : Walk party hub told next) :
    next.Remembers (chronicle ++ told) := by
  -- The induction is on the walk, stride by stride.
  induction walk with
  | stay =>
    rw [List.append_nil]
    exact remembers
  | on _ stride ih =>
    rw [← List.append_assoc]
    exact ih.stride stride

/-- A group that answers from memory changes nothing. -/
theorem of_recalled {call : Call} (recalls : call.Recalls chronicle) :
    hub.Remembers (chronicle ++ [.recalled call]) where
  -- Nothing has happened at the hub, so only what was told has grown.
  wellFormed := remembers.wellFormed
  apart := remembers.apart
  born := remembers.born
  given told := by
    have before := (List.mem_append.mp told).resolve_right (by simp)
    have knows := remembers.given before
    exact { knows with
      only := knows.only
      standing := knows.standing.imp_left (List.mem_append_left _) }
  ended told := remembers.ended ((List.mem_append.mp told).resolve_right (by simp))
  stored there := by
    obtain ⟨call, told, facts⟩ := remembers.stored there
    exact ⟨call, List.mem_append_left _ told, facts⟩
  consistent := remembers.consistent.concat recalls

/--
A snapshot has the subscriptions of its type that were given and have not been ended.

Those of handlers that have died are missing, too.
-/
theorem mem_snapshot {type : EventType} {subscribers : List Subscriber}
    (taken : hub.registry.snapshot hub.alive type = .ok subscribers) (subscriber : Subscriber) :
    subscriber ∈ subscribers ↔ hub.alive subscriber.handler = true ∧
      ∃ call, .given call ∈ chronicle ∧ .ended call.handle ∉ chronicle ∧ call.type = type ∧
        call.handler = subscriber.handler ∧ call.handle.id = subscriber.id := by
  obtain ⟨opened, rfl⟩ := Registry.of_snapshot taken
  -- From a subscriber in the snapshot a call is found, and from a call a subscriber.
  constructor
  · intro there
    refine ⟨alive_of_snapshot remembers.wellFormed taken there, ?_⟩
    obtain ⟨entry, living, rfl⟩ := List.mem_map.mp there
    have stored := List.mem_of_mem_filter living
    obtain ⟨call, told, sameHandler, sameHandle⟩ := remembers.stored stored
    have sameId : call.handle.id = entry.id := congrArg SubscriptionHandle.id sameHandle
    refine ⟨call, told, fun ended => ?_, ?_, sameHandler, sameId⟩
    · exact (remembers.ended ended).gone type entry stored sameId.symm
    · exact (remembers.given told).type.symm.trans (congrArg SubscriptionHandle.type sameHandle)
  · rintro ⟨alive, call, told, lasting, rfl, sameHandler, sameId⟩
    have knows := remembers.given told
    -- Of all that can have become of the call, only a living entry is left.
    rcases knows.standing with ended | closed | dead | ⟨entry, stored, hit⟩
    · exact absurd ended lasting
    · exact absurd (closed.symm.trans opened) (by decide)
    · rw [sameHandler] at dead
      exact absurd (dead.symm.trans alive) (by decide)
    · have meant : entry.handler = subscriber.handler :=
        (knows.only stored hit).2.trans sameHandler
      refine List.mem_map.mpr ⟨entry, knows.live hit stored (sameHandler ▸ alive), ?_⟩
      rw [Entry.subscriber, hit, sameId, meant]

/-- No snapshot has the id of a subscription that was ended, whichever its type is. -/
theorem absent_of_ended {handle : SubscriptionHandle} (ended : .ended handle ∈ chronicle)
    {type : EventType} {subscribers : List Subscriber}
    (taken : hub.registry.snapshot hub.alive type = .ok subscribers) {subscriber : Subscriber}
    (there : subscriber ∈ subscribers) : subscriber.id ≠ handle.id := by
  -- A snapshot has only numbers of entries that are stored.
  obtain ⟨_, rfl⟩ := Registry.of_snapshot taken
  obtain ⟨entry, living, rfl⟩ := List.mem_map.mp there
  exact (remembers.ended ended).gone type entry (List.mem_of_mem_filter living)

end Remembers

end Hub

end EventBus
