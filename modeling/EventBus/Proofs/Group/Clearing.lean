import EventBus.Proofs.Group.Handles
import EventBus.Proofs.Group.Withdrawal
import EventBus.Proofs.Hub.Remnants

/-!
What is left when a group is cleared. Each member whose subscription is still shown by the bus
counts once, since it is stored exactly as long as it is shown and no other member has its handle.
-/

namespace EventBus

namespace Registry

variable {registry : Registry} {alive : Handler → Bool} {handle other : SubscriptionHandle}

/-- The end of a subscription leaves a retained entry of another one as it is. -/
theorem WellFormed.find?_unsubscribe_other (wellFormed : registry.WellFormed)
    (differs : other ≠ handle)
    (retained : ∀ entry, registry.find? other = some entry → entry.retained = true) :
    (registry.unsubscribe alive handle).registry.find? other = registry.find? other := by
  have later := wellFormed.unsubscribe alive handle
  have id_eq : (registry.unsubscribe alive handle).registry.id = registry.id :=
    (wellFormed.succeeds_change alive (.unsubscribe handle)).id_eq
  cases found : registry.find? other with
  | none =>
    -- Nothing is stored afterwards that was not stored before.
    refine later.find?_eq_none.mpr fun entry stored same => ?_
    refine wellFormed.find?_eq_none.mp found entry (wellFormed.mem_of_unsubscribe stored) ?_
    rwa [Registry.handle, id_eq] at same
  | some entry =>
    obtain ⟨stored, same⟩ := wellFormed.find?_eq_some.mp found
    have living : entry ∈ registry.live alive other.type :=
      List.mem_filter.mpr ⟨stored, Entry.isAlive_of_retained (retained entry found) alive⟩
    have another : handle ≠ registry.handle entry.id other.type := by
      rw [same]
      exact differs.symm
    refine later.find?_eq_some.mpr ⟨wellFormed.stays_unsubscribe living another, ?_⟩
    rw [Registry.handle, id_eq]
    exact same

end Registry

/-- What is known of a call tells that its id has vanished once its handle is spent. -/
theorem Hub.Knows.vanished {chronicle : List Occurrence} {hub : Hub} {call : Call}
    (knows : hub.Knows chronicle call) (spent : Registry.Spent call.handle hub.registry) :
    hub.registry.Vanished call.handle.id where
  wellFormed := spent.wellFormed
  given := spent.given
  gone type entry stored same := by
    -- An entry with the id would be one of the type, and so the one that the handle stood for.
    obtain ⟨rfl, _⟩ := knows.only stored same
    rw [← knows.type] at stored
    refine spent.wellFormed.find?_eq_none.mp spent.gone entry stored ?_
    rw [Registry.handle, same, ← spent.own]

namespace SubscriptionGroup

/-- The ends of retained subscriptions count those that are stored, each of them once. -/
theorem endAll_count (config : BusConfig) {hub : Hub} (wellFormed : hub.registry.WellFormed)
    {handles : List SubscriptionHandle} (distinct : handles.Nodup)
    (retained : ∀ handle ∈ handles, ∀ entry, hub.registry.find? handle = some entry →
      entry.retained = true) :
    (endAll (Hub.bus config fun _ _ => none) handles hub).1 =
      handles.countP fun handle => (hub.registry.find? handle).isSome := by
  induction handles generalizing hub with
  | nil => rfl
  | cons handle rest ih =>
    obtain ⟨alone, distinct⟩ := List.nodup_cons.mp distinct
    -- The handles behind stand for what they stood for, since they are others and retained.
    have same : ∀ other ∈ rest,
        (hub.ended handle).registry.find? other = hub.registry.find? other := by
      intro other there
      have differs : other ≠ handle := fun hit => alone (hit ▸ there)
      exact wellFormed.find?_unsubscribe_other differs
        (retained other (List.mem_cons_of_mem handle there))
    have formed : (hub.ended handle).registry.WellFormed := wellFormed.unsubscribe hub.alive handle
    have others := ih formed distinct fun other there entry found =>
      retained other (List.mem_cons_of_mem handle there) entry (same other there ▸ found)
    have counted : rest.countP (fun other => ((hub.ended handle).registry.find? other).isSome) =
        rest.countP fun other => (hub.registry.find? other).isSome :=
      List.countP_congr fun other there => by rw [same other there]
    have found := @Registry.WellFormed.unsubscribe_found _ hub.alive handle wellFormed
    simp only [endAll, bind, StateT.bind, Hub.unsubscribe_eq]
    show (endAll (Hub.bus config fun _ _ => none) rest (hub.ended handle)).1 + _ = _
    rw [others, counted, List.countP_cons, Nat.add_left_cancel_iff]
    -- The handle itself counts exactly if its end is answered with yes.
    cases stored : (hub.registry.find? handle).isSome with
    | true =>
      rw [found.mpr stored]
      rfl
    | false =>
      have missed := mt found.mp (ne_true_of_eq_false stored)
      split
      · exact absurd ‹_› missed
      · rfl

end SubscriptionGroup

namespace Assembly

variable {config : BusConfig} {assembly : Assembly} {index : Nat} {group : SubscriptionGroup}

/-- Whatever sections keep holds of the registry after a list of deeds. -/
theorem registry_run {property : Registry → Prop} (kept : Registry.Kept property)
    {deeds : List Deed} {last : Assembly} (ran : assembly.run? config deeds = some last)
    (held : property assembly.hub.registry) : property last.hub.registry := by
  -- A deed changes the registry by sections alone, and each of them keeps the property.
  have step {assembly later : Assembly} {deed : Deed} {reply : Reply}
      (held : property assembly.hub.registry)
      (happened : assembly.step? config deed = some (reply, later)) :
      property later.hub.registry := by
    have effect := (effect_of_step happened).1
    exact effect.registry_survives (fun change _ => kept.survives change) held
  exact run_keeps step ran held

/-- What is stored for a member is retained for it. -/
theorem Coherent.retained_of_member (coherent : assembly.Coherent config)
    (present : assembly.group? index = some group) {member : Member}
    (listed : member ∈ group.members) {entry : Entry}
    (found : assembly.hub.registry.find? member.handle = some entry) :
    entry.retained = true := by
  rcases coherent.subscribed index group present member listed with
    closed | ⟨party, _, ended⟩ | ⟨other, there, retained, _⟩
  · exact absurd (closed.symm.trans (coherent.wellFormed.opened_of_find? found)) (by decide)
  · -- Of what has ended, nothing is stored.
    cases (coherent.spent party _ ended).gone.symm.trans found
  · rwa [Option.some.inj (found.symm.trans there)]

/-- The subscription of a member is stored exactly as long as a snapshot shows it. -/
theorem Coherent.stored_iff_shows (coherent : assembly.Coherent config)
    (present : assembly.group? index = some group) {member : Member}
    (listed : member ∈ group.members) :
    (assembly.hub.registry.find? member.handle).isSome = assembly.hub.shows member.handle := by
  -- The entry of a member is retained, and what is retained is alive.
  rw [Bool.eq_iff_iff, Hub.shows_iff coherent.wellFormed, Option.isSome_iff_exists]
  refine exists_congr fun entry => ⟨fun found => ⟨found, ?_⟩, And.left⟩
  exact Entry.isAlive_of_retained (coherent.retained_of_member present listed found) _

/-- A clear counts the members whose subscriptions are shown just before it. -/
theorem Coherent.endAll_shown (coherent : assembly.Coherent config)
    (present : assembly.group? index = some group) :
    (SubscriptionGroup.endAll (Hub.bus config fun _ _ => none) group.handles assembly.hub).1 =
      group.members.countP fun member => assembly.hub.shows member.handle := by
  -- No two members have the same handle, so each end finds what was there for its member.
  have distinct := coherent.distinct index group present
  have counted := SubscriptionGroup.endAll_count config coherent.wellFormed distinct ?_
  · rw [counted, SubscriptionGroup.handles, List.countP_map]
    exact List.countP_congr fun member listed => by
      rw [← coherent.stored_iff_shows present listed]
      rfl
  · intro handle there entry found
    obtain ⟨member, listed, rfl⟩ := List.mem_map.mp there
    exact coherent.retained_of_member present listed found

/-- After a group has let go of its members, nothing has the id of any of them again. -/
theorem vanished_of_clear (reachable : assembly.Reachable config)
    (present : assembly.group? index = some group) {reply : Reply} {cleared : Assembly}
    (happened : assembly.step? config (.remove index .clear) = some (reply, cleared))
    {member : Member} (listed : member ∈ group.members) :
    cleared.hub.registry.Vanished member.handle.id := by
  obtain ⟨chronicle, chronicled⟩ := reachable.chronicled
  have remembers := chronicled.remembers
  obtain ⟨call, told, _, _, _, same⟩ := remembers.members present member listed
  have knows := remembers.hub.given told
  -- The handle was given to the group, so the registry has issued it, and finds it spent now.
  have used : call.handle ∈ group.handles := same ▸ List.mem_map_of_mem listed
  have spent := Hub.spent_endEach remembers.hub.wellFormed used knows.registry knows.counted
  obtain ⟨⟨records, hub_eq⟩, _⟩ := effect_of_remove present happened
  have spent : Registry.Spent call.handle cleared.hub.registry := hub_eq ▸ spent
  have later := (chronicled.step happened).remembers.hub.given (List.mem_append_left _ told)
  exact same ▸ later.vanished spent

/-- A clear answers with the number of members that were shown, and leaves an empty group. -/
theorem Coherent.step?_clear (coherent : assembly.Coherent config)
    (present : assembly.group? index = some group) :
    let shown := group.members.countP fun member => assembly.hub.shows member.handle
    ∃ cleared, assembly.step? config (.remove index .clear) = some (.cleared shown, cleared) ∧
      cleared.group? index = some {} ∧
      cleared.hub = (group.clear (Hub.bus config fun _ _ => none) assembly.hub).2 := by
  -- What the clear counts is what it finds stored, and that is what a snapshot shows.
  intro shown
  obtain ⟨cleared, happened, hub_eq, groups_eq⟩ := step?_removal config present .clear
  have counted := coherent.endAll_shown present
  let ended := SubscriptionGroup.endAll (Hub.bus config fun _ _ => none) group.handles assembly.hub
  have happened : assembly.step? config (.remove index .clear) =
      some (.cleared ended.1, cleared) := happened
  rw [show ended.1 = shown from counted] at happened
  refine ⟨cleared, happened, ?_, hub_eq⟩
  rw [group?, groups_eq, group?_set present, if_pos rfl]
  rfl

/-- A group that is dropped is gone, and has been cleared before if it had any members. -/
theorem step?_drop (config : BusConfig) (present : assembly.group? index = some group) :
    ∃ dropped, assembly.step? config (.remove index .drop) = some (.dropped, dropped) ∧
      dropped.group? index = none ∧
      dropped.hub =
        if group.members = [] then assembly.hub
        else (group.clear (Hub.bus config fun _ _ => none) assembly.hub).2 := by
  obtain ⟨dropped, happened, hub_eq, groups_eq⟩ := step?_removal config present .drop
  refine ⟨dropped, happened, ?_, ?_⟩
  · rw [group?, groups_eq, group?_set present, if_pos rfl]
    rfl
  · have same : dropped.hub = (group.drop (Hub.bus config fun _ _ => none) assembly.hub).2 := hub_eq
    rw [same, SubscriptionGroup.drop]
    -- Only a group with members is cleared, and only then is that noted in the log.
    split <;> rename_i empty
    · rw [if_neg (by simpa using empty)]
      rfl
    · rw [if_pos (by simpa using empty)]
      rfl

end Assembly

/--
A group is what has joined it and not left since, in order, and a clear counts what is shown.

Its members are those types and names that have been put on its roll and not been struck off since,
in the order of their signing, with the handles that they were answered then; no two of them are
known by the same type and name, and no two have the same handle. A handler that joins under the
type and the name of a member is answered with the handle of the member, and everything stays as it
is. A clear answers with the number of members that a snapshot would show just before it, which is
none on a closed bus. It leaves an empty group, and no snapshot has an id of its members again,
whatever is done. A drop leaves the bus as a clear does, but for the record of a clear where there
are no members.
-/
theorem group_keeps_roll {config : BusConfig} {past : List (Deed × Reply)} {assembly : Assembly}
    (annals : Assembly.Annals config past assembly) {index : Nat} {group : SubscriptionGroup}
    (present : assembly.group? index = some group) :
    (group.keys.Nodup ∧ group.handles.Nodup) ∧
    (∀ type name, group.contains type name = true ↔ Standing past index (type, name)) ∧
    (∃ roll : List (Nat × Member), group.handles = roll.map (·.2.handle) ∧
      roll.map Prod.snd = group.members ∧
      roll.Pairwise (fun earlier later => earlier.1 < later.1) ∧
      ∀ line ∈ roll, Signed past index line.1 line.2) ∧
    (∀ member ∈ group.members, ∀ (joining : Joining) (handler : Handler),
      handler.name = member.name → joining.allows handler assembly.hub = true →
        ∃ later, assembly.step? config (.join index joining member.handle.type handler) =
            some (.joined (.ok member.handle), later) ∧ later.groups = assembly.groups ∧
          later.hub = { assembly.hub with born := later.hub.born }) ∧
    ∃ shown cleared dropped,
      shown = (group.members.countP fun member => assembly.hub.shows member.handle) ∧
      (assembly.hub.registry.closed = true → shown = 0) ∧
      assembly.step? config (.remove index .clear) = some (.cleared shown, cleared) ∧
      cleared.group? index = some {} ∧
      (∀ deeds last type subscribers, cleared.run? config deeds = some last →
        last.hub.registry.snapshot last.hub.alive type = .ok subscribers →
          ∀ member ∈ group.members, ∀ subscriber ∈ subscribers,
            subscriber.id ≠ member.handle.id) ∧
      assembly.step? config (.remove index .drop) = some (.dropped, dropped) ∧
      dropped.group? index = none ∧
      dropped.hub = { cleared.hub with records := dropped.hub.records } ∧
      (group.members ≠ [] → dropped.hub = cleared.hub) := by
  -- The roll tells who the members are, and coherence what the bus has stored for them.
  have reachable := annals.reachable
  have coherent := reachable.coherent
  have enrolled := annals.enrolled present
  refine ⟨⟨enrolled.distinct, coherent.distinct index group present⟩, fun type name => ?_, ?_, ?_,
    ?_⟩
  · rw [SubscriptionGroup.contains_iff, enrolled.standing]
  · -- The roll is told member by member, with the place in the past where each has signed.
    obtain ⟨roll, members, ordered, signed⟩ := enrolled.signed
    refine ⟨roll, ?_, members, ordered, signed⟩
    rw [SubscriptionGroup.handles, ← members, List.map_map]
    rfl
  · -- A handler of the name and type of a member finds it, and the group asks for nothing else.
    intro member listed joining handler named allowed
    have found := named ▸ SubscriptionGroup.find?_member enrolled.distinct listed
    exact Assembly.step?_idle present allowed (SubscriptionGroup.idle_known _ found)
  · -- A clear and a drop end the same subscriptions, so the two go alike.
    obtain ⟨cleared, clears, emptied, cleared_eq⟩ := coherent.step?_clear present
    obtain ⟨dropped, drops, gone, dropped_eq⟩ := Assembly.step?_drop config present
    refine ⟨_, cleared, dropped, rfl, fun closed => ?_, clears, emptied, ?_, drops, gone, ?_, ?_⟩
    · -- A closed bus shows nothing.
      refine List.countP_eq_zero.mpr fun member _ => ?_
      simp [Hub.shows, Registry.snapshot, closed]
    · intro deeds last type subscribers ran taken member listed subscriber there
      have vanished := Assembly.registry_run (Registry.kept_vanished member.handle.id) ran
        (Assembly.vanished_of_clear reachable present clears listed)
      obtain ⟨_, rfl⟩ := Registry.of_snapshot taken
      obtain ⟨entry, living, rfl⟩ := List.mem_map.mp there
      exact vanished.gone type entry (List.mem_of_mem_filter living)
    · -- Of the hub, a clear and a drop differ in the record that the clear writes.
      obtain ⟨count, clear_eq⟩ := group.clear_eq config (fun _ _ => none) assembly.hub
      rw [dropped_eq, cleared_eq, clear_eq]
      split
      · rename_i nobody
        rw [SubscriptionGroup.handles, nobody]
        rfl
      · rfl
    · intro inhabited
      rw [dropped_eq, if_neg inhabited, cleared_eq]

/-- A client ends the subscription of one of the two members of a group. -/
def halvedGroup : List Deed :=
  [.found, .join 0 .closure ⟨"order"⟩ ⟨1, "audit"⟩, .join 0 .closure ⟨"invoice"⟩ ⟨2, "audit"⟩,
    .occur (.request (.unsubscribe ⟨0, 1, ⟨"order"⟩⟩))]

/-- A member whose subscription has been ended stays on the roll, and does not count in a clear. -/
theorem halvedGroup_counts :
    let order : EventType := ⟨"order"⟩
    ∃ past assembly, past.map Prod.fst = halvedGroup ∧ Assembly.Annals {} past assembly ∧
      Standing past 0 (order, "audit") ∧
      ∃ shown cleared, shown = 1 ∧
        assembly.step? {} (.remove 0 .clear) = some (.cleared shown, cleared) := by
  intro order
  let group : SubscriptionGroup :=
    ⟨[⟨"audit", ⟨0, 1, order⟩⟩, ⟨"audit", ⟨0, 2, ⟨"invoice"⟩⟩⟩]⟩
  -- Before the clear the group has two members, one of whom a snapshot would show.
  have seen : ((Assembly.new 0).run? {} halvedGroup).map (fun assembly =>
      (assembly.group? 0, group.members.countP fun member => assembly.hub.shows member.handle)) =
        some (some group, 1) := by decide +kernel
  obtain ⟨assembly, ran, seen⟩ := Option.map_eq_some_iff.mp seen
  obtain ⟨present, counted⟩ := Prod.mk.inj seen
  obtain ⟨past, done, annals⟩ := (Assembly.Annals.new 0).run? ran
  obtain ⟨_, contains, _, _, shown, cleared, _, same, _, clears, _⟩ :=
    group_keeps_roll annals present
  exact ⟨past, assembly, done, annals, (contains order "audit").mp (by decide), shown, cleared,
    same.trans counted, clears⟩

end EventBus
