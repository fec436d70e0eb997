import EventBus.Proofs.Group.Assembly
import EventBus.Proofs.Hub.Endings

/-! What a deed does to the registry, to the hub and to the groups of an assembly. -/

namespace EventBus

namespace SubscriptionGroup

/-- How a group answers a handler that joins it, and the registry after that. -/
inductive Joined (group : SubscriptionGroup) (registry : Registry) (type : EventType)
    (handler : Handler) :
    SubscriptionGroup × Except BusError SubscriptionHandle → Registry → Prop
  /-- There is a member of this name, and the bus is not asked. -/
  | known {member : Member} (found : group.find? type handler.name = some member) :
    Joined group registry type handler (group, .ok member.handle) registry
  /-- The bus refuses the subscription. -/
  | refused {alive : Handler → Bool} {error : BusError}
    (absent : group.find? type handler.name = none)
    (answered : (registry.subscribe alive type handler true).answer = .error error) :
    Joined group registry type handler (group, .error error)
      (registry.subscribe alive type handler true).registry
  /-- The handler becomes the last member. -/
  | added {alive : Handler → Bool} {handle : SubscriptionHandle}
    (absent : group.find? type handler.name = none)
    (answered : (registry.subscribe alive type handler true).answer = .ok handle) :
    Joined group registry type handler
      (⟨group.members ++ [⟨handler.name, handle⟩]⟩, .ok handle)
      (registry.subscribe alive type handler true).registry

/-- What survives the subscription of a handler is kept when the handler joins a group. -/
theorem Joined.survives {group : SubscriptionGroup} {registry later : Registry} {type : EventType}
    {handler : Handler} {done : SubscriptionGroup × Except BusError SubscriptionHandle}
    (joined : group.Joined registry type handler done later) {property : Registry → Prop}
    (survives : Registry.Survives property (.subscribe type handler true))
    (held : property registry) : property later := by
  -- Only a handler that is not a member yet brings the registry into it.
  cases joined with
  | known found => exact held
  | refused absent answered => exact survives registry _ held
  | added absent answered => exact survives registry _ held

section Operations

variable (config : BusConfig) (outcome : Handler → Event → Option Cause) (group : SubscriptionGroup)
  (type : EventType) (handler : Handler) (hub : Hub)

/-- A group that has a member of the name answers with its handle, and that is all. -/
theorem subscribe_known {member : Member} (found : group.find? type handler.name = some member) :
    group.subscribe (Hub.bus config outcome) type handler hub =
      ((group, .ok member.handle), hub) := by
  -- The member is found, and the bus is not asked.
  simp only [subscribe, found]
  rfl

/-- A group without a member of the name has the bus retain the handler. -/
theorem subscribe_absent (absent : group.find? type handler.name = none) :
    group.subscribe (Hub.bus config outcome) type handler hub =
      let done := hub.registry.subscribe hub.alive type handler true
      (match done.answer with
        | .ok handle => (⟨group.members ++ [⟨handler.name, handle⟩]⟩, .ok handle)
        | .error error => (group, .error error),
        hub.after done) := by
  -- What the group becomes depends on what the registry answers.
  simp only [subscribe, absent, bind, StateT.bind, Hub.subscribeRetained_eq]
  cases (hub.registry.subscribe hub.alive type handler true).answer <;> rfl

/-- A handler joins a group through the registry, or finds a member of its name there. -/
theorem subscribe_joined :
    let done := group.subscribe (Hub.bus config outcome) type handler hub
    group.Joined hub.registry type handler done.1 done.2.registry := by
  -- Whether the bus is asked is known from the members, and the rest from its answer.
  cases found : group.find? type handler.name with
  | some member =>
    rw [subscribe_known config outcome group type handler hub found]
    exact .known found
  | none =>
    rw [subscribe_absent config outcome group type handler hub found]
    cases answered : (hub.registry.subscribe hub.alive type handler true).answer with
    | ok handle =>
      simp only [answered]
      exact .added found answered
    | error error =>
      simp only [answered]
      exact .refused found answered

/-- Ending subscriptions one by one leaves the hub with all of them ended. -/
theorem endAll_eq (handles : List SubscriptionHandle) :
    (endAll (Hub.bus config outcome) handles hub).2 = hub.endEach handles := by
  -- The induction is on the handles, with the hub that the first end leaves.
  induction handles generalizing hub with
  | nil => rfl
  | cons handle rest ih =>
    simp only [endAll, bind, StateT.bind, Hub.unsubscribe_eq]
    exact ih (hub.ended handle)

/-- A clear ends the subscriptions of all members, and adds one record to the log. -/
theorem clear_eq :
    ∃ count, group.clear (Hub.bus config outcome) hub =
      (({}, count),
        (hub.endEach group.handles).note (.groupCleared group.members.length count)) := by
  -- The members are taken out first, then their subscriptions end, and then the record is written.
  let ended := endAll (Hub.bus config outcome) group.handles hub
  refine ⟨ended.1, ?_⟩
  rw [← endAll_eq config outcome hub group.handles]
  rfl

/-- Dropping a group clears it, unless it has no members. -/
theorem drop_eq :
    ∃ records, group.drop (Hub.bus config outcome) hub =
      ((), { hub.endEach group.handles with records }) := by
  by_cases empty : group.members.isEmpty = true
  · -- There is nothing to end, and nothing is written to the log.
    have nobody : group.handles = [] := by
      rw [handles, List.isEmpty_iff.mp empty, List.map_nil]
    refine ⟨hub.records, ?_⟩
    rw [nobody]
    simp only [drop, empty]
    rfl
  · obtain ⟨count, cleared⟩ := group.clear_eq config outcome hub
    let last := (hub.endEach group.handles).note (.groupCleared group.members.length count)
    refine ⟨last.records, ?_⟩
    unfold drop
    rw [if_pos (by simpa using empty)]
    simp only [bind, StateT.bind, cleared]
    rfl

end Operations

end SubscriptionGroup

section Hubs

variable {config : BusConfig} {group : SubscriptionGroup} {type : EventType} {handler : Handler}
  {hub : Hub}

/-- What joining comes to does not depend on where the handler comes from. -/
theorem Joining.enact_joined (joining : Joining) :
    let done := joining.enact group type handler (Hub.bus config fun _ _ => none) hub
    group.Joined hub.registry type handler done.1 done.2.registry := by
  cases joining with
  | shared => exact group.subscribe_joined config _ type handler hub
  | closure =>
    -- Making and dropping the handler leaves the registry as it is.
    let made : Hub := { hub.take handler with born := handler :: hub.born }
    exact group.subscribe_joined config _ type handler made

/-- A hub that can come about remains one when a handler that somebody holds joins a group. -/
theorem SubscriptionGroup.subscribe_attainable (group : SubscriptionGroup)
    (attainable : hub.Attainable config) (held : 0 < hub.outside handler) :
    (group.subscribe (Hub.bus config fun _ _ => none) type handler hub).2.Attainable config := by
  -- A member is found, or what the group asks for is a request that a client could make.
  cases found : group.find? type handler.name with
  | some member =>
    rw [subscribe_known _ _ _ _ _ _ found]
    exact attainable
  | none =>
    rw [subscribe_absent _ _ _ _ _ _ found]
    have allowed : Hub.allows hub.outside hub.born (.subscribeRetained type handler) = true := by
      simpa [Hub.allows] using held
    have asked := attainable.request allowed
    simp only [Hub.serve, bind, StateT.bind, Hub.subscribeRetained_eq] at asked
    exact asked

/-- A hub that can come about remains one when a handler joins a group. -/
theorem Joining.enact_attainable {joining : Joining} (attainable : hub.Attainable config)
    (allowed : joining.allows handler hub = true) :
    (joining.enact group type handler (Hub.bus config fun _ _ => none) hub).2.Attainable
      config := by
  -- A handler that is made for the group comes first, and is given up afterwards.
  cases joining with
  | shared => exact group.subscribe_attainable attainable (by simpa [allows] using allowed)
  | closure =>
    let made : Hub := { hub.take handler with born := handler :: hub.born }
    have created : made.Attainable config :=
      @Hub.Attainable.request config hub attainable (.create handler) allowed
    have held : 0 < made.outside handler := by simp [made, Hub.take]
    exact (group.subscribe_attainable created held).giveUp handler

/-- A hub that can come about remains one when subscriptions end. -/
theorem Hub.endEach_attainable (attainable : hub.Attainable config)
    (handles : List SubscriptionHandle) : (hub.endEach handles).Attainable config := by
  -- Each end is a request that any client may make.
  induction handles generalizing hub with
  | nil => exact attainable
  | cons handle rest ih => exact ih (attainable.step (hub.step?_unsubscribe config handle))

/-- What is left of a group when members are taken out of it. -/
theorem Removal.enact_left (removal : Removal) :
    (removal.enact group (Hub.bus config fun _ _ => none) hub).1.2 = removal.left group := by
  -- Nobody is taken out where nobody of the name is found.
  cases removal with
  | member type name =>
    cases found : group.find? type name with
    | some member => simp only [enact, left, SubscriptionGroup.remove, found]; rfl
    | none =>
      have nobody : group.members.eraseP (·.standsFor type name) = group.members :=
        List.eraseP_of_forall_not (List.find?_eq_none.mp found)
      simp only [enact, left, SubscriptionGroup.remove, found, nobody]
      rfl
  | clear => rfl
  | drop => rfl

/-- Taking members out of a group ends their subscriptions, and at most adds to the log. -/
theorem Removal.enact_hub (removal : Removal) :
    ∃ records, (removal.enact group (Hub.bus config fun _ _ => none) hub).2 =
      { hub.endEach (removal.taken group) with records } := by
  -- What a removal asks the bus for is the ends of what it takes, and only the log may tell more.
  cases removal with
  | member type name =>
    cases found : group.find? type name with
    | some member =>
      refine ⟨(hub.ended member.handle).records, ?_⟩
      simp only [enact, taken, SubscriptionGroup.remove, found, bind, StateT.bind,
        Hub.unsubscribe_eq]
      rfl
    | none =>
      refine ⟨hub.records, ?_⟩
      simp only [enact, taken, SubscriptionGroup.remove, found]
      rfl
  | clear =>
    obtain ⟨count, cleared⟩ := group.clear_eq config (fun _ _ => none) hub
    let last := (hub.endEach group.handles).note (.groupCleared group.members.length count)
    refine ⟨last.records, ?_⟩
    simp only [enact, bind, StateT.bind, cleared]
    rfl
  | drop =>
    obtain ⟨records, dropped⟩ := group.drop_eq config (fun _ _ => none) hub
    refine ⟨records, ?_⟩
    simp only [enact, bind, StateT.bind, dropped]
    rfl

/-- Nobody is given a handle for taking members out of a group. -/
theorem Removal.enact_handles (removal : Removal) :
    (removal.enact group (Hub.bus config fun _ _ => none) hub).1.1.handles = [] := by
  -- None of the replies of a removal carries a handle.
  cases removal <;> rfl

end Hubs

/-- Only an unsubscription puts a handle to use. -/
theorem Incident.eq_unsubscribe {incident : Incident} {change : Change}
    {handle : SubscriptionHandle} (made : change ∈ incident.changes)
    (uses : change.handle? = some handle) : incident = .request (.unsubscribe handle) := by
  cases incident with
  | request request =>
    -- All other requests come with changes that put no handle to use.
    cases request with
    | subscribeMany types other =>
      obtain ⟨type, _, rfl⟩ := List.mem_map.mp made
      cases uses
    | _ => simp_all [Incident.changes, Request.changes, Change.handle?]
  | _ => exact absurd made List.not_mem_nil

namespace Assembly

/-- Everything that a deed can do to the hub and the groups, and how it is answered. -/
inductive Effect (config : BusConfig) (assembly : Assembly) :
    Deed → Reply → Hub → List (Option SubscriptionGroup) → Prop
  | occur {incident : Incident} {answer : Answer} {hub : Hub}
    (happened : assembly.hub.step? config incident = some (answer, hub)) :
    Effect config assembly (.occur incident) (.answered answer) hub assembly.groups
  | found :
    Effect config assembly .found .founded assembly.hub (assembly.groups ++ [some ⟨[]⟩])
  | join {index : Nat} {joining : Joining} {type : EventType} {handler : Handler}
    {group later : SubscriptionGroup} {answer : Except BusError SubscriptionHandle} {hub : Hub}
    (present : assembly.group? index = some group)
    (joined : group.Joined assembly.hub.registry type handler (later, answer) hub.registry)
    (attainable : assembly.hub.Attainable config → hub.Attainable config) :
    Effect config assembly (.join index joining type handler) (.joined answer) hub
      (assembly.groups.set index (some later))
  | remove {index : Nat} {removal : Removal} {group : SubscriptionGroup} {reply : Reply}
    {records : List LogRecord} (present : assembly.group? index = some group)
    (silent : reply.handles = []) :
    Effect config assembly (.remove index removal) reply
      { assembly.hub.endEach (removal.taken group) with records }
      (assembly.groups.set index (removal.left group))

section Steps

variable {config : BusConfig} {assembly : Assembly} {deed : Deed} {reply : Reply}

/-- A deed that is done has one of the effects that deeds can have. -/
theorem effect {hub : Hub} {groups : List (Option SubscriptionGroup)}
    (happened : assembly.effect? config deed = some (reply, hub, groups)) :
    Effect config assembly deed reply hub groups := by
  -- Each deed is opened up to the effect that has been stated for its kind.
  cases deed with
  | occur incident =>
    simp only [effect?, bind, pure, Option.bind_eq_some_iff, Option.some.injEq, Prod.mk.injEq,
      Prod.exists] at happened
    obtain ⟨answer, hub, stepped, rfl, rfl, rfl⟩ := happened
    exact .occur stepped
  | found =>
    simp only [effect?, Option.some.injEq, Prod.mk.injEq] at happened
    obtain ⟨rfl, rfl, rfl⟩ := happened
    exact .found
  | join index joining type handler =>
    obtain ⟨group, present, happened⟩ := Option.bind_eq_some_iff.mp happened
    by_cases allowed : joining.allows handler assembly.hub = true
    · let done := joining.enact group type handler (Hub.bus config fun _ _ => none) assembly.hub
      have result : some (Reply.joined done.1.2, done.2,
          assembly.groups.set index (some done.1.1)) = some (reply, hub, groups) :=
        (if_pos allowed).symm.trans happened
      simp only [Option.some.injEq, Prod.mk.injEq] at result
      obtain ⟨rfl, rfl, rfl⟩ := result
      exact .join present joining.enact_joined fun attainable =>
        joining.enact_attainable attainable allowed
    · cases (if_neg allowed).symm.trans happened
  | remove index removal =>
    obtain ⟨group, present, happened⟩ := Option.bind_eq_some_iff.mp happened
    let done := removal.enact group (Hub.bus config fun _ _ => none) assembly.hub
    have result : some (done.1.1, done.2, assembly.groups.set index done.1.2) =
        some (reply, hub, groups) := happened
    obtain ⟨records, ended⟩ := @Removal.enact_hub config group assembly.hub removal
    have left : done.1.2 = removal.left group := removal.enact_left
    simp only [Option.some.injEq, Prod.mk.injEq] at result
    obtain ⟨rfl, rfl, rfl⟩ := result
    -- What a removal leaves, and what it does to the hub, is known for all removals at once.
    rw [left, ended]
    exact .remove present removal.enact_handles

/-- A deed has its effect, and the assembly remembers who was given or put to use what. -/
theorem effect_of_step {later : Assembly}
    (happened : assembly.step? config deed = some (reply, later)) :
    Effect config assembly deed reply later.hub later.groups ∧
      later.asked = assembly.asked ++ reply.handles.map (deed.party, ·) ∧
      later.ended = assembly.ended ++ ((deed.uses assembly).filter fun handle =>
        (assembly.hub.registry.find? handle).isSome).map (deed.party, ·) := by
  -- The books are kept in the same step, whatever the effect.
  simp only [step?, bind, pure, Option.bind_eq_some_iff, Option.some.injEq, Prod.mk.injEq,
    Prod.exists] at happened
  obtain ⟨reply, hub, groups, done, rfl, rfl⟩ := happened
  exact ⟨effect done, rfl, rfl⟩

end Steps

namespace Effect

variable {config : BusConfig} {assembly : Assembly} {deed : Deed} {reply : Reply} {hub : Hub}
  {groups : List (Option SubscriptionGroup)}
  (effect : Effect config assembly deed reply hub groups)

include effect

/-- A deed keeps of the registry what survives the changes that come with it. -/
theorem registry_survives {property : Registry → Prop}
    (survives : ∀ change ∈ deed.changes assembly, Registry.Survives property change)
    (held : property assembly.hub.registry) : property hub.registry := by
  -- Each effect makes no other changes than those of its deed.
  cases effect with
  | occur happened => exact Hub.registry_survives survives happened held
  | found => exact held
  | join present joined attainable => exact joined.survives (survives _ List.mem_cons_self) held
  | @remove index removal group reply records present silent =>
    refine Hub.endEach_keeps (fun handle taken => survives _ ?_) held
    simp only [Deed.changes, present]
    exact List.mem_map_of_mem taken

/-- A deed leads from a hub that can come about to another one. -/
theorem attainable_of (before : assembly.hub.Attainable config) : hub.Attainable config := by
  -- Groups do nothing to a hub that clients could not do.
  cases effect with
  | occur happened => exact before.step happened
  | found => exact before
  | join present joined attainable => exact attainable before
  | @remove index removal group reply records present silent =>
    have ended := Hub.endEach_attainable before (removal.taken group)
    exact ended.noted _ records

/-- A handle whose subscription is found by a deed that puts it to use is spent after that. -/
theorem spent_of_used (wellFormed : assembly.hub.registry.WellFormed)
    {handle : SubscriptionHandle} (used : handle ∈ deed.uses assembly)
    (found : (assembly.hub.registry.find? handle).isSome = true) :
    Registry.Spent handle hub.registry := by
  -- What is found was issued, so nothing can be found again once it is gone.
  obtain ⟨entry, there⟩ := Option.isSome_iff_exists.mp found
  obtain ⟨own, given⟩ := wellFormed.issued_of_find? there
  obtain ⟨change, made, uses⟩ := List.mem_filterMap.mp used
  -- Only an unsubscription and a removal put handles to use, and both end what they use.
  cases effect with
  | @occur incident answer hub happened =>
    obtain rfl := Incident.eq_unsubscribe made uses
    rw [Hub.step?_unsubscribe] at happened
    cases happened
    exact Hub.spent_endEach wellFormed (List.mem_singleton_self handle) own given
  | found => simp [Deed.changes] at made
  | join present joined attainable =>
    obtain rfl := List.mem_singleton.mp made
    cases uses
  | @remove index removal group reply records present silent =>
    simp only [Deed.changes, present] at made
    obtain ⟨other, taken, rfl⟩ := List.mem_map.mp made
    obtain rfl : other = handle := Option.some.inj uses
    exact Hub.spent_endEach wellFormed taken own given

end Effect

end Assembly

end EventBus
