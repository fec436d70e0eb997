import EventBus.Proofs.Contract.Refusals
import EventBus.Proofs.Group.Recollection
import EventBus.Proofs.Group.Roll

/-!
What a group makes of a refusal of its bus. The bus is asked before a handler becomes a member, so
a handler that is refused leaves the group as it was. A member is taken out before the bus is asked,
so a removal that is refused loses the member all the same.
-/

namespace EventBus

section Joining

variable {config : BusConfig} {group : SubscriptionGroup} {type : EventType} {handler : Handler}
  {hub : Hub} {answer : Except BusError SubscriptionHandle}

/-- A handler that joins to no effect leaves everything as it is, wherever its registry is asked. -/
def SubscriptionGroup.Idle (config : BusConfig) (group : SubscriptionGroup) (type : EventType)
    (handler : Handler) (registry : Registry) (answer : Except BusError SubscriptionHandle) :
    Prop :=
  ∀ hub : Hub, hub.registry = registry →
    group.subscribe (Hub.bus config fun _ _ => none) type handler hub = ((group, answer), hub)

/-- A member is not asked for at the bus. -/
theorem SubscriptionGroup.idle_known {member : Member} (registry : Registry)
    (found : group.find? type handler.name = some member) :
    group.Idle config type handler registry (.ok member.handle) := by
  -- The group answers from memory, whatever hub it is at.
  intro hub _
  exact subscribe_known config _ group type handler hub found

/-- A bus that refuses a subscription would refuse it at any time. -/
theorem SubscriptionGroup.idle_refused {registry : Registry} {alive : Handler → Bool}
    {error : BusError} (absent : group.find? type handler.name = none)
    (refused : (registry.subscribe alive type handler true).answer = .error error)
    {namesake : Handler} (named : namesake.name = handler.name) :
    group.Idle config type namesake registry (.error error) := by
  -- Neither the handler nor the handlers that are alive count for a refusal.
  rintro hub rfl
  have nobody : group.find? type namesake.name = none := named ▸ absent
  rw [subscribe_absent config _ group type namesake hub nobody,
    (Registry.subscribe_rejected refused).1]
  exact congrArg (Prod.mk _) (hub.after_unchanged _)

/-- Where a handler joins to no effect, it has come into being at most. -/
theorem Joining.enact_idle (joining : Joining)
    (idle : group.Idle config type handler hub.registry answer) :
    let done := joining.enact group type handler (Hub.bus config fun _ _ => none) hub
    done.1 = (group, answer) ∧ done.2 = { hub with born := done.2.born } := by
  intro done
  -- A handler that is held finds the group idle; one that is made is taken back at once.
  cases joining with
  | shared =>
    have same : done = ((group, answer), hub) := idle hub rfl
    rw [same]
    exact ⟨rfl, rfl⟩
  | closure =>
    let made : Hub := { hub.take handler with born := handler :: hub.born }
    have same := idle made rfl
    let joined := group.subscribe (Hub.bus config fun _ _ => none) type handler made
    show joined.1 = (group, answer) ∧
      joined.2.giveUp handler = { hub with born := (joined.2.giveUp handler).born }
    have first : joined.1 = (group, answer) := congrArg Prod.fst same
    have last : joined.2 = made := congrArg Prod.snd same
    rw [last]
    refine ⟨first, ?_⟩
    -- The reference that the handler was made with is given up again.
    have outside : (made.giveUp handler).outside = hub.outside := by
      funext other
      simp only [made, Hub.giveUp, Hub.take]
      split <;> rfl
    show { hub with born := made.born, outside := (made.giveUp handler).outside } = _
    rw [outside]
    rfl

end Joining

namespace Assembly

variable {config : BusConfig} {assembly : Assembly} {index : Nat} {group : SubscriptionGroup}
  {type : EventType} {handler : Handler} {joining : Joining}

/-- A group that is put in its own place changes nothing. -/
theorem groups_set (present : assembly.group? index = some group) :
    assembly.groups.set index (some group) = assembly.groups := by
  -- What stands at the index is the group already.
  have there : assembly.groups[index]? = some (some group) := Option.join_eq_some_iff.mp present
  obtain ⟨inside, same⟩ := List.getElem?_eq_some_iff.mp there
  rw [← same]
  exact List.set_getElem_self inside

/-- A deed is done, and answered, as its effect says. -/
theorem step?_of_effect {deed : Deed} {reply : Reply} {hub : Hub}
    {groups : List (Option SubscriptionGroup)}
    (effect : assembly.effect? config deed = some (reply, hub, groups)) :
    ∃ later, assembly.step? config deed = some (reply, later) ∧ later.hub = hub ∧
      later.groups = groups := by
  -- The hub and the groups are set as the effect has them; only the books are kept besides.
  simp only [step?, effect, bind, Option.bind_some]
  exact ⟨_, rfl, rfl, rfl⟩

/-- Where a handler joins to no effect, all groups are the same, and the hub but for its birth. -/
theorem step?_idle {answer : Except BusError SubscriptionHandle}
    (present : assembly.group? index = some group)
    (allowed : joining.allows handler assembly.hub = true)
    (idle : group.Idle config type handler assembly.hub.registry answer) :
    ∃ later, assembly.step? config (.join index joining type handler) =
        some (.joined answer, later) ∧ later.groups = assembly.groups ∧
      later.hub = { assembly.hub with born := later.hub.born } := by
  -- The group is put back in its place as it was.
  let done := joining.enact group type handler (Hub.bus config fun _ _ => none) assembly.hub
  obtain ⟨answered, same⟩ := joining.enact_idle idle
  have answered : done.1 = (group, answer) := answered
  have effect : assembly.effect? config (.join index joining type handler) =
      some (.joined done.1.2, done.2, assembly.groups.set index (some done.1.1)) := by
    simp only [effect?, present, bind, Option.bind_some, allowed, if_true]
    rfl
  rw [answered, groups_set present] at effect
  obtain ⟨later, happened, hub_eq, groups_eq⟩ := step?_of_effect effect
  refine ⟨later, happened, groups_eq, ?_⟩
  rw [hub_eq]
  exact same

/-- A handler that joins a group is one that may be passed on or made. -/
theorem allowed_of_join {reply : Reply} {later : Assembly}
    (happened : assembly.step? config (.join index joining type handler) = some (reply, later)) :
    joining.allows handler assembly.hub = true := by
  -- Otherwise the deed could not have been done at all.
  apply Bool.of_not_eq_false
  intro refused
  simp only [step?, bind, pure, Option.bind_eq_some_iff, Prod.exists] at happened
  obtain ⟨_, _, _, effect, _⟩ := happened
  simp [effect?, refused] at effect

/-- Members are taken out as their removal says, and the hub is the one that it leaves. -/
theorem step?_removal (config : BusConfig) (present : assembly.group? index = some group)
    (removal : Removal) :
    let done := removal.enact group (Hub.bus config fun _ _ => none) assembly.hub
    ∃ later, assembly.step? config (.remove index removal) = some (done.1.1, later) ∧
      later.hub = done.2 ∧ later.groups = assembly.groups.set index (removal.left group) := by
  intro done
  -- What the removal enacts is what it leaves of the group, and the hub behind it.
  have left : done.1.2 = removal.left group := removal.enact_left
  have effect : assembly.effect? config (.remove index removal) =
      some (done.1.1, done.2, assembly.groups.set index done.1.2) := by
    simp only [effect?, present, bind, Option.bind_some]
    rfl
  rw [left] at effect
  exact step?_of_effect effect

/-- Where there is no member to be removed, the answer is no, and nothing is changed. -/
theorem step?_remove_absent (config : BusConfig) (present : assembly.group? index = some group)
    {name : String}
    (absent : group.find? type name = none) :
    ∃ later, assembly.step? config (.remove index (.member type name)) =
        some (.removed (.ok false), later) ∧ later.hub = assembly.hub ∧
      later.groups = assembly.groups := by
  -- Without such a member the bus is not asked.
  obtain ⟨later, happened, hub_eq, groups_eq⟩ := step?_removal config present (.member type name)
  have nobody : group.members.eraseP (·.standsFor type name) = group.members :=
    List.eraseP_of_forall_not (List.find?_eq_none.mp absent)
  have done : (Removal.member type name).enact group (Hub.bus config fun _ _ => none)
      assembly.hub = ((.removed (.ok false), some group), assembly.hub) := by
    simp only [Removal.enact, SubscriptionGroup.remove, absent]
    rfl
  rw [done] at happened hub_eq
  rw [Removal.left, nobody, groups_set present] at groups_eq
  exact ⟨later, happened, hub_eq, groups_eq⟩

/-- The bus answers the removal of a member, which the group has taken out by then. -/
theorem step?_remove_member (config : BusConfig) (present : assembly.group? index = some group)
    {name : String} {member : Member} (found : group.find? type name = some member) :
    let hub := assembly.hub
    ∃ later, assembly.step? config (.remove index (.member type name)) =
        some (.removed (hub.registry.unsubscribe hub.alive member.handle).answer, later) ∧
      later.hub = hub.ended member.handle ∧
      later.groups = assembly.groups.set index ((Removal.member type name).left group) := by
  intro hub
  -- The group takes the member out first and then passes on what the bus answers.
  obtain ⟨later, happened, hub_eq, groups_eq⟩ := step?_removal config present (.member type name)
  have done : (Removal.member type name).enact group (Hub.bus config fun _ _ => none) hub =
      ((.removed (hub.registry.unsubscribe hub.alive member.handle).answer,
        some ⟨group.members.eraseP (·.standsFor type name)⟩), hub.ended member.handle) := by
    simp only [Removal.enact, SubscriptionGroup.remove, found, bind, StateT.bind,
      Hub.unsubscribe_eq]
    rfl
  rw [done] at happened hub_eq
  exact ⟨later, happened, hub_eq, groups_eq⟩

end Assembly

/-- What a group is left with when one of its members is taken out. -/
theorem SubscriptionGroup.lose_member {group : SubscriptionGroup} (distinct : group.keys.Nodup)
    {type : EventType} {name : String} (known : group.contains type name = true) :
    let left : SubscriptionGroup := ⟨group.members.eraseP (·.standsFor type name)⟩
    (∀ other otherName, left.contains other otherName = true ↔
      group.contains other otherName = true ∧ (other, otherName) ≠ (type, name)) ∧
    left.handles.Sublist group.handles ∧ left.handles.length + 1 = group.handles.length := by
  intro left
  -- Taking out the one member of a key is the same as filtering the key out.
  have filtered := eraseP_eq_filter distinct type name
  refine ⟨fun other otherName => ?_, List.eraseP_sublist.map Member.handle, ?_⟩
  · simp only [contains_iff, keys, left, filtered, List.mem_map, List.mem_filter,
      decide_eq_true_eq]
    -- A member is left if it was there and is not known by the type and the name.
    constructor
    · rintro ⟨member, ⟨listed, differs⟩, same⟩
      exact ⟨⟨member, listed, same⟩, same ▸ differs⟩
    · rintro ⟨⟨member, listed, same⟩, differs⟩
      exact ⟨member, ⟨listed, same ▸ differs⟩, same⟩
  · -- One member is found, and that one is taken out.
    obtain ⟨member, found⟩ := Option.isSome_iff_exists.mp known
    obtain ⟨there, ofType, named⟩ := of_find? found
    have stands : member.standsFor type name = true := by simp [Member.standsFor, ofType, named]
    have shorter : (group.members.eraseP (·.standsFor type name)).length =
        group.members.length - 1 := List.length_eraseP_of_mem there stands
    have inhabited : 0 < group.members.length := List.length_pos_of_mem there
    simp only [handles, List.length_map, left]
    omega

/-- Only a closed registry refuses to end a subscription. -/
theorem Registry.unsubscribe_refused_iff {registry : Registry} {alive : Handler → Bool}
    {handle : SubscriptionHandle} {error : BusError} :
    (registry.unsubscribe alive handle).answer = .error error ↔
      error = .busClosed ∧ registry.closed = true := by
  constructor
  · -- An open registry answers with yes or no.
    intro refused
    obtain ⟨_, same, closed⟩ := Registry.unsubscribe_rejected refused
    exact ⟨same, closed⟩
  · rintro ⟨rfl, closed⟩
    rw [Registry.unsubscribe_closed closed]
    rfl

namespace Assembly

variable {config : BusConfig} {assembly : Assembly} {index : Nat} {group : SubscriptionGroup}
  {type : EventType}

/-- A handler that has been refused joins to no effect, and so does whoever has its name. -/
theorem idle_of_refused {joining : Joining} {handler : Handler} {error : BusError}
    {later : Assembly} (present : assembly.group? index = some group)
    (happened : assembly.step? config (.join index joining type handler) =
      some (.joined (.error error), later)) {namesake : Handler}
    (named : namesake.name = handler.name) :
    group.Idle config type namesake assembly.hub.registry (.error error) := by
  -- Of the ways in which a deed of joining can go, only a refusal is answered with an error.
  obtain ⟨next, answer, same, joined⟩ := joined_of_join present happened
  obtain rfl : Except.error error = answer := Reply.joined.inj same
  generalize later.hub.registry = registry at joined
  cases joined with
  | refused absent refused => exact SubscriptionGroup.idle_refused absent refused named

/-- A handler that is refused leaves all groups as they are, and is refused whenever it returns. -/
theorem join_refused {joining : Joining} {handler : Handler} {error : BusError}
    {later : Assembly} (present : assembly.group? index = some group)
    (happened : assembly.step? config (.join index joining type handler) =
      some (.joined (.error error), later)) :
    later.groups = assembly.groups ∧ later.hub = { assembly.hub with born := later.hub.born } ∧
      ∀ (again : Joining) (namesake : Handler), namesake.name = handler.name →
        again.allows namesake later.hub = true →
          ∃ last, later.step? config (.join index again type namesake) =
            some (.joined (.error error), last) := by
  -- What came of the deed is what comes of one without effect.
  obtain ⟨done, first, groups_eq, hub_eq⟩ :=
    step?_idle present (allowed_of_join happened) (idle_of_refused present happened rfl)
  obtain rfl : later = done := congrArg Prod.snd (Option.some.inj (happened.symm.trans first))
  refine ⟨groups_eq, hub_eq, fun again namesake named allowed => ?_⟩
  -- The registry is the same, and refuses what it has refused.
  have stays : later.group? index = some group := by
    rw [group?, groups_eq]
    exact present
  have registry_eq : later.hub.registry = assembly.hub.registry := by rw [hub_eq]
  obtain ⟨last, once_more, _⟩ :=
    step?_idle stays allowed (registry_eq ▸ idle_of_refused present happened named)
  exact ⟨last, once_more⟩

/-- A removal that is refused takes its member from the group, and nothing else from anybody. -/
theorem removal_refused {name : String} {member : Member} {later : Assembly} {error : BusError}
    (distinct : group.keys.Nodup) (present : assembly.group? index = some group)
    (found : group.find? type name = some member)
    (hub_eq : later.hub = assembly.hub.ended member.handle)
    (groups_eq : later.groups =
      assembly.groups.set index ((Removal.member type name).left group))
    (refused : (assembly.hub.registry.unsubscribe assembly.hub.alive member.handle).answer =
      .error error) :
    later.hub = assembly.hub ∧
      (∀ other, other ≠ index → later.group? other = assembly.group? other) ∧
      ∃ left, later.group? index = some left ∧
        (∀ other otherName, left.contains other otherName = true ↔
          group.contains other otherName = true ∧ (other, otherName) ≠ (type, name)) ∧
        left.handles.Sublist group.handles ∧ left.handles.length + 1 = group.handles.length ∧
        ∃ last, later.step? config (.remove index (.member type name)) =
            some (.removed (.ok false), last) ∧
          last.hub = later.hub ∧ last.groups = later.groups := by
  have known : group.contains type name = true := by
    rw [SubscriptionGroup.contains, found]
    rfl
  -- The bus has changed nothing, but by then the member had been taken out.
  have same : later.hub = assembly.hub := by
    rw [hub_eq, Hub.ended, (Registry.unsubscribe_rejected refused).1]
    exact Hub.after_unchanged _ _
  have groups (other : Nat) : later.group? other =
      if other = index then (Removal.member type name).left group
      else assembly.group? other := by
    rw [group?, groups_eq, group?_set present]
  have left := (groups index).trans (if_pos rfl)
  obtain ⟨lost, kept, shorter⟩ := SubscriptionGroup.lose_member distinct known
  refine ⟨same, fun other differs => (groups other).trans (if_neg differs), _, left, lost, kept,
    shorter, ?_⟩
  -- Nobody is left to be removed under the name.
  have nobody := Option.not_isSome_iff_eq_none.mp fun again => ((lost type name).mp again).2 rfl
  exact step?_remove_absent config left nobody

end Assembly

/--
A group that is refused by its bus keeps a handler out, and loses a member that was to be removed.

A handler is refused before anything is done: all groups are as they were, the bus knows at most
that the handler has come into being, and whoever comes again under the name is refused with the
same error. A removal is refused exactly if there is such a member and the bus is closed. The bus
is as it was then, and the group has lost this member and no other, so that the next removal is
answered with no, and changes nothing.
-/
theorem refused_removal_loses_member {config : BusConfig} {assembly : Assembly}
    (reachable : assembly.Reachable config) {index : Nat} {group : SubscriptionGroup}
    (present : assembly.group? index = some group) :
    (∀ joining type handler error later,
      assembly.step? config (.join index joining type handler) =
        some (.joined (.error error), later) →
      later.groups = assembly.groups ∧
        later.hub = { assembly.hub with born := later.hub.born } ∧
        ∀ (again : Joining) (namesake : Handler), namesake.name = handler.name →
          again.allows namesake later.hub = true →
            ∃ last, later.step? config (.join index again type namesake) =
              some (.joined (.error error), last)) ∧
    ∀ type name, ∃ answer later,
      assembly.step? config (.remove index (.member type name)) = some (.removed answer, later) ∧
      (∀ error, answer = .error error ↔ error = .busClosed ∧
        assembly.hub.registry.closed = true ∧ group.contains type name = true) ∧
      ∀ error, answer = .error error →
        later.hub = assembly.hub ∧
        (∀ other, other ≠ index → later.group? other = assembly.group? other) ∧
        ∃ left, later.group? index = some left ∧
          (∀ other otherName, left.contains other otherName = true ↔
            group.contains other otherName = true ∧ (other, otherName) ≠ (type, name)) ∧
          left.handles.Sublist group.handles ∧
          left.handles.length + 1 = group.handles.length ∧
          ∃ last, later.step? config (.remove index (.member type name)) =
              some (.removed (.ok false), last) ∧
            last.hub = later.hub ∧ last.groups = later.groups := by
  -- That no other member is lost comes of the roll, on which nobody stands twice.
  obtain ⟨past, annals⟩ := reachable.annals
  have distinct := (annals.enrolled present).distinct
  refine ⟨fun _ _ _ _ _ happened => Assembly.join_refused present happened, ?_⟩
  intro type name
  cases found : group.find? type name with
  | none =>
    -- Without such a member the answer is no, which is not an error.
    obtain ⟨later, happened, _⟩ := Assembly.step?_remove_absent config present found
    have unknown : group.contains type name = false := by
      rw [SubscriptionGroup.contains, found]
      rfl
    exact ⟨.ok false, later, happened, by simp [unknown], by simp⟩
  | some member =>
    have known : group.contains type name = true := by
      rw [SubscriptionGroup.contains, found]
      rfl
    obtain ⟨later, happened, hub_eq, groups_eq⟩ :=
      Assembly.step?_remove_member config present found
    refine ⟨_, later, happened, fun error => ?_, fun error refused =>
      Assembly.removal_refused distinct present found hub_eq groups_eq refused⟩
    rw [Registry.unsubscribe_refused_iff, and_iff_left known]

/-- On a closed bus, a handler is kept out, and a member is lost to a removal that is refused. -/
theorem closedGroup_refused :
    ∃ assembly : Assembly, (Assembly.new 0).run? {} (endedMember .close) = some assembly ∧
      (∃ later, assembly.step? {} (.join 0 .closure ⟨"invoice"⟩ ⟨2, "audit"⟩) =
          some (.joined (.error .busClosed), later) ∧ later.groups = assembly.groups) ∧
      ∃ later left last, assembly.step? {} (.remove 0 (.member ⟨"order"⟩ "audit")) =
          some (.removed (.error .busClosed), later) ∧
        later.group? 0 = some left ∧ left.handles.length + 1 = 1 ∧
        later.step? {} (.remove 0 (.member ⟨"order"⟩ "audit")) =
          some (.removed (.ok false), last) := by
  let order : EventType := ⟨"order"⟩
  let group : SubscriptionGroup := ⟨[⟨"audit", ⟨0, 1, order⟩⟩]⟩
  have seen : ((Assembly.new 0).run? {} (endedMember .close)).map
      (fun assembly => (assembly.group? 0, assembly.hub.born, assembly.hub.registry.closed)) =
        some (some group, [⟨1, "audit"⟩], true) := by decide +kernel
  obtain ⟨assembly, ran, seen⟩ := Option.map_eq_some_iff.mp seen
  simp only [Prod.mk.injEq] at seen
  obtain ⟨present, born, closed⟩ := seen
  -- The name is a member's for orders, and nobody's for invoices.
  have reachable := (Assembly.Reachable.new 0).run? ran
  obtain ⟨kept, removed⟩ := refused_removal_loses_member reachable present
  refine ⟨assembly, ran, ?_, ?_⟩
  · -- Nobody is known by the name for invoices, so the closed bus is asked, and refuses.
    have allowed : Joining.closure.allows ⟨2, "audit"⟩ assembly.hub = true := by
      rw [Joining.allows, born]
      decide
    have absent : group.find? ⟨"invoice"⟩ "audit" = none := by decide
    have refused := congrArg Section.answer (@Registry.subscribe_closed assembly.hub.registry
      assembly.hub.alive ⟨"invoice"⟩ ⟨2, "audit"⟩ true (by decide) closed)
    have idle : group.Idle {} ⟨"invoice"⟩ ⟨2, "audit"⟩ assembly.hub.registry (.error .busClosed) :=
      SubscriptionGroup.idle_refused absent refused rfl
    obtain ⟨later, happened, _⟩ := Assembly.step?_idle present allowed idle
    exact ⟨later, happened, (kept _ _ _ _ _ happened).1⟩
  · -- For orders there is a member, and the removal takes it out before the bus refuses.
    obtain ⟨answer, later, happened, refused, lost⟩ := removed order "audit"
    obtain rfl := (refused .busClosed).mpr ⟨rfl, closed, by decide⟩
    obtain ⟨_, _, left, there, _, _, shorter, last, again, _⟩ := lost _ rfl
    exact ⟨later, left, last, happened, there, shorter, again⟩

/-- A removal that is refused changes what a group contains, and is not refused once more. -/
theorem closedGroup_forgets :
    let order : EventType := ⟨"order"⟩
    let handle : SubscriptionHandle := ⟨0, 1, order⟩
    let removal : Deed := .remove 0 (.member order "audit")
    ∃ assembly : Assembly, (Assembly.new 0).run? {} (endedMember .close) = some assembly ∧
      ∃ group later left last, assembly.group? 0 = some group ∧
        assembly.step? {} removal = some (.removed (.error .busClosed), later) ∧
        later.group? 0 = some left ∧
        group.contains order "audit" = true ∧ left.contains order "audit" = false ∧
        group.handles = [handle] ∧ left.handles = [] ∧
        later.step? {} removal = some (.removed (.ok false), last) := by
  intro order handle removal
  let member : Member := ⟨"audit", handle⟩
  have seen : ((Assembly.new 0).run? {} (endedMember .close)).map
      (fun assembly => (assembly.group? 0, assembly.hub.registry.closed)) =
        some (some ⟨[member]⟩, true) := by decide +kernel
  obtain ⟨assembly, ran, seen⟩ := Option.map_eq_some_iff.mp seen
  obtain ⟨present, closed⟩ := Prod.mk.inj seen
  let group : SubscriptionGroup := ⟨[member]⟩
  -- The member is found once, and the next removal finds nobody.
  have found : group.find? order "audit" = some member := by decide
  obtain ⟨later, happened, _, groups_eq⟩ := Assembly.step?_remove_member {} present found
  rw [Registry.unsubscribe_closed closed] at happened
  have left : later.group? 0 = some {} := by
    rw [Assembly.group?, groups_eq, Assembly.group?_set present, if_pos rfl]
    decide
  have nobody : ({} : SubscriptionGroup).find? order "audit" = none := by decide
  obtain ⟨last, again, _⟩ := Assembly.step?_remove_absent {} left nobody
  exact ⟨assembly, ran, group, later, {}, last, present, happened, left, by decide, by decide, rfl,
    rfl, again⟩

end EventBus
