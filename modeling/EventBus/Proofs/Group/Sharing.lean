import EventBus.Proofs.Group.Membership

/-! What a group takes along when it lets go of its members, and what it leaves to others. -/

namespace EventBus

namespace Assembly

/-- The living entries of a type, in the order in which they are called for an event of it. -/
def live (assembly : Assembly) (type : EventType) : List Entry :=
  assembly.hub.registry.live assembly.hub.alive type

variable {config : BusConfig} {assembly : Assembly} {index : Nat} {group : SubscriptionGroup}

/-- Members can be taken out of a group at any time. -/
theorem step?_remove (config : BusConfig) (present : assembly.group? index = some group)
    (removal : Removal) :
    ∃ reply later, assembly.step? config (.remove index removal) = some (reply, later) := by
  -- A removal needs nothing but that the group is there.
  simp only [step?, effect?, present, bind, Option.bind_some]
  exact ⟨_, _, rfl⟩

/-- The hub and the groups after members have been taken out of one of them. -/
theorem effect_of_remove {later : Assembly} {removal : Removal} {reply : Reply}
    (present : assembly.group? index = some group)
    (happened : assembly.step? config (.remove index removal) = some (reply, later)) :
    (∃ records, later.hub = { assembly.hub.endEach (removal.taken group) with records }) ∧
      later.groups = assembly.groups.set index (removal.left group) := by
  -- The group that is taken from is the one at the index.
  have effect := (effect_of_step happened).1
  generalize later.hub = hub at effect ⊢
  generalize later.groups = groups at effect ⊢
  cases effect with
  | @remove _ _ other reply records there silent =>
    obtain rfl : group = other := Option.some.inj (present.symm.trans there)
    exact ⟨⟨records, rfl⟩, rfl⟩

end Assembly

/--
A group takes along the subscriptions of the members that it lets go of, and no others.

It was given all of them. What is left are the living entries that have none of their handles, and
of those the weak ones whose handlers are still owned; a handler dies only if a member held the last
reference to it. The other groups keep their members, and each member of a group stays retained
unless the bus is closed or a client or another group has ended the same subscription.
-/
theorem removal_takes_members {config : BusConfig} {assembly : Assembly}
    (reachable : assembly.Reachable config) :
    (∀ index group, assembly.group? index = some group → ∀ removal : Removal,
      ∃ reply later, assembly.step? config (.remove index removal) = some (reply, later) ∧
        (∀ handle ∈ removal.taken group, (.group index, handle) ∈ assembly.asked) ∧
        (∀ type, later.live type = (assembly.live type).filter fun entry =>
          assembly.hub.registry.handle entry.id type ∉ removal.taken group &&
            (entry.retained || later.hub.alive entry.handler)) ∧
        (∀ handler, assembly.hub.alive handler = true →
          later.hub.alive handler = true ∨
            ∃ handle ∈ removal.taken group, ∃ entry,
              assembly.hub.registry.find? handle = some entry ∧ entry.retained = true ∧
                entry.handler = handler) ∧
        later.group? index = removal.left group ∧
        ∀ other, other ≠ index → later.group? other = assembly.group? other) ∧
    ∀ index group, assembly.group? index = some group → ∀ member ∈ group.members,
      assembly.hub.registry.closed = true ∨
        (∃ party, party ≠ .group index ∧ (party, member.handle) ∈ assembly.ended) ∨
        ∃ entry ∈ assembly.live member.handle.type,
          assembly.hub.registry.handle entry.id member.handle.type = member.handle ∧
            entry.handler.name = member.name ∧ entry.retained = true ∧
            assembly.hub.alive entry.handler = true := by
  -- What is taken is read off the ends of the subscriptions, what stays off coherence.
  have coherent := reachable.coherent
  have wellFormed := coherent.wellFormed
  refine ⟨fun index group present removal => ?_, fun index group present member listed => ?_⟩
  · obtain ⟨reply, later, happened⟩ := Assembly.step?_remove config present removal
    obtain ⟨⟨records, hub_eq⟩, groups_eq⟩ := Assembly.effect_of_remove present happened
    refine ⟨reply, later, happened, ?_, ?_, ?_, ?_, ?_⟩
    · -- What is taken was a member's, and groups are given the handles of their members.
      intro handle taken
      obtain ⟨member, listed, rfl⟩ := SubscriptionGroup.mem_of_taken taken
      exact coherent.given index group present member listed
    · intro type
      have left := Hub.live_endEach wellFormed (removal.taken group) type
      simp only [Assembly.live, hub_eq]
      exact left
    · -- Only ended subscriptions can have let go of a handler.
      intro handler living
      rw [hub_eq]
      exact Hub.alive_endEach wellFormed _ living
    · rw [Assembly.group?, groups_eq, Assembly.group?_set present, if_pos rfl]
    · intro other differs
      rw [Assembly.group?, groups_eq, Assembly.group?_set present, if_neg differs]
  · -- A member is subscribed unless the bus is closed or somebody else has ended it.
    rcases coherent.subscribed index group present member listed with
      closed | ended | ⟨entry, found, retained, named⟩
    · exact Or.inl closed
    · exact Or.inr (Or.inl ended)
    · obtain ⟨stored, same⟩ := wellFormed.find?_eq_some.mp found
      have living : entry ∈ assembly.live member.handle.type :=
        List.mem_filter.mpr ⟨stored, Entry.isAlive_of_retained retained _⟩
      have owned : assembly.hub.alive entry.handler = true :=
        Hub.alive_iff_owned.mpr (Or.inr (Or.inr
          ⟨⟨_, entry⟩, wellFormed.mem_entries.mp stored, retained, rfl⟩))
      exact Or.inr (Or.inr ⟨entry, living, same, named, retained, owned⟩)

/-- A client subscribes a handler to a type and passes it to two groups, for one type each. -/
def twoGroups (first second : EventType) : List Deed :=
  let audit : Handler := ⟨1, "audit"⟩
  [.occur (.request (.create audit)), .occur (.request (.subscribe first audit)), .found, .found,
    .join 0 .shared first audit, .join 1 .shared second audit]

/-- The second group takes along its own subscription and leaves that of the first in place. -/
theorem twoGroups_apart :
    let order : EventType := ⟨"order"⟩
    let invoice : EventType := ⟨"invoice"⟩
    ∃ assembly : Assembly, assembly.Reachable {} ∧ (assembly.live order).length = 1 ∧
      (assembly.live invoice).length = 1 ∧
      ∃ reply later, assembly.step? {} (.remove 1 .drop) = some (reply, later) ∧
        later.live order = assembly.live order ∧ later.live invoice = [] := by
  intro order invoice
  let lost : SubscriptionHandle := ⟨0, 2, invoice⟩
  -- Before the drop either type has one living entry, and one of the two is the second group's.
  have seen : ((Assembly.new 0).run? {} (twoGroups order invoice)).map (fun assembly =>
      (assembly.group? 1, assembly.hub.registry.id, assembly.live order, assembly.live invoice)) =
        some (some ⟨[⟨"audit", lost⟩]⟩, 0, [⟨1, ⟨1, "audit"⟩, true⟩],
          [⟨2, ⟨1, "audit"⟩, true⟩]) := by decide +kernel
  obtain ⟨assembly, ran, seen⟩ := Option.map_eq_some_iff.mp seen
  simp only [Prod.mk.injEq] at seen
  obtain ⟨present, own, ordered, invoiced⟩ := seen
  have reachable := (Assembly.Reachable.new 0).run? ran
  obtain ⟨reply, later, happened, _, left, _⟩ :=
    (removal_takes_members reachable).1 1 _ present .drop
  refine ⟨assembly, reachable, by rw [ordered]; rfl, by rw [invoiced]; rfl, reply, later, happened,
    ?_, ?_⟩
  · rw [left order, ordered]
    simp [Registry.handle, own, Removal.taken, SubscriptionGroup.handles, lost]
  · rw [left invoice, invoiced]
    simp [Registry.handle, own, Removal.taken, SubscriptionGroup.handles, lost]

/-- A group that is dropped takes along what a client and another group were given, too. -/
theorem twoGroups_share :
    let order : EventType := ⟨"order"⟩
    let audit : Handler := ⟨1, "audit"⟩
    let handle : SubscriptionHandle := ⟨0, 1, order⟩
    ∃ assembly, (Assembly.new 0).run? {} (twoGroups order order) = some assembly ∧
      ∃ reply later, assembly.step? {} (.remove 1 .drop) = some (reply, later) ∧
        (.clients, handle) ∈ assembly.asked ∧ (.group 0, handle) ∈ assembly.asked ∧
        assembly.ended = [] ∧ assembly.live order = [⟨1, audit, true⟩] ∧
        later.hub.registry.closed = false ∧ later.hub.alive audit = true ∧
        later.group? 0 = some ⟨[⟨"audit", handle⟩]⟩ ∧ later.live order = [] := by
  intro order audit handle
  -- The two groups and the client have one and the same subscription.
  have seen : ((Assembly.new 0).run? {} (twoGroups order order)).bind (fun assembly =>
      (assembly.step? {} (.remove 1 .drop)).map fun (_, later) => decide (
        (.clients, handle) ∈ assembly.asked ∧ (.group 0, handle) ∈ assembly.asked ∧
        assembly.ended = [] ∧ assembly.live order = [⟨1, audit, true⟩] ∧
        later.hub.registry.closed = false ∧ later.hub.alive audit = true ∧
        later.group? 0 = some ⟨[⟨"audit", handle⟩]⟩ ∧ later.live order = [])) =
      some true := by decide +kernel
  obtain ⟨assembly, ran, seen⟩ := Option.bind_eq_some_iff.mp seen
  obtain ⟨⟨reply, later⟩, happened, facts⟩ := Option.map_eq_some_iff.mp seen
  exact ⟨assembly, ran, reply, later, happened, of_decide_eq_true facts⟩

end EventBus
