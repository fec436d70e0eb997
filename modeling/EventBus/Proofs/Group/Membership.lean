import EventBus.Proofs.Dispatch.Ledger
import EventBus.Proofs.Group.Deeds

/-! What is known of the members of every group, whatever is done in an assembly. -/

namespace EventBus

namespace SubscriptionGroup

/-- The member that is found for a type and a name stands for them. -/
theorem of_find? {group : SubscriptionGroup} {type : EventType} {name : String} {member : Member}
    (found : group.find? type name = some member) :
    member ∈ group.members ∧ member.handle.type = type ∧ member.name = name := by
  -- The search compares the type of the handle and the name.
  have listed : group.members.find? (·.standsFor type name) = some member := found
  have stands := List.find?_some listed
  simp only [Member.standsFor, Bool.and_eq_true, beq_iff_eq] at stands
  exact ⟨List.mem_of_find?_eq_some listed, stands⟩

/-- What is taken out of a group is the handle of a member. -/
theorem mem_of_taken {group : SubscriptionGroup} {removal : Removal}
    {handle : SubscriptionHandle} (taken : handle ∈ removal.taken group) :
    ∃ member ∈ group.members, member.handle = handle := by
  -- A single member is taken if it is found, and otherwise all of them are.
  cases removal with
  | member type name =>
    obtain ⟨member, found, same⟩ := List.mem_map.mp taken
    exact ⟨member, (of_find? (Option.mem_toList.mp found)).1, same⟩
  | clear => exact List.mem_map.mp taken
  | drop => exact List.mem_map.mp taken

/-- A member that is left when another is taken out has another handle. -/
theorem handle_ne_of_left {group : SubscriptionGroup} (distinct : group.handles.Nodup)
    {type : EventType} {name : String} {member : Member}
    (left : member ∈ group.members.eraseP (·.standsFor type name)) :
    member.handle ∉ (Removal.member type name).taken group := by
  intro taken
  obtain ⟨other, listed, same⟩ := List.mem_map.mp taken
  have found : group.members.find? (·.standsFor type name) = some other :=
    Option.mem_toList.mp listed
  -- The member that is taken out is moved to the front, and no handle occurs twice.
  have moved := ((Flight.perm_eraseP_of_find? found).map Member.handle).nodup_iff.mp distinct
  have absent := (List.nodup_cons.mp moved).1
  exact absent (same ▸ List.mem_map_of_mem left)

end SubscriptionGroup

namespace Assembly

/-- How a group that there is after a deed has come about. -/
inductive Became (assembly : Assembly) (deed : Deed) (reply : Reply) (registry : Registry)
    (index : Nat) : SubscriptionGroup → Prop
  /-- It has the members that it had, and if the deed was its own, it ended nothing. -/
  | same {group : SubscriptionGroup} (present : assembly.group? index = some group)
    (idle : deed.party = .group index → deed.uses assembly = []) :
    Became assembly deed reply registry index group
  | empty : Became assembly deed reply registry index ⟨[]⟩
  | grown {earlier : SubscriptionGroup} {type : EventType} {handler : Handler}
    {alive : Handler → Bool} {handle : SubscriptionHandle}
    (present : assembly.group? index = some earlier) (own : deed.party = .group index)
    (idle : deed.uses assembly = []) (given : reply.handles = [handle])
    (absent : earlier.find? type handler.name = none)
    (answered :
      (assembly.hub.registry.subscribe alive type handler true).answer = .ok handle)
    (later : registry = (assembly.hub.registry.subscribe alive type handler true).registry) :
    Became assembly deed reply registry index
      ⟨earlier.members ++ [⟨handler.name, handle⟩]⟩
  | shrunk {earlier : SubscriptionGroup} {type : EventType} {name : String}
    (present : assembly.group? index = some earlier)
    (used : deed.uses assembly = (Removal.member type name).taken earlier) :
    Became assembly deed reply registry index
      ⟨earlier.members.eraseP (·.standsFor type name)⟩

variable {config : BusConfig} {assembly : Assembly} {deed : Deed} {reply : Reply}

/-- The group at an index after another one has been put in its place. -/
theorem group?_set {index : Nat} {earlier : SubscriptionGroup}
    (present : assembly.group? index = some earlier) (group : Option SubscriptionGroup)
    (other : Nat) :
    (assembly.groups.set index group)[other]?.join =
      if other = index then group else assembly.group? other := by
  -- A group is there, so its index is inside of the list.
  have bounded : index < assembly.groups.length := by
    by_contra above
    have nothing : assembly.groups[index]? = none :=
      List.getElem?_eq_none (Nat.le_of_not_lt above)
    simp [group?, nothing] at present
  by_cases hit : other = index
  · subst hit
    simp [bounded]
  · simp [Ne.symm hit, hit, group?]

/-- Putting handles to use is what the removal of members does to the registry. -/
theorem uses_remove {index : Nat} {group : SubscriptionGroup}
    (present : assembly.group? index = some group) (removal : Removal) :
    (Deed.remove index removal).uses assembly = removal.taken group := by
  -- Each change of a removal is an unsubscription, and puts its handle to use.
  simp only [Deed.uses, Deed.changes, present, List.filterMap_map]
  exact List.filterMap_some

/-- Every group that there is after a deed has come about in one of four ways. -/
theorem Effect.became {hub : Hub} {groups : List (Option SubscriptionGroup)}
    (effect : Effect config assembly deed reply hub groups) {index : Nat}
    {group : SubscriptionGroup} (present : groups[index]?.join = some group) :
    Became assembly deed reply hub.registry index group := by
  cases effect with
  | occur happened => exact .same present (fun own => nomatch own)
  | found =>
    -- The new group is the last one, and has no members.
    by_cases old : index < assembly.groups.length
    · rw [List.getElem?_append_left old] at present
      exact .same present (fun own => nomatch own)
    · rw [List.getElem?_append_right (Nat.le_of_not_lt old)] at present
      cases place : index - assembly.groups.length with
      | zero =>
        rw [place] at present
        cases present
        exact .empty
      | succ beyond => simp [place] at present
  -- A join changes the one group by its new member, if the bus accepts it.
  | @join target joining type handler earlier later answer hub there joined attainable =>
    rw [group?_set there] at present
    split at present
    · rename_i hit
      subst hit
      obtain rfl : later = group := Option.some.inj present
      generalize hub.registry = registry at joined
      cases joined with
      | known found => exact .same there fun _ => rfl
      | refused absent answered => exact .same there fun _ => rfl
      | added absent answered => exact .grown there rfl rfl rfl absent answered rfl
    · rename_i other
      exact .same present fun own => absurd (Party.group.inj own).symm other
  -- A removal leaves the group without a member, empty or gone.
  | @remove target removal earlier reply records there silent =>
    rw [group?_set there] at present
    split at present
    · rename_i hit
      subst hit
      have used := uses_remove there removal
      cases removal with
      | member type name =>
        cases present
        exact .shrunk there used
      | clear =>
        cases present
        exact .empty
      | drop => cases present
    · rename_i other
      exact .same present fun own => absurd (Party.group.inj own).symm other

/-- A member is subscribed, unless the bus is closed or another party has ended its subscription. -/
def Subscribed (assembly : Assembly) (index : Nat) (member : Member) : Prop :=
  assembly.hub.registry.closed = true ∨
    (∃ party, party ≠ .group index ∧ (party, member.handle) ∈ assembly.ended) ∨
    ∃ entry, assembly.hub.registry.find? member.handle = some entry ∧
      entry.retained = true ∧ entry.handler.name = member.name

/-- What holds of an assembly at all times. -/
structure Coherent (config : BusConfig) (assembly : Assembly) : Prop where
  attainable : assembly.hub.Attainable config
  /-- No two members of a group have the same handle. -/
  distinct : ∀ index group, assembly.group? index = some group → group.handles.Nodup
  /-- A group was given the handles of its members. -/
  given : ∀ index group, assembly.group? index = some group → ∀ member ∈ group.members,
    (.group index, member.handle) ∈ assembly.asked
  /-- A subscription that has ended never comes back. -/
  spent : ∀ party handle, (party, handle) ∈ assembly.ended →
    Registry.Spent handle assembly.hub.registry
  subscribed : ∀ index group, assembly.group? index = some group → ∀ member ∈ group.members,
    assembly.Subscribed index member

/-- In the beginning there are no groups. -/
theorem coherent_new (config : BusConfig) (id : Nat) :
    (Assembly.new id).Coherent config where
  -- Nobody has been given anything, and nothing has ended.
  attainable := .new id
  distinct := by simp [group?, Assembly.new]
  given := by simp [group?, Assembly.new]
  spent := by simp [Assembly.new]
  subscribed := by simp [group?, Assembly.new]

namespace Coherent

variable (coherent : assembly.Coherent config)

include coherent

/-- The registry is well-formed. -/
theorem wellFormed : assembly.hub.registry.WellFormed := coherent.attainable.intact.1

/-- A handle that a group is newly given is the handle of none of its members. -/
theorem fresh_handle {index : Nat} {group : SubscriptionGroup} {type : EventType}
    {handler : Handler} {alive : Handler → Bool} {handle : SubscriptionHandle}
    (present : assembly.group? index = some group)
    (absent : group.find? type handler.name = none)
    (answered : (assembly.hub.registry.subscribe alive type handler true).answer = .ok handle) :
    handle ∉ group.handles := by
  -- Were it the handle of a member, the answer would come from the member's own subscription.
  intro known
  obtain ⟨member, listed, rfl⟩ := List.mem_map.mp known
  obtain ⟨_, opened, ofType, entry, found, same, _⟩ := coherent.wellFormed.find?_subscribe answered
  rcases coherent.subscribed index group present member listed with
    closed | ⟨party, _, ended⟩ | ⟨earlier, there, retained, named⟩
  · exact absurd (closed.symm.trans opened) (by decide)
  · -- What has ended is not answered again.
    have spent := (Registry.kept_spent member.handle).subscribe
      (coherent.spent party _ ended) alive type handler true
    exact absurd (found.symm.trans spent.gone) (by simp)
  · -- The entry is that of the member, so the member stands for the type and the name.
    have other : Change.subscribe type handler true ≠ .unsubscribe member.handle := nofun
    obtain ⟨later, held⟩ := Registry.survives_retains other assembly.hub.registry alive
      ⟨coherent.wellFormed, Or.inr ⟨earlier, there, retained, rfl⟩⟩
    rcases held with closed | ⟨next, kept, _, continued⟩
    · exact absurd (closed.symm.trans (later.opened_of_find? found)) (by decide)
    · obtain rfl : entry = next := Option.some.inj (found.symm.trans kept)
      have sameName : member.name = handler.name := by rw [← named, ← continued, same]
      refine List.find?_eq_none.mp absent member listed ?_
      simp [Member.standsFor, ofType, sameName]

/-- A member that a group is newly given is subscribed. -/
theorem subscribed_new {later : Assembly} {index : Nat} {type : EventType} {handler : Handler}
    {alive : Handler → Bool} {handle : SubscriptionHandle}
    (answered : (assembly.hub.registry.subscribe alive type handler true).answer = .ok handle)
    (made : later.hub.registry =
      (assembly.hub.registry.subscribe alive type handler true).registry) :
    later.Subscribed index ⟨handler.name, handle⟩ := by
  -- The answer of the registry leads to an entry that it retains.
  obtain ⟨_, _, _, entry, found, same, retained⟩ := coherent.wellFormed.find?_subscribe answered
  exact Or.inr (Or.inr ⟨entry, made ▸ found, retained rfl, congrArg Handler.name same⟩)

section Steps

variable {later : Assembly} (happened : assembly.step? config deed = some (reply, later))

include happened

/-- A subscription that has ended is spent after every deed. -/
theorem spent_step {party : Party} {handle : SubscriptionHandle}
    (ended : (party, handle) ∈ later.ended) : Registry.Spent handle later.hub.registry := by
  -- It was spent before, or this deed has just found and ended it.
  obtain ⟨effect, _, remembered⟩ := effect_of_step happened
  rw [remembered] at ended
  rcases List.mem_append.mp ended with before | now
  · exact effect.registry_survives
      (fun change _ => (Registry.kept_spent handle).survives change) (coherent.spent _ _ before)
  · obtain ⟨used, found, same⟩ := List.mem_map.mp now
    obtain rfl : used = handle := congrArg Prod.snd same
    obtain ⟨there, isSome⟩ := List.mem_filter.mp found
    exact effect.spent_of_used coherent.wellFormed there isSome

/-- A member stays subscribed through a deed in which its group does not let go of it. -/
theorem stays_subscribed {index : Nat} {member : Member}
    (subscribed : assembly.Subscribed index member)
    (idle : deed.party = .group index → member.handle ∉ deed.uses assembly) :
    later.Subscribed index member := by
  obtain ⟨effect, _, remembered⟩ := effect_of_step happened
  have wellFormed := coherent.wellFormed
  -- A registry that has been closed stays closed, and an end is not forgotten.
  have succeeds : assembly.hub.registry.Succeeds later.hub.registry :=
    (effect.registry_survives
      (fun change _ => (Registry.kept_succeeds assembly.hub.registry).survives change)
      ⟨wellFormed, .refl _⟩).2
  rcases subscribed with closed | ⟨party, other, ended⟩ | ⟨entry, found, retained, named⟩
  · exact Or.inl (succeeds.closed_of closed)
  · exact Or.inr (Or.inl ⟨party, other, remembered ▸ List.mem_append_left _ ended⟩)
  by_cases used : member.handle ∈ deed.uses assembly
  · -- Somebody else has found the subscription and ended it.
    have ended : (deed.party, member.handle) ∈ later.ended := by
      rw [remembered]
      refine List.mem_append_right _ (List.mem_map_of_mem (List.mem_filter.mpr ⟨used, ?_⟩))
      rw [found, Option.isSome_some]
    exact Or.inr (Or.inl ⟨deed.party, fun own => idle own used, ended⟩)
  · -- Nobody has put the handle to use, so the entry stays retained for its handler.
    have survives : ∀ change ∈ deed.changes assembly,
        Registry.Survives (Registry.Retains member.handle entry.handler) change := by
      intro change made
      refine Registry.survives_retains ?_
      rintro rfl
      exact used (List.mem_filterMap.mpr ⟨_, made, rfl⟩)
    have held := effect.registry_survives survives
      ⟨wellFormed, Or.inr ⟨entry, found, retained, rfl⟩⟩
    rcases held.2 with closed | ⟨next, there, stillRetained, same⟩
    · exact Or.inl closed
    · exact Or.inr (Or.inr ⟨next, there, stillRetained, same ▸ named⟩)

/-- After a deed, no two members of a group have the same handle. -/
theorem distinct_step {index : Nat} {group : SubscriptionGroup}
    (present : later.group? index = some group) : group.handles.Nodup := by
  -- A group only changes by losing members or by one that brings a fresh handle.
  cases (effect_of_step happened).1.became present with
  | same before _ => exact coherent.distinct index _ before
  | empty => exact List.nodup_nil
  | @grown before type handler alive handle there _ _ _ absent answered _ =>
    have fresh := coherent.fresh_handle there absent answered
    simp only [SubscriptionGroup.handles, List.map_append, List.map_cons, List.map_nil]
    exact List.nodup_append_comm.mp (List.nodup_cons.mpr ⟨fresh, coherent.distinct index _ there⟩)
  | shrunk there _ =>
    exact (coherent.distinct index _ there).sublist (List.eraseP_sublist.map Member.handle)

/-- After a deed, a group was given the handles of its members. -/
theorem given_step {index : Nat} {group : SubscriptionGroup}
    (present : later.group? index = some group) {member : Member}
    (listed : member ∈ group.members) : (.group index, member.handle) ∈ later.asked := by
  obtain ⟨effect, remembered, _⟩ := effect_of_step happened
  have earlier : ∀ {entry}, entry ∈ assembly.asked → entry ∈ later.asked := fun there =>
    remembered ▸ List.mem_append_left _ there
  -- Whoever was a member before was given its handle then; the new one is given it now.
  cases effect.became present with
  | same before _ => exact earlier (coherent.given index _ before member listed)
  | empty => exact absurd listed List.not_mem_nil
  | @grown before type handler alive handle there own _ given _ _ _ =>
    rcases List.mem_append.mp listed with old | new
    · exact earlier (coherent.given index _ there member old)
    · obtain rfl := List.mem_singleton.mp new
      rw [remembered, given, own]
      exact List.mem_append_right _ List.mem_cons_self
  | shrunk there _ =>
    exact earlier (coherent.given index _ there member (List.mem_of_mem_eraseP listed))

/-- After a deed, every member is subscribed unless that was ended by others. -/
theorem subscribed_step {index : Nat} {group : SubscriptionGroup}
    (present : later.group? index = some group) {member : Member}
    (listed : member ∈ group.members) : later.Subscribed index member := by
  cases (effect_of_step happened).1.became present with
  | same before idle =>
    exact coherent.stays_subscribed happened (coherent.subscribed index _ before member listed)
      fun own => by simp [idle own]
  | empty => exact absurd listed List.not_mem_nil
  | @grown before type handler alive handle there own idle _ _ answered made =>
    rcases List.mem_append.mp listed with old | new
    · exact coherent.stays_subscribed happened (coherent.subscribed index _ there member old)
        fun _ => by simp [idle]
    · obtain rfl := List.mem_singleton.mp new
      exact coherent.subscribed_new answered made
  | shrunk there used =>
    have before := coherent.subscribed index _ there member (List.mem_of_mem_eraseP listed)
    -- The handle that is put to use is that of the member that is taken out.
    refine coherent.stays_subscribed happened before fun _ => used ▸ ?_
    exact SubscriptionGroup.handle_ne_of_left (coherent.distinct index _ there) listed

/-- Whatever is done in a coherent assembly leaves it coherent. -/
theorem step : later.Coherent config where
  -- Each part of coherence has its own lemma.
  attainable := (effect_of_step happened).1.attainable_of coherent.attainable
  distinct _ _ := coherent.distinct_step happened
  given _ _ present _ := coherent.given_step happened present
  spent _ _ := coherent.spent_step happened
  subscribed _ _ present _ := coherent.subscribed_step happened present

end Steps

end Coherent

/-- Every assembly that can come about is coherent. -/
theorem Reachable.coherent (reachable : assembly.Reachable config) :
    assembly.Coherent config := by
  induction reachable with
  | new id => exact coherent_new config id
  | step before happened ih => exact ih.step happened
  | noted before calls records ih =>
    -- Nothing depends on what is noted.
    exact { ih with attainable := ih.attainable.noted calls records }

end Assembly

end EventBus
