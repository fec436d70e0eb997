import EventBus.Proofs.Group.Membership

/-!
A group answers for its members from memory. The bus is asked only about handlers that are no
members, so only for those does the answer mean that there is a live subscription.
-/

namespace EventBus

namespace Hub

/-- Whether a snapshot of the type of a handle has its id, for a handler of some name. -/
def offers (hub : Hub) (handle : SubscriptionHandle) (name : String) : Bool :=
  match hub.registry.snapshot hub.alive handle.type with
  | .ok subscribers => subscribers.any fun subscriber =>
      subscriber.id == handle.id && subscriber.handler.name == name
  | .error _ => false

variable {hub : Hub} (wellFormed : hub.registry.WellFormed) {handle : SubscriptionHandle}

include wellFormed

/-- A retained entry is offered under its handle. -/
theorem offers_of_retained {entry : Entry} (found : hub.registry.find? handle = some entry)
    (retained : entry.retained = true) : hub.offers handle entry.handler.name = true := by
  -- A retained entry is alive, so a snapshot of its type shows its subscriber.
  obtain ⟨stored, same⟩ := wellFormed.find?_eq_some.mp found
  have opened := wellFormed.opened_of_find? found
  have living : entry ∈ hub.registry.live hub.alive handle.type :=
    List.mem_filter.mpr ⟨stored, Entry.isAlive_of_retained retained _⟩
  have taken : hub.registry.snapshot hub.alive handle.type =
      .ok ((hub.registry.live hub.alive handle.type).map Entry.subscriber) :=
    if_neg (by simp [opened])
  have hit : entry.id = handle.id := congrArg SubscriptionHandle.id same
  simp only [offers, taken]
  exact List.any_eq_true.mpr
    ⟨entry.subscriber, List.mem_map_of_mem living, by simp [Entry.subscriber, hit]⟩

/-- A handle that is offered by an open registry is not spent. -/
theorem opened_of_offers {name : String} (offered : hub.offers handle name = true) :
    hub.registry.closed = false ∧ ¬ Registry.Spent handle hub.registry := by
  by_cases closed : hub.registry.closed = true
  · simp [offers, Registry.snapshot, closed] at offered
  · have taken : hub.registry.snapshot hub.alive handle.type =
        .ok ((hub.registry.live hub.alive handle.type).map Entry.subscriber) := if_neg closed
    simp only [offers, taken] at offered
    obtain ⟨subscriber, listed, matching⟩ := List.any_eq_true.mp offered
    obtain ⟨entry, living, rfl⟩ := List.mem_map.mp listed
    refine ⟨by simpa using closed, fun spent => ?_⟩
    -- An entry that has the id of a handle of this registry is the one that it stands for.
    have stored := List.mem_of_mem_filter living
    have hit : entry.id = handle.id := by
      simpa [Entry.subscriber] using (Bool.and_eq_true_iff.mp matching).1
    refine wellFormed.find?_eq_none.mp spent.gone entry stored ?_
    rw [Registry.handle, hit, ← spent.own]

end Hub

/-- The handle that a registry has just granted to a group is offered. -/
theorem Hub.offers_of_granted {hub : Hub} {registry : Registry} (before : registry.WellFormed)
    {alive : Handler → Bool} {type : EventType} {handler : Handler} {handle : SubscriptionHandle}
    (answered : (registry.subscribe alive type handler true).answer = .ok handle)
    (same : hub.registry = (registry.subscribe alive type handler true).registry) :
    handle.type = type ∧ hub.registry.closed = false ∧ hub.offers handle handler.name = true := by
  -- The new subscription is retained, so its handler is alive.
  obtain ⟨_, _, ofType, entry, stored, sameHandler, retained⟩ := before.find?_subscribe answered
  have later : hub.registry.WellFormed := same ▸ before.subscribe alive type handler true
  rw [← same] at stored
  rw [← sameHandler]
  exact ⟨ofType, later.opened_of_find? stored, Hub.offers_of_retained later stored (retained rfl)⟩

namespace Assembly

variable {config : BusConfig} {assembly : Assembly} {index : Nat} {group : SubscriptionGroup}
  {joining : Joining} {type : EventType} {handler : Handler}

/-- A handler that somebody holds can join a group at any time. -/
theorem step?_join (config : BusConfig) (present : assembly.group? index = some group)
    (allowed : joining.allows handler assembly.hub = true) :
    ∃ reply later,
      assembly.step? config (.join index joining type handler) = some (reply, later) := by
  -- Nothing but the group and the handler decides whether the deed can be done.
  simp only [step?, effect?, present, bind, Option.bind_some, allowed, if_true]
  exact ⟨_, _, rfl⟩

/-- What joining comes to, in terms of the registries before and after it. -/
theorem joined_of_join {reply : Reply} {later : Assembly}
    (present : assembly.group? index = some group)
    (happened : assembly.step? config (.join index joining type handler) = some (reply, later)) :
    ∃ next answer, reply = .joined answer ∧
      group.Joined assembly.hub.registry type handler (next, answer) later.hub.registry := by
  -- The group that joins is the one at the index.
  have effect := (effect_of_step happened).1
  generalize later.hub = hub at effect ⊢
  generalize later.groups = groups at effect
  cases effect with
  | @join _ _ _ _ other next answer hub there joined attainable =>
    obtain rfl : group = other := Option.some.inj (present.symm.trans there)
    exact ⟨next, answer, rfl, joined⟩

/-- The handle of a member is offered as long as the bus is open and nobody has ended it. -/
theorem Coherent.offers_iff (coherent : assembly.Coherent config)
    (present : assembly.group? index = some group) {member : Member}
    (listed : member ∈ group.members) {hub : Hub}
    (same : hub.registry = assembly.hub.registry) :
    hub.offers member.handle member.name = true ↔
      assembly.hub.registry.closed = false ∧
        ∀ party, (party, member.handle) ∉ assembly.ended := by
  have wellFormed : hub.registry.WellFormed := same ▸ coherent.wellFormed
  constructor
  · intro offered
    obtain ⟨opened, unspent⟩ := Hub.opened_of_offers wellFormed offered
    rw [same] at opened unspent
    exact ⟨opened, fun party ended => unspent (coherent.spent party _ ended)⟩
  · rintro ⟨opened, lasting⟩
    -- There is a subscription behind the handle unless coherence knows why not.
    rcases coherent.subscribed index group present member listed with
      closed | ⟨party, _, ended⟩ | ⟨entry, stored, retained, sameName⟩
    · exact absurd (closed.symm.trans opened) (by decide)
    · exact absurd ended (lasting party)
    · rw [← sameName]
      exact Hub.offers_of_retained wellFormed (same ▸ stored) retained

end Assembly

/--
A group answers a handler that is no member with a live subscription, or with the error of the bus.

For a member it answers with the handle that it remembers, and the bus is not asked. Behind such an
answer there is a live subscription exactly as long as the bus is open and nobody, neither a client
nor a group, has ended it in the meantime.
-/
theorem join_answers {config : BusConfig} {assembly : Assembly}
    (reachable : assembly.Reachable config) {index : Nat} {group : SubscriptionGroup}
    (present : assembly.group? index = some group) (joining : Joining) (type : EventType)
    (handler : Handler) (allowed : joining.allows handler assembly.hub = true) :
    ∃ answer later,
      assembly.step? config (.join index joining type handler) = some (.joined answer, later) ∧
        match group.find? type handler.name with
        | some member =>
          answer = .ok member.handle ∧ member.handle.type = type ∧
            (later.hub.offers member.handle handler.name = true ↔
              assembly.hub.registry.closed = false ∧
                ∀ party, (party, member.handle) ∉ assembly.ended)
        | none =>
          (type.isBlank = true → answer = .error .blankType) ∧
            (type.isBlank = false → assembly.hub.registry.closed = true →
              answer = .error .busClosed) ∧
            (type.isBlank = false → assembly.hub.registry.closed = false →
              ∃ handle, answer = .ok handle ∧ handle.type = type ∧
                later.hub.registry.closed = false ∧
                later.hub.offers handle handler.name = true) := by
  -- What the group answers is told by how the handler has joined, which is one of three ways.
  have coherent := reachable.coherent
  have wellFormed := coherent.wellFormed
  obtain ⟨reply, later, happened⟩ := Assembly.step?_join config present allowed
  obtain ⟨next, answer, rfl, joined⟩ := Assembly.joined_of_join present happened
  refine ⟨answer, later, happened, ?_⟩
  obtain ⟨registry, same⟩ : ∃ registry, later.hub.registry = registry := ⟨_, rfl⟩
  rw [same] at joined
  cases joined with
  | @known member found =>
    rw [found]
    obtain ⟨listed, ofType, named⟩ := SubscriptionGroup.of_find? found
    have offered := coherent.offers_iff present listed same
    rw [named] at offered
    exact ⟨rfl, ofType, offered⟩
  | @refused alive error absent answered =>
    rw [absent]
    -- Each refusal of the registry has its reason, and an open one accepts a type with a name.
    refine ⟨fun blank => ?_, fun named closed => ?_, fun named opened => ?_⟩
    · rw [Registry.subscribe_blank blank] at answered
      exact answered.symm
    · rw [Registry.subscribe_closed named closed] at answered
      exact answered.symm
    · obtain ⟨handle, accepted⟩ := Registry.subscribe_accepted named opened
      cases answered.symm.trans accepted
  | @added alive handle absent answered =>
    rw [absent]
    -- A subscription was granted, so there was no reason to refuse it.
    obtain ⟨named, opened, _⟩ := wellFormed.find?_subscribe answered
    obtain ⟨ofType, still, offered⟩ := Hub.offers_of_granted wellFormed answered same
    exact ⟨fun blank => absurd (blank.symm.trans named) (by decide),
      fun _ closed => absurd (closed.symm.trans opened) (by decide),
      fun _ _ => ⟨handle, rfl, ofType, still, offered⟩⟩

/-- A closure joins a group, and its subscription ends, by a client or with the whole bus. -/
def endedMember (ending : Request) : List Deed :=
  [.found, .join 0 .closure ⟨"order"⟩ ⟨1, "audit"⟩, .occur (.request ending)]

/-- A group whose member a client has ended answers another handler with a live subscription. -/
theorem endedMember_answers :
    ∃ assembly : Assembly,
      (Assembly.new 0).run? {} (endedMember (.unsubscribe ⟨0, 1, ⟨"order"⟩⟩)) = some assembly ∧
        ∃ handle later, assembly.step? {} (.join 0 .closure ⟨"invoice"⟩ ⟨2, "audit"⟩) =
            some (.joined (.ok handle), later) ∧
          later.hub.offers handle "audit" = true := by
  let member : Member := ⟨"audit", ⟨0, 1, ⟨"order"⟩⟩⟩
  have seen : ((Assembly.new 0).run? {} (endedMember (.unsubscribe member.handle))).map
      (fun assembly => (assembly.group? 0, assembly.hub.born, assembly.hub.registry.closed)) =
        some (some ⟨[member]⟩, [⟨1, "audit"⟩], false) := by decide +kernel
  obtain ⟨assembly, ran, seen⟩ := Option.map_eq_some_iff.mp seen
  simp only [Prod.mk.injEq] at seen
  obtain ⟨present, born, opened⟩ := seen
  have reachable := (Assembly.Reachable.new 0).run? ran
  have allowed : Joining.closure.allows ⟨2, "audit"⟩ assembly.hub = true := by
    -- Both types are named and the bus is open, so the handler is accepted.
    rw [Joining.allows, born]
    decide
  obtain ⟨answer, later, happened, answers⟩ :=
    join_answers reachable present .closure ⟨"invoice"⟩ ⟨2, "audit"⟩ allowed
  obtain ⟨handle, rfl, _, _, offered⟩ := answers.2.2 (by decide) opened
  exact ⟨assembly, ran, handle, later, happened, offered⟩

/-- A group answers for its member after its subscription has ended, even when the bus is closed. -/
theorem endedMember_recalled :
    let handle : SubscriptionHandle := ⟨0, 1, ⟨"order"⟩⟩
    let recalled := fun ending =>
      ∃ assembly : Assembly, (Assembly.new 0).run? {} (endedMember ending) = some assembly ∧
        ∃ later, assembly.step? {} (.join 0 .closure ⟨"order"⟩ ⟨2, "audit"⟩) =
            some (.joined (.ok handle), later) ∧
          later.hub.offers handle "audit" = false
    recalled .close ∧ recalled (.unsubscribe handle) := by
  intro handle recalled
  have seen : ∀ ending ∈ [Request.close, .unsubscribe handle],
      ((Assembly.new 0).run? {} (endedMember ending)).bind (fun assembly =>
        (assembly.step? {} (.join 0 .closure ⟨"order"⟩ ⟨2, "audit"⟩)).map fun (reply, later) =>
          decide (assembly.group? 0 = some ⟨[⟨"audit", handle⟩]⟩ ∧ reply.handles = [handle] ∧
            later.hub.offers handle "audit" = false)) = some true := by decide +kernel
  -- Both endings are gone through in the same way.
  have either : ∀ ending ∈ [Request.close, .unsubscribe handle], recalled ending := by
    intro ending listed
    obtain ⟨assembly, ran, seen⟩ := Option.bind_eq_some_iff.mp (seen ending listed)
    obtain ⟨⟨reply, later⟩, happened, facts⟩ := Option.map_eq_some_iff.mp seen
    obtain ⟨present, given, absent⟩ := of_decide_eq_true facts
    obtain ⟨_, answer, rfl, _⟩ := Assembly.joined_of_join present happened
    -- Only an answer that accepts the handler comes with a handle.
    cases answer with
    | error error => cases given
    | ok answered =>
      obtain rfl : answered = handle := List.singleton_inj.mp given
      exact ⟨assembly, ran, later, happened, absent⟩
  exact ⟨either _ List.mem_cons_self, either _ (List.mem_cons_of_mem _ List.mem_cons_self)⟩

end EventBus
