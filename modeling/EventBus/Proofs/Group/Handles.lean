import EventBus.Contract.Publication
import EventBus.Proofs.Group.Sharing
import EventBus.Proofs.Group.Walks

/-!
A handle stands for one subscription and can end it once. The exception is a group, which answers
for its members by the names of their handlers.
-/

namespace EventBus

/--
The end of a subscription leaves the other living entries as they are and in their order.

Only weak ones may be missing afterwards, if their handler dies with the reference to it that the
subscription held.
-/
theorem Hub.ended_spares {hub : Hub} (wellFormed : hub.registry.WellFormed)
    (handle : SubscriptionHandle) (type : EventType) :
    let before := hub.registry.live hub.alive type
    let after := (hub.ended handle).registry.live (hub.ended handle).alive type
    after.Sublist before ∧
      ∀ entry ∈ before, hub.registry.handle entry.id type ≠ handle →
        entry ∈ after ∨
          entry.retained = false ∧ (hub.ended handle).alive entry.handler = false ∧
            ∃ removed, hub.registry.find? handle = some removed ∧ removed.retained = true ∧
              removed.handler = entry.handler := by
  -- The living entries afterwards are those before, without the one ended and those that died.
  intro before after
  have left : after = before.filter fun entry => hub.registry.handle entry.id type ∉ [handle] &&
      entry.isAlive (hub.ended handle).alive :=
    live_endEach wellFormed [handle] type
  refine ⟨left ▸ List.filter_sublist, fun entry living other => ?_⟩
  cases alive : entry.isAlive (hub.ended handle).alive with
  | true => exact Or.inl (left ▸ List.mem_filter.mpr ⟨living, by simp [other, alive]⟩)
  | false =>
    -- What is missing was alive through its handler alone, and the handler has died.
    obtain ⟨weak, dead⟩ := Bool.or_eq_false_iff.mp alive
    have lived : hub.alive entry.handler = true := by
      simpa [Entry.isAlive, weak] using (List.mem_filter.mp living).2
    rcases alive_endEach wellFormed [handle] lived with survives | ⟨used, listed, removed, facts⟩
    · exact absurd (survives.symm.trans dead) (by decide)
    · obtain rfl := List.mem_singleton.mp listed
      exact Or.inr ⟨weak, dead, removed, facts⟩

/-- A member of a group has the handle that the group was given for a handler of its name. -/
def Member.Given (member : Member) (chronicle : List Occurrence) (index : Nat) : Prop :=
  ∃ call, .given call ∈ chronicle ∧ call.party = .group index ∧
    call.type = member.handle.type ∧ call.handler.name = member.name ∧
    call.handle = member.handle

/-- What a group was given is not taken back by what is told later. -/
theorem Member.Given.append {member : Member} {chronicle : List Occurrence} {index : Nat}
    (given : member.Given chronicle index) (told : List Occurrence) :
    member.Given (chronicle ++ told) index := by
  -- The call is still part of the longer chronicle.
  obtain ⟨call, there, facts⟩ := given
  exact ⟨call, List.mem_append_left _ there, facts⟩

namespace Assembly

/-- A client can end a subscription at any time, and that is the end of it at the hub. -/
theorem step?_unsubscribe (config : BusConfig) (assembly : Assembly)
    (handle : SubscriptionHandle) :
    ∃ answer later, assembly.step? config (.occur (.request (.unsubscribe handle))) =
      some (.answered (.unsubscribed answer), later) ∧ later.hub = assembly.hub.ended handle := by
  -- A client may ask for the end of anything, so the request is never refused as such.
  simp only [step?, effect?, Hub.step?_unsubscribe, bind, pure, Option.bind_some]
  exact ⟨_, _, rfl, rfl⟩

/-- A publisher refuses to subscribe a handler, or passes it on to its bus as a client would. -/
theorem subscribe_of_publisher (config : BusConfig) (assembly : Assembly) (publisher : Publisher)
    {α : Type} (publication : Publication α) {handler : Handler}
    (held : 0 < assembly.hub.outside handler) :
    let bus := Hub.bus config fun _ _ => none
    let done := publisher.subscribe bus publication handler assembly.hub
    (∃ error, done = (.error error, assembly.hub)) ∨
      ∃ later, assembly.step? config (.occur (.request (.subscribe publication.type handler))) =
        some (.answered (.subscribed done.1), later) ∧ later.hub = done.2 := by
  -- Without a declaration the bus is not asked; otherwise it is asked as a client would ask it.
  cases declared : publisher.declaration publication.type with
  | error error =>
    refine Or.inl ⟨error, ?_⟩
    simp only [Publisher.subscribe, declared]
    rfl
  | ok check =>
    have allowed : Hub.allows assembly.hub.outside assembly.hub.born
        (.subscribe publication.type handler) = true := by simpa [Hub.allows] using held
    refine Or.inr ?_
    simp only [Publisher.subscribe, declared, step?, effect?, Hub.step?, allowed, if_true, bind,
      pure, Option.bind_some]
    exact ⟨_, rfl, rfl⟩

/--
The assemblies that can come about, each with all that is told of its subscriptions.

A subscription to several types that others interrupt comes to one subscription after another.
-/
inductive Chronicled (config : BusConfig) : List Occurrence → Assembly → Prop
  | new (id : Nat) : Chronicled config [] (Assembly.new id)
  | step {chronicle : List Occurrence} {assembly later : Assembly} {deed : Deed} {reply : Reply}
    (before : Chronicled config chronicle assembly)
    (happened : assembly.step? config deed = some (reply, later)) :
    Chronicled config (chronicle ++ deed.tells assembly reply) later
  | noted {chronicle : List Occurrence} {assembly : Assembly}
    (before : Chronicled config chronicle assembly) (calls : List (Handler × Event))
    (records : List LogRecord) :
    Chronicled config chronicle { assembly with hub := { assembly.hub with calls, records } }

/-- Every assembly that can come about has a chronicle. -/
theorem Reachable.chronicled {config : BusConfig} {assembly : Assembly}
    (reachable : assembly.Reachable config) :
    ∃ chronicle, Chronicled config chronicle assembly := by
  -- The induction is on how the assembly came about, deed by deed.
  induction reachable with
  | new id => exact ⟨[], .new id⟩
  | step before happened ih =>
    obtain ⟨chronicle, told⟩ := ih
    exact ⟨_, told.step happened⟩
  | noted before calls records ih =>
    obtain ⟨chronicle, told⟩ := ih
    exact ⟨chronicle, told.noted calls records⟩

/-- What is told of a list of deeds and the assembly after it, if each of them can be done. -/
def recount? (config : BusConfig) (assembly : Assembly) :
    List Deed → Option (List Occurrence × Assembly)
  | [] => some ([], assembly)
  | deed :: rest => do
    let (reply, later) ← assembly.step? config deed
    let (told, last) ← recount? config later rest
    return (deed.tells assembly reply ++ told, last)

/-- What a chronicle tells is what there is in an assembly. -/
structure Remembers (chronicle : List Occurrence) (assembly : Assembly) : Prop where
  hub : assembly.hub.Remembers chronicle
  members : ∀ {index : Nat} {group : SubscriptionGroup}, assembly.group? index = some group →
    ∀ member ∈ group.members, member.Given chronicle index

section Chronicles

variable {config : BusConfig} {chronicle told : List Occurrence} {assembly later : Assembly}

/-- A list of deeds continues the chronicle with what is told of it. -/
theorem Chronicled.recount? {deeds : List Deed} (before : Chronicled config chronicle assembly)
    (ran : assembly.recount? config deeds = some (told, later)) :
    Chronicled config (chronicle ++ told) later := by
  -- The induction is on the deeds, each of which adds its own part to what is told.
  induction deeds generalizing assembly chronicle told with
  | nil =>
    cases ran
    rw [List.append_nil]
    exact before
  | cons deed rest ih =>
    simp only [Assembly.recount?, bind, pure, Option.bind_eq_some_iff, Option.some.injEq,
      Prod.mk.injEq, Prod.exists] at ran
    obtain ⟨reply, next, happened, more, last, went, rfl, rfl⟩ := ran
    rw [← List.append_assoc]
    exact ih (before.step happened) went

/-- There is nothing to remember in the beginning. -/
theorem remembers_new (id : Nat) : (Assembly.new id).Remembers [] where
  hub := Hub.remembers_new id
  members present := by simp [Assembly.new, group?] at present

namespace Remembers

variable (remembers : assembly.Remembers chronicle) {deed : Deed} {reply : Reply}

include remembers

/-- What a group recalls is what it was given for the name. -/
theorem recalls {index : Nat} {call : Call} (recalled : assembly.Recalled index call) :
    call.Recalls chronicle := by
  -- The group found a member, and what the member was given is part of the chronicle.
  obtain ⟨group, present, member, found, same⟩ := recalled.member
  obtain ⟨listed, ofType, named⟩ := SubscriptionGroup.of_find? found
  obtain ⟨earlier, told, party, type, name, handle⟩ := remembers.members present member listed
  exact fun _ => ⟨earlier, told, party.trans recalled.party.symm, type.trans ofType,
    name.trans named, handle.trans same⟩

/-- After a deed, a group was given the handle of each member for its name. -/
theorem members_step (happened : assembly.step? config deed = some (reply, later)) {index : Nat}
    {group : SubscriptionGroup} (present : later.group? index = some group) {member : Member}
    (listed : member ∈ group.members) :
    member.Given (chronicle ++ deed.tells assembly reply) index := by
  -- A member that was there before was given its handle before.
  have earlier {before : SubscriptionGroup} (there : assembly.group? index = some before)
      (old : member ∈ before.members) :
      member.Given (chronicle ++ deed.tells assembly reply) index :=
    (remembers.members there member old).append _
  have effect := (effect_of_step happened).1
  have present : later.groups[index]?.join = some group := present
  have became := effect.became present
  generalize later.hub = hub at effect became
  generalize later.groups = groups at effect present
  cases became with
  | same there _ => exact earlier there listed
  | empty => exact absurd listed List.not_mem_nil
  | shrunk there _ => exact earlier there (List.mem_of_mem_eraseP listed)
  | grown _ own _ given _ _ _ =>
    -- Only a handler that joins makes a group grow.
    cases effect with
    | occur happened => cases own
    | found => cases own
    | remove _ silent =>
      rw [silent] at given
      cases given
    | @join target joining type handler before after answer hub there joined _ =>
      obtain rfl : target = index := Party.group.inj own
      rw [group?_set there, if_pos rfl] at present
      rw [← Option.some.inj present] at listed
      generalize hub.registry = registry at joined
      cases joined with
      | known found => exact earlier there listed
      | refused absent answered => exact earlier there listed
      -- The newcomer is the only member whose handle is told with this deed.
      | @added alive handle absent answered =>
        rcases List.mem_append.mp listed with old | new
        · exact earlier there old
        obtain rfl := List.mem_singleton.mp new
        have ofType := (Registry.subscribe_answered answered).2.1
        refine ⟨⟨.group target, type, handler, handle⟩, List.mem_append_right _ ?_, rfl,
          ofType.symm, rfl, rfl⟩
        rw [tells_join_absent there absent]
        exact List.mem_singleton_self _

/-- A deed leaves an assembly of which everything told is remembered. -/
theorem step (happened : assembly.step? config deed = some (reply, later)) :
    later.Remembers (chronicle ++ deed.tells assembly reply) where
  hub := by
    -- Most deeds are walks of the hub; a join that finds a member only recalls what was given.
    rcases walk_of_step remembers.hub.wellFormed happened with
      walk | ⟨index, call, told, recalled, walk⟩
    · exact remembers.hub.walk walk
    · have hub := remembers.hub.walk walk
      rw [List.append_nil] at hub
      rw [told]
      exact hub.of_recalled (remembers.recalls recalled)
  members present _ listed := remembers.members_step happened present listed

end Remembers

/-- What a chronicle tells is remembered by its assembly. -/
theorem Chronicled.remembers (told : Chronicled config chronicle assembly) :
    assembly.Remembers chronicle := by
  induction told with
  | new id => exact remembers_new id
  | step before happened ih => exact ih.step happened
  | @noted chronicle assembly before calls records ih =>
    -- Nothing depends on what is noted.
    have hub := ih.hub.walk (.noted .clients _ calls records)
    rw [List.append_nil] at hub
    exact ⟨hub, ih.members⟩

end Chronicles

end Assembly

/--
A handle stands for one subscription of one handler, and ends it at most once.

Two calls that the registry answers have one handle exactly if they are for one type and handler and
the first subscription was not ended in between. A group that has a member of the type and the name
answers with what it was given for them. An ended handle never comes back: a handler that is
subscribed again gets a new one with the largest id by then, so it is last in a snapshot. Snapshots
have the subscriptions that were given and not ended, except those of handlers that have died. The
end of a subscription spares all others, but for weak ones of a handler that it lets go of. A
publisher subscribes a handler as a client would, or not at all.
-/
theorem handles_identify_subscriptions {config : BusConfig} {chronicle : List Occurrence}
    {assembly : Assembly} (told : assembly.Chronicled config chronicle) :
    (∀ (i j : Nat) (call later : Call), i < j → chronicle[i]? = some (.given call) →
      chronicle[j]? = some (.given later) →
        (call.handle = later.handle ↔
          call.type = later.type ∧ call.handler = later.handler ∧
            ∀ l, i < l → l < j → chronicle[l]? ≠ some (.ended call.handle))) ∧
    (∀ (j : Nat) (call : Call), chronicle[j]? = some (.recalled call) →
      (∀ l < j, chronicle[l]? ≠ some (.ended call.handle)) →
        ∃ i < j, ∃ earlier, chronicle[i]? = some (.given earlier) ∧
          earlier.party = call.party ∧ earlier.type = call.type ∧
            earlier.handler.name = call.handler.name ∧ earlier.handle = call.handle) ∧
    (∀ (i j : Nat) (handle : SubscriptionHandle), chronicle[i]? = some (.ended handle) →
      chronicle[j]? = some (.ended handle) → i = j) ∧
    (∀ (i e j : Nat) (call later : Call), i < e → e < j →
      chronicle[i]? = some (.given call) → chronicle[e]? = some (.ended call.handle) →
        chronicle[j]? = some (.given later) → call.type = later.type →
          call.handler = later.handler →
            ∃ k, e < k ∧ k ≤ j ∧ ∃ original, chronicle[k]? = some (.given original) ∧
              original.type = later.type ∧ original.handler = later.handler ∧
                original.handle = later.handle ∧
                  ∀ l < k, ∀ other, chronicle[l]? = some (.given other) →
                    other.handle.id < later.handle.id) ∧
    (∀ type subscribers,
      assembly.hub.registry.snapshot assembly.hub.alive type = .ok subscribers →
        subscribers.Pairwise (·.id < ·.id) ∧
        (∀ handle, .ended handle ∈ chronicle → ∀ subscriber ∈ subscribers,
          subscriber.id ≠ handle.id) ∧
        ∀ subscriber, subscriber ∈ subscribers ↔ assembly.hub.alive subscriber.handler = true ∧
          ∃ call, .given call ∈ chronicle ∧ .ended call.handle ∉ chronicle ∧ call.type = type ∧
            call.handler = subscriber.handler ∧ call.handle.id = subscriber.id) ∧
    (∀ handle, ∃ answer later,
      assembly.step? config (.occur (.request (.unsubscribe handle))) =
        some (.answered (.unsubscribed answer), later) ∧
      ∀ type, (later.live type).Sublist (assembly.live type) ∧
        ∀ entry ∈ assembly.live type, assembly.hub.registry.handle entry.id type ≠ handle →
          entry ∈ later.live type ∨
            entry.retained = false ∧ later.hub.alive entry.handler = false ∧
              ∃ removed, assembly.hub.registry.find? handle = some removed ∧
                removed.retained = true ∧ removed.handler = entry.handler) ∧
    (∀ (publisher : Publisher) (α : Type) (publication : Publication α) (handler : Handler),
      0 < assembly.hub.outside handler →
        let bus := Hub.bus config fun _ _ => none
        let done := publisher.subscribe bus publication handler assembly.hub
        (∃ error, done = (.error error, assembly.hub)) ∨
          ∃ later,
            assembly.step? config (.occur (.request (.subscribe publication.type handler))) =
              some (.answered (.subscribed done.1), later) ∧ later.hub = done.2) := by
  -- What is said about calls and ends goes for every consistent chronicle.
  have remembers := told.remembers.hub
  have consistent := remembers.consistent
  refine ⟨fun i j call later earlier first second => consistent.same earlier first second,
    fun j call recalled lasting => ?_, fun i j handle first second => consistent.once first second,
    fun i e j call later before between given ended again type handler =>
      consistent.anew before between given ended again type handler,
    -- What is said about snapshots also needs that the chronicle and the registry go together.
    fun type subscribers taken => ⟨remembers.wellFormed.snapshot_ascending taken,
      fun handle ended subscriber there => remembers.absent_of_ended ended taken there,
      remembers.mem_snapshot taken⟩,
    fun handle => ?_,
    fun publisher _ publication handler held =>
      assembly.subscribe_of_publisher config publisher publication held⟩
  · -- A recalled handle was given in the past, unless it has been ended there.
    have recalls : call.Recalls (chronicle.take j) := consistent j _ recalled
    obtain ⟨earlier, past, facts⟩ := recalls fun ended => by
      obtain ⟨l, before, there⟩ := mem_take_iff.mp ended
      exact lasting l before there
    obtain ⟨i, before, there⟩ := mem_take_iff.mp past
    exact ⟨i, before, earlier, there, facts⟩
  · -- The end of a subscription is a request to the hub, of which the rest is known.
    obtain ⟨answer, later, happened, left⟩ := assembly.step?_unsubscribe config handle
    refine ⟨answer, later, happened, fun type => ?_⟩
    simp only [Assembly.live, left]
    exact Hub.ended_spares remembers.wellFormed handle type

/-- A client that ends a subscription and makes it again gets another handle, once and for all. -/
theorem resubscription_identified :
    let audit : Handler := ⟨1, "audit"⟩
    let order : EventType := ⟨"order"⟩
    let first : SubscriptionHandle := ⟨0, 1, order⟩
    let second : SubscriptionHandle := ⟨0, 2, order⟩
    let chronicle : List Occurrence :=
      [.given ⟨.clients, order, audit, first⟩, .ended first,
        .given ⟨.clients, order, audit, second⟩]
    ∃ assembly, Assembly.Chronicled {} chronicle assembly ∧
      (first = second ↔ order = order ∧ audit = audit ∧
        ∀ l, 0 < l → l < 2 → chronicle[l]? ≠ some (.ended first)) ∧
      assembly.hub.registry.snapshot assembly.hub.alive order = .ok [⟨2, audit⟩] ∧
      [(⟨2, audit⟩ : Subscriber)].Pairwise (·.id < ·.id) := by
  intro audit order first second chronicle
  let deeds : List Deed :=
    [.occur (.request (.create audit)), .occur (.request (.subscribe order audit)),
      .occur (.request (.unsubscribe first)), .occur (.request (.subscribe order audit))]
  have seen : ((Assembly.new 0).recount? {} deeds).map (fun (told, assembly) =>
      (told, (assembly.hub.registry.snapshot assembly.hub.alive order).toOption)) =
        some (chronicle, some [⟨2, audit⟩]) := by decide +kernel
  -- The deeds are done one by one, with what is told of them and the last snapshot.
  obtain ⟨⟨told, assembly⟩, ran, seen⟩ := Option.map_eq_some_iff.mp seen
  obtain ⟨rfl, snapshot⟩ := Prod.mk.inj seen
  have chronicled := (Assembly.Chronicled.new 0).recount? ran
  cases taken : assembly.hub.registry.snapshot assembly.hub.alive order with
  | error error =>
    rw [taken] at snapshot
    cases snapshot
  | ok subscribers =>
    rw [taken] at snapshot
    obtain rfl := Option.some.inj snapshot
    obtain ⟨same, _, _, _, snapshots, _⟩ := handles_identify_subscriptions chronicled
    exact ⟨assembly, chronicled, same 0 2 _ _ (by decide) rfl rfl, taken,
      (snapshots order _ taken).1⟩

/-- A group gives one handle to two handlers of one name, since it asks for the first one only. -/
theorem namesakes_share_handle :
    let first : Handler := ⟨1, "audit"⟩
    let second : Handler := ⟨2, "audit"⟩
    let order : EventType := ⟨"order"⟩
    let handle : SubscriptionHandle := ⟨0, 1, order⟩
    first ≠ second ∧
      ((Assembly.new 0).recount? {}
        [.found, .join 0 .closure order first, .join 0 .closure order second]).map Prod.fst =
          some [.given ⟨.group 0, order, first, handle⟩,
            .recalled ⟨.group 0, order, second, handle⟩] := by
  decide +kernel

end EventBus
