import EventBus.Proofs.Group.Membership
import EventBus.Proofs.Group.Strides
import EventBus.Proofs.Hub.Closing

/-! What is told of every incident and of every deed, and that each of them is a walk of the hub. -/

namespace EventBus

/-- What is told of an incident, by how it is answered. -/
def Incident.tells (party : Party) : Incident → Answer → List Occurrence
  | .request (.subscribe type handler), .subscribed answer
  | .request (.subscribeRetained type handler), .subscribed answer =>
    Occurrence.subscribed party type handler answer
  | .request (.subscribeMany types handler), .subscribedMany (.ok handles) =>
    (types.zip handles).map fun (type, handle) => .given ⟨party, type, handler, handle⟩
  | .request (.unsubscribe handle), .unsubscribed answer => Occurrence.unsubscribed handle answer
  | _, _ => []

namespace Hub

/-- What is told of the ends of several subscriptions, one after the other. -/
def tellsEach (hub : Hub) (party : Party) : List SubscriptionHandle → List Occurrence
  | [] => []
  | handle :: rest =>
    hub.tells party (.unsubscribe handle) ++ (hub.ended handle).tellsEach party rest

section Mortality

variable {hub : Hub} {handler : Handler}

/-- Who is held by a client is alive. -/
theorem alive_of_outside (held : 0 < hub.outside handler) : hub.alive handler = true :=
  alive_iff_owned.mpr (Or.inl held)

/-- A handler that comes into being is new. -/
theorem mortal_create (unborn : handler ∉ hub.born) :
    hub.Mortal { hub.take handler with born := handler :: hub.born } := by
  -- Only this handler is held by more clients than before.
  refine .of_outside rfl rfl (fun _ there => List.mem_cons_of_mem _ there) fun other held => ?_
  by_cases same : other = handler
  · subst same
    exact Or.inr ⟨unborn, List.mem_cons_self⟩
  · simp only [take, same, if_false] at held
    exact Or.inl (alive_of_outside held)

/-- Another reference to a handler revives nobody. -/
theorem mortal_take (living : hub.alive handler = true) : hub.Mortal (hub.take handler) := by
  -- The handler whose references grow in number is alive already.
  refine .of_outside rfl rfl (fun _ there => there) fun other held => Or.inl ?_
  by_cases same : other = handler
  · exact same ▸ living
  · simp only [take, same, if_false] at held
    exact alive_of_outside held

/-- Giving up a reference revives nobody. -/
theorem mortal_giveUp (hub : Hub) (handler : Handler) : hub.Mortal (hub.giveUp handler) := by
  -- Clients hold no more than before.
  refine .of_outside rfl rfl (fun _ there => there) fun other held => Or.inl ?_
  by_cases same : other = handler
  · simp only [giveUp, same, if_true] at held
    exact same ▸ alive_of_outside (Nat.lt_of_lt_of_le held (Nat.sub_le _ _))
  · simp only [giveUp, same, if_false] at held
    exact alive_of_outside held

/-- A snapshot that a client takes revives nobody. -/
theorem mortal_snapshot (wellFormed : hub.registry.WellFormed) {type : EventType}
    {subscribers : List Subscriber}
    (taken : hub.registry.snapshot hub.alive type = .ok subscribers) :
    hub.Mortal { hub with
      outside := fun handler =>
        hub.outside handler + (subscribers.map Subscriber.handler).count handler } := by
  -- What clients newly hold is in the snapshot, and so it is alive.
  refine .of_outside rfl rfl (fun _ there => there) fun other held => Or.inl ?_
  rcases Nat.add_pos_iff_pos_or_pos.mp held with before | counted
  · exact alive_of_outside before
  · obtain ⟨subscriber, there, rfl⟩ := List.mem_map.mp (List.count_pos_iff.mp counted)
    exact alive_of_snapshot wellFormed taken there

end Mortality

/-- A weak subscription is answered by the registry, and the clients keep what they hold. -/
theorem subscribe_frame (config : BusConfig) (hub : Hub) (type : EventType) (handler : Handler) :
    let done := (bus config fun _ _ => none).subscribe type handler hub
    done.1 = (hub.registry.subscribe hub.alive type handler false).answer ∧
      done.2.outside = hub.outside := by
  -- The hub only notes what the registry has answered.
  rw [subscribe_eq]
  split <;> exact ⟨rfl, rfl⟩

section Sections

variable (config : BusConfig) (party : Party) {hub : Hub}
  (wellFormed : hub.registry.WellFormed)

include wellFormed

/-- A section is a stride, whatever is written to the log besides. -/
theorem Stride.of_section {change : Change} (backed : hub.backs change = true)
    (records : List LogRecord) :
    Stride party hub (hub.tells party change)
      { hub with registry := hub.registry.change hub.alive change, records } :=
  .changed backed rfl (.of_change wellFormed backed rfl rfl rfl rfl)

/-- A weak subscription is a stride, of which is told how it is answered. -/
theorem subscribe_stride (type : EventType) {handler : Handler}
    (living : hub.alive handler = true) :
    let done := (bus config fun _ _ => none).subscribe type handler hub
    Stride party hub (Occurrence.subscribed party type handler done.1) done.2 := by
  have backed : hub.backs (.subscribe type handler false) = true := living
  rw [subscribe_eq]
  -- It may be worth a warning, but for the registry that makes no difference.
  split <;> exact .of_section party wellFormed backed _

/-- A subscription to several types is a walk, of which all is told if none of them is blank. -/
theorem subscribeEach_walk {types : List EventType} {handler : Handler}
    (held : 0 < hub.outside handler) (named : ∀ type ∈ types, type.isBlank = false) :
    let done := (bus config fun _ _ => none).subscribeEach handler types hub
    Walk party hub
      ((Incident.request (.subscribeMany types handler)).tells party (.subscribedMany done.1))
      done.2 := by
  -- The induction is on the types, with the handler held all the way.
  induction types generalizing hub with
  | nil => exact .stay
  | cons type rest ih =>
    have stride := subscribe_stride config party wellFormed type (alive_of_outside held)
    obtain ⟨answered, outside⟩ := subscribe_frame config hub type handler
    have other : Change.subscribe type handler false ≠ .close := nofun
    have keeps := (subscribe_keeps config (fun _ _ => none) hub
      (Registry.survives_closed false other)).2
    rw [subscribeEach_cons]
    generalize (bus config fun _ _ => none).subscribe type handler hub = first
      at stride answered outside keeps ⊢
    obtain ⟨answer, next⟩ := first
    cases answer with
    | error error => exact stride.walk
    | ok handle =>
      -- The first type was accepted, so the registry is open, and accepts the others.
      have opened := (wellFormed.find?_subscribe answered.symm).2.1
      obtain ⟨later, stillOpen⟩ := keeps ⟨wellFormed, opened⟩
      have stillHeld : 0 < next.outside handler := outside ▸ held
      have others : ∀ other ∈ rest, other.isBlank = false := fun other there =>
        named other (List.mem_cons_of_mem type there)
      obtain ⟨handles, accepted⟩ := subscribeEach_open config stillOpen later handler others
      have walk := ih later stillHeld others
      show Walk party hub ((Incident.request (.subscribeMany (type :: rest) handler)).tells party
        (.subscribedMany (((bus config fun _ _ => none).subscribeEach handler rest next).1.map
          (handle :: ·)))) ((bus config fun _ _ => none).subscribeEach handler rest next).2
      generalize (bus config fun _ _ => none).subscribeEach handler rest next = done
        at walk accepted ⊢
      obtain ⟨answer, last⟩ := done
      obtain rfl : answer = .ok handles := accepted
      exact stride.walk.trans walk

end Sections

/-- A publication leaves the clients with the references that they hold. -/
theorem publishAsync_frame (config : BusConfig) (hub : Hub) (runtime : Bool) (event : Event) :
    let next := ((bus config fun _ _ => none).publishAsync runtime event hub).2
    next.outside = hub.outside ∧ next.born = hub.born := by
  -- A flight takes references of its own, and the clients keep theirs.
  rw [publishAsync_eq]
  split
  · exact ⟨rfl, rfl⟩
  · exact ⟨rfl, rfl⟩
  · split <;> exact ⟨rfl, rfl⟩

section Steps

variable {config : BusConfig} (party : Party) {hub next : Hub} {incident : Incident}
  {answer : Answer}

/-- A request that is allowed is a walk, of which is told how it is answered. -/
theorem serve_walk (config : BusConfig) (wellFormed : hub.registry.WellFormed) {request : Request}
    (allowed : allows hub.outside hub.born request = true) :
    let done := serve (bus config fun _ _ => none) request hub
    Walk party hub ((Incident.request request).tells party done.1) done.2 := by
  -- A request is a section of the registry, a change of what clients hold, or nothing at all.
  cases request with
  | create handler =>
    have unborn : handler ∉ hub.born := by simpa [allows] using allowed
    exact (mortal_create unborn).walk rfl
  | clone handler =>
    have held : 0 < hub.outside handler := by simpa [allows] using allowed
    exact (mortal_take (alive_of_outside held)).walk rfl
  | release handler => exact (hub.mortal_giveUp handler).walk rfl
  | subscribe type handler =>
    have held : 0 < hub.outside handler := by simpa [allows] using allowed
    exact (subscribe_stride config party wellFormed type (alive_of_outside held)).walk
  | subscribeRetained type handler =>
    have held : 0 < hub.outside handler := by simpa [allows] using allowed
    -- The others are one section each, and are told as the registry answers them.
    have backed : hub.backs (.subscribe type handler true) = true := alive_of_outside held
    simp only [serve, bind, StateT.bind, subscribeRetained_eq]
    exact (Stride.of_section party wellFormed backed _).walk
  | subscribeMany types handler =>
    have held : 0 < hub.outside handler := by simpa [allows] using allowed
    simp only [serve, Bus.subscribeMany]
    -- One blank type is enough for nothing to happen.
    cases found : types.find? EventType.isBlank with
    | some blank => exact .stay
    | none =>
      refine subscribeEach_walk config party wellFormed held fun type there => ?_
      simpa using List.find?_eq_none.mp found type there
  | unsubscribe handle =>
    have backed : hub.backs (.unsubscribe handle) = true := rfl
    simp only [serve, bind, StateT.bind, unsubscribe_eq]
    exact (Stride.of_section party wellFormed backed _).walk
  | snapshot type =>
    simp only [serve, bind, StateT.bind, snapshot_eq]
    cases taken : hub.registry.snapshot hub.alive type with
    | error error => exact .stay
    | ok subscribers => exact (mortal_snapshot wellFormed taken).walk rfl
  | prune =>
    have backed : hub.backs .prune = true := rfl
    simp only [serve, bind, StateT.bind, prune_eq]
    exact (Stride.of_section party wellFormed backed _).walk
  | close =>
    have backed : hub.backs .close = true := rfl
    simp only [serve, bind, StateT.bind, close_eq]
    split <;> exact (Stride.of_section party wellFormed backed _).walk
  | size | isEmpty | types | isClosed => exact .stay

/-- Whatever happens at a hub is a walk, of which is told how it is answered. -/
theorem walk_of_step (wellFormed : hub.registry.WellFormed)
    (happened : hub.step? config incident = some (answer, next)) :
    Walk party hub (incident.tells party answer) next := by
  -- A request is a walk by itself; the others leave the registry alone, and revive nobody.
  have course := course happened
  cases incident with
  | request request =>
    simp only [step?, Option.ite_none_right_eq_some, Option.some.injEq] at happened
    obtain ⟨allowed, served⟩ := happened
    have walk := serve_walk party config wellFormed allowed
    rw [served] at walk
    exact walk
  | publishAsync runtime event =>
    have later : ((bus config fun _ _ => none).publishAsync runtime event hub).2 = next :=
      congrArg Prod.snd (Option.some.inj happened)
    have registry := (publishAsync_keeps config hub runtime event).1
    obtain ⟨outside, born⟩ := publishAsync_frame config hub runtime event
    rw [later] at registry outside born
    exact (mortal_of_course wellFormed course registry outside born).walk registry
  | move index move =>
    simp only [step?, bind, pure, Option.ite_none_right_eq_some, Option.bind_eq_some_iff,
      Option.some.injEq, Prod.mk.injEq] at happened
    obtain ⟨_, _, _, later, _, _, rfl⟩ := happened
    let moved : Hub := { hub with voyages := hub.voyages.set index later }
    have mortal : hub.Mortal moved := mortal_of_course wellFormed course rfl rfl rfl
    exact mortal.walk rfl

end Steps

end Hub

section Joining

variable (config : BusConfig) (party : Party) (group : SubscriptionGroup) (type : EventType)
  {handler : Handler} {hub : Hub} (wellFormed : hub.registry.WellFormed)

include wellFormed

/-- A group that has no member of the name subscribes a handler as a client would. -/
theorem SubscriptionGroup.subscribe_walk (living : hub.alive handler = true)
    (absent : group.find? type handler.name = none) :
    let done := group.subscribe (Hub.bus config fun _ _ => none) type handler hub
    Hub.Walk party hub
      ((Incident.request (.subscribeRetained type handler)).tells party (.subscribed done.1.2))
      done.2 := by
  -- A handler that is alive may be subscribed, so the section is a stride.
  have backed : hub.backs (.subscribe type handler true) = true := living
  have stride := Hub.Stride.of_section party wellFormed backed
    (hub.records ++ (hub.registry.subscribe hub.alive type handler true).records)
  rw [subscribe_absent config _ group type handler hub absent]
  simp only [Hub.tells] at stride
  cases answered : (hub.registry.subscribe hub.alive type handler true).answer with
  | error error | ok handle =>
    simp only [answered] at stride ⊢
    exact stride.walk

/-- A handler that joins a group is subscribed, unless the group has a member of its name. -/
theorem Joining.enact_walk {joining : Joining} (allowed : joining.allows handler hub = true) :
    let done := joining.enact group type handler (Hub.bus config fun _ _ => none) hub
    (∃ member, group.find? type handler.name = some member ∧ done.1.2 = .ok member.handle ∧
        Hub.Walk party hub [] done.2) ∨
      (group.find? type handler.name = none ∧
        Hub.Walk party hub
          ((Incident.request (.subscribeRetained type handler)).tells party
            (.subscribed done.1.2)) done.2) := by
  -- A handler that is held joins as it is.
  cases joining with
  | shared =>
    have held : 0 < hub.outside handler := by simpa [allows] using allowed
    cases found : group.find? type handler.name with
    | some member =>
      have known := group.subscribe_known config (fun _ _ => none) type handler hub found
      refine Or.inl ⟨member, rfl, congrArg (fun done => done.1.2) known, ?_⟩
      show Hub.Walk party hub []
        (group.subscribe (Hub.bus config fun _ _ => none) type handler hub).2
      rw [known]
      exact .stay
    | none =>
      have living := Hub.alive_of_outside held
      exact Or.inr ⟨rfl, group.subscribe_walk config party type wellFormed living found⟩
  | closure =>
    have unborn : handler ∉ hub.born := by simpa [allows] using allowed
    -- The handler is made, subscribed if nobody has its name, and let go of.
    let made : Hub := { hub.take handler with born := handler :: hub.born }
    have created : Hub.Walk party hub [] made := (Hub.mortal_create unborn).walk rfl
    have living : made.alive handler = true :=
      Hub.alive_of_outside (by simp [made, Hub.take])
    let joined := group.subscribe (Hub.bus config fun _ _ => none) type handler made
    have dropped : Hub.Walk party joined.2 [] (joined.2.giveUp handler) :=
      (joined.2.mortal_giveUp handler).walk rfl
    cases found : group.find? type handler.name with
    | some member =>
      have known : joined = ((group, .ok member.handle), made) :=
        group.subscribe_known config (fun _ _ => none) type handler made found
      have same : joined.2 = made := congrArg Prod.snd known
      rw [same] at dropped
      refine Or.inl ⟨member, rfl, congrArg (fun done => done.1.2) known, ?_⟩
      show Hub.Walk party hub [] (joined.2.giveUp handler)
      rw [same]
      exact created.trans dropped
    | none =>
      have wellFormed : made.registry.WellFormed := wellFormed
      have walk := group.subscribe_walk config party type wellFormed living found
      have whole := (created.trans walk).trans dropped
      rw [List.nil_append, List.append_nil] at whole
      exact Or.inr ⟨rfl, whole⟩

end Joining

/-- Ends of several subscriptions are a walk, of which each end that was found is told. -/
theorem Hub.endEach_walk {hub : Hub} (wellFormed : hub.registry.WellFormed) (party : Party)
    (handles : List SubscriptionHandle) :
    Walk party hub (hub.tellsEach party handles) (hub.endEach handles) := by
  -- The induction is on the handles, with a stride for each end.
  induction handles generalizing hub with
  | nil => exact .stay
  | cons handle rest ih =>
    have backed : hub.backs (.unsubscribe handle) = true := rfl
    have stride := Stride.of_section party wellFormed backed
      (hub.records ++ (hub.registry.unsubscribe hub.alive handle).records)
    have later : (hub.ended handle).registry.WellFormed := wellFormed.unsubscribe hub.alive handle
    exact stride.walk.trans (ih later)

namespace Assembly

/-- Whether a group answers for a member of a type and a name, if there is such a group. -/
def answersFor (assembly : Assembly) (index : Nat) (type : EventType) (name : String) : Bool :=
  ((assembly.group? index).bind (·.find? type name)).isSome

end Assembly

/-- What is told of a deed, by how it is answered. -/
def Deed.tells (assembly : Assembly) : Deed → Reply → List Occurrence
  | .occur incident, .answered answer => incident.tells .clients answer
  | .join index _ type handler, .joined (.ok handle) =>
    let call : Call := ⟨.group index, type, handler, handle⟩
    -- The registry is asked only about handlers that are no members.
    if assembly.answersFor index type handler.name then [.recalled call] else [.given call]
  | .remove index removal, _ =>
    match assembly.group? index with
    | some group => assembly.hub.tellsEach (.group index) (removal.taken group)
    | none => []
  | _, _ => []

namespace Assembly

variable {config : BusConfig} {assembly later : Assembly} {deed : Deed} {reply : Reply}

/-- A call that a group answers for one of its members. -/
structure Recalled (assembly : Assembly) (index : Nat) (call : Call) : Prop where
  party : call.party = .group index
  member : ∃ group, assembly.group? index = some group ∧
    ∃ member, group.find? call.type call.handler.name = some member ∧
      member.handle = call.handle

/-- A handler that joins a group without a member of its name is given what the registry answers. -/
theorem tells_join_absent {index : Nat} {group : SubscriptionGroup}
    (present : assembly.group? index = some group) {type : EventType} {handler : Handler}
    (absent : group.find? type handler.name = none) (joining : Joining)
    (answer : Except BusError SubscriptionHandle) :
    (Deed.join index joining type handler).tells assembly (.joined answer) =
      (Incident.request (.subscribeRetained type handler)).tells (.group index)
        (.subscribed answer) := by
  -- The group has no member to answer for, so what is told is the registry's answer.
  cases answer with
  | error error => rfl
  | ok handle =>
    simp only [Deed.tells, answersFor, present, Option.bind_some, absent, Option.isSome_none,
      Bool.false_eq_true, if_false]
    rfl

/-- Whatever is done is a walk of the hub, of which all is told but what a group recalls. -/
theorem walk_of_step (wellFormed : assembly.hub.registry.WellFormed)
    (happened : assembly.step? config deed = some (reply, later)) :
    Hub.Walk deed.party assembly.hub (deed.tells assembly reply) later.hub ∨
      ∃ index call, deed.tells assembly reply = [.recalled call] ∧
        assembly.Recalled index call ∧ Hub.Walk deed.party assembly.hub [] later.hub := by
  -- Each deed comes down to what it does at the hub.
  simp only [step?, bind, pure, Option.bind_eq_some_iff, Option.some.injEq, Prod.mk.injEq,
    Prod.exists] at happened
  obtain ⟨reply, hub, groups, effect, rfl, rfl⟩ := happened
  cases deed with
  | occur incident =>
    simp only [effect?, bind, pure, Option.bind_eq_some_iff, Option.some.injEq, Prod.mk.injEq,
      Prod.exists] at effect
    obtain ⟨answer, hub, stepped, rfl, rfl, rfl⟩ := effect
    exact Or.inl (Hub.walk_of_step .clients wellFormed stepped)
  | found =>
    simp only [effect?, Option.some.injEq, Prod.mk.injEq] at effect
    obtain ⟨rfl, rfl, rfl⟩ := effect
    exact Or.inl .stay
  | join index joining type handler =>
    obtain ⟨group, present, effect⟩ := Option.bind_eq_some_iff.mp effect
    have allowed : joining.allows handler assembly.hub = true := by
      refine Bool.of_not_eq_false fun refused => ?_
      simp [refused] at effect
    let done := joining.enact group type handler (Hub.bus config fun _ _ => none) assembly.hub
    have result : some (Reply.joined done.1.2, done.2,
        assembly.groups.set index (some done.1.1)) = some (reply, hub, groups) :=
      (if_pos allowed).symm.trans effect
    simp only [Option.some.injEq, Prod.mk.injEq] at result
    obtain ⟨rfl, rfl, rfl⟩ := result
    rcases Joining.enact_walk config (.group index) group type wellFormed allowed with
      ⟨member, found, answered, walk⟩ | ⟨absent, walk⟩
    · -- The group answers for its member, and the registry is not asked.
      refine Or.inr ⟨index, ⟨.group index, type, handler, member.handle⟩, ?_,
        ⟨rfl, group, present, member, found, rfl⟩, walk⟩
      have known : done.1.2 = .ok member.handle := answered
      simp only [Deed.tells, known, answersFor, present, Option.bind_some, found,
        Option.isSome_some, if_true]
    · rw [tells_join_absent present absent]
      exact Or.inl walk
  | remove index removal =>
    obtain ⟨group, present, effect⟩ := Option.bind_eq_some_iff.mp effect
    let done := removal.enact group (Hub.bus config fun _ _ => none) assembly.hub
    have result : some (done.1.1, done.2, assembly.groups.set index done.1.2) =
        some (reply, hub, groups) := effect
    obtain ⟨records, ended⟩ := @Removal.enact_hub config group assembly.hub removal
    -- After the ends of the subscriptions there is at most another record in the log.
    let left := assembly.hub.endEach (removal.taken group)
    have walk := Hub.endEach_walk wellFormed (.group index) (removal.taken group)
    have whole := walk.trans (.noted _ left left.calls records)
    rw [List.append_nil] at whole
    simp only [Option.some.injEq, Prod.mk.injEq] at result
    obtain ⟨rfl, rfl, rfl⟩ := result
    refine Or.inl ?_
    simp only [Deed.tells, present]
    exact ended ▸ whole

end Assembly

end EventBus
