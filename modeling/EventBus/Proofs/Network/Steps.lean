import EventBus.Proofs.Network.Basic

/-!
What a deed at a station does: to the references of the clients, to the record of what was granted,
and to who is alive and subscribed.
-/

namespace EventBus

/-- How many references to a handler the clients give up with a deed. -/
def Deed.releases (handler : Handler) : Deed → Nat
  | .occur (.request (.release other)) => if other = handler then 1 else 0
  | _ => 0

namespace Hub

variable (config : BusConfig) (hub : Hub)

/-- A subscription to several types leaves the clients with the references that they hold. -/
theorem subscribeEach_frame (handler : Handler) (types : List EventType) :
    ((bus config fun _ _ => none).subscribeEach handler types hub).2.outside = hub.outside := by
  -- The induction is on the types, with one subscription after the other.
  induction types generalizing hub with
  | nil => rfl
  | cons type rest ih =>
    have frame := (subscribe_frame config hub type handler).2
    rw [subscribeEach_cons]
    generalize (bus config fun _ _ => none).subscribe type handler hub = first at frame ⊢
    obtain ⟨answer, next⟩ := first
    cases answer with
    | error error => exact frame
    | ok handle => exact (ih next).trans frame

/-- Clients lose no references by a request but those that they give up. -/
theorem outside_le_serve (request : Request) (handler : Handler) :
    hub.outside handler ≤ (serve (bus config fun _ _ => none) request hub).2.outside handler +
      (Deed.occur (.request request)).releases handler := by
  -- Only a release takes a reference from the clients, and takes just one.
  cases request with
  | create other | clone other =>
    show hub.outside handler ≤ (hub.take other).outside handler + 0
    simp only [take]
    split <;> omega
  | release other =>
    show hub.outside handler ≤ (hub.giveUp other).outside handler + if other = handler then 1 else 0
    by_cases same : handler = other
    · simp only [giveUp, same, if_true]
      omega
    · simp only [giveUp, same, if_false]
      omega
  | subscribe type other =>
    have frame := (subscribe_frame config hub type other).2
    exact Nat.le_of_eq (congrFun frame handler).symm
  | subscribeMany types other =>
    simp only [serve, Bus.subscribeMany]
    cases types.find? EventType.isBlank with
    | some blank => exact Nat.le_refl _
    | none =>
      have frame := subscribeEach_frame config hub other types
      exact Nat.le_of_eq (congrFun frame handler).symm
  | snapshot type =>
    simp only [serve, bind, StateT.bind, snapshot_eq]
    cases hub.registry.snapshot hub.alive type with
    | error error => exact Nat.le_refl _
    | ok subscribers => exact Nat.le_add_right _ _
  | close =>
    simp only [serve, bind, StateT.bind, close_eq]
    split <;> exact Nat.le_refl _
  | subscribeRetained type other =>
    simp only [serve, bind, StateT.bind, subscribeRetained_eq]
    exact Nat.le_refl _
  | unsubscribe handle =>
    simp only [serve, bind, StateT.bind, unsubscribe_eq]
    exact Nat.le_refl _
  | prune =>
    simp only [serve, bind, StateT.bind, prune_eq]
    exact Nat.le_refl _
  | size | isEmpty | types | isClosed => exact Nat.le_refl _

end Hub

/-- A handler that joins a group leaves the clients with the references that they hold. -/
theorem SubscriptionGroup.subscribe_frame (config : BusConfig) (group : SubscriptionGroup)
    (type : EventType) (handler : Handler) (hub : Hub) :
    (group.subscribe (Hub.bus config fun _ _ => none) type handler hub).2.outside =
      hub.outside := by
  -- A group that answers for a member does not ask the bus, and the bus is asked for no reference.
  cases found : group.find? type handler.name with
  | some member => rw [subscribe_known _ _ _ _ _ _ found]
  | none =>
    rw [subscribe_absent _ _ _ _ _ _ found]
    rfl

/-- Wherever a handler comes from that joins a group, the clients keep what they hold. -/
theorem Joining.enact_frame (config : BusConfig) (group : SubscriptionGroup) (type : EventType)
    (handler : Handler) (hub : Hub) (joining : Joining) :
    (joining.enact group type handler (Hub.bus config fun _ _ => none) hub).2.outside =
      hub.outside := by
  cases joining with
  | shared => exact group.subscribe_frame config type handler hub
  | closure =>
    -- The reference that is taken when the handler is made is given up in the end.
    let made : Hub := { hub.take handler with born := handler :: hub.born }
    have frame := group.subscribe_frame config type handler made
    show ((group.subscribe (Hub.bus config fun _ _ => none) type handler made).2.giveUp
      handler).outside = hub.outside
    generalize (group.subscribe (Hub.bus config fun _ _ => none) type handler made).2 = joined
      at frame
    funext other
    simp only [Hub.giveUp, frame, made, Hub.take]
    split <;> omega

/-- Clients lose no references by a deed but those that they give up. -/
theorem Assembly.outside_le_of_step {config : BusConfig} {assembly later : Assembly} {deed : Deed}
    {reply : Reply} (happened : assembly.step? config deed = some (reply, later))
    (handler : Handler) :
    assembly.hub.outside handler ≤ later.hub.outside handler + deed.releases handler := by
  -- Of all deeds only a request of the clients can take references from them.
  simp only [step?, bind, pure, Option.bind_eq_some_iff, Option.some.injEq, Prod.mk.injEq,
    Prod.exists] at happened
  obtain ⟨reply, hub, groups, effect, rfl, rfl⟩ := happened
  cases deed with
  | occur incident =>
    simp only [effect?, bind, pure, Option.bind_eq_some_iff, Option.some.injEq, Prod.mk.injEq,
      Prod.exists] at effect
    obtain ⟨answer, hub, stepped, rfl, rfl, rfl⟩ := effect
    cases incident with
    | request request =>
      simp only [Hub.step?, Option.ite_none_right_eq_some, Option.some.injEq] at stepped
      obtain ⟨_, served⟩ := stepped
      have kept := Hub.outside_le_serve config assembly.hub request handler
      rw [served] at kept
      exact kept
    | publishAsync runtime event =>
      have later : ((Hub.bus config fun _ _ => none).publishAsync runtime event
          assembly.hub).2 = hub := congrArg Prod.snd (Option.some.inj stepped)
      have frame := (Hub.publishAsync_frame config assembly.hub runtime event).1
      rw [later] at frame
      exact Nat.le_of_eq (congrFun frame handler).symm
    | move index move =>
      simp only [Hub.step?, bind, pure, Option.ite_none_right_eq_some, Option.bind_eq_some_iff,
        Option.some.injEq, Prod.mk.injEq] at stepped
      obtain ⟨_, _, _, _, _, _, rfl⟩ := stepped
      exact Nat.le_refl _
  | found =>
    simp only [effect?, Option.some.injEq, Prod.mk.injEq] at effect
    obtain ⟨rfl, rfl, rfl⟩ := effect
    exact Nat.le_refl _
  | join index joining type other =>
    obtain ⟨group, present, effect⟩ := Option.bind_eq_some_iff.mp effect
    simp only [Option.ite_none_right_eq_some] at effect
    obtain ⟨_, result⟩ := effect
    cases result
    exact Nat.le_of_eq
      (congrFun (joining.enact_frame config group type other assembly.hub) handler).symm
  | remove index removal =>
    obtain ⟨group, present, effect⟩ := Option.bind_eq_some_iff.mp effect
    cases effect
    -- The end of subscriptions has nothing to do with what clients hold.
    obtain ⟨records, ended⟩ := @Removal.enact_hub config group assembly.hub removal
    have frame := (assembly.hub.endEach_frame (removal.taken group)).1
    show assembly.hub.outside handler ≤
      (removal.enact group (Hub.bus config fun _ _ => none) assembly.hub).2.outside handler + 0
    rw [ended]
    exact Nat.le_of_eq (congrFun frame handler).symm

namespace Hub

namespace Mortal

variable {first second third : Hub}

/-- Nobody comes back in two steps if nobody does in either. -/
theorem trans (here : first.Mortal second) (there : second.Mortal third) : first.Mortal third where
  born handler before := there.born handler (here.born handler before)
  living handler living := by
    -- Whoever is alive in the end was alive in between, or has come into being since.
    rcases there.living handler living with between | ⟨unborn, new⟩
    · exact (here.living handler between).imp_right fun both => ⟨both.1, there.born handler both.2⟩
    · exact Or.inr ⟨fun before => unborn (here.born handler before), new⟩

end Mortal

/-- Nobody comes back on a walk. -/
theorem Walk.mortal {party : Party} {hub next : Hub} {told : List Occurrence}
    (walk : Walk party hub told next) : hub.Mortal next := by
  -- The induction is on the walk, stride by stride.
  induction walk with
  | stay => exact .of_fading rfl fun _ living => living
  | on _ stride ih =>
    cases stride with
    | idle _ mortal | changed _ _ mortal => exact ih.trans mortal

/-- Whoever is alive or subscribed at a hub has come into being. -/
structure Peopled (hub : Hub) : Prop where
  wellFormed : hub.registry.WellFormed
  living : ∀ handler, hub.alive handler = true → handler ∈ hub.born
  stored : ∀ {type : EventType} {entry : Entry}, entry ∈ hub.registry.entries type →
    entry.handler ∈ hub.born

namespace Peopled

variable {hub next : Hub} (peopled : hub.Peopled)

include peopled

/-- Whoever is alive after a step has come into being. -/
theorem living_of_mortal (mortal : hub.Mortal next) {handler : Handler}
    (living : next.alive handler = true) : handler ∈ next.born := by
  -- Whoever is alive was alive before, or has come into being in the step.
  rcases mortal.living handler living with before | ⟨_, new⟩
  · exact mortal.born handler (peopled.living handler before)
  · exact new

/-- Only handlers that have come into being are subscribed in a stride. -/
theorem stride {party : Party} {told : List Occurrence} (stride : Stride party hub told next) :
    next.Peopled := by
  cases stride with
  | idle registry mortal =>
    exact ⟨registry ▸ peopled.wellFormed, fun _ => peopled.living_of_mortal mortal,
      fun there => mortal.born _ (peopled.stored (registry ▸ there))⟩
  | @changed change _ backed registry mortal =>
    refine ⟨registry ▸ peopled.wellFormed.change hub.alive change,
      fun _ => peopled.living_of_mortal mortal, fun {type entry} there => mortal.born _ ?_⟩
    rw [registry] at there
    cases peopled.wellFormed.origin there with
    | earlier earlier stored continues _ => exact continues.handler_eq ▸ peopled.stored stored
    | made later _ =>
      -- A new entry belongs to a handler that somebody passes on.
      obtain ⟨retain, rfl, _⟩ := peopled.wellFormed.made_of_new there later
      exact peopled.living _ backed

/-- Only handlers that have come into being are subscribed on a walk. -/
theorem walk {party : Party} {told : List Occurrence} (walk : Walk party hub told next) :
    next.Peopled := by
  -- The induction is on the walk, stride by stride.
  induction walk with
  | stay => exact peopled
  | on _ stride ih => exact ih.stride stride

end Peopled

end Hub

/-- A subscription that is refused leaves the registry as it was. -/
theorem Registry.subscribe_refused {registry : Registry} {alive : Handler → Bool}
    {type : EventType} {handler : Handler} {retain : Bool} {error : BusError}
    (answered : (registry.subscribe alive type handler retain).answer = .error error) :
    (registry.subscribe alive type handler retain).registry = registry := by
  -- Both ways of accepting the subscription answer with a handle.
  rcases registry.subscribe_cases alive type handler retain with
    ⟨_, refused⟩ | ⟨_, _, ⟨_, _, made⟩ | ⟨_, made⟩⟩
  · rw [refused]
    rfl
  · rw [made] at answered
    cases answered
  · rw [made] at answered
    cases answered

/-- An incident other than a retained subscription is granted nothing. -/
theorem Incident.ungranted {incident : Incident}
    (other : ∀ type handler, incident ≠ .request (.subscribeRetained type handler))
    (assembly : Assembly) (answer : Answer) :
    (Deed.occur incident).granted assembly (.answered answer) = [] ∧
      ∀ change ∈ incident.changes, ∀ type handler, change ≠ .subscribe type handler true := by
  -- No other request asks for a retained subscription.
  cases incident with
  | request request =>
    cases request with
    | subscribeRetained type handler => exact absurd rfl (other type handler)
    | subscribeMany types handler =>
      refine ⟨rfl, fun change made => ?_⟩
      obtain ⟨type, _, rfl⟩ := List.mem_map.mp made
      exact fun _ _ => nofun
    | _ => exact ⟨rfl, by simp [Incident.changes, Request.changes]⟩
  | _ => exact ⟨rfl, fun _ made => absurd made List.not_mem_nil⟩

namespace Assembly

variable {config : BusConfig} {assembly later : Assembly} {deed : Deed} {reply : Reply}
  {granted : List SubscriptionHandle}

/-- An incident adds to the record what was granted in it. -/
theorem charters_of_occur (charters : assembly.hub.registry.Charters granted) {incident : Incident}
    {answer : Answer} {hub : Hub}
    (happened : assembly.hub.step? config incident = some (answer, hub)) :
    hub.registry.Charters
      (granted ++ (Deed.occur incident).granted assembly (.answered answer)) := by
  -- A retained subscription is granted what it is answered; nothing else adds to the record.
  by_cases retained : ∃ type handler, incident = .request (.subscribeRetained type handler)
  · obtain ⟨type, handler, rfl⟩ := retained
    simp only [Hub.step?, Option.ite_none_right_eq_some, Option.some.injEq, Hub.serve, bind,
      StateT.bind, Hub.subscribeRetained_eq] at happened
    obtain ⟨_, served⟩ := happened
    cases served
    cases answered :
        (assembly.hub.registry.subscribe assembly.hub.alive type handler true).answer with
    | ok handle => exact charters.grant answered
    | error error =>
      show (assembly.hub.registry.subscribe assembly.hub.alive type handler
        true).registry.Charters (granted ++ [])
      rw [Registry.subscribe_refused answered, List.append_nil]
      exact charters
  · obtain ⟨nothing, weak⟩ := Incident.ungranted
      (fun type handler same => retained ⟨type, handler, same⟩) assembly answer
    rw [nothing, List.append_nil]
    exact Hub.registry_survives (fun change made => .survives (weak change made)) happened charters

/-- A handler that joins a group is granted its subscription, unless the group answers for it. -/
theorem charters_of_join (charters : assembly.hub.registry.Charters granted) {index : Nat}
    {group later : SubscriptionGroup} (present : assembly.group? index = some group)
    {type : EventType} {handler : Handler} {answer : Except BusError SubscriptionHandle}
    {registry : Registry} (joining : Joining)
    (joined : group.Joined assembly.hub.registry type handler (later, answer) registry) :
    registry.Charters
      (granted ++ (Deed.join index joining type handler).granted assembly (.joined answer)) := by
  -- What is granted depends on whether the group has a member of the name.
  have asked : assembly.answersFor index type handler.name =
      (group.find? type handler.name).isSome := by
    rw [answersFor, present, Option.bind_some]
  cases joined with
  | known found =>
    simp only [Deed.granted, asked, found, Option.isSome_some, if_true, List.append_nil]
    exact charters
  | refused absent answered =>
    rw [Registry.subscribe_refused answered]
    simp only [Deed.granted, List.append_nil]
    exact charters
  | added absent answered =>
    simp only [Deed.granted, asked, absent, Option.isSome_none, Bool.false_eq_true, if_false]
    exact charters.grant answered

/-- A deed adds to the record what was granted in it, and the registry goes by the record. -/
theorem charters_of_step (charters : assembly.hub.registry.Charters granted)
    (happened : assembly.step? config deed = some (reply, later)) :
    later.hub.registry.Charters (granted ++ deed.granted assembly reply) := by
  have effect := (effect_of_step happened).1
  generalize later.hub = hub at effect
  generalize later.groups = groups at effect
  -- Founding groups and taking members out of them grants nothing.
  cases effect with
  | occur happened => exact charters_of_occur charters happened
  | found =>
    show assembly.hub.registry.Charters (granted ++ [])
    rw [List.append_nil]
    exact charters
  | @join _ joining _ _ _ _ _ _ present joined attainable =>
    exact charters_of_join charters present joining joined
  | @remove index removal group reply records present silent =>
    show (assembly.hub.endEach (removal.taken group)).registry.Charters (granted ++ [])
    rw [List.append_nil]
    exact Hub.endEach_keeps (fun _ _ => .survives fun _ _ => nofun) charters

end Assembly

end EventBus
