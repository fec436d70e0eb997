import EventBus.Proofs.Network.Ownership

/-!
Buses and types keep out of each other's way. Whatever is done elsewhere, a registry keeps its
entries, and all that it can notice is that a handler has lost its last owner.
-/

namespace EventBus

/-- Whether a change is a subscription to another type, or the end of one. -/
def Change.spares (type : EventType) : Change → Bool
  | .subscribe other .. => other ≠ type
  | .unsubscribe handle => handle.type ≠ type
  | .prune | .close => false

namespace Registry

variable {registry : Registry} {alive : Handler → Bool} {type : EventType}

/-- A change that concerns other types leaves the entries of a type as they are. -/
theorem WellFormed.entries_change (wellFormed : registry.WellFormed) (alive : Handler → Bool)
    {change : Change} (spares : change.spares type = true) :
    (registry.change alive change).entries type = registry.entries type := by
  -- A subscription or an unsubscription only writes to the list of its own type.
  cases change with
  | subscribe asked handler retain =>
    have other : ¬type = asked := Ne.symm (by simpa [Change.spares] using spares)
    rcases registry.subscribe_cases alive asked handler retain with
      ⟨error, refused⟩ | ⟨_, _, ⟨existing, _, made⟩ | ⟨_, made⟩⟩
    · rw [Registry.change, refused]
      rfl
    · rw [Registry.change, made, entries_setEntries, if_neg other]
    · rw [Registry.change, made, entries_setEntries, if_neg other]
      rfl
  | unsubscribe handle =>
    have other : ¬type = handle.type := Ne.symm (by simpa [Change.spares] using spares)
    rcases wellFormed.unsubscribe_cases alive handle with ⟨_, same⟩ | ⟨_, _, made⟩
    · rw [Registry.change, same]
    · rw [Registry.change, made, entries_setEntries, if_neg other]
  | prune => cases spares
  | close => cases spares

/-- A registry hands out handles of its own. -/
theorem registry_of_subscribe {handler : Handler} {retain : Bool} {handle : SubscriptionHandle}
    (answered : (registry.subscribe alive type handler retain).answer = .ok handle) :
    handle.registry = registry.id := by
  -- Whether the subscription is found or made, its handle is one of the registry.
  rcases registry.subscribe_cases alive type handler retain with
    ⟨error, refused⟩ | ⟨_, _, ⟨existing, _, made⟩ | ⟨_, made⟩⟩
  · rw [refused] at answered
    cases answered
  · rw [made] at answered
    cases answered
    rfl
  · rw [made] at answered
    cases answered
    rfl

/-- No change gives a registry another id. -/
theorem kept_id (id : Nat) : Kept fun registry => registry.WellFormed ∧ registry.id = id :=
  -- Every registry that follows on another one has its id.
  .of_survives fun change _ alive held =>
    ⟨held.1.change alive change, (held.1.succeeds_change alive change).id_eq.trans held.2⟩

/-- A registry does not find the handle of another one. -/
theorem find?_foreign {handle : SubscriptionHandle} (foreign : handle.registry ≠ registry.id) :
    registry.find? handle = none := if_neg foreign

end Registry

namespace Hub

variable {config : BusConfig} {hub next : Hub}

/-- What several subscriptions are answered with are handles of the registry. -/
theorem registry_of_subscribeEach (wellFormed : hub.registry.WellFormed) {handler : Handler}
    {types : List EventType} {handles : List SubscriptionHandle}
    (answered : ((bus config fun _ _ => none).subscribeEach handler types hub).1 = .ok handles) :
    ∀ handle ∈ handles, handle.registry = hub.registry.id := by
  -- The induction is on the types, with a registry that keeps its id.
  induction types generalizing hub handles with
  | nil =>
    cases answered
    exact fun _ there => absurd there List.not_mem_nil
  | cons type rest ih =>
    have first := (subscribe_frame config hub type handler).1
    obtain ⟨_, keeps⟩ := subscribe_keeps config (fun _ _ => none) hub
      ((Registry.kept_id hub.registry.id).survives (.subscribe type handler false))
    rw [subscribeEach_cons] at answered
    generalize (bus config fun _ _ => none).subscribe type handler hub = done
      at first keeps answered
    obtain ⟨answer, later⟩ := done
    obtain ⟨wellFormed, same⟩ := keeps ⟨wellFormed, rfl⟩
    cases answer with
    | error error => cases answered
    | ok handle =>
      have others := @ih later wellFormed
      dsimp only at answered
      generalize (bus config fun _ _ => none).subscribeEach handler rest later = series
        at others answered
      obtain ⟨answer, last⟩ := series
      cases answer with
      | error error => cases answered
      | ok more =>
        -- The first handle comes before all that the rest of the series is answered with.
        cases answered
        intro given there
        rcases List.mem_cons.mp there with rfl | there
        · exact Registry.registry_of_subscribe first.symm
        · exact (others rfl given there).trans same

/-- The handle in an answer is one of the registry if every handle of the subscription is. -/
theorem registry_of_answer {answer : Except BusError SubscriptionHandle} {id : Nat}
    (own : ∀ handle, answer = .ok handle → handle.registry = id) :
    ∀ handle ∈ (Answer.subscribed answer).handles, handle.registry = id := by
  -- A refusal has no handle in it.
  cases answer with
  | error error => exact fun _ there => absurd there List.not_mem_nil
  | ok handle => simpa [Answer.handles] using own handle rfl

/-- The handles that a hub answers with are those of its registry. -/
theorem registry_of_handles (wellFormed : hub.registry.WellFormed) {incident : Incident}
    {answer : Answer} (happened : hub.step? config incident = some (answer, next)) :
    ∀ handle ∈ answer.handles, handle.registry = hub.registry.id := by
  -- Only what is answered to a subscription has handles in it.
  have silent : ∀ {answer : Answer}, answer.handles = [] →
      ∀ handle ∈ answer.handles, handle.registry = hub.registry.id :=
    fun none handle there => absurd (none ▸ there) List.not_mem_nil
  cases incident with
  | publishAsync runtime event =>
    cases happened
    exact silent rfl
  | move index move =>
    simp only [step?, bind, pure, Option.ite_none_right_eq_some, Option.bind_eq_some_iff,
      Option.some.injEq, Prod.mk.injEq] at happened
    obtain ⟨_, _, _, _, _, rfl, _⟩ := happened
    exact silent rfl
  | request request =>
    simp only [step?, Option.ite_none_right_eq_some, Option.some.injEq] at happened
    obtain ⟨_, served⟩ := happened
    obtain rfl := congrArg Prod.fst served
    cases request with
    | subscribe type handler =>
      have first := (subscribe_frame config hub type handler).1
      rw [show (serve (bus config fun _ _ => none) (.subscribe type handler) hub).1 =
        .subscribed _ from congrArg Answer.subscribed first]
      exact registry_of_answer fun _ => Registry.registry_of_subscribe
    | subscribeRetained type handler =>
      exact registry_of_answer fun _ => Registry.registry_of_subscribe
    | subscribeMany types handler =>
      simp only [serve, Bus.subscribeMany]
      cases types.find? EventType.isBlank with
      | some blank => exact silent rfl
      | none =>
        have series := @registry_of_subscribeEach config hub wellFormed handler types
        show ∀ handle ∈ (Answer.subscribedMany
          ((bus config fun _ _ => none).subscribeEach handler types hub).1).handles, _
        generalize ((bus config fun _ _ => none).subscribeEach handler types hub).1 = answer
          at series
        cases answer with
        | error error => exact silent rfl
        | ok handles => exact series rfl
    | close =>
      simp only [serve, bind, StateT.bind, close_eq]
      split <;> exact silent rfl
    | snapshot type =>
      simp only [serve, bind, StateT.bind, snapshot_eq]
      exact silent rfl
    | _ => exact silent rfl

end Hub

namespace Assembly

/-- All handles that are about in an assembly are those of the registry with an id. -/
structure Numbered (id : Nat) (assembly : Assembly) : Prop where
  wellFormed : assembly.hub.registry.WellFormed
  id_eq : assembly.hub.registry.id = id
  asked : ∀ party handle, (party, handle) ∈ assembly.asked → handle.registry = id
  members : ∀ index group, assembly.group? index = some group →
    ∀ member ∈ group.members, member.handle.registry = id

variable {id : Nat} {config : BusConfig} {assembly later : Assembly} {deed : Deed} {reply : Reply}

/-- An assembly begins with a registry that nobody has a handle of. -/
theorem numbered_new (id : Nat) : (Assembly.new id).Numbered id where
  -- Nobody has been given anything yet.
  wellFormed := Registry.wellFormed_new id
  id_eq := rfl
  asked := by simp [Assembly.new]
  members := by simp [Assembly.new, group?]

namespace Numbered

variable (numbered : assembly.Numbered id)

include numbered

/-- The handles that are given with a reply are those of the registry. -/
theorem handles {hub : Hub} {groups : List (Option SubscriptionGroup)}
    (effect : Effect config assembly deed reply hub groups) :
    ∀ handle ∈ reply.handles, handle.registry = id := by
  cases effect with
  | occur happened =>
    intro handle there
    exact (Hub.registry_of_handles numbered.wellFormed happened handle there).trans numbered.id_eq
  | found => exact fun _ there => absurd there List.not_mem_nil
  | remove present silent => exact fun _ there => absurd (silent ▸ there) List.not_mem_nil
  | @join index joining type handler group joined answer hub present result attainable =>
    generalize hub.registry = registry at result
    cases result with
    | known found =>
      -- The group answers with a handle that one of its members has.
      have listed := (SubscriptionGroup.of_find? found).1
      simpa [Reply.handles] using numbered.members _ _ present _ listed
    | refused absent answered => exact fun _ there => absurd there List.not_mem_nil
    | added absent answered =>
      have own := Registry.registry_of_subscribe answered
      simpa [Reply.handles] using own.trans numbered.id_eq

/-- Whatever is done in an assembly, only handles of its registry are given. -/
theorem step (happened : assembly.step? config deed = some (reply, later)) :
    later.Numbered id := by
  -- What is newly given comes from the registry, and everything else was given before.
  obtain ⟨effect, asked, _⟩ := effect_of_step happened
  obtain ⟨wellFormed, same⟩ := effect.registry_survives
    (fun change _ => (Registry.kept_id id).survives change) ⟨numbered.wellFormed, numbered.id_eq⟩
  refine ⟨wellFormed, same, fun party handle there => ?_,
    fun index group present member listed => ?_⟩
  · rw [asked] at there
    rcases List.mem_append.mp there with before | new
    · exact numbered.asked party handle before
    · obtain ⟨given, listed, same⟩ := List.mem_map.mp new
      cases same
      exact numbered.handles effect handle listed
  · -- A member was there before, or it has just been given a handle of the registry.
    have became := effect.became present
    cases became with
    | same before idle => exact numbered.members _ _ before member listed
    | empty => exact absurd listed List.not_mem_nil
    | grown before own idle given absent answered later =>
      rcases List.mem_append.mp listed with old | new
      · exact numbered.members _ _ before member old
      · rw [List.mem_singleton.mp new]
        exact (Registry.registry_of_subscribe answered).trans numbered.id_eq
    | shrunk before used =>
      exact numbered.members _ _ before member (List.mem_of_mem_eraseP listed)

end Numbered

/-- A registry that is given the handle of another one neither finds nor changes anything. -/
theorem step?_foreign (opened : assembly.hub.registry.closed = false) {handle : SubscriptionHandle}
    (foreign : handle.registry ≠ assembly.hub.registry.id) :
    assembly.step? config (.occur (.request (.unsubscribe handle))) =
      some (.answered (.unsubscribed (.ok false)), assembly) := by
  -- A foreign handle is answered with no, finds nothing and is not counted as an end.
  have unchanged : assembly.hub.registry.unsubscribe assembly.hub.alive handle =
      assembly.hub.registry.unchanged (.ok false) :=
    Registry.unsubscribe_foreign opened foreign
  have nowhere := Registry.find?_foreign foreign
  have still : assembly.hub.ended handle = assembly.hub := by
    rw [Hub.ended, unchanged, Hub.after, Registry.unchanged, List.append_nil]
  have uses : (Deed.occur (.request (.unsubscribe handle))).uses assembly = [handle] := rfl
  simp only [step?, effect?, Hub.step?_unsubscribe, unchanged, still, uses, bind, pure,
    Option.bind_some, List.filter_cons, nowhere]
  simp [Registry.unchanged, Reply.handles, Answer.handles]

end Assembly

namespace Network

/-- Every station has the registry of its place, and no other handles than those of its own. -/
def Numbered (network : Network) : Prop :=
  ∀ (index : Nat) (station : Station), network.stations[index]? = some station →
    station.assembly.Numbered index

variable {network later : Network}

/-- Whatever happens in a network, its stations keep to their own handles. -/
theorem Numbered.step (numbered : network.Numbered) {act : NetworkAct}
    (happened : network.step? act = some later) : later.Numbered := by
  intro index station there
  -- A network grows by a station, or one of its stations does something.
  cases stepped happened with
  | built config =>
    rw [List.getElem?_append] at there
    split at there
    · exact numbered index station there
    · -- The station that is new has the id that comes after all others.
      rename_i beyond
      rw [List.getElem?_singleton] at there
      split at there
      · rename_i first
        have last : index = network.stations.length := by omega
        cases there
        exact last ▸ Assembly.numbered_new _
      · cases there
  | @done other before deed reply assembly present allowed done =>
    have seen : (network.view other before).Numbered other :=
      let own := numbered other before present
      ⟨own.wellFormed, own.id_eq, own.asked, own.members⟩
    have next := seen.step done
    by_cases hit : other = index
    · subst hit
      rw [settle, List.getElem?_set_self (List.getElem?_eq_some_iff.mp present).1] at there
      cases there
      exact next
    · rw [settle, List.getElem?_set_ne hit] at there
      exact numbered index station there

/-- What a station notes is no handle. -/
theorem Numbered.note (numbered : network.Numbered) {other : Nat} {before : Station}
    (present : network.stations[other]? = some before) (calls : List (Handler × Event))
    (records : List LogRecord) : (network.note other before calls records).Numbered := by
  -- Only calls and records are noted, and the station stays the same otherwise.
  intro index station there
  by_cases hit : other = index
  · subst hit
    rw [Network.note, List.getElem?_set_self (List.getElem?_eq_some_iff.mp present).1] at there
    cases there
    have own := numbered other before present
    exact ⟨own.wellFormed, own.id_eq, own.asked, own.members⟩
  · rw [Network.note, List.getElem?_set_ne hit] at there
    exact numbered index station there

/-- In all networks that can come about, the stations keep to their own handles. -/
theorem Reachable.numbered (reachable : network.Reachable) : network.Numbered := by
  -- The induction is on how the network came about.
  have led : empty.Leads network := reachable
  clear reachable
  induction led with
  | here => exact fun _ _ there => nomatch there
  | step _ happened ih => exact ih.step happened
  | noted _ there calls records ih => exact ih.note there calls records

/-- The networks to which a network leads by acts of a kind; anything may be noted besides. -/
inductive LeadsBy (kind : Network → NetworkAct → Prop) (network : Network) : Network → Prop
  | here : LeadsBy kind network network
  | step {before later : Network} {act : NetworkAct} (led : LeadsBy kind network before)
    (fits : kind before act) (happened : before.step? act = some later) : LeadsBy kind network later
  | noted {before : Network} (led : LeadsBy kind network before) {index : Nat} {station : Station}
    (there : before.stations[index]? = some station) (calls : List (Handler × Event))
    (records : List LogRecord) : LeadsBy kind network (before.note index station calls records)

/-- Acts of a kind lead to no other networks than all acts do. -/
theorem LeadsBy.leads {kind : Network → NetworkAct → Prop} (led : network.LeadsBy kind later) :
    network.Leads later := by
  -- The kind of the acts is forgotten.
  induction led with
  | here => exact .here
  | step _ _ happened ih => exact ih.step happened
  | noted _ there calls records ih => exact ih.noted there calls records

/-- Whether an act is done elsewhere than at the station of an index. -/
def avoids (index : Nat) (_ : Network) : NetworkAct → Prop
  | .build _ => True
  | .deed other _ => other ≠ index

/-- Whether an act is done elsewhere, or subscribes and unsubscribes for other types only. -/
def spares (index : Nat) (type : EventType) (network : Network) : NetworkAct → Prop
  | .build _ => True
  | .deed other deed => ∀ station, other = index → network.stations[other]? = some station →
      ∀ change ∈ deed.changes (network.view other station), change.spares type = true

/-- A registry keeps what survives all that is done at its own station. -/
theorem LeadsBy.keeps {kind : Network → NetworkAct → Prop} {index : Nat}
    (property : Registry → Prop)
    (survives : ∀ (before : Network) (station : Station) (deed : Deed),
      before.stations[index]? = some station → kind before (.deed index deed) →
      ∀ change ∈ deed.changes (before.view index station), Registry.Survives property change)
    (led : network.LeadsBy kind later) {station : Station}
    (there : network.stations[index]? = some station) (held : property station.registry) :
    ∃ now, later.stations[index]? = some now ∧ property now.registry := by
  -- By induction on the network: only deeds at the station touch its registry.
  induction led with
  | here => exact ⟨station, there, held⟩
  | @step before later act led fits happened ih =>
    obtain ⟨now, present, held⟩ := ih
    cases stepped happened with
    | built config =>
      refine ⟨now, ?_, held⟩
      rw [List.getElem?_append_left (List.getElem?_eq_some_iff.mp present).1]
      exact present
    | @done other acting deed reply assembly place allowed done =>
      by_cases hit : other = index
      · subst hit
        obtain rfl : acting = now := Option.some.inj (place.symm.trans present)
        have effect := (Assembly.effect_of_step done).1
        exact ⟨_, List.getElem?_set_self (List.getElem?_eq_some_iff.mp present).1,
          effect.registry_survives (survives before acting deed present fits) held⟩
      · -- A deed elsewhere puts nothing in the place of the station.
        refine ⟨now, ?_, held⟩
        rw [settle, List.getElem?_set_ne hit]
        exact present
  | @noted before _ other acting place calls records ih =>
    obtain ⟨now, present, held⟩ := ih
    by_cases hit : other = index
    · subst hit
      obtain rfl : acting = now := Option.some.inj (place.symm.trans present)
      exact ⟨_, List.getElem?_set_self (List.getElem?_eq_some_iff.mp present).1, held⟩
    · refine ⟨now, ?_, held⟩
      rw [Network.note, List.getElem?_set_ne hit]
      exact present

/-- The entries of a type are as they were, but some weak ones may have lost their handlers. -/
structure Fades (network later : Network) (type : EventType) (registry now : Registry) : Prop where
  entries_eq : now.entries type = registry.entries type
  live_eq : now.live later.alive type =
    (registry.live network.alive type).filter (Entry.isAlive later.alive)
  ended : ∀ entry ∈ registry.live network.alive type, entry ∉ now.live later.alive type →
    entry.retained = false ∧ later.owners entry.handler = 0

/-- Entries that nobody touches fade at most. -/
theorem Leads.fades (led : network.Leads later) (sound : network.Sound) {station : Station}
    (listed : station ∈ network.stations) {type : EventType} {now : Registry}
    (same : now.entries type = station.registry.entries type) :
    network.Fades later type station.registry now := by
  -- Whoever is subscribed has come into being, so it cannot have come back to life.
  have lived : ∀ entry ∈ station.registry.entries type, entry.isAlive later.alive = true →
      entry.isAlive network.alive = true := by
    intro entry stored living
    simp only [Entry.isAlive, Bool.or_eq_true] at living ⊢
    refine living.imp_right fun living => Bool.of_not_eq_false fun dead => ?_
    have gone := led.gone sound ⟨sound.stored station listed stored, dead⟩
    exact absurd (living.symm.trans gone.2) (by decide)
  -- What is alive now was alive before, so the filter by it is the stronger one.
  refine ⟨same, ?_, fun entry before lost => ?_⟩
  · rw [Registry.live, Registry.live, same, List.filter_filter]
    refine List.filter_congr fun entry stored => ?_
    cases living : entry.isAlive later.alive with
    | true => rw [lived entry stored living, Bool.and_self]
    | false => rw [Bool.false_and]
  · have stored := List.mem_of_mem_filter before
    have dead : entry.isAlive later.alive = false := by
      refine Bool.eq_false_iff.mpr fun living => lost (List.mem_filter.mpr ⟨?_, living⟩)
      rw [same]
      exact stored
    simp only [Entry.isAlive, Bool.or_eq_false_iff] at dead
    refine ⟨dead.1, ?_⟩
    simpa [alive] using dead.2

/--
Buses are isolated from each other, and so are the types of a bus.

Whatever is done at other buses, a bus keeps its registry. An open bus neither finds nor changes
anything for a handle that another bus has given, even if it has given an equal id for the same type
itself. Whatever is done elsewhere or for other types, the entries of a type stay what they are. All
that can reach them from there is that the handlers of weak ones lose their last owners.
-/
theorem buses_isolated (reachable : network.Reachable) {index : Nat} {station : Station}
    (there : network.stations[index]? = some station) :
    (∀ later, network.LeadsBy (avoids index) later → ∃ now, later.stations[index]? = some now ∧
      now.registry = station.registry ∧
      ∀ type, network.Fades later type station.registry now.registry) ∧
    (station.registry.closed = false → ∀ (other : Nat) (issuer : Station),
      network.stations[other]? = some issuer → other ≠ index → ∀ party handle,
        (party, handle) ∈ issuer.assembly.asked →
          (network.view index station).step? station.config
            (.occur (.request (.unsubscribe handle))) =
              some (.answered (.unsubscribed (.ok false)), network.view index station)) ∧
    (∀ type later, network.LeadsBy (spares index type) later →
      ∃ now, later.stations[index]? = some now ∧
        network.Fades later type station.registry now.registry) := by
  -- Everything that is said follows from what all networks keep, and from what the acts spare.
  have sound : network.Sound := Leads.sound reachable sound_empty
  have listed : station ∈ network.stations := List.mem_of_getElem? there
  refine ⟨fun later led => ?_, fun opened other issuer place elsewhere party handle asked => ?_,
    fun type later led => ?_⟩
  · obtain ⟨now, present, same⟩ := led.keeps (· = station.registry)
      (fun _ _ _ _ fits => absurd rfl fits) there rfl
    exact ⟨now, present, same, fun type => led.leads.fades sound listed (by rw [same])⟩
  · -- The handle tells which registry it comes from, and no two have the same id.
    have numbered := Reachable.numbered reachable
    have issued := (numbered other issuer place).asked party handle asked
    have own : station.registry.id = index := (numbered index station there).id_eq
    have foreign : handle.registry ≠ station.registry.id := fun same =>
      elsewhere (issued.symm.trans (same.trans own))
    exact (network.view index station).step?_foreign opened foreign
  · -- For other types nothing of the kind is changed, so the entries of the type stay.
    obtain ⟨now, present, wellFormed, same⟩ := led.keeps
      (fun registry => registry.WellFormed ∧
        registry.entries type = station.registry.entries type)
      (fun before acting deed place fits change made registry alive held =>
        ⟨held.1.change alive change,
          (held.1.entries_change alive (fits acting rfl place change made)).trans held.2⟩)
      there ⟨(sound.charters station listed).wellFormed, rfl⟩
    exact ⟨now, present, led.leads.fades sound listed same⟩

/-- A list of acts of a kind leads by that kind. -/
theorem LeadsBy.run? {kind : Network → NetworkAct → Prop} {acts : List NetworkAct}
    (fits : ∀ before, ∀ act ∈ acts, kind before act) (ran : network.run? acts = some later) :
    network.LeadsBy kind later := by
  -- The acts are done one after the other, and each of them is of the kind.
  have onward : ∀ (before : Network), network.LeadsBy kind before → before.run? acts = some later →
      network.LeadsBy kind later := by
    clear ran
    induction acts with
    | nil =>
      intro before led ran
      cases ran
      exact led
    | cons act rest ih =>
      intro before led ran
      unfold Network.run? at ran
      split at ran
      · cases ran
      · rename_i next happened
        exact ih (fun before act there => fits before act (List.mem_cons_of_mem _ there)) next
          (led.step (fits before act List.mem_cons_self) happened) ran
  exact onward network .here ran

/-- A handler is subscribed at two buses, which answer with the same id for the same type. -/
def sharedHandler : List NetworkAct :=
  let worker : Handler := ⟨1, "worker"⟩
  [.build {}, .build {}, .deed 0 (.occur (.request (.create worker))),
    .deed 0 (.occur (.request (.subscribe ⟨"order"⟩ worker))),
    .deed 1 (.occur (.request (.subscribe ⟨"order"⟩ worker)))]

/-- The second bus does not know the handle of the first one, and loses its subscriber to it. -/
theorem sharedHandler_isolated :
    let worker : Handler := ⟨1, "worker"⟩
    let order : EventType := ⟨"order"⟩
    ∃ (network later : Network) (issuer station now : Station),
      empty.run? sharedHandler = some network ∧
      network.stations[0]? = some issuer ∧ (.clients, ⟨0, 1, order⟩) ∈ issuer.assembly.asked ∧
      network.stations[1]? = some station ∧ (.clients, ⟨1, 1, order⟩) ∈ station.assembly.asked ∧
      (network.view 1 station).step? station.config
        (.occur (.request (.unsubscribe ⟨0, 1, order⟩))) =
          some (.answered (.unsubscribed (.ok false)), network.view 1 station) ∧
      later.stations[1]? = some now ∧ now.registry = station.registry ∧
      station.registry.live network.alive order = [⟨1, worker, false⟩] ∧
      now.registry.live later.alive order = [] := by
  intro worker order
  let departure : List NetworkAct :=
    [.deed 0 (.occur (.request .close)), .deed 0 (.occur (.request (.release worker)))]
  have seen : ((empty.run? sharedHandler).bind fun network =>
      network.stations[0]?.bind fun issuer => network.stations[1]?.bind fun station =>
      (network.run? departure).map fun later =>
        (issuer.assembly.asked, station.assembly.asked, station.registry.closed,
          station.registry.live network.alive order, later.alive worker)) =
      some ([(.clients, ⟨0, 1, order⟩)], [(.clients, ⟨1, 1, order⟩)], false,
        [⟨1, worker, false⟩], false) := by decide +kernel
  obtain ⟨network, began, seen⟩ := Option.bind_eq_some_iff.mp seen
  obtain ⟨issuer, first, seen⟩ := Option.bind_eq_some_iff.mp seen
  obtain ⟨station, second, seen⟩ := Option.bind_eq_some_iff.mp seen
  obtain ⟨later, ran, seen⟩ := Option.map_eq_some_iff.mp seen
  simp only [Prod.mk.injEq] at seen
  obtain ⟨issued, own, opened, before, dead⟩ := seen
  have reachable : network.Reachable := Leads.here.run? began
  obtain ⟨isolated, foreign, _⟩ := buses_isolated reachable second
  -- Closing the first bus and letting go of the handler are nothing of the second one's.
  have elsewhere : ∀ before, ∀ act ∈ departure, avoids 1 before act := by
    intro before act there
    rcases List.mem_pair.mp there with rfl | rfl <;> exact Nat.zero_ne_one
  obtain ⟨now, present, same, fades⟩ := isolated later (.run? elsewhere ran)
  have asked : (Party.clients, (⟨0, 1, order⟩ : SubscriptionHandle)) ∈ issuer.assembly.asked :=
    issued ▸ List.mem_cons_self
  refine ⟨network, later, issuer, station, now, began, first, asked, second,
    own ▸ List.mem_cons_self, foreign opened 0 issuer first Nat.zero_ne_one _ _ asked, present,
    same, before, ?_⟩
  rw [(fades order).live_eq, before]
  simp only [List.filter_cons, Entry.isAlive, dead, Bool.false_or, Bool.false_eq_true, if_false,
    List.filter_nil]

end Network

end EventBus
