import EventBus.Proofs.Network.Steps

/-!
Who is alive in a network. A registry holds exactly the references that it was granted, and a
handler that loses the last of them, and has no other owner, is gone for good.
-/

namespace EventBus

namespace Network

/-- What always holds in a network. -/
structure Sound (network : Network) : Prop where
  /-- Whoever is alive has come into being. -/
  living : ∀ handler, network.alive handler = true → handler ∈ network.born
  /-- Every registry goes by the record of what it was granted. -/
  charters : ∀ station ∈ network.stations, station.registry.Charters station.granted
  apart : ∀ station ∈ network.stations, station.registry.HandlersApart
  /-- Whoever is subscribed has come into being. -/
  stored : ∀ station ∈ network.stations, ∀ {type : EventType} {entry : Entry},
    entry ∈ station.registry.entries type → entry.handler ∈ network.born

/-- A handler that has come into being is dead. -/
def Gone (network : Network) (handler : Handler) : Prop :=
  handler ∈ network.born ∧ network.alive handler = false

/-- There is nobody in the beginning. -/
theorem sound_empty : empty.Sound where
  -- Nobody is alive, and there are no stations.
  living handler living := by
    have nobody : empty.alive handler = false := rfl
    exact absurd (living.symm.trans nobody) (by decide)
  charters _ there := absurd there List.not_mem_nil
  apart _ there := absurd there List.not_mem_nil
  stored _ there := absurd there List.not_mem_nil

variable {network : Network}

/-- Clients give up no more references than they have. -/
theorem releases_le {station : Station} {deed : Deed}
    (allowed : network.allows station deed = true) (handler : Handler) :
    deed.releases handler ≤ network.outside handler := by
  -- Only a release gives anything up, and what is released is held.
  unfold Deed.releases
  split
  · rename_i other
    have held : 0 < network.outside other := by simpa [allows, Hub.allows] using allowed
    split
    · rename_i same
      exact same ▸ held
    · exact Nat.zero_le _
  · exact Nat.zero_le _

section Deeds

variable {index : Nat} {station : Station} {deed : Deed} {reply : Reply} {later : Assembly}
  (there : network.stations[index]? = some station)
  (allowed : network.allows station deed = true)
  (happened : (network.view index station).step? station.config deed = some (reply, later))

include there allowed happened

/-- Who is alive after a deed is who the station sees alive. -/
theorem alive_settle (granted : List SubscriptionHandle) :
    (network.settle index station later granted).alive = later.hub.alive := by
  -- No reference of another station is taken away, so the owners are counted in the same way.
  funext handler
  have released := releases_le allowed handler
  have kept := Assembly.outside_le_of_step happened handler
  have seen : (network.view index station).hub.outside handler =
      network.outside handler + network.elsewhere index handler := rfl
  have enough : network.elsewhere index handler ≤ later.hub.outside handler := by omega
  rw [alive, Hub.alive, network.owners_settle there enough]

omit there allowed in
/-- A deed is a walk of the hub that the station sees. -/
theorem exists_walk (sound : network.Sound) (member : station ∈ network.stations) :
    ∃ party told, Hub.Walk party (network.view index station).hub told later.hub := by
  -- The registry of the station is well formed, so a deed there is a walk.
  have wellFormed : (network.view index station).hub.registry.WellFormed :=
    (sound.charters station member).wellFormed
  rcases Assembly.walk_of_step wellFormed happened with walk | ⟨_, _, _, _, walk⟩
  · exact ⟨_, _, walk⟩
  · exact ⟨_, _, walk⟩

/-- What always holds in a network still holds after a deed. -/
theorem Sound.settle (sound : network.Sound) :
    (network.settle index station later
      (deed.granted (network.view index station) reply)).Sound := by
  -- The station sees a hub among whose handlers only those that have come into being are.
  have member : station ∈ network.stations := List.mem_of_getElem? there
  obtain ⟨_, _, walk⟩ := exists_walk happened sound member
  have peopled : (network.view index station).hub.Peopled := {
    wellFormed := (sound.charters station member).wellFormed
    living := fun handler living => sound.living handler (alive_view there ▸ living)
    stored := sound.stored station member }
  have next := peopled.walk walk
  have born : ∀ handler ∈ network.born, handler ∈ later.hub.born := walk.mortal.born
  have before : (network.view index station).hub.registry.Charters station.granted :=
    sound.charters station member
  have charters := Assembly.charters_of_step before happened
  have apart : later.hub.registry.HandlersApart :=
    ((Assembly.effect_of_step happened).1.registry_survives
      (fun change _ => Registry.kept_handlersApart.survives change)
      ⟨peopled.wellFormed, sound.apart station member⟩).2
  -- All other stations are as they were, and among handlers that have come into being.
  refine ⟨fun handler living => ?_, fun other listed => ?_, fun other listed => ?_,
    fun other listed type entry stored => ?_⟩
  · rw [alive_settle there allowed happened] at living
    exact next.living handler living
  · rcases List.mem_or_eq_of_mem_set listed with before | rfl
    · exact sound.charters other before
    · exact charters
  · rcases List.mem_or_eq_of_mem_set listed with before | rfl
    · exact sound.apart other before
    · exact apart
  · rcases List.mem_or_eq_of_mem_set listed with before | rfl
    · exact born _ (sound.stored other before stored)
    · exact next.stored stored

/-- A handler that is gone does not come back with a deed. -/
theorem Gone.settle (sound : network.Sound) {handler : Handler} (gone : network.Gone handler)
    (granted : List SubscriptionHandle) :
    (network.settle index station later granted).Gone handler := by
  -- The walk revives nobody who has come into being.
  obtain ⟨_, _, walk⟩ := exists_walk happened sound (List.mem_of_getElem? there)
  have dead : (network.view index station).hub.alive handler = false :=
    (congrFun (alive_view there) handler).trans gone.2
  refine ⟨walk.mortal.born handler gone.1, ?_⟩
  rw [alive_settle there allowed happened]
  exact walk.mortal.dead gone.1 dead

end Deeds

/-- Where clients and stations hold what others do, the same handlers are alive. -/
theorem alive_eq_of_keeps {later : Network} (outside : later.outside = network.outside)
    (keeps : ∀ handler, (later.stations.map (·.keeps handler)).sum =
      (network.stations.map (·.keeps handler)).sum) : later.alive = network.alive := by
  -- The owners are those of the clients and of the stations, and both are as many as before.
  funext handler
  have same : later.owners handler = network.owners handler := by
    rw [owners, owners, outside, keeps]
  exact congrArg (fun count : Nat => decide (0 < count)) same

/-- A new bus holds nobody. -/
theorem alive_build (config : BusConfig) (id : Nat) :
    ({ network with
      stations := network.stations ++ [⟨config, .new id, []⟩] } : Network).alive =
        network.alive := by
  -- The new station is one more summand, which is nothing.
  refine alive_eq_of_keeps rfl fun handler => ?_
  have nothing : (⟨config, .new id, []⟩ : Station).keeps handler = 0 := rfl
  rw [List.map_append, List.sum_append, List.map_singleton, List.sum_singleton, nothing,
    Nat.add_zero]

/-- What a station notes has nothing to do with who is alive. -/
theorem alive_note {index : Nat} {station : Station}
    (there : network.stations[index]? = some station) (calls : List (Handler × Event))
    (records : List LogRecord) :
    (network.note index station calls records).alive = network.alive := by
  -- The station keeps what it has kept.
  refine alive_eq_of_keeps rfl fun handler => ?_
  have kept : (network.stations.map (·.keeps handler))[index]? =
      some (station.keeps handler) := by
    rw [List.getElem?_map, there, Option.map_some]
  obtain ⟨inside, same⟩ := List.getElem?_eq_some_iff.mp kept
  rw [note, List.map_set]
  show ((network.stations.map (·.keeps handler)).set index (station.keeps handler)).sum = _
  rw [← same, List.set_getElem_self]

/-- What always holds in a network still holds after a step. -/
theorem Sound.step (sound : network.Sound) {act : NetworkAct} {later : Network}
    (happened : network.step? act = some later) : later.Sound := by
  -- A deed has been treated; a new station has nothing in it.
  cases stepped happened with
  | done there allowed stepped => exact sound.settle there allowed stepped
  | built config =>
    refine ⟨fun handler living => ?_, fun station listed => ?_, fun station listed => ?_,
      fun station listed type entry stored => ?_⟩
    · rw [alive_build] at living
      exact sound.living handler living
    · rcases List.mem_append.mp listed with before | new
      · exact sound.charters station before
      · rw [List.mem_singleton.mp new]
        exact Registry.charters_new _
    · rcases List.mem_append.mp listed with before | new
      · exact sound.apart station before
      · rw [List.mem_singleton.mp new]
        exact Registry.handlersApart_new _
    · rcases List.mem_append.mp listed with before | new
      · exact sound.stored station before stored
      · rw [List.mem_singleton.mp new] at stored
        exact absurd stored List.not_mem_nil

/-- What a station notes has nothing to do with what always holds. -/
theorem Sound.note (sound : network.Sound) {index : Nat} {station : Station}
    (there : network.stations[index]? = some station) (calls : List (Handler × Event))
    (records : List LogRecord) : (network.note index station calls records).Sound := by
  -- What is noted leaves the registry and its owners as they are.
  have member : station ∈ network.stations := List.mem_of_getElem? there
  refine ⟨fun handler living => ?_, fun other listed => ?_, fun other listed => ?_,
    fun other listed type entry stored => ?_⟩
  · rw [alive_note there] at living
    exact sound.living handler living
  · rcases List.mem_or_eq_of_mem_set listed with before | rfl
    · exact sound.charters other before
    · exact sound.charters station member
  · rcases List.mem_or_eq_of_mem_set listed with before | rfl
    · exact sound.apart other before
    · exact sound.apart station member
  · rcases List.mem_or_eq_of_mem_set listed with before | rfl
    · exact sound.stored other before stored
    · exact sound.stored station member stored

/-- What always holds in a network holds in all to which it leads. -/
theorem Leads.sound {later : Network} (led : network.Leads later) (sound : network.Sound) :
    later.Sound := by
  -- The induction is on how the network leads there.
  induction led with
  | here => exact sound
  | step _ happened ih => exact ih.step happened
  | noted _ there calls records ih => exact ih.note there calls records

/-- A handler that is gone does not come back, wherever the network leads. -/
theorem Leads.gone {later : Network} (led : network.Leads later) (sound : network.Sound)
    {handler : Handler} (gone : network.Gone handler) : later.Gone handler := by
  -- The induction is on how the network leads there, with all that always holds on the way.
  induction led with
  | here => exact gone
  | step led happened ih =>
    cases stepped happened with
    | done there allowed stepped => exact ih.settle there allowed stepped (led.sound sound) _
    | built config => exact ⟨ih.1, (congrFun (alive_build config _) handler).trans ih.2⟩
  | noted _ there calls records ih =>
    exact ⟨ih.1, (congrFun (alive_note there calls records) handler).trans ih.2⟩

/-- A handler that nobody else owns is alive as long as one of its entries is retained. -/
theorem alive_iff_retained {handler : Handler} (released : network.outside handler = 0)
    (grounded : ∀ station ∈ network.stations, station.assembly.hub.aloft handler = 0) :
    network.alive handler = true ↔ ∃ station ∈ network.stations,
      ∃ subscription ∈ station.registry.subscriptions,
        subscription.entry.retained = true ∧ subscription.entry.handler = handler := by
  -- Of the three kinds of owners two are ruled out, and the third is retained entries.
  rw [alive, decide_eq_true_eq, owners, released, Nat.zero_add,
    List.sum_pos_iff_exists_pos_nat]
  simp only [List.mem_map, exists_exists_and_eq_and]
  refine exists_congr fun station => and_congr_right fun listed => ?_
  rw [Station.keeps, grounded station listed, Nat.zero_add]
  exact Hub.holds_pos_iff

/-- No snapshot of any bus has a subscriber whose handler is gone. -/
theorem Gone.absent (sound : network.Sound) {handler : Handler} (gone : network.Gone handler)
    {station : Station} (listed : station ∈ network.stations) {type : EventType}
    {subscribers : List Subscriber}
    (taken : station.registry.snapshot network.alive type = .ok subscribers) :
    ∀ subscriber ∈ subscribers, subscriber.handler ≠ handler := by
  -- The subscriber would be alive, as the station of the snapshot sees it.
  rintro subscriber there rfl
  obtain ⟨index, found⟩ := List.getElem?_of_mem listed
  have wellFormed : (network.view index station).hub.registry.WellFormed :=
    (sound.charters station listed).wellFormed
  rw [← alive_view found] at taken
  have living := Hub.alive_of_snapshot wellFormed taken there
  rw [alive_view found, gone.2] at living
  cases living

/--
The references of a registry are those of the entries that were ever subscribed in retained form.

This holds in every network that can come about, whatever is done at its buses and whoever dies. A
weak subscription adds none and takes none away; a weak entry that is retained later keeps its id
and its place; the end of a subscription and a close give back all of theirs.

So a handler that no client, snapshot or flight owns is alive exactly as long as one of its entries
in some registry is retained. Once none is, no snapshot of any bus or type has it any more.
-/
theorem registries_own_retained (reachable : network.Reachable) :
    (∀ station ∈ network.stations,
      (∀ handler, station.registry.holds handler =
        station.registry.subscriptions.countP fun subscription =>
          subscription.entry.handler = handler ∧
            station.registry.handle subscription.entry.id subscription.type ∈ station.granted) ∧
      (∀ subscription ∈ station.registry.subscriptions,
        subscription.entry.handler ∈ network.born) ∧
      ∀ alive, station.registry.Accounts alive) ∧
    ∀ handler, network.outside handler = 0 →
      (∀ station ∈ network.stations, station.assembly.hub.aloft handler = 0) →
      (network.alive handler = true ↔ ∃ station ∈ network.stations,
        ∃ subscription ∈ station.registry.subscriptions,
          subscription.entry.retained = true ∧ subscription.entry.handler = handler) ∧
      (handler ∈ network.born →
        (∀ station ∈ network.stations, ∀ subscription ∈ station.registry.subscriptions,
          subscription.entry.handler = handler → subscription.entry.retained = false) →
        ∀ later, network.Leads later → ∀ station ∈ later.stations, ∀ type subscribers,
          station.registry.snapshot later.alive type = .ok subscribers →
            ∀ subscriber ∈ subscribers, subscriber.handler ≠ handler) := by
  -- What the registries hold goes by their charters, and what lives by its owners.
  have sound : network.Sound := Leads.sound reachable sound_empty
  refine ⟨fun station listed => ?_, fun handler released grounded => ?_⟩
  · have charters := sound.charters station listed
    refine ⟨charters.holds_eq, fun subscription there => ?_,
      charters.wellFormed.accounts (sound.apart station listed)⟩
    exact sound.stored station listed (charters.wellFormed.mem_entries.mpr there)
  · have living := alive_iff_retained released grounded
    refine ⟨living, fun born weak later led station listed type subscribers taken => ?_⟩
    have gone : network.Gone handler := by
      refine ⟨born, Bool.eq_false_iff.mpr fun alive => ?_⟩
      obtain ⟨station, listed, subscription, there, retained, same⟩ := living.mp alive
      exact absurd ((weak station listed subscription there same).symm.trans retained) (by decide)
    exact (led.gone sound gone).absent (led.sound sound) listed taken

/--
A handler is subscribed weakly at one bus. At another it is subscribed first weakly, then in
retained form, and then weakly again, before its client lets go of it.
-/
def heldElsewhere : List NetworkAct :=
  let worker : Handler := ⟨1, "worker"⟩
  [.build {}, .build {}, .deed 0 (.occur (.request (.create worker))),
    .deed 0 (.occur (.request (.subscribe ⟨"order"⟩ worker))),
    .deed 1 (.occur (.request (.subscribe ⟨"audit"⟩ worker))),
    .deed 1 (.occur (.request (.subscribeRetained ⟨"audit"⟩ worker))),
    .deed 1 (.occur (.request (.subscribe ⟨"audit"⟩ worker))),
    .deed 0 (.occur (.request (.release worker)))]

/-- What there is to see of a handler in a network, and all that is subscribed there. -/
structure Sight where
  outside : Nat
  born : Bool
  aloft : List Nat
  subscriptions : List (List Subscription)
  deriving DecidableEq

/-- The sight of a handler. -/
def sight (network : Network) (handler : Handler) : Sight where
  outside := network.outside handler
  born := network.born.contains handler
  aloft := network.stations.map fun station => station.assembly.hub.aloft handler
  subscriptions := network.stations.map fun station => station.registry.subscriptions

/-- The handler lives as long as the one entry is retained, and is seen nowhere after its end. -/
theorem heldElsewhere_ends :
    let worker : Handler := ⟨1, "worker"⟩
    let weak : Subscription := ⟨⟨"order"⟩, ⟨1, worker, false⟩⟩
    ∃ held ended : Network, held.Reachable ∧ held.Leads ended ∧
      held.sight worker = ⟨0, true, [0, 0], [[weak], [⟨⟨"audit"⟩, ⟨1, worker, true⟩⟩]]⟩ ∧
      held.alive worker = true ∧ ended.sight worker = ⟨0, true, [0, 0], [[weak], []]⟩ ∧
      ∀ later, ended.Leads later → ∀ station ∈ later.stations, ∀ type subscribers,
        station.registry.snapshot later.alive type = .ok subscribers →
          ∀ subscriber ∈ subscribers, subscriber.handler ≠ worker := by
  intro worker weak
  let ending : NetworkAct := .deed 1 (.occur (.request (.unsubscribe ⟨1, 1, ⟨"audit"⟩⟩)))
  have seen : ((empty.run? heldElsewhere).bind fun held => (held.run? [ending]).map fun ended =>
      (held.sight worker, ended.sight worker)) =
      some (⟨0, true, [0, 0], [[weak], [⟨⟨"audit"⟩, ⟨1, worker, true⟩⟩]]⟩,
        ⟨0, true, [0, 0], [[weak], []]⟩) := by decide +kernel
  obtain ⟨held, began, seen⟩ := Option.bind_eq_some_iff.mp seen
  obtain ⟨ended, ran, seen⟩ := Option.map_eq_some_iff.mp seen
  obtain ⟨before, after⟩ := Prod.mk.inj seen
  have reachable : held.Reachable := Leads.here.run? began
  have led : held.Leads ended := Leads.here.run? ran
  -- Nobody but the buses holds the handler, neither before the end nor after it.
  have grounded : ∀ network : Network, (network.sight worker).aloft = [0, 0] →
      ∀ station ∈ network.stations, station.assembly.hub.aloft worker = 0 := by
    intro network aloft station listed
    have there : station.assembly.hub.aloft worker ∈ (network.sight worker).aloft :=
      List.mem_map.mpr ⟨station, listed, rfl⟩
    rw [aloft] at there
    simpa using there
  -- Both networks are asked about the handler, before the end and after it.
  have living := ((registries_own_retained reachable).2 worker (congrArg Sight.outside before)
    (grounded held (congrArg Sight.aloft before))).1
  have reached : ended.Reachable := (Leads.here.run? began).run? ran
  have gone := ((registries_own_retained reached).2 worker (congrArg Sight.outside after)
    (grounded ended (congrArg Sight.aloft after))).2
  refine ⟨held, ended, reachable, led, before, living.mpr ?_, after, gone ?_ ?_⟩
  · have there : [⟨⟨"audit"⟩, ⟨1, worker, true⟩⟩] ∈ (held.sight worker).subscriptions := by
      rw [before]
      exact List.mem_cons_of_mem _ List.mem_cons_self
    obtain ⟨station, listed, stored⟩ := List.mem_map.mp there
    exact ⟨station, listed, _, stored ▸ List.mem_cons_self, rfl, rfl⟩
  · have born : (ended.sight worker).born = true := congrArg Sight.born after
    simpa [sight] using born
  · intro station listed subscription stored _
    have there : station.registry.subscriptions ∈ (ended.sight worker).subscriptions :=
      List.mem_map.mpr ⟨station, listed, rfl⟩
    rw [after] at there
    rcases List.mem_pair.mp there with only | none
    · rw [only] at stored
      rw [List.mem_singleton.mp stored]
    · rw [none] at stored
      exact absurd stored List.not_mem_nil

end Network

end EventBus
