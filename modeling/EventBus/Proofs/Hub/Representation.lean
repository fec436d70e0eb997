import EventBus.Proofs.Hub.Attainable
import EventBus.Proofs.Hub.Tracking

/-! What the lists of a registry look like, whatever has happened at its hub. -/

namespace EventBus

namespace Registry

/-- Every reference that the registry keeps was passed to it for the entry that it is kept in. -/
def Granted (past : List (Incident × Answer)) (registry : Registry) : Prop :=
  ∀ type, ∀ entry ∈ registry.entries type, entry.retained = true →
    (.request (.subscribeRetained type entry.handler),
      .subscribed (.ok (registry.handle entry.id type))) ∈ past

/-- A change that passes no reference leaves only such references as were passed before. -/
theorem survives_granted (past : List (Incident × Answer)) (id : Nat) {change : Change}
    (weak : ∀ type handler, change ≠ .subscribe type handler true) :
    Survives (fun registry => registry.WellFormed ∧ registry.id = id ∧ registry.Granted past)
      change := by
  rintro registry alive ⟨wellFormed, rfl, granted⟩
  have succeeds := wellFormed.succeeds_change alive change
  refine ⟨wellFormed.change alive change, succeeds.id_eq, ?_⟩
  intro type entry stored retained
  rw [handle, succeeds.id_eq]
  -- An entry can become retained only by a change that passes a reference.
  rcases wellFormed.origin stored with ⟨earlier, there, continues, before⟩ | ⟨_, now⟩
  · rcases before retained with kept | passed
    · have known := granted type earlier there kept
      rw [← continues.handler_eq, handle, ← continues.id_eq] at known
      exact known
    · exact absurd passed.1 (weak _ _)
  · exact absurd (now retained).1 (weak _ _)

/-- A subscription that passes a reference leaves one more that was passed, if it is accepted. -/
theorem Granted.subscribe {past : List (Incident × Answer)} {registry : Registry}
    (wellFormed : registry.WellFormed) (granted : registry.Granted past) {alive : Handler → Bool}
    {type : EventType} {handler : Handler}
    (passed : (.request (.subscribeRetained type handler),
      .subscribed (registry.subscribe alive type handler true).answer) ∈ past) :
    (registry.subscribe alive type handler true).registry.Granted past := by
  have succeeds := wellFormed.succeeds_change alive (.subscribe type handler true)
  have id_eq : (registry.subscribe alive type handler true).registry.id = registry.id :=
    succeeds.id_eq
  intro other entry stored retained
  rw [handle, id_eq]
  -- The entry was retained before, or it is the one that has been answered.
  have known : registry.Grants alive (.subscribe type handler true) other entry →
      (.request (.subscribeRetained other entry.handler),
        .subscribed (.ok (registry.handle entry.id other))) ∈ past := by
    rintro ⟨same, answered⟩
    cases same
    rw [answered] at passed
    exact passed
  -- An entry that was retained before was passed earlier, unless this answer is about it.
  rcases wellFormed.origin_subscribe stored with ⟨earlier, there, continues, before⟩ | ⟨_, now⟩
  · rcases before retained with kept | answered
    · have earlierKnown := granted other earlier there kept
      rw [← continues.handler_eq, handle, ← continues.id_eq] at earlierKnown
      exact earlierKnown
    · exact known answered
  · exact known (now retained)

/--
The invariant of the lists in which a registry keeps its subscriptions, in surroundings where some
handlers are alive and where some things have happened.
-/
structure Represents (registry : Registry) (alive : Handler → Bool)
    (past : List (Incident × Answer)) : Prop where
  /-- Every type has at most one list. -/
  types_nodup : (registry.lists.map Prod.fst).Nodup
  /-- The type of a list is not blank, and the list is not empty. -/
  filled : ∀ type entries, (type, entries) ∈ registry.lists →
    type.isBlank = false ∧ entries ≠ []
  /-- The ids of a list ascend strictly. -/
  ascending : ∀ type entries, (type, entries) ∈ registry.lists →
    entries.Pairwise (·.id < ·.id)
  /-- No id occurs twice across all lists. -/
  ids_nodup : (registry.allEntries.map Entry.id).Nodup
  /-- Every id has been given out, and they are counted from one. -/
  counted : ∀ entry ∈ registry.allEntries, 1 ≤ entry.id ∧ entry.id ≤ registry.nextId
  /-- No handler occurs twice in a list, neither alive nor dead. -/
  handlers_nodup : ∀ type entries, (type, entries) ∈ registry.lists →
    (entries.map Entry.handler).Nodup
  /-- A reference that is kept in an entry was passed for its type and answered with its handle. -/
  granted : ∀ type entries, (type, entries) ∈ registry.lists →
    ∀ entry ∈ entries, entry.retained = true →
      (.request (.subscribeRetained type entry.handler),
        .subscribed (.ok (registry.handle entry.id type))) ∈ past
  /-- The handler of a retained entry is alive. -/
  retained_alive : ∀ entry ∈ registry.allEntries, entry.retained = true →
    alive entry.handler = true
  /-- A closed registry stores no entries. -/
  emptied : registry.closed = true → registry.lists = []

end Registry

namespace Hub

/-- The hubs that can come about, each with all that has happened there and how it was answered. -/
inductive Lived (config : BusConfig) : List (Incident × Answer) → Hub → Prop
  | new (id : Nat) : Lived config [] (Hub.new id)
  | step {past : List (Incident × Answer)} {hub next : Hub} {incident : Incident} {answer : Answer}
    (before : Lived config past hub)
    (happened : hub.step? config incident = some (answer, next)) :
    Lived config (past ++ [(incident, answer)]) next

/-- An entry that keeps a reference to its handler keeps it alive, whatever else goes on. -/
theorem alive_of_retained {hub : Hub} {entry : Entry} (stored : entry ∈ hub.registry.allEntries)
    (retained : entry.retained = true) : hub.alive entry.handler = true := by
  -- A retained entry owns its handler, and so keeps it alive.
  rw [← Registry.map_entry_subscriptions] at stored
  obtain ⟨subscription, listed, rfl⟩ := List.mem_map.mp stored
  exact alive_iff_owned.mpr (Or.inr (Or.inr ⟨subscription, listed, retained, rfl⟩))

namespace Lived

variable {config : BusConfig} {past : List (Incident × Answer)} {hub : Hub}

/-- A hub that has lived can come about. -/
theorem reachable (lived : Lived config past hub) : hub.Reachable config := by
  -- The answers of the past are only forgotten.
  induction lived with
  | new id => exact .new id
  | step before happened ih => exact ih.step happened

/-- Every reference that is kept was passed by a request, whatever else has happened. -/
theorem granted (lived : Lived config past hub) : hub.registry.Granted past := by
  -- The induction is on the past, and only a retaining subscription adds a kept reference.
  induction lived with
  | new id => simp [Registry.Granted, Hub.new, Registry.new, Registry.entries]
  | @step past hub next incident answer before happened ih =>
    have wellFormed := (before.reachable.sound config).wellFormed
    -- What has happened before is not forgotten.
    have earlier : hub.registry.Granted (past ++ [(incident, answer)]) :=
      fun type entry stored retained => List.mem_append_left _ (ih type entry stored retained)
    by_cases passes : ∃ type handler, incident = .request (.subscribeRetained type handler)
    · obtain ⟨type, handler, rfl⟩ := passes
      simp only [step?, Option.ite_none_right_eq_some, Option.some.injEq] at happened
      have done := happened.2
      simp only [serve, bind, StateT.bind, subscribeRetained_eq] at done
      obtain ⟨rfl, rfl⟩ := Prod.mk.inj done
      exact earlier.subscribe wellFormed (List.mem_append_right _ List.mem_cons_self)
    · -- No other request passes a reference to the registry.
      have weak : ∀ change ∈ incident.changes, ∀ type handler,
          change ≠ .subscribe type handler true := by
        rintro change there type handler rfl
        cases incident with
        | request request => cases request <;> simp_all [Incident.changes, Request.changes]
        | _ => simp [Incident.changes] at there
      exact (registry_survives
        (fun change there => Registry.survives_granted _ hub.registry.id (weak change there))
        happened ⟨wellFormed, rfl, earlier⟩).2.2

end Lived

end Hub

/-- The lists of a registry keep their invariant, whatever happens at its hub and in what order. -/
theorem lived_represents {config : BusConfig} {past : List (Incident × Answer)} {hub : Hub}
    (lived : Hub.Lived config past hub) : hub.registry.Represents hub.alive past := by
  -- The shape of the lists is the registry's invariant; only the grants are about the past.
  obtain ⟨wellFormed, apart⟩ := lived.reachable.attainable.intact
  have entries_eq : ∀ {type entries}, (type, entries) ∈ hub.registry.lists →
      hub.registry.entries type = entries := wellFormed.entries_eq
  exact {
    types_nodup := wellFormed.types_nodup
    filled := fun type entries listed =>
      ⟨wellFormed.named type (List.mem_map_of_mem listed), fun empty =>
        wellFormed.filled type (empty ▸ listed)⟩
    ascending := fun type entries listed => entries_eq listed ▸ wellFormed.ascending type
    ids_nodup := by
      rw [← Registry.map_entry_subscriptions, List.map_map]
      exact wellFormed.ids_nodup
    counted := fun entry stored => by
      rw [← Registry.map_entry_subscriptions] at stored
      obtain ⟨subscription, listed, rfl⟩ := List.mem_map.mp stored
      exact wellFormed.counted subscription listed
    handlers_nodup := fun type entries listed => entries_eq listed ▸ apart type
    granted := fun type entries listed entry stored retained =>
      lived.granted type entry (entries_eq listed ▸ stored) retained
    retained_alive := fun entry => Hub.alive_of_retained
    emptied := wellFormed.emptied }

/-- A weak subscription is made, retained, and outlives the last reference of its client. -/
def upgradedSubscription : List (Incident × Answer) :=
  let audit : Handler := ⟨1, "audit"⟩
  let handle : SubscriptionHandle := ⟨0, 1, ⟨"order"⟩⟩
  [(.request (.create audit), .done),
    (.request (.subscribe ⟨"order"⟩ audit), .subscribed (.ok handle)),
    (.request (.subscribeRetained ⟨"order"⟩ audit), .subscribed (.ok handle)),
    (.request (.release audit), .done)]

/-- The handler of the subscription lives on, and its reference is the one that was passed last. -/
theorem upgradedSubscription_represents :
    ∃ hub, Hub.Lived {} upgradedSubscription hub ∧
      hub.registry.lists = [(⟨"order"⟩, [⟨1, ⟨1, "audit"⟩, true⟩])] ∧
      hub.registry.Represents hub.alive upgradedSubscription := by
  -- The life is the four requests one by one, each answered as the past says.
  obtain ⟨hub, lived, stored⟩ : ∃ hub, Hub.Lived {} upgradedSubscription hub ∧
      hub.registry.lists = [(⟨"order"⟩, [⟨1, ⟨1, "audit"⟩, true⟩])] :=
    ⟨_, .step (.step (.step (.step (.new 0) rfl) rfl) rfl) rfl, rfl⟩
  exact ⟨hub, lived, stored, lived_represents lived⟩

end EventBus
