import EventBus.Proofs.Hub.Attainable
import EventBus.Proofs.Hub.Tracking
import EventBus.Proofs.Registry.Handles

/-! The ends of several subscriptions, one after the other, and what they leave in place. -/

namespace EventBus

/-- An entry that is alive while fewer handlers are is alive while more of them are. -/
theorem Entry.isAlive_of_fewer {alive fewer : Handler → Bool}
    (fading : ∀ handler, fewer handler = true → alive handler = true) {entry : Entry}
    (living : entry.isAlive fewer = true) : entry.isAlive alive = true := by
  -- A retained entry does not depend on its handler.
  rw [Entry.isAlive, Bool.or_eq_true] at living ⊢
  exact living.imp_right (fading entry.handler)

namespace Registry

/--
Of the living entries, the end of a subscription leaves those that have another handle.

Fewer handlers may be alive afterwards than before it.
-/
theorem WellFormed.live_unsubscribe {registry : Registry} (wellFormed : registry.WellFormed)
    (alive fewer : Handler → Bool)
    (fading : ∀ handler, fewer handler = true → alive handler = true)
    (handle : SubscriptionHandle) (type : EventType) :
    (registry.unsubscribe alive handle).registry.live fewer type =
      (registry.live alive type).filter fun entry =>
        registry.handle entry.id type ≠ handle && entry.isAlive fewer := by
  -- Where no entry of the type has the handle, only death can take one of them away.
  have unharmed (others : ∀ entry ∈ registry.entries type, registry.handle entry.id type ≠ handle) :
      (registry.entries type).filter (Entry.isAlive fewer) =
        (registry.live alive type).filter fun entry =>
          registry.handle entry.id type ≠ handle && entry.isAlive fewer := by
    rw [live, List.filter_filter]
    refine List.filter_congr fun entry stored => ?_
    cases living : entry.isAlive fewer with
    | false => simp
    | true => simp [others entry stored, Entry.isAlive_of_fewer fading living]
  rcases wellFormed.unsubscribe_cases alive handle with ⟨idle, same⟩ | ⟨_, own, made⟩
  · rw [same]
    refine unharmed fun entry stored hit => ?_
    rcases idle with closed | foreign
    · rw [wellFormed.entries_closed closed] at stored
      exact List.not_mem_nil stored
    · exact foreign (congrArg SubscriptionHandle.registry hit).symm
  · rw [made, live, entries_setEntries]
    by_cases ofType : type = handle.type
    · subst ofType
      rw [if_pos rfl, List.filter_filter, live, List.filter_filter]
      refine List.filter_congr fun entry _ => ?_
      -- A handle of the same registry and type can differ in the id alone.
      have differs : registry.handle entry.id handle.type ≠ handle ↔ entry.id ≠ handle.id := by
        refine not_congr ⟨congrArg SubscriptionHandle.id, fun same => ?_⟩
        rw [same, Registry.handle, ← own]
      cases living : entry.isAlive fewer with
      | false => simp
      | true => simp [leaves, differs, Entry.isAlive_of_fewer fading living]
    · rw [if_neg ofType]
      exact unharmed fun entry _ hit => ofType (congrArg SubscriptionHandle.type hit)

end Registry

namespace Hub

/-- The hub after the end of a subscription. -/
def ended (hub : Hub) (handle : SubscriptionHandle) : Hub :=
  hub.after (hub.registry.unsubscribe hub.alive handle)

/-- A client can end a subscription at any time. -/
theorem step?_unsubscribe (config : BusConfig) (hub : Hub) (handle : SubscriptionHandle) :
    hub.step? config (.request (.unsubscribe handle)) =
      some (.unsubscribed (hub.registry.unsubscribe hub.alive handle).answer,
        hub.ended handle) := by
  -- No reference is needed to end a subscription.
  have allowed : allows hub.outside hub.born (.unsubscribe handle) = true := rfl
  rw [step?, if_pos allowed]
  simp only [serve, bind, StateT.bind, unsubscribe_eq]
  rfl

/-- The hub after the ends of several subscriptions, one after the other. -/
def endEach (hub : Hub) (handles : List SubscriptionHandle) : Hub := handles.foldl ended hub

/-- The first subscription ends before the others. -/
theorem endEach_cons (hub : Hub) (handle : SubscriptionHandle) (rest : List SubscriptionHandle) :
    hub.endEach (handle :: rest) = (hub.ended handle).endEach rest := rfl

/-- The end of a subscription revives no handler. -/
theorem alive_of_ended {hub : Hub} (wellFormed : hub.registry.WellFormed)
    (handle : SubscriptionHandle) {handler : Handler}
    (living : (hub.ended handle).alive handler = true) : hub.alive handler = true := by
  rw [alive_iff_owned] at living ⊢
  -- Clients and flights keep what they hold, and the registry keeps at most what it held.
  refine living.imp_right (Or.imp_right ?_)
  rintro ⟨⟨type, entry⟩, stored, retained, same⟩
  have later := wellFormed.unsubscribe hub.alive handle
  have there := wellFormed.mem_of_unsubscribe (later.mem_entries.mpr stored)
  exact ⟨⟨type, entry⟩, wellFormed.mem_entries.mp there, retained, same⟩

section Several

variable {handles : List SubscriptionHandle}

/-- The ends of several subscriptions keep what survives each of them. -/
theorem endEach_keeps {property : Registry → Prop} {hub : Hub}
    (survives : ∀ handle ∈ handles, Registry.Survives property (.unsubscribe handle))
    (held : property hub.registry) : property (hub.endEach handles).registry := by
  -- The ends happen one after the other, each at the registry that the last one has left.
  induction handles generalizing hub with
  | nil => exact held
  | cons handle rest ih =>
    have first : property (hub.ended handle).registry :=
      survives handle List.mem_cons_self hub.registry hub.alive held
    exact ih (fun other there => survives other (List.mem_cons_of_mem handle there)) first

/-- Every handle that is put to use is spent in the end, if it was given out by the registry. -/
theorem spent_endEach {hub : Hub} (wellFormed : hub.registry.WellFormed)
    {handle : SubscriptionHandle} (used : handle ∈ handles)
    (own : handle.registry = hub.registry.id) (given : handle.id ≤ hub.registry.nextId) :
    Registry.Spent handle (hub.endEach handles).registry := by
  -- The handle is used now, or later at a registry that counts the same ids.
  induction handles generalizing hub with
  | nil => exact absurd used List.not_mem_nil
  | cons first rest ih =>
    have later := wellFormed.unsubscribe hub.alive first
    have succeeds := wellFormed.succeeds_change hub.alive (.unsubscribe first)
    have stillOwn : handle.registry = (hub.ended first).registry.id :=
      own.trans succeeds.id_eq.symm
    have stillGiven : handle.id ≤ (hub.ended first).registry.nextId :=
      Nat.le_trans given succeeds.nextId_le
    rcases List.mem_cons.mp used with rfl | behind
    · -- Once it is spent, none of the other ends can change that.
      have spent : Registry.Spent handle (hub.ended handle).registry :=
        ⟨later, stillOwn, stillGiven, wellFormed.find?_unsubscribe hub.alive handle⟩
      rw [endEach_cons]
      exact endEach_keeps (fun _ _ => (Registry.kept_spent handle).survives _) spent
    · exact ih later behind stillOwn stillGiven

/-- The ends of several subscriptions revive no handler. -/
theorem alive_of_endEach {hub : Hub} (wellFormed : hub.registry.WellFormed) {handler : Handler}
    (living : (hub.endEach handles).alive handler = true) : hub.alive handler = true := by
  -- None of the ends brings anybody back.
  induction handles generalizing hub with
  | nil => exact living
  | cons handle rest ih =>
    exact alive_of_ended wellFormed handle (ih (wellFormed.unsubscribe hub.alive handle) living)

/-- The ends of several subscriptions leave the living entries that have none of the handles. -/
theorem live_endEach {hub : Hub} (wellFormed : hub.registry.WellFormed)
    (handles : List SubscriptionHandle) (type : EventType) :
    (hub.endEach handles).registry.live (hub.endEach handles).alive type =
      (hub.registry.live hub.alive type).filter fun entry =>
        hub.registry.handle entry.id type ∉ handles &&
          entry.isAlive (hub.endEach handles).alive := by
  induction handles generalizing hub with
  | nil =>
    -- Nothing has happened, and the living entries are alive.
    refine (List.filter_eq_self.mpr fun entry living => ?_).symm
    simpa [endEach] using (List.mem_filter.mp living).2
  | cons handle rest ih =>
    have later := wellFormed.unsubscribe hub.alive handle
    have id_eq : (hub.ended handle).registry.id = hub.registry.id :=
      (wellFormed.succeeds_change hub.alive (.unsubscribe handle)).id_eq
    have first := wellFormed.live_unsubscribe hub.alive (hub.ended handle).alive
      (fun _ living => alive_of_ended wellFormed handle living) handle type
    rw [endEach_cons, ih later]
    show ((hub.registry.unsubscribe hub.alive handle).registry.live
      (hub.ended handle).alive type).filter _ = _
    rw [first, List.filter_filter]
    refine List.filter_congr fun entry _ => ?_
    cases living : entry.isAlive ((hub.ended handle).endEach rest).alive with
    | false => simp
    | true =>
      -- What is alive in the end is alive after the first end.
      have survives : entry.isAlive (hub.ended handle).alive = true :=
        Entry.isAlive_of_fewer (fun _ => alive_of_endEach later) living
      simp only [Registry.handle, id_eq, survives, List.mem_cons, not_or, Bool.decide_and,
        Bool.and_true]
      exact Bool.and_comm _ _

/-- Ends of subscriptions leave clients and flights with the references that they hold. -/
theorem endEach_frame (hub : Hub) (handles : List SubscriptionHandle) :
    (hub.endEach handles).outside = hub.outside ∧
      (hub.endEach handles).voyages = hub.voyages := by
  -- An end of a subscription changes the registry and the log.
  induction handles generalizing hub with
  | nil => exact ⟨rfl, rfl⟩
  | cons handle rest ih => exact ih (hub.ended handle)

/-- A handler dies with the ends of subscriptions only if one of them held a reference to it. -/
theorem alive_endEach {hub : Hub} (wellFormed : hub.registry.WellFormed)
    (handles : List SubscriptionHandle) {handler : Handler} (living : hub.alive handler = true) :
    (hub.endEach handles).alive handler = true ∨
      ∃ handle ∈ handles, ∃ entry, hub.registry.find? handle = some entry ∧
        entry.retained = true ∧ entry.handler = handler := by
  -- A reference of a client or of a flight is not touched, so it is one of the registry that goes.
  obtain ⟨outside, voyages⟩ := hub.endEach_frame handles
  rw [alive_iff_owned] at living
  rcases living with held | flying | ⟨⟨type, entry⟩, stored, retained, same⟩
  · exact Or.inl (alive_iff_owned.mpr (Or.inl (outside ▸ held)))
  · refine Or.inl (alive_iff_owned.mpr (Or.inr (Or.inl ?_)))
    rw [aloft, voyages]
    exact flying
  have there := wellFormed.mem_entries.mpr stored
  by_cases used : hub.registry.handle entry.id type ∈ handles
  · exact Or.inr ⟨_, used, entry, wellFormed.find?_eq_some.mpr ⟨there, rfl⟩, retained, same⟩
  · -- The entry stays, and its handler with it.
    have here : entry ∈ hub.registry.live hub.alive type :=
      List.mem_filter.mpr ⟨there, Entry.isAlive_of_retained retained hub.alive⟩
    have stays : entry ∈ (hub.endEach handles).registry.live (hub.endEach handles).alive type := by
      rw [live_endEach wellFormed]
      have kept := Entry.isAlive_of_retained retained (hub.endEach handles).alive
      exact List.mem_filter.mpr ⟨here, by simpa [used] using kept⟩
    have later : (hub.endEach handles).registry.WellFormed :=
      endEach_keeps (fun _ _ => Registry.kept_wellFormed.survives _) wellFormed
    exact Or.inl (alive_iff_owned.mpr (Or.inr (Or.inr
      ⟨⟨type, entry⟩, later.mem_of_live stays, retained, same⟩)))

end Several

end Hub

end EventBus
