import EventBus.Proofs.Registry.Sections

/-! A change of a registry is the part of a section that concerns the registry alone. -/

namespace EventBus

/-- What a section does to a registry. -/
inductive Change where
  | subscribe (type : EventType) (handler : Handler) (retain : Bool)
  | unsubscribe (handle : SubscriptionHandle)
  | prune
  | close
  deriving DecidableEq, Repr

namespace Registry

/-- The registry after a change, which finds some handlers alive. -/
def change (registry : Registry) (alive : Handler → Bool) : Change → Registry
  | .subscribe type handler retain => (registry.subscribe alive type handler retain).registry
  | .unsubscribe handle => (registry.unsubscribe alive handle).registry
  | .prune => (registry.prune alive).registry
  | .close => registry.close.registry

/-- A property survives a change, whichever handlers are alive. -/
def Survives (property : Registry → Prop) (change : Change) : Prop :=
  ∀ registry alive, property registry → property (Registry.change registry alive change)

/-- What every section keeps survives every change. -/
theorem Kept.survives {property : Registry → Prop} (kept : Kept property) (change : Change) :
    Survives property change := by
  -- A change is one of the four sections.
  intro registry alive held
  cases change with
  | subscribe type handler retain => exact kept.subscribe held alive type handler retain
  | unsubscribe handle => exact kept.unsubscribe held alive handle
  | prune => exact kept.prune held alive
  | close => exact kept.close held

/-- What survives every change is kept by every section. -/
theorem Kept.of_survives {property : Registry → Prop}
    (survives : ∀ change, Survives property change) : Kept property where
  -- Every section is a change; only a close asks nobody who is alive.
  subscribe held alive type handler retain :=
    survives (.subscribe type handler retain) _ alive held
  unsubscribe held alive handle := survives (.unsubscribe handle) _ alive held
  prune held alive := survives .prune _ alive held
  close held := survives .close _ (fun _ => false) held

/-- Every change keeps the invariant. -/
theorem WellFormed.change {registry : Registry} (wellFormed : registry.WellFormed)
    (alive : Handler → Bool) (change : Change) : (registry.change alive change).WellFormed :=
  kept_wellFormed.survives change registry alive wellFormed

end Registry

/-- A retained entry is alive, whoever else is. -/
theorem Entry.isAlive_of_retained {entry : Entry} (retained : entry.retained = true)
    (alive : Handler → Bool) : entry.isAlive alive = true := by
  -- The reference of the registry itself keeps the handler alive.
  rw [Entry.isAlive, retained, Bool.true_or]

/-- An entry as it may look later: of the same handler, and retained at least if it was before. -/
structure Entry.Continues (earlier later : Entry) : Prop where
  id_eq : later.id = earlier.id
  handler_eq : later.handler = earlier.handler
  retained_of : earlier.retained = true → later.retained = true

namespace Entry.Continues

/-- An entry that stays as it is continues itself. -/
theorem refl (entry : Entry) : entry.Continues entry :=
  ⟨rfl, rfl, fun retained => retained⟩

/-- What continues a continuation continues the first entry. -/
theorem trans {first second third : Entry} (here : first.Continues second)
    (there : second.Continues third) : first.Continues third where
  id_eq := there.id_eq.trans here.id_eq
  handler_eq := there.handler_eq.trans here.handler_eq
  retained_of retained := there.retained_of (here.retained_of retained)

/-- An upgrade continues its entry. -/
theorem upgrade (id : Nat) (retain : Bool) (entry : Entry) :
    entry.Continues (entry.upgrade id retain) where
  -- An upgrade writes at most the field that says whether the handler is retained.
  id_eq := entry.upgrade_id id retain
  handler_eq := entry.upgrade_handler id retain
  retained_of retained := by
    unfold Entry.upgrade
    split <;> simp [retained]

end Entry.Continues

namespace Registry

section Entries

variable {registry : Registry} {alive : Handler → Bool} {type : EventType} {entry : Entry}

/-- A change in which a handler is subscribed whose reference the registry keeps from then on. -/
def Grants (registry : Registry) (alive : Handler → Bool) (change : Change) (type : EventType)
    (entry : Entry) : Prop :=
  change = .subscribe type entry.handler true ∧
    (registry.subscribe alive type entry.handler true).answer =
      .ok (registry.handle entry.id type)

/-- Where an entry comes from that is stored after a change. -/
inductive Origin (registry : Registry) (alive : Handler → Bool) (change : Change)
    (type : EventType) (entry : Entry) : Prop
  /-- It was stored before, and can only have become retained. -/
  | earlier (earlier : Entry) (stored : earlier ∈ registry.entries type)
    (continues : earlier.Continues entry)
    (granted : entry.retained = true →
      earlier.retained = true ∨ registry.Grants alive change type entry)
  /-- It is new, and its id was not given out before. -/
  | made (later : registry.nextId < entry.id)
    (granted : entry.retained = true → registry.Grants alive change type entry)

/-- An entry that was there has its origin in itself. -/
theorem Origin.same {change : Change} (stored : entry ∈ registry.entries type) :
    registry.Origin alive change type entry :=
  .earlier entry stored (.refl entry) Or.inl

/-- The entries after a subscription were there, or belong to the handler that is subscribed. -/
theorem WellFormed.origin_subscribe (wellFormed : registry.WellFormed) {asked : EventType}
    {handler : Handler} {retain : Bool}
    (stored : entry ∈ (registry.subscribe alive asked handler retain).registry.entries type) :
    registry.Origin alive (.subscribe asked handler retain) type entry := by
  -- An upgrade and a new entry are the only ones that need an origin of their own.
  rcases registry.subscribe_cases alive asked handler retain with
    ⟨error, refused⟩ | ⟨_, _, ⟨existing, found, made⟩ | ⟨absent, made⟩⟩
  · rw [refused] at stored
    exact .same stored
  · -- A handler that is subscribed already: the list is rewritten, entry by entry.
    have same : existing.handler = handler := by simpa using List.find?_some found
    rw [made, entries_setEntries] at stored
    by_cases ofType : type = asked
    · subst ofType
      rw [if_pos rfl] at stored
      obtain ⟨earlier, living, rfl⟩ := List.mem_map.mp stored
      refine .earlier earlier (List.mem_of_mem_filter living) (.upgrade _ _ _) fun retained => ?_
      by_cases hit : earlier.id = existing.id
      · -- The handler has one entry with this id, and its reference is the one that is passed.
        have only : earlier = existing := congrArg Subscription.entry <|
          wellFormed.eq_of_id (wellFormed.mem_of_live living)
            (wellFormed.mem_of_live (List.mem_of_find?_eq_some found)) hit
        subst only
        have either : earlier.retained = true ∨ retain = true := by
          simpa [Entry.upgrade] using retained
        refine either.imp_right fun granted => ?_
        subst granted same
        exact ⟨by rw [Entry.upgrade_handler], by
          rw [Entry.upgrade_handler, Entry.upgrade_id]
          exact congrArg Section.answer made⟩
      · rw [Entry.upgrade, if_neg hit] at retained
        exact Or.inl retained
    · rw [if_neg ofType] at stored
      exact .same stored
  · -- A handler that is new: its entry stands at the end of the list.
    rw [made, entries_setEntries] at stored
    by_cases ofType : type = asked
    · subst ofType
      rw [if_pos rfl] at stored
      rcases List.mem_append.mp stored with living | new
      · exact .same (List.mem_of_mem_filter living)
      · rw [List.mem_singleton.mp new]
        refine .made (Nat.lt_succ_self _) fun retained => ?_
        obtain rfl : retain = true := retained
        exact ⟨rfl, congrArg Section.answer made⟩
    · rw [if_neg ofType] at stored
      exact .same stored

/-- The entries after the end of a subscription were there. -/
theorem WellFormed.mem_of_unsubscribe (wellFormed : registry.WellFormed)
    {handle : SubscriptionHandle}
    (stored : entry ∈ (registry.unsubscribe alive handle).registry.entries type) :
    entry ∈ registry.entries type := by
  -- Ending a subscription can only shorten a list.
  rcases wellFormed.unsubscribe_cases alive handle with ⟨_, same⟩ | ⟨_, _, made⟩
  · exact same ▸ stored
  · rw [made, entries_setEntries] at stored
    split at stored
    · rename_i ofType
      rw [ofType]
      exact List.mem_of_mem_filter stored
    · exact stored

/-- The entries after a change were there, or belong to the handler that is subscribed. -/
theorem WellFormed.origin (wellFormed : registry.WellFormed) {change : Change}
    (stored : entry ∈ (registry.change alive change).entries type) :
    registry.Origin alive change type entry := by
  -- Nothing but a subscription brings entries about.
  cases change with
  | subscribe asked handler retain => exact wellFormed.origin_subscribe stored
  | unsubscribe handle => exact .same (wellFormed.mem_of_unsubscribe stored)
  | prune =>
    have living : entry ∈ registry.live alive type := wellFormed.entries_prune type ▸ stored
    exact .same (List.mem_of_mem_filter living)
  | close =>
    have listed := wellFormed.close.mem_entries.mp stored
    rw [wellFormed.subscriptions_close] at listed
    exact absurd listed List.not_mem_nil

/-- A living entry is still there after a subscription, and at most becomes retained. -/
theorem stays_subscribe (living : entry ∈ registry.live alive type) (asked : EventType)
    (handler : Handler) (retain : Bool) :
    ∃ later ∈ (registry.subscribe alive asked handler retain).registry.entries type,
      entry.Continues later := by
  -- Subscribing prunes the list that it works on, which spares the living.
  have stored : entry ∈ registry.entries type := List.mem_of_mem_filter living
  rcases registry.subscribe_cases alive asked handler retain with
    ⟨error, refused⟩ | ⟨_, _, ⟨existing, _, made⟩ | ⟨_, made⟩⟩
  · rw [refused]
    exact ⟨entry, stored, .refl entry⟩
  · rw [made, entries_setEntries]
    by_cases ofType : type = asked
    · subst ofType
      rw [if_pos rfl]
      exact ⟨_, List.mem_map_of_mem living, .upgrade ..⟩
    · rw [if_neg ofType]
      exact ⟨entry, stored, .refl entry⟩
  · rw [made, entries_setEntries]
    by_cases ofType : type = asked
    · subst ofType
      rw [if_pos rfl]
      exact ⟨entry, List.mem_append_left _ living, .refl entry⟩
    · rw [if_neg ofType]
      exact ⟨entry, stored, .refl entry⟩

/-- A living entry is still there after the end of another subscription. -/
theorem WellFormed.stays_unsubscribe (wellFormed : registry.WellFormed)
    (living : entry ∈ registry.live alive type) {handle : SubscriptionHandle}
    (other : handle ≠ registry.handle entry.id type) :
    entry ∈ (registry.unsubscribe alive handle).registry.entries type := by
  obtain ⟨stored, isAlive⟩ := List.mem_filter.mp living
  rcases wellFormed.unsubscribe_cases alive handle with ⟨_, same⟩ | ⟨_, own, made⟩
  · rw [same]
    exact stored
  · rw [made, entries_setEntries]
    by_cases ofType : type = handle.type
    · subst ofType
      rw [if_pos rfl]
      -- A handle of the same registry and type can differ in the id alone.
      have differs : entry.id ≠ handle.id := fun same =>
        other (by rw [same, Registry.handle, ← own])
      exact List.mem_filter.mpr ⟨stored, by simp [leaves, isAlive, differs]⟩
    · rw [if_neg ofType]
      exact stored

/-- Closing leaves a registry closed. -/
theorem closed_close (registry : Registry) : registry.close.registry.closed = true := by
  -- Closing once more changes nothing.
  unfold Registry.close
  split
  · assumption
  · rfl

/-- A living entry is there after a change, unless its own handle ends it or the registry closes. -/
theorem WellFormed.stays (wellFormed : registry.WellFormed)
    (living : entry ∈ registry.live alive type) (change : Change) :
    (registry.change alive change).closed = true ∨
      change = .unsubscribe (registry.handle entry.id type) ∨
      ∃ later ∈ (registry.change alive change).entries type, entry.Continues later := by
  -- Only its own handle, or the end of the registry, can end a living entry.
  cases change with
  | subscribe asked handler retain =>
    exact Or.inr (Or.inr (stays_subscribe living asked handler retain))
  | unsubscribe handle =>
    by_cases ended : handle = registry.handle entry.id type
    · exact Or.inr (Or.inl (congrArg Change.unsubscribe ended))
    · exact Or.inr (Or.inr ⟨entry, wellFormed.stays_unsubscribe living ended, .refl entry⟩)
  | prune =>
    have kept : entry ∈ (registry.prune alive).registry.entries type :=
      wellFormed.entries_prune type ▸ living
    exact Or.inr (Or.inr ⟨entry, kept, .refl entry⟩)
  | close => exact Or.inl (closed_close registry)

end Entries

/-- A registry as it may be later: the same one, with no id taken back, and closed for good. -/
structure Succeeds (earlier later : Registry) : Prop where
  id_eq : later.id = earlier.id
  nextId_le : earlier.nextId ≤ later.nextId
  closed_of : earlier.closed = true → later.closed = true

namespace Succeeds

/-- A registry that stays as it is succeeds itself. -/
theorem refl (registry : Registry) : registry.Succeeds registry :=
  ⟨rfl, Nat.le_refl _, fun closed => closed⟩

/-- What succeeds a successor succeeds the first registry. -/
theorem trans {first second third : Registry} (here : first.Succeeds second)
    (there : second.Succeeds third) : first.Succeeds third where
  id_eq := there.id_eq.trans here.id_eq
  nextId_le := Nat.le_trans here.nextId_le there.nextId_le
  closed_of closed := there.closed_of (here.closed_of closed)

end Succeeds

/-- A registry after a change succeeds the one before it. -/
theorem WellFormed.succeeds_change {registry : Registry} (wellFormed : registry.WellFormed)
    (alive : Handler → Bool) (change : Change) :
    registry.Succeeds (registry.change alive change) := by
  -- No section changes the id, lowers the counter or opens what is closed.
  cases change with
  | subscribe type handler retain =>
    rcases registry.subscribe_cases alive type handler retain with
      ⟨_, made⟩ | ⟨_, _, ⟨_, _, made⟩ | ⟨_, made⟩⟩ <;> simp only [Registry.change, made]
    · exact .refl registry
    · exact ⟨rfl, Nat.le_refl _, fun closed => closed⟩
    · exact ⟨rfl, Nat.le_succ _, fun closed => closed⟩
  | unsubscribe handle =>
    rcases wellFormed.unsubscribe_cases alive handle with ⟨_, made⟩ | ⟨_, _, made⟩ <;>
      simp only [Registry.change, made]
    · exact .refl registry
    · exact ⟨rfl, Nat.le_refl _, fun closed => closed⟩
  | prune => exact ⟨rfl, Nat.le_refl _, fun closed => closed⟩
  | close =>
    show registry.Succeeds registry.close.registry
    unfold Registry.close
    split
    · exact .refl registry
    · exact ⟨rfl, Nat.le_refl _, fun _ => rfl⟩

/-- Every change leaves a registry that succeeds all those before it. -/
theorem kept_succeeds (earlier : Registry) :
    Kept fun registry => registry.WellFormed ∧ earlier.Succeeds registry :=
  -- What follows on a follower follows on the first.
  .of_survives fun change _ alive held =>
    ⟨held.1.change alive change, held.2.trans (held.1.succeeds_change alive change)⟩

end Registry

end EventBus
