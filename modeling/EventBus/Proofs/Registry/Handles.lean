import EventBus.Proofs.Registry.Changes

/-!
The entry that a handle stands for. An entry that is gone never comes back, and one that is retained
stays until its handle ends it or the registry closes.
-/

namespace EventBus

namespace Registry

/-- The entry that a handle stands for, as long as it is stored. -/
def find? (registry : Registry) (handle : SubscriptionHandle) : Option Entry :=
  if handle.registry = registry.id then
    (registry.entries handle.type).find? (·.id == handle.id)
  else none

/-- A handle stands for an entry when it is the handle of that entry. -/
theorem WellFormed.find?_eq_some {registry : Registry} (wellFormed : registry.WellFormed)
    {handle : SubscriptionHandle} {entry : Entry} :
    registry.find? handle = some entry ↔
      entry ∈ registry.entries handle.type ∧ registry.handle entry.id handle.type = handle := by
  -- A handle of another registry is the handle of no entry here.
  unfold find?
  split
  · rename_i own
    constructor
    · intro found
      have same : entry.id = handle.id := by simpa using List.find?_some found
      exact ⟨List.mem_of_find?_eq_some found, by rw [Registry.handle, same, ← own]⟩
    · rintro ⟨stored, same⟩
      have hit : entry.id = handle.id := congrArg SubscriptionHandle.id same
      have listed := wellFormed.mem_entries.mp stored
      -- The search finds an entry with the id, and there is only one.
      cases found : (registry.entries handle.type).find? (·.id == handle.id) with
      | none => exact absurd (List.find?_eq_none.mp found entry stored) (by simp [hit])
      | some first =>
        have same : first.id = handle.id := by simpa using List.find?_some found
        have there := wellFormed.mem_entries.mp (List.mem_of_find?_eq_some found)
        have only := wellFormed.eq_of_id there listed (same.trans hit.symm)
        exact congrArg (some ∘ Subscription.entry) only
  · rename_i foreign
    constructor
    · intro found
      cases found
    · rintro ⟨_, same⟩
      exact absurd (congrArg SubscriptionHandle.registry same).symm foreign

/-- A handle stands for nothing when no entry has it as its handle. -/
theorem WellFormed.find?_eq_none {registry : Registry} (wellFormed : registry.WellFormed)
    {handle : SubscriptionHandle} :
    registry.find? handle = none ↔
      ∀ entry ∈ registry.entries handle.type, registry.handle entry.id handle.type ≠ handle := by
  -- This is the statement about what is found, put the other way round.
  rw [Option.eq_none_iff_forall_ne_some]
  constructor
  · intro nothing entry stored same
    exact nothing entry (wellFormed.find?_eq_some.mpr ⟨stored, same⟩)
  · intro nothing entry found
    obtain ⟨stored, same⟩ := wellFormed.find?_eq_some.mp found
    exact nothing entry stored same

/-- A registry in which a handle stands for an entry is not closed. -/
theorem WellFormed.opened_of_find? {registry : Registry} (wellFormed : registry.WellFormed)
    {handle : SubscriptionHandle} {entry : Entry} (found : registry.find? handle = some entry) :
    registry.closed = false := by
  -- Once a registry is closed there are no entries to be found.
  refine Bool.eq_false_iff.mpr fun closed => ?_
  have stored := (wellFormed.find?_eq_some.mp found).1
  rw [wellFormed.entries_closed closed] at stored
  exact List.not_mem_nil stored

/-- A handle of the registry whose id has been given out and whose entry is gone. -/
structure Spent (handle : SubscriptionHandle) (registry : Registry) : Prop where
  wellFormed : registry.WellFormed
  own : handle.registry = registry.id
  given : handle.id ≤ registry.nextId
  gone : registry.find? handle = none

/-- A handle that is spent remains so, whatever is done to the registry. -/
theorem kept_spent (handle : SubscriptionHandle) : Kept (Spent handle) :=
  .of_survives fun change registry alive spent => by
    have wellFormed := spent.wellFormed
    have later := wellFormed.change alive change
    have succeeds := wellFormed.succeeds_change alive change
    refine ⟨later, spent.own.trans succeeds.id_eq.symm,
      Nat.le_trans spent.given succeeds.nextId_le, later.find?_eq_none.mpr ?_⟩
    intro entry stored same
    have hit : entry.id = handle.id := congrArg SubscriptionHandle.id same
    rw [Registry.handle, succeeds.id_eq] at same
    -- An entry with the id was there before, or its id would be a new one.
    rcases wellFormed.origin stored with ⟨earlier, there, continues, _⟩ | ⟨new, _⟩
    · refine wellFormed.find?_eq_none.mp spent.gone earlier there ?_
      rw [Registry.handle, ← continues.id_eq]
      exact same
    · have given := spent.given
      omega

/-- A handle that stands for an entry is one of the registry, and its id has been given out. -/
theorem WellFormed.issued_of_find? {registry : Registry} (wellFormed : registry.WellFormed)
    {handle : SubscriptionHandle} {entry : Entry} (found : registry.find? handle = some entry) :
    handle.registry = registry.id ∧ handle.id ≤ registry.nextId := by
  -- The handle is put together from the entry, whose id is counted.
  obtain ⟨stored, same⟩ := wellFormed.find?_eq_some.mp found
  have hit : entry.id = handle.id := congrArg SubscriptionHandle.id same
  exact ⟨congrArg SubscriptionHandle.registry same.symm,
    hit ▸ (wellFormed.counted _ (wellFormed.mem_entries.mp stored)).2⟩

/-- The entry of a handle is gone once its handle has been used to end it. -/
theorem WellFormed.find?_unsubscribe {registry : Registry} (wellFormed : registry.WellFormed)
    (alive : Handler → Bool) (handle : SubscriptionHandle) :
    (registry.unsubscribe alive handle).registry.find? handle = none := by
  -- Nothing with the id is left in the list of the type.
  have later := wellFormed.unsubscribe alive handle
  refine later.find?_eq_none.mpr fun entry stored same => ?_
  have hit : entry.id = handle.id := congrArg SubscriptionHandle.id same
  have own := congrArg SubscriptionHandle.registry same
  rcases wellFormed.unsubscribe_cases alive handle with ⟨idle, unchanged⟩ | ⟨_, _, made⟩
  · rw [unchanged] at stored own
    rcases idle with closed | foreign
    · -- A closed registry has no entries that could be left.
      rw [wellFormed.entries_closed closed] at stored
      exact List.not_mem_nil stored
    · exact foreign own.symm
  · rw [made, entries_setEntries, if_pos rfl] at stored
    exact absurd (List.mem_filter.mp stored).2 (by simp [leaves, hit])

/-- The handle that a subscription is answered with stands for an entry of the handler. -/
theorem WellFormed.find?_subscribe {registry : Registry} (wellFormed : registry.WellFormed)
    {alive : Handler → Bool} {type : EventType} {handler : Handler} {retain : Bool}
    {handle : SubscriptionHandle}
    (answered : (registry.subscribe alive type handler retain).answer = .ok handle) :
    type.isBlank = false ∧ registry.closed = false ∧ handle.type = type ∧
      ∃ entry,
        (registry.subscribe alive type handler retain).registry.find? handle = some entry ∧
        entry.handler = handler ∧ (retain = true → entry.retained = true) := by
  -- A new handle stands for the new entry, an old one for the entry that was found.
  have later := wellFormed.subscribe alive type handler retain
  have succeeds := wellFormed.succeeds_change alive (.subscribe type handler retain)
  have id_eq : (registry.subscribe alive type handler retain).registry.id = registry.id :=
    succeeds.id_eq
  rcases registry.subscribe_cases alive type handler retain with
    ⟨error, refused⟩ | ⟨named, opened, ⟨existing, found, made⟩ | ⟨absent, made⟩⟩
  · rw [refused] at answered
    cases answered
  · have same : existing.handler = handler := by simpa using List.find?_some found
    obtain rfl : registry.handle existing.id type = handle := by
      rw [made] at answered
      exact Except.ok.inj answered
    -- The entry that was there is the one that is answered, and is upgraded if that is asked for.
    have stored : existing.upgrade existing.id retain ∈
        (registry.subscribe alive type handler retain).registry.entries type := by
      rw [made, entries_setEntries, if_pos rfl]
      exact List.mem_map_of_mem (List.mem_of_find?_eq_some found)
    have sameHandle : (registry.subscribe alive type handler retain).registry.handle
        (existing.upgrade existing.id retain).id type = registry.handle existing.id type := by
      rw [Registry.handle, id_eq, Entry.upgrade_id, Registry.handle]
    refine ⟨named, opened, rfl, _, later.find?_eq_some.mpr ⟨stored, sameHandle⟩, ?_, ?_⟩
    · rw [Entry.upgrade_handler, same]
    · rintro rfl
      simp [Entry.upgrade]
  · -- A new entry is stored with the id that its handle has.
    obtain rfl : registry.handle (registry.nextId + 1) type = handle := by
      rw [made] at answered
      exact Except.ok.inj answered
    have stored : ⟨registry.nextId + 1, handler, retain⟩ ∈
        (registry.subscribe alive type handler retain).registry.entries type := by
      rw [made, entries_setEntries, if_pos rfl]
      exact List.mem_append_right _ List.mem_cons_self
    have sameHandle : (registry.subscribe alive type handler retain).registry.handle
        (registry.nextId + 1) type = registry.handle (registry.nextId + 1) type := by
      rw [Registry.handle, id_eq, Registry.handle]
    exact ⟨named, opened, rfl, _, later.find?_eq_some.mpr ⟨stored, sameHandle⟩, rfl,
      fun retained => retained⟩

/-- The entry of a handle is retained for a handler, unless the registry has been closed. -/
def Retains (handle : SubscriptionHandle) (handler : Handler) (registry : Registry) : Prop :=
  registry.WellFormed ∧ (registry.closed = true ∨
    ∃ entry, registry.find? handle = some entry ∧ entry.retained = true ∧
      entry.handler = handler)

/-- A retained entry stays, unless its own handle is used to end it or the registry is closed. -/
theorem survives_retains {handle : SubscriptionHandle} {handler : Handler} {change : Change}
    (other : change ≠ .unsubscribe handle) : Survives (Retains handle handler) change := by
  -- A retained entry is always alive, so only its handle or the end can remove it.
  rintro registry alive ⟨wellFormed, held⟩
  have later := wellFormed.change alive change
  have succeeds := wellFormed.succeeds_change alive change
  refine ⟨later, ?_⟩
  rcases held with closed | ⟨entry, found, retained, rfl⟩
  · exact Or.inl (succeeds.closed_of closed)
  obtain ⟨stored, same⟩ := wellFormed.find?_eq_some.mp found
  have living : entry ∈ registry.live alive handle.type :=
    List.mem_filter.mpr ⟨stored, Entry.isAlive_of_retained retained alive⟩
  rcases wellFormed.stays living change with closed | ended | ⟨next, there, continues⟩
  · exact Or.inl closed
  · exact absurd (same ▸ ended) other
  · refine Or.inr ⟨next, later.find?_eq_some.mpr ⟨there, ?_⟩, continues.retained_of retained,
      continues.handler_eq⟩
    rw [Registry.handle, succeeds.id_eq, continues.id_eq]
    exact same

end Registry

end EventBus
