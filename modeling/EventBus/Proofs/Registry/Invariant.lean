import EventBus.Proofs.Registry.Subscriptions

/-! The invariant that every section of a registry keeps, whichever handlers are alive. -/

namespace EventBus

/-- Whether a subscription stays where only some entries of one type are kept. -/
def Subscription.stays (type : EventType) (keeps : Entry → Bool)
    (subscription : Subscription) : Bool :=
  subscription.type ≠ type || keeps subscription.entry

namespace Registry

/-- What holds of a registry at all times. -/
structure WellFormed (registry : Registry) : Prop where
  /-- Every type has at most one list. -/
  types_nodup : (registry.lists.map Prod.fst).Nodup
  /-- A blank type has none. -/
  named : ∀ type ∈ registry.lists.map Prod.fst, type.isBlank = false
  /-- A type without subscriptions is forgotten. -/
  filled : ∀ type, (type, []) ∉ registry.lists
  /-- The subscriptions of a type stand in the order of their making. -/
  ascending : ∀ type, (registry.entries type).Pairwise (·.id < ·.id)
  /-- No two subscriptions have the same id, whatever their types are. -/
  ids_nodup : (registry.subscriptions.map (·.entry.id)).Nodup
  /-- Ids are counted from one. -/
  counted : ∀ subscription ∈ registry.subscriptions,
    0 < subscription.entry.id ∧ subscription.entry.id ≤ registry.nextId
  /-- A closed registry has no subscriptions. -/
  emptied : registry.closed = true → registry.lists = []

/-- A registry without subscriptions is well-formed. -/
theorem wellFormed_new (id : Nat) : (Registry.new id).WellFormed where
  -- No list, no subscription.
  types_nodup := List.nodup_nil
  named := by simp [Registry.new]
  filled := by simp [Registry.new]
  ascending := by simp [Registry.new, entries]
  ids_nodup := List.nodup_nil
  counted := by simp [Registry.new, subscriptions, subscriptionsOf]
  emptied := by simp [Registry.new]

/-- Taking out the list of a type takes out its subscriptions. -/
theorem subscriptionsOf_filter_ne (type : EventType) (lists : List (EventType × List Entry)) :
    subscriptionsOf (lists.filter fun (other, _) => other ≠ type) =
      (subscriptionsOf lists).filter (·.type ≠ type) := by
  induction lists with
  | nil => rfl
  | cons head rest ih =>
    obtain ⟨other, entries⟩ := head
    rw [subscriptionsOf_cons, List.filter_append, ← ih]
    -- The subscriptions of one list go together or stay together.
    by_cases same : other = type
    · simp [same, List.filter_map, Function.comp_def]
    · simp [same, List.filter_map, Function.comp_def, subscriptionsOf]

/-- The types with a list after a change are among those before it and the one that it is about. -/
theorem mem_types_setEntries {registry : Registry} {type other : EventType} {entries : List Entry}
    (listed : other ∈ (registry.setEntries type entries).lists.map Prod.fst) :
    other ∈ registry.lists.map Prod.fst ∨ (other = type ∧ entries ≠ []) := by
  unfold setEntries at listed
  -- A type is forgotten with its last entry, and remembered with its first.
  split at listed
  · simp only [List.mem_map, List.mem_filter] at listed
    obtain ⟨pair, ⟨stored, _⟩, rfl⟩ := listed
    exact Or.inl (List.mem_map_of_mem stored)
  · rename_i filled
    simp only [map_fst_putList] at listed
    split at listed
    · exact Or.inl listed
    · rcases List.mem_append.mp listed with before | new
      · exact Or.inl before
      · exact Or.inr ⟨List.mem_singleton.mp new, fun empty => filled (by simp [empty])⟩

section Changes

variable {registry : Registry} (wellFormed : registry.WellFormed)

include wellFormed

/-- The entries of a type are its subscriptions. -/
theorem WellFormed.filter_type (type : EventType) :
    registry.subscriptions.filter (·.type = type) =
      (registry.entries type).map (Subscription.mk type) :=
  filter_type_subscriptionsOf wellFormed.types_nodup type

/-- An entry is stored under a type exactly when it is a subscription to the type. -/
theorem WellFormed.mem_entries {type : EventType} {entry : Entry} :
    entry ∈ registry.entries type ↔ ⟨type, entry⟩ ∈ registry.subscriptions := by
  have same := wellFormed.filter_type type
  -- The entries are the subscriptions to the type without it.
  constructor
  · intro stored
    have found := List.mem_map_of_mem (f := Subscription.mk type) stored
    rw [← same] at found
    exact List.mem_of_mem_filter found
  · intro stored
    have found : ⟨type, entry⟩ ∈ registry.subscriptions.filter (·.type = type) :=
      List.mem_filter.mpr ⟨stored, by simp⟩
    rw [same] at found
    obtain ⟨other, listed, equal⟩ := List.mem_map.mp found
    cases equal
    exact listed

/-- A list is found under its type. -/
theorem WellFormed.entries_eq {type : EventType} {entries : List Entry}
    (listed : (type, entries) ∈ registry.lists) : registry.entries type = entries := by
  have nodup := wellFormed.types_nodup
  obtain ⟨before, behind, split⟩ := List.append_of_mem listed
  rw [split, List.map_append, List.map_cons] at nodup
  -- No list before it has the type, so the search comes to it.
  have absent : ∀ pair ∈ before, type != pair.1 := fun pair there => by
    have differs := (List.nodup_append.mp nodup).2.2 pair.1 (List.mem_map_of_mem there) type
      List.mem_cons_self
    simpa using Ne.symm differs
  have found : registry.lists.lookup type = some entries :=
    List.lookup_eq_some_iff.mpr ⟨before, behind, split, absent⟩
  rw [Registry.entries, found, Option.getD_some]

/-- A closed registry has no entries of any type. -/
theorem WellFormed.entries_closed (closed : registry.closed = true) (type : EventType) :
    registry.entries type = [] := by
  -- The invariant says that nothing is kept past the end.
  rw [entries, wellFormed.emptied closed]
  rfl

/-- Two subscriptions with one id are one subscription. -/
theorem WellFormed.eq_of_id {first second : Subscription} (here : first ∈ registry.subscriptions)
    (there : second ∈ registry.subscriptions) (same : first.entry.id = second.entry.id) :
    first = second :=
  List.inj_on_of_nodup_map wellFormed.ids_nodup here there same

/-- Changing the entries of a type leaves the subscriptions to all other types alone. -/
theorem WellFormed.subscriptions_setEntries (type : EventType) (entries : List Entry) :
    (registry.setEntries type entries).subscriptions.Perm
      (entries.map (Subscription.mk type) ++ registry.subscriptions.filter (·.type ≠ type)) := by
  -- The list of the type is forgotten if it has become empty, and put in its place otherwise.
  unfold setEntries subscriptions
  split
  · rename_i empty
    have nothing : entries = [] := List.isEmpty_iff.mp empty
    simp only [nothing, List.map_nil, List.nil_append]
    rw [subscriptionsOf_filter_ne]
  · exact subscriptionsOf_putList wellFormed.types_nodup type entries

/-- Keeping some entries of a type keeps the same subscriptions and all those to other types. -/
theorem WellFormed.subscriptions_setEntries_filter (type : EventType) (keeps : Entry → Bool) :
    (registry.setEntries type ((registry.entries type).filter keeps)).subscriptions.Perm
      (registry.subscriptions.filter (Subscription.stays type keeps)) := by
  -- What is kept of the type is what stays of it.
  have ofType : ((registry.entries type).filter keeps).map (Subscription.mk type) =
      (registry.subscriptions.filter (Subscription.stays type keeps)).filter (·.type = type) := by
    calc ((registry.entries type).filter keeps).map (Subscription.mk type)
        = ((registry.entries type).map (Subscription.mk type)).filter
            fun subscription => keeps subscription.entry := by
          rw [List.filter_map]
          rfl
      _ = (registry.subscriptions.filter (Subscription.stays type keeps)).filter
            (·.type = type) := by
          rw [← wellFormed.filter_type, List.filter_filter, List.filter_filter]
          refine List.filter_congr fun subscription _ => ?_
          by_cases same : subscription.type = type <;> simp [Subscription.stays, same]
  -- All others stay in any case.
  have ofOthers : registry.subscriptions.filter (·.type ≠ type) =
      (registry.subscriptions.filter (Subscription.stays type keeps)).filter
        fun subscription => !decide (subscription.type = type) := by
    rw [List.filter_filter]
    refine List.filter_congr fun subscription _ => ?_
    by_cases same : subscription.type = type <;> simp [Subscription.stays, same]
  refine (wellFormed.subscriptions_setEntries type _).trans ?_
  rw [ofType, ofOthers]
  -- Sorting the survivors into those of the type and those of others moves them, and no more.
  exact List.filter_append_perm _ _

/-- The lists keep their invariant when those of one type change and no id is given away twice. -/
theorem WellFormed.setEntries {type : EventType}
    {entries : List Entry} (opened : registry.closed = false)
    (named : entries ≠ [] → type.isBlank = false) (ascending : entries.Pairwise (·.id < ·.id))
    (counted : ∀ entry ∈ entries, 0 < entry.id ∧ entry.id ≤ registry.nextId)
    (apart : ∀ entry ∈ entries, ∀ subscription ∈ registry.subscriptions,
      subscription.type ≠ type → subscription.entry.id ≠ entry.id) :
    (registry.setEntries type entries).WellFormed where
  types_nodup := by
    -- Types only come in where no list has them.
    unfold Registry.setEntries
    split
    · exact wellFormed.types_nodup.sublist (List.filter_sublist.map Prod.fst)
    · simp only [map_fst_putList]
      split
      · exact wellFormed.types_nodup
      · rename_i absent
        exact List.nodup_append.mpr ⟨wellFormed.types_nodup, List.nodup_singleton type, by
          rintro other listed _ new rfl
          exact absent (List.mem_singleton.mp new ▸ listed)⟩
  named := by
    -- A new type comes in with entries, which may only be if it is not blank.
    intro other listed
    rcases mem_types_setEntries listed with before | ⟨rfl, filled⟩
    · exact wellFormed.named other before
    · exact named filled
  filled := by
    -- An empty list is forgotten rather than stored.
    intro other listed
    unfold Registry.setEntries at listed
    split at listed
    · exact wellFormed.filled other (List.mem_of_mem_filter listed)
    · rename_i filled
      rcases mem_putList listed with new | before
      · cases new
        exact filled rfl
      · exact wellFormed.filled other before
  ascending := by
    -- The lists of other types are not touched.
    intro other
    rw [entries_setEntries]
    split
    · exact ascending
    · exact wellFormed.ascending other
  ids_nodup := by
    refine ((wellFormed.subscriptions_setEntries type entries).map _).nodup_iff.mpr ?_
    rw [List.map_append, List.map_map]
    -- The ids of the type ascend, those of others were distinct, and no id is in both.
    refine List.nodup_append.mpr ⟨?_, ?_, ?_⟩
    · exact (List.pairwise_map.mpr ascending).imp Nat.ne_of_lt
    · exact wellFormed.ids_nodup.sublist (List.filter_sublist.map _)
    · intro id ofType other ofOthers
      obtain ⟨entry, stored, rfl⟩ := List.mem_map.mp ofType
      obtain ⟨subscription, kept, rfl⟩ := List.mem_map.mp ofOthers
      obtain ⟨stored', differs⟩ := List.mem_filter.mp kept
      exact (apart entry stored subscription stored' (by simpa using differs)).symm
  counted := by
    -- Every subscription is one of the new entries, or one to another type.
    intro subscription stored
    have stored := (wellFormed.subscriptions_setEntries type entries).mem_iff.mp stored
    rcases List.mem_append.mp stored with ofType | ofOthers
    · obtain ⟨entry, listed, rfl⟩ := List.mem_map.mp ofType
      exact counted entry listed
    · exact wellFormed.counted subscription (List.mem_of_mem_filter ofOthers)
  emptied := by
    intro closed
    exact absurd (closed.symm.trans opened) (by decide)

end Changes

end Registry

end EventBus
