import EventBus.Registry.Section
import Mathlib.Data.List.Nodup
import Mathlib.Data.List.Perm.Basic

/-! The stored subscriptions of a registry as one list, and what a change of one type does to it. -/

namespace EventBus

/-- A subscription together with the type that it was made to. -/
structure Subscription where
  type : EventType
  entry : Entry
  deriving DecidableEq, Repr

/-- The subscriptions in the lists of some types. -/
def subscriptionsOf (lists : List (EventType × List Entry)) : List Subscription :=
  lists.flatMap fun (type, entries) => entries.map (Subscription.mk type)

/-- A subscription is stored under the type that it was made to. -/
theorem mem_subscriptionsOf {lists : List (EventType × List Entry)} {subscription : Subscription} :
    subscription ∈ subscriptionsOf lists ↔
      ∃ entries, (subscription.type, entries) ∈ lists ∧ subscription.entry ∈ entries := by
  -- The type names the list that the subscription is in.
  simp only [subscriptionsOf, List.mem_flatMap, List.mem_map]
  constructor
  · rintro ⟨⟨type, entries⟩, listed, entry, stored, rfl⟩
    exact ⟨entries, listed, stored⟩
  · rintro ⟨entries, listed, stored⟩
    exact ⟨(subscription.type, entries), listed, subscription.entry, stored, rfl⟩

/-- The subscriptions of the first type stand before all others. -/
theorem subscriptionsOf_cons (type : EventType) (entries : List Entry)
    (rest : List (EventType × List Entry)) :
    subscriptionsOf ((type, entries) :: rest) =
      entries.map (Subscription.mk type) ++ subscriptionsOf rest :=
  rfl

/-- A type without a list is not the type of any subscription. -/
theorem type_ne_of_absent {lists : List (EventType × List Entry)} {type : EventType}
    (absent : type ∉ lists.map Prod.fst) {subscription : Subscription}
    (stored : subscription ∈ subscriptionsOf lists) : subscription.type ≠ type := by
  -- Every subscription stems from a list, and that has its type.
  rintro rfl
  obtain ⟨entries, listed, _⟩ := mem_subscriptionsOf.mp stored
  exact absent (List.mem_map_of_mem listed)

/-- The list of one type holds its subscriptions in the order in which they are stored. -/
theorem filter_type_subscriptionsOf {lists : List (EventType × List Entry)}
    (nodup : (lists.map Prod.fst).Nodup) (type : EventType) :
    (subscriptionsOf lists).filter (·.type = type) =
      ((lists.lookup type).getD []).map (Subscription.mk type) := by
  -- The induction is on the lists; since no type has two of them, one list is all there is.
  induction lists with
  | nil => rfl
  | cons head rest ih =>
    obtain ⟨other, entries⟩ := head
    obtain ⟨absent, restNodup⟩ := List.nodup_cons.mp nodup
    rw [subscriptionsOf_cons, List.filter_append]
    by_cases same : other = type
    · -- The first list is the one that is looked for, and no other list has its type.
      subst same
      have others : (subscriptionsOf rest).filter (·.type = other) = [] :=
        List.filter_eq_nil_iff.mpr fun _ stored => by simpa using type_ne_of_absent absent stored
      rw [others]
      simp [List.filter_map, Function.comp_def]
    · have skipped : (entries.map (Subscription.mk other)).filter (·.type = type) = [] := by
        simp [List.filter_map, Function.comp_def, same]
      have differs : (type == other) = false := by simpa using Ne.symm same
      rw [skipped, List.nil_append, ih restNodup, List.lookup_cons, differs]

/-- Putting a list in place of another leaves the subscriptions of all other types alone. -/
theorem subscriptionsOf_putList {lists : List (EventType × List Entry)}
    (nodup : (lists.map Prod.fst).Nodup) (type : EventType) (entries : List Entry) :
    (subscriptionsOf (Registry.putList type entries lists)).Perm
      (entries.map (Subscription.mk type) ++ (subscriptionsOf lists).filter (·.type ≠ type)) := by
  -- Put in its place, a list replaces the one of its type, and passes by all others.
  induction lists with
  | nil => simp [Registry.putList, subscriptionsOf]
  | cons head rest ih =>
    obtain ⟨other, old⟩ := head
    obtain ⟨absent, restNodup⟩ := List.nodup_cons.mp nodup
    rw [subscriptionsOf_cons, List.filter_append]
    by_cases same : other = type
    · subst same
      have gone : (old.map (Subscription.mk other)).filter (·.type ≠ other) = [] := by
        simp [List.filter_map, Function.comp_def]
      have others : (subscriptionsOf rest).filter (·.type ≠ other) = subscriptionsOf rest :=
        List.filter_eq_self.mpr fun _ stored => by simpa using type_ne_of_absent absent stored
      rw [gone, List.nil_append, others]
      simp [Registry.putList, subscriptionsOf_cons]
    · have kept : (old.map (Subscription.mk other)).filter (·.type ≠ type) =
          old.map (Subscription.mk other) := by
        simp [List.filter_map, Function.comp_def, same]
      have put : subscriptionsOf (Registry.putList type entries ((other, old) :: rest)) =
          old.map (Subscription.mk other) ++
            subscriptionsOf (Registry.putList type entries rest) := by
        simp [Registry.putList, same, subscriptionsOf_cons]
      rw [kept, put]
      -- The list of the other type stands before the change and moves behind its front.
      exact ((ih restNodup).append_left _).trans (List.perm_append_comm_assoc _ _ _)

/-- The types with a list, once a list has been put in place of another. -/
theorem map_fst_putList (type : EventType) (entries : List Entry)
    (lists : List (EventType × List Entry)) :
    (Registry.putList type entries lists).map Prod.fst =
      if type ∈ lists.map Prod.fst then lists.map Prod.fst else lists.map Prod.fst ++ [type] := by
  induction lists with
  | nil => rfl
  | cons head rest ih =>
    obtain ⟨other, old⟩ := head
    -- The list is put in place where its type is found, and at the end if it is nowhere.
    by_cases same : other = type
    · simp [Registry.putList, same]
    · simp only [Registry.putList, same, if_false, List.map_cons, ih, List.mem_cons,
        Ne.symm same, false_or]
      split <;> rfl

/-- A list that was put in is the one that is there, or it was there before. -/
theorem mem_putList {type : EventType} {entries : List Entry}
    {lists : List (EventType × List Entry)} {pair : EventType × List Entry}
    (listed : pair ∈ Registry.putList type entries lists) :
    pair = (type, entries) ∨ pair ∈ lists := by
  induction lists with
  | nil => simpa [Registry.putList] using listed
  | cons head rest ih =>
    obtain ⟨other, old⟩ := head
    -- Only the first list of the type is replaced, and all others stay.
    by_cases same : other = type
    · simp only [Registry.putList, same, if_true, List.mem_cons] at listed ⊢
      exact listed.imp_right Or.inr
    · simp only [Registry.putList, same, if_false, List.mem_cons] at listed ⊢
      rcases listed with here | later
      · exact Or.inr (Or.inl here)
      · exact (ih later).imp_right Or.inr

namespace Registry

/-- All stored subscriptions, dead ones included. -/
def subscriptions (registry : Registry) : List Subscription := subscriptionsOf registry.lists

/-- The live entries of a type. -/
def live (registry : Registry) (alive : Handler → Bool) (type : EventType) : List Entry :=
  (registry.entries type).filter (Entry.isAlive alive)

/-- The entries of all types are those of the subscriptions. -/
theorem map_entry_subscriptions (registry : Registry) :
    registry.subscriptions.map Subscription.entry = registry.allEntries := by
  -- Both go through the lists in the same order.
  simp [subscriptions, subscriptionsOf, allEntries, List.map_flatMap, Function.comp_def]

/-- The first list of a type is the one that is found. -/
theorem lookup_cons_ite (type first : EventType) (entries : List Entry)
    (rest : List (EventType × List Entry)) :
    ((first, entries) :: rest).lookup type =
      if type = first then some entries else rest.lookup type := by
  -- Equality of types is what the search goes by.
  rw [List.lookup_cons]
  by_cases same : type = first
  · simp [same]
  · have differs : (type == first) = false := by simpa using same
    rw [differs, if_neg same]

/-- What is looked up under a type after a list has been put in place of another. -/
theorem lookup_putList (type other : EventType) (entries : List Entry)
    (lists : List (EventType × List Entry)) :
    (putList type entries lists).lookup other =
      if other = type then some entries else lists.lookup other := by
  induction lists with
  | nil => simp only [putList, lookup_cons_ite]
  | cons head rest ih =>
    obtain ⟨first, old⟩ := head
    -- The search passes the lists in the same order as the change does.
    by_cases hit : first = type
    · subst hit
      simp only [putList, if_true, lookup_cons_ite]
      split <;> rfl
    · simp only [putList, hit, if_false, lookup_cons_ite, ih]
      -- The list that is passed over is not of the type that the change is about.
      by_cases same : other = type
      · subst same
        rw [if_neg (Ne.symm hit), if_pos rfl, if_pos rfl]
      · rw [if_neg same, if_neg same]

/-- What is looked up under a type after the list of one type has been taken out. -/
theorem lookup_filter_ne (type other : EventType) (lists : List (EventType × List Entry)) :
    (lists.filter fun (first, _) => first ≠ type).lookup other =
      if other = type then none else lists.lookup other := by
  induction lists with
  | nil => simp
  | cons head rest ih =>
    obtain ⟨first, old⟩ := head
    -- A list that is taken out could only have been found under its own type.
    by_cases hit : first = type
    · subst hit
      rw [List.filter_cons_of_neg (by simp), ih, lookup_cons_ite]
      split <;> rfl
    · rw [List.filter_cons_of_pos (by simpa using hit), lookup_cons_ite, ih, lookup_cons_ite]
      by_cases same : other = type
      · subst same
        rw [if_neg (Ne.symm hit), if_pos rfl, if_pos rfl]
      · rw [if_neg same, if_neg same]

/-- Changing the entries of a type changes what is stored under this type alone. -/
theorem entries_setEntries (registry : Registry) (type other : EventType) (entries : List Entry) :
    (registry.setEntries type entries).entries other =
      if other = type then entries else registry.entries other := by
  by_cases empty : entries.isEmpty = true
  · -- A type that is forgotten has no entries, which is what was asked for.
    have nothing : entries = [] := List.isEmpty_iff.mp empty
    simp only [setEntries, Registry.entries, if_pos empty, lookup_filter_ne]
    split <;> simp [nothing]
  · simp only [setEntries, Registry.entries, if_neg empty, lookup_putList]
    split <;> simp

end Registry

end EventBus
