import EventBus.Proofs.Registry.Invariant

/-! What every section of a registry does to its subscriptions; each section keeps the invariant. -/

namespace EventBus

/-- The entry with an id becomes retained if that is asked for, and all others stay as they are. -/
def Entry.upgrade (id : Nat) (retain : Bool) (entry : Entry) : Entry :=
  if entry.id = id then { entry with retained := entry.retained || retain } else entry

/-- An upgrade keeps the id. -/
@[simp] theorem Entry.upgrade_id (id : Nat) (retain : Bool) (entry : Entry) :
    (entry.upgrade id retain).id = entry.id := by
  -- Only the flag that says who keeps the handler is touched, on either branch.
  unfold Entry.upgrade
  split <;> rfl

/-- An upgrade keeps the handler. -/
@[simp] theorem Entry.upgrade_handler (id : Nat) (retain : Bool) (entry : Entry) :
    (entry.upgrade id retain).handler = entry.handler := by
  -- Neither branch touches the handler.
  unfold Entry.upgrade
  split <;> rfl

namespace Subscription

/-- The subscription with an id becomes retained if that is asked for. -/
def upgrade (id : Nat) (retain : Bool) (subscription : Subscription) : Subscription :=
  { subscription with entry := subscription.entry.upgrade id retain }

/-- A subscription is alive when its entry is. -/
def isAlive (alive : Handler → Bool) (subscription : Subscription) : Bool :=
  subscription.entry.isAlive alive

end Subscription

/-- Among ascending ids, the first entry with an id is the only one. -/
theorem eraseP_id_eq_filter {entries : List Entry} (ascending : entries.Pairwise (·.id < ·.id))
    (id : Nat) : entries.eraseP (·.id == id) = entries.filter (·.id ≠ id) := by
  -- Behind an entry all ids are larger, so the first match is the only one.
  induction entries with
  | nil => rfl
  | cons entry rest ih =>
    obtain ⟨below, restAscending⟩ := List.pairwise_cons.mp ascending
    by_cases hit : entry.id = id
    · -- Everything behind the entry has a larger id and stays.
      have others : rest.filter (·.id ≠ id) = rest := by
        refine List.filter_eq_self.mpr fun other stored => ?_
        have larger := below other stored
        simp only [decide_eq_true_eq]
        omega
      rw [List.eraseP_cons_of_pos (by simpa using hit),
        List.filter_cons_of_neg (by simpa using hit), others]
    · rw [List.eraseP_cons_of_neg (by simpa using hit),
        List.filter_cons_of_pos (by simpa using hit), ih restAscending]

namespace Registry

section Subscribe

variable {registry : Registry} {alive : Handler → Bool} {type : EventType} {handler : Handler}
  {retain : Bool}

/-- A blank type is refused, whatever the registry is like. -/
theorem subscribe_blank (blank : type.isBlank = true) :
    registry.subscribe alive type handler retain = registry.unchanged (.error .blankType) := by
  -- The name is checked before anything else.
  simp [subscribe, blank]

/-- A closed registry refuses every type that is not blank. -/
theorem subscribe_closed (named : type.isBlank = false) (closed : registry.closed = true) :
    registry.subscribe alive type handler retain = registry.unchanged (.error .busClosed) := by
  -- Whether the registry is closed is checked next, before any list is read.
  simp [subscribe, named, closed]

/-- A handler that is subscribed already keeps its subscription. -/
theorem subscribe_found (named : type.isBlank = false) (opened : registry.closed = false)
    {existing : Entry}
    (found : (registry.live alive type).find? (·.handler == handler) = some existing) :
    registry.subscribe alive type handler retain =
      { answer := .ok (registry.handle existing.id type),
        registry := registry.setEntries type
          ((registry.live alive type).map (Entry.upgrade existing.id retain)) } := by
  -- The search among the living entries is the one that the section makes.
  have found' : ((registry.entries type).filter (Entry.isAlive alive)).find?
      (·.handler == handler) = some existing := found
  unfold subscribe
  rw [if_neg (by simp [named]), if_neg (by simp [opened])]
  simp only [found']
  rfl

/-- The registry that has given out one more id. -/
def next (registry : Registry) : Registry := { registry with nextId := registry.nextId + 1 }

/-- A new subscription takes the next id and the last place. -/
theorem subscribe_new (named : type.isBlank = false) (opened : registry.closed = false)
    (absent : (registry.live alive type).find? (·.handler == handler) = none) :
    registry.subscribe alive type handler retain =
      { answer := .ok (registry.handle (registry.nextId + 1) type),
        registry := registry.next.setEntries type
          (registry.live alive type ++ [⟨registry.nextId + 1, handler, retain⟩]),
        records := [.subscribed type (registry.nextId + 1) handler.name] } := by
  -- Nobody is found by the search that the section makes.
  have absent' : ((registry.entries type).filter (Entry.isAlive alive)).find?
      (·.handler == handler) = none := absent
  unfold subscribe
  rw [if_neg (by simp [named]), if_neg (by simp [opened])]
  simp only [absent']
  rfl

/-- A subscription is refused, is the one that the handler has already, or is new. -/
theorem subscribe_cases (registry : Registry) (alive : Handler → Bool) (type : EventType)
    (handler : Handler) (retain : Bool) :
    (∃ error, registry.subscribe alive type handler retain = registry.unchanged (.error error)) ∨
      (type.isBlank = false ∧ registry.closed = false ∧
        ((∃ existing, (registry.live alive type).find? (·.handler == handler) = some existing ∧
            registry.subscribe alive type handler retain =
              { answer := .ok (registry.handle existing.id type),
                registry := registry.setEntries type
                  ((registry.live alive type).map (Entry.upgrade existing.id retain)) }) ∨
          ((registry.live alive type).find? (·.handler == handler) = none ∧
            registry.subscribe alive type handler retain =
              { answer := .ok (registry.handle (registry.nextId + 1) type),
                registry := registry.next.setEntries type
                  (registry.live alive type ++ [⟨registry.nextId + 1, handler, retain⟩]),
                records := [.subscribed type (registry.nextId + 1) handler.name] }))) := by
  -- The section checks the name, then whether it is closed, then who is subscribed already.
  by_cases blank : type.isBlank = true
  · exact Or.inl ⟨_, subscribe_blank blank⟩
  have named : type.isBlank = false := by simpa using blank
  by_cases closed : registry.closed = true
  · exact Or.inl ⟨_, subscribe_closed named closed⟩
  have opened : registry.closed = false := by simpa using closed
  refine Or.inr ⟨named, opened, ?_⟩
  cases found : (registry.live alive type).find? (·.handler == handler) with
  | some existing => exact Or.inl ⟨existing, rfl, subscribe_found named opened found⟩
  | none => exact Or.inr ⟨rfl, subscribe_new named opened found⟩

/-- An open registry accepts every type that is not blank. -/
theorem subscribe_accepted (named : type.isBlank = false) (opened : registry.closed = false) :
    ∃ handle, (registry.subscribe alive type handler retain).answer = .ok handle := by
  -- Past the two checks, either way to go on answers with a handle.
  cases found : (registry.live alive type).find? (·.handler == handler) with
  | some existing => exact ⟨_, congrArg Section.answer (subscribe_found named opened found)⟩
  | none => exact ⟨_, congrArg Section.answer (subscribe_new named opened found)⟩

/-- Giving out an id keeps the invariant. -/
theorem WellFormed.next (wellFormed : registry.WellFormed) : registry.next.WellFormed :=
  { wellFormed with
    -- The counter goes up, and every id stays below it.
    counted := fun subscription stored => by
      obtain ⟨positive, bounded⟩ := wellFormed.counted subscription stored
      exact ⟨positive, Nat.le_succ_of_le bounded⟩ }

/-- A stored entry is a subscription to the type that it is stored under. -/
theorem WellFormed.mem_of_live (wellFormed : registry.WellFormed) {entry : Entry}
    (stored : entry ∈ registry.live alive type) : ⟨type, entry⟩ ∈ registry.subscriptions :=
  wellFormed.mem_entries.mp (List.mem_of_mem_filter stored)

/-- A snapshot shows the live entries of a registry that is open. -/
theorem of_snapshot {subscribers : List Subscriber}
    (taken : registry.snapshot alive type = .ok subscribers) :
    registry.closed = false ∧ subscribers = (registry.live alive type).map Entry.subscriber := by
  -- A closed registry shows nothing, so the snapshot came of an open one.
  unfold snapshot at taken
  split at taken
  · cases taken
  · rename_i opened
    exact ⟨by simpa using opened, (Except.ok.inj taken).symm⟩

/-- Live entries stand in the order of their making. -/
theorem WellFormed.live_ascending (wellFormed : registry.WellFormed) :
    (registry.live alive type).Pairwise (·.id < ·.id) :=
  (wellFormed.ascending type).sublist List.filter_sublist

/-- The ids of a type are those of no other type. -/
theorem WellFormed.apart (wellFormed : registry.WellFormed) {entry : Entry}
    (stored : ⟨type, entry⟩ ∈ registry.subscriptions) :
    ∀ subscription ∈ registry.subscriptions, subscription.type ≠ type →
      subscription.entry.id ≠ entry.id := by
  -- One id belongs to one subscription, and that has one type.
  intro subscription there differs same
  exact differs (congrArg Subscription.type (wellFormed.eq_of_id there stored same))

/-- The live entries of a type and the subscriptions to all others are those that stay. -/
theorem WellFormed.live_perm (wellFormed : registry.WellFormed) (alive : Handler → Bool)
    (type : EventType) :
    ((registry.live alive type).map (Subscription.mk type) ++
        registry.subscriptions.filter (·.type ≠ type)).Perm
      (registry.subscriptions.filter (Subscription.stays type (Entry.isAlive alive))) :=
  -- Setting the list of one type leaves the subscriptions of the others, and takes its place there.
  (wellFormed.subscriptions_setEntries type (registry.live alive type)).symm.trans
    (wellFormed.subscriptions_setEntries_filter type (Entry.isAlive alive))

/-- Subscribing a handler again drops dead subscriptions of the type and upgrades the living one. -/
theorem WellFormed.subscriptions_upgrade (wellFormed : registry.WellFormed) {existing : Entry}
    (stored : existing ∈ registry.live alive type) :
    (registry.setEntries type
        ((registry.live alive type).map (Entry.upgrade existing.id retain))).subscriptions.Perm
      ((registry.subscriptions.filter (Subscription.stays type (Entry.isAlive alive))).map
        (Subscription.upgrade existing.id retain)) := by
  -- Nobody else has the id, so what was subscribed to other types is left as it was.
  have others : (registry.subscriptions.filter (·.type ≠ type)).map
        (Subscription.upgrade existing.id retain) =
      registry.subscriptions.filter (·.type ≠ type) := by
    refine List.map_congr_left (fun subscription kept => ?_) |>.trans (List.map_id _)
    obtain ⟨there, differs⟩ := List.mem_filter.mp kept
    have apart := wellFormed.apart (wellFormed.mem_of_live stored) subscription there
      (by simpa using differs)
    simp [Subscription.upgrade, Entry.upgrade, apart]
  have upgraded := (wellFormed.live_perm alive type).map (Subscription.upgrade existing.id retain)
  rw [List.map_append, others, List.map_map] at upgraded
  refine (wellFormed.subscriptions_setEntries type _).trans ?_
  rw [List.map_map]
  exact upgraded

/-- A new subscription is added, and dead subscriptions of the type are dropped. -/
theorem WellFormed.subscriptions_new (wellFormed : registry.WellFormed) (entry : Entry) :
    (registry.next.setEntries type (registry.live alive type ++ [entry])).subscriptions.Perm
      (registry.subscriptions.filter (Subscription.stays type (Entry.isAlive alive)) ++
        [⟨type, entry⟩]) := by
  -- The new subscription stands between those of its type and those of others.
  calc (registry.next.setEntries type (registry.live alive type ++ [entry])).subscriptions
      |>.Perm ((registry.live alive type).map (Subscription.mk type) ++
        ([⟨type, entry⟩] ++ registry.subscriptions.filter (·.type ≠ type))) := by
        rw [← List.append_assoc, ← List.map_singleton, ← List.map_append]
        exact wellFormed.next.subscriptions_setEntries type _
    _ |>.Perm ((registry.live alive type).map (Subscription.mk type) ++
        (registry.subscriptions.filter (·.type ≠ type) ++ [⟨type, entry⟩])) :=
        List.perm_append_comm.append_left _
    _ |>.Perm (registry.subscriptions.filter (Subscription.stays type (Entry.isAlive alive)) ++
        [⟨type, entry⟩]) := by
        rw [← List.append_assoc]
        exact (wellFormed.live_perm alive type).append_right _

/-- Subscribing keeps the invariant. -/
theorem WellFormed.subscribe (wellFormed : registry.WellFormed) (alive : Handler → Bool)
    (type : EventType) (handler : Handler) (retain : Bool) :
    (registry.subscribe alive type handler retain).registry.WellFormed := by
  -- Whatever the way a subscription goes, at most one list is put in place of another.
  rcases registry.subscribe_cases alive type handler retain with
    ⟨error, refused⟩ | ⟨named, opened, ⟨existing, found, made⟩ | ⟨absent, made⟩⟩
  · rw [refused]
    exact wellFormed
  · rw [made]
    -- Every entry of the new list has the id of an entry that was there.
    refine wellFormed.setEntries opened (fun _ => named) ?_ ?_ ?_
    · exact List.pairwise_map.mpr (by simpa using wellFormed.live_ascending)
    · intro entry upgraded
      obtain ⟨old, stored, rfl⟩ := List.mem_map.mp upgraded
      simpa using wellFormed.counted _ (wellFormed.mem_of_live stored)
    · intro entry upgraded
      obtain ⟨old, stored, rfl⟩ := List.mem_map.mp upgraded
      simpa using wellFormed.apart (wellFormed.mem_of_live stored)
  · rw [made]
    -- The entry at the end is the only one that was not there.
    refine wellFormed.next.setEntries opened (fun _ => named) ?_ ?_ ?_
    · -- The new id is above all that were given out.
      refine List.pairwise_append.mpr ⟨wellFormed.live_ascending, List.pairwise_singleton _ _, ?_⟩
      intro entry stored new added
      rw [List.mem_singleton.mp added]
      exact Nat.lt_succ_of_le (wellFormed.counted _ (wellFormed.mem_of_live stored)).2
    · intro entry added
      rcases List.mem_append.mp added with stored | new
      · exact wellFormed.next.counted _ (wellFormed.mem_of_live stored)
      · rw [List.mem_singleton.mp new]
        exact ⟨Nat.succ_pos _, Nat.le_refl _⟩
    · intro entry added subscription there differs
      rcases List.mem_append.mp added with stored | new
      · exact wellFormed.apart (wellFormed.mem_of_live stored) subscription there differs
      · rw [List.mem_singleton.mp new]
        exact Nat.ne_of_lt (Nat.lt_succ_of_le (wellFormed.counted subscription there).2)

end Subscribe

section Removal

variable {registry : Registry} {alive : Handler → Bool}

/-- A closed registry ends no subscription. -/
theorem unsubscribe_closed (closed : registry.closed = true) (handle : SubscriptionHandle) :
    registry.unsubscribe alive handle = registry.unchanged (.error .busClosed) := by
  -- Whether the registry is closed is checked first.
  simp [unsubscribe, closed]

/-- The handle of another registry ends no subscription. -/
theorem unsubscribe_foreign (opened : registry.closed = false) {handle : SubscriptionHandle}
    (foreign : handle.registry ≠ registry.id) :
    registry.unsubscribe alive handle = registry.unchanged (.ok false) := by
  -- A handle of another registry is turned away before any list is read.
  simp [unsubscribe, opened, foreign]

/-- Which entries of its type a handle leaves in place. -/
def leaves (alive : Handler → Bool) (handle : SubscriptionHandle) (entry : Entry) : Bool :=
  entry.isAlive alive && entry.id ≠ handle.id

/-- A handle of the registry takes its entry and all dead ones out of the list of its type. -/
theorem WellFormed.unsubscribe_registry (wellFormed : registry.WellFormed)
    (opened : registry.closed = false) {handle : SubscriptionHandle}
    (own : handle.registry = registry.id) :
    (registry.unsubscribe alive handle).registry = registry.setEntries handle.type
      ((registry.entries handle.type).filter (leaves alive handle)) := by
  -- Taking out the first entry with the id is leaving out every such entry.
  have kept : ((registry.entries handle.type).eraseP (·.id == handle.id)).filter
      (Entry.isAlive alive) = (registry.entries handle.type).filter (leaves alive handle) := by
    rw [eraseP_id_eq_filter (wellFormed.ascending handle.type), List.filter_filter]
    rfl
  unfold unsubscribe
  rw [if_neg (by simp [opened]), if_neg (by simp [own])]
  simp only [kept]
  split <;> rfl

/-- A handle of the registry finds its entry as long as it is stored. -/
theorem unsubscribe_answer (opened : registry.closed = false) {handle : SubscriptionHandle}
    (own : handle.registry = registry.id) :
    (registry.unsubscribe alive handle).answer =
      .ok ((registry.entries handle.type).any (·.id == handle.id)) := by
  unfold unsubscribe
  rw [if_neg (by simp [opened]), if_neg (by simp [own])]
  -- Whether the entry is alive does not matter, as long as it is stored.
  cases found : (registry.entries handle.type).find? (·.id == handle.id) with
  | none =>
    have absent : (registry.entries handle.type).any (·.id == handle.id) = false := by
      simpa using List.find?_eq_none.mp found
    simp only [found, absent]
  | some removed =>
    have hit := List.find?_some found
    have present : (registry.entries handle.type).any (·.id == handle.id) = true :=
      List.any_eq_true.mpr ⟨removed, List.mem_of_find?_eq_some found, hit⟩
    simp only [found, present]

/-- The end of a subscription leaves all as it was, or takes its entry out of the list. -/
theorem WellFormed.unsubscribe_cases (wellFormed : registry.WellFormed) (alive : Handler → Bool)
    (handle : SubscriptionHandle) :
    ((registry.closed = true ∨ handle.registry ≠ registry.id) ∧
        (registry.unsubscribe alive handle).registry = registry) ∨
      (registry.closed = false ∧ handle.registry = registry.id ∧
        (registry.unsubscribe alive handle).registry = registry.setEntries handle.type
          ((registry.entries handle.type).filter (leaves alive handle))) := by
  -- The two checks of the section leave the case in which it takes an entry out.
  by_cases closed : registry.closed = true
  · exact Or.inl ⟨Or.inl closed, congrArg Section.registry (unsubscribe_closed closed handle)⟩
  have opened : registry.closed = false := by simpa using closed
  by_cases own : handle.registry = registry.id
  · exact Or.inr ⟨opened, own, wellFormed.unsubscribe_registry opened own⟩
  · exact Or.inl ⟨Or.inr own, congrArg Section.registry (unsubscribe_foreign opened own)⟩

/-- Keeping some entries of a type keeps the invariant. -/
theorem WellFormed.setEntries_filter (wellFormed : registry.WellFormed)
    (opened : registry.closed = false) (type : EventType) (keeps : Entry → Bool) :
    (registry.setEntries type ((registry.entries type).filter keeps)).WellFormed := by
  refine wellFormed.setEntries opened ?_ ?_ ?_ ?_
  · intro some_kept
    -- A type with something kept had a list before, so it is not blank.
    obtain ⟨entry, kept⟩ := List.exists_mem_of_ne_nil _ some_kept
    have stored := wellFormed.mem_entries.mp (List.mem_of_mem_filter kept)
    obtain ⟨entries, listed, _⟩ := mem_subscriptionsOf.mp stored
    exact wellFormed.named type (List.mem_map_of_mem listed)
  · exact (wellFormed.ascending type).sublist List.filter_sublist
  · intro entry kept
    exact wellFormed.counted _ (wellFormed.mem_entries.mp (List.mem_of_mem_filter kept))
  · intro entry kept
    exact wellFormed.apart (wellFormed.mem_entries.mp (List.mem_of_mem_filter kept))

/-- Ending a subscription keeps the invariant. -/
theorem WellFormed.unsubscribe (wellFormed : registry.WellFormed) (alive : Handler → Bool)
    (handle : SubscriptionHandle) :
    (registry.unsubscribe alive handle).registry.WellFormed := by
  -- A list without one of its entries is in order like the whole one.
  rcases wellFormed.unsubscribe_cases alive handle with ⟨_, same⟩ | ⟨opened, _, made⟩
  · rw [same]
    exact wellFormed
  · rw [made]
    exact wellFormed.setEntries_filter opened handle.type _

/-- The lists that pruning leaves. -/
def pruned (alive : Handler → Bool) (lists : List (EventType × List Entry)) :
    List (EventType × List Entry) :=
  (lists.map fun (type, entries) => (type, entries.filter (Entry.isAlive alive))).filter
    fun (_, entries) => !entries.isEmpty

/-- Pruning keeps the living subscriptions. -/
theorem subscriptionsOf_pruned (alive : Handler → Bool) (lists : List (EventType × List Entry)) :
    subscriptionsOf (pruned alive lists) =
      (subscriptionsOf lists).filter (Subscription.isAlive alive) := by
  induction lists with
  | nil => rfl
  | cons head rest ih =>
    obtain ⟨type, entries⟩ := head
    have living : (entries.map (Subscription.mk type)).filter (Subscription.isAlive alive) =
        (entries.filter (Entry.isAlive alive)).map (Subscription.mk type) := by
      rw [List.filter_map]
      rfl
    rw [subscriptionsOf_cons, List.filter_append, ← ih, living]
    -- A list that loses all its entries is dropped, and with it no living subscription.
    by_cases empty : entries.filter (Entry.isAlive alive) = []
    · simp [pruned, empty]
    · simp [pruned, empty, subscriptionsOf]

/-- Pruning keeps the living subscriptions of a registry. -/
theorem subscriptions_prune (registry : Registry) (alive : Handler → Bool) :
    (registry.prune alive).registry.subscriptions =
      registry.subscriptions.filter (Subscription.isAlive alive) :=
  subscriptionsOf_pruned alive registry.lists

/-- A type with a list after pruning had one before. -/
theorem map_fst_pruned_sublist (alive : Handler → Bool) (lists : List (EventType × List Entry)) :
    ((pruned alive lists).map Prod.fst).Sublist (lists.map Prod.fst) := by
  -- Pruning shortens each list and drops the empty ones, but never changes a type.
  refine (List.filter_sublist.map Prod.fst).trans ?_
  rw [List.map_map]
  exact List.Sublist.refl _

/-- Pruning drops the dead entries of a type and keeps the order of the others. -/
theorem WellFormed.entries_prune (wellFormed : registry.WellFormed) (type : EventType) :
    (registry.prune alive).registry.entries type = registry.live alive type := by
  have nodup := wellFormed.types_nodup.sublist (map_fst_pruned_sublist alive registry.lists)
  -- It is enough to compare the subscriptions, from which the entries can be read off.
  have ofType : ((registry.prune alive).registry.entries type).map (Subscription.mk type) =
      (registry.live alive type).map (Subscription.mk type) := by
    calc ((registry.prune alive).registry.entries type).map (Subscription.mk type)
        = (subscriptionsOf (pruned alive registry.lists)).filter (·.type = type) :=
          (filter_type_subscriptionsOf nodup type).symm
      _ = (registry.subscriptions.filter (·.type = type)).filter (Subscription.isAlive alive) := by
          rw [subscriptionsOf_pruned, List.filter_comm]
          rfl
      _ = (registry.live alive type).map (Subscription.mk type) := by
          rw [wellFormed.filter_type, List.filter_map]
          rfl
  exact List.map_injective_iff.mpr (fun _ _ same => congrArg Subscription.entry same) ofType

/-- Pruning keeps the invariant. -/
theorem WellFormed.prune (wellFormed : registry.WellFormed) (alive : Handler → Bool) :
    (registry.prune alive).registry.WellFormed where
  -- A prune only removes entries and the lists that have become empty.
  types_nodup := wellFormed.types_nodup.sublist (map_fst_pruned_sublist alive registry.lists)
  named type listed :=
    wellFormed.named type ((map_fst_pruned_sublist alive registry.lists).subset listed)
  filled type listed := by
    have filled := (List.mem_filter.mp listed).2
    simp at filled
  ascending type := by
    rw [wellFormed.entries_prune]
    exact wellFormed.live_ascending
  ids_nodup := by
    rw [subscriptions_prune]
    exact wellFormed.ids_nodup.sublist (List.filter_sublist.map _)
  counted subscription stored := by
    rw [subscriptions_prune] at stored
    exact wellFormed.counted subscription (List.mem_of_mem_filter stored)
  emptied closed := by
    have empty := wellFormed.emptied closed
    simp [Registry.prune, empty]

/-- Closing leaves a closed registry without subscriptions, whatever it was like. -/
theorem WellFormed.subscriptions_close (wellFormed : registry.WellFormed) :
    registry.close.registry.subscriptions = [] := by
  -- A registry that is closed already is empty by the invariant; otherwise all is dropped.
  unfold close
  split
  · rename_i closed
    simp [unchanged, subscriptions, wellFormed.emptied closed, subscriptionsOf]
  · simp [subscriptions, subscriptionsOf]

/-- Closing keeps the invariant. -/
theorem WellFormed.close (wellFormed : registry.WellFormed) :
    registry.close.registry.WellFormed := by
  -- A registry that has just been closed is a new one with its counter kept.
  unfold Registry.close
  split
  · exact wellFormed
  · have empty := wellFormed_new registry.id
    exact { empty with
      emptied := fun _ => rfl
      counted := by simp [subscriptions, subscriptionsOf] }

end Removal

/-- A property that every section of a registry keeps, whichever handlers are alive. -/
structure Kept (property : Registry → Prop) : Prop where
  subscribe : ∀ {registry}, property registry → ∀ alive type handler retain,
    property (registry.subscribe alive type handler retain).registry
  unsubscribe : ∀ {registry}, property registry → ∀ alive handle,
    property (registry.unsubscribe alive handle).registry
  prune : ∀ {registry}, property registry → ∀ alive, property (registry.prune alive).registry
  close : ∀ {registry}, property registry → property registry.close.registry

/-- Every section keeps a registry well-formed. -/
theorem kept_wellFormed : Kept WellFormed where
  subscribe := WellFormed.subscribe
  unsubscribe := WellFormed.unsubscribe
  prune := WellFormed.prune
  close := WellFormed.close

end Registry

end EventBus
