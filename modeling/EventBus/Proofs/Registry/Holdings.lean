import EventBus.Proofs.Registry.Identity

/-!
The references that a registry holds. Only a retained subscription adds one, and only the end of a
retained entry gives one back.
-/

namespace EventBus

/-- Whether a subscription holds a reference to a handler. -/
def Subscription.owns (handler : Handler) (subscription : Subscription) : Bool :=
  subscription.entry.retained && subscription.entry.handler == handler

namespace Registry

/-- A registry holds one reference for each stored subscription that is retained. -/
theorem holds_eq (registry : Registry) (handler : Handler) :
    registry.holds handler = registry.subscriptions.countP (Subscription.owns handler) := by
  -- The entries of all types, one after the other, are those of the subscriptions.
  rw [holds, ← map_entry_subscriptions, List.countP_map]
  rfl

/-- Where the subscriptions move, the references stay. -/
theorem holds_eq_of_perm {registry : Registry} {subscriptions : List Subscription}
    (same : registry.subscriptions.Perm subscriptions) (handler : Handler) :
    registry.holds handler = subscriptions.countP (Subscription.owns handler) :=
  (registry.holds_eq handler).trans (same.countP_eq _)

/-- Dropping dead subscriptions of a type gives up no references. -/
theorem countP_owns_filter_stays (alive : Handler → Bool) (type : EventType) (handler : Handler)
    (subscriptions : List Subscription) :
    (subscriptions.filter (Subscription.stays type (Entry.isAlive alive))).countP
        (Subscription.owns handler) =
      subscriptions.countP (Subscription.owns handler) := by
  rw [List.countP_filter]
  refine List.countP_congr fun subscription _ => ?_
  -- A subscription with a reference is retained, and so it is alive.
  simp only [Subscription.owns, Subscription.stays, Entry.isAlive, Bool.and_eq_true, beq_iff_eq,
    Bool.or_eq_true]
  tauto

/-- Among subscriptions without a common id, a single one can become retained. -/
theorem countP_owns_upgrade {subscriptions : List Subscription}
    (apart : (subscriptions.map (·.entry.id)).Nodup) {existing : Subscription}
    (there : existing ∈ subscriptions) (retain : Bool) (handler : Handler) :
    (subscriptions.map (Subscription.upgrade existing.entry.id retain)).countP
        (Subscription.owns handler) =
      subscriptions.countP (Subscription.owns handler) +
        if retain && !existing.entry.retained && existing.entry.handler == handler then 1
        else 0 := by
  -- The induction is on the subscriptions, of which one alone has the id.
  induction subscriptions with
  | nil => exact absurd there List.not_mem_nil
  | cons first rest ih =>
    obtain ⟨differs, restApart⟩ := List.nodup_cons.mp apart
    rw [List.map_cons, List.countP_cons, List.countP_cons]
    rcases List.mem_cons.mp there with rfl | behind
    · -- Behind the subscription nobody has its id, so all stay as they are.
      have others : rest.map (Subscription.upgrade existing.entry.id retain) = rest := by
        refine (List.map_congr_left fun other listed => ?_).trans (List.map_id _)
        have apart : other.entry.id ≠ existing.entry.id := fun same =>
          differs (List.mem_map.mpr ⟨other, listed, same⟩)
        simp [Subscription.upgrade, Entry.upgrade, apart]
      rw [others]
      cases retained : existing.entry.retained <;> cases retain <;>
        simp [Subscription.owns, Subscription.upgrade, Entry.upgrade, retained]
    · -- Before the subscription there is another one, which has another id and stays as it is.
      have apart : first.entry.id ≠ existing.entry.id := fun same =>
        differs (List.mem_map.mpr ⟨existing, behind, same.symm⟩)
      have kept : Subscription.upgrade existing.entry.id retain first = first := by
        simp [Subscription.upgrade, Entry.upgrade, apart]
      rw [kept, ih restApart behind]
      omega

/-- Pruning gives up no references. -/
theorem holds_prune (registry : Registry) (alive : Handler → Bool) (handler : Handler) :
    (registry.prune alive).registry.holds handler = registry.holds handler := by
  rw [holds_eq, subscriptions_prune, List.countP_filter, holds_eq]
  refine List.countP_congr fun subscription _ => ?_
  -- A subscription with a reference is retained, and so it is alive.
  simp only [Subscription.owns, Subscription.isAlive, Entry.isAlive, Bool.and_eq_true, beq_iff_eq,
    Bool.or_eq_true]
  tauto

/-- What the end of a subscription releases is the handler of its entry, if that is retained. -/
theorem unsubscribe_released {registry : Registry} {alive : Handler → Bool}
    {handle : SubscriptionHandle} (opened : registry.closed = false)
    (own : handle.registry = registry.id) :
    (registry.unsubscribe alive handle).released =
      ((registry.find? handle).toList.filter Entry.retained).map Entry.handler := by
  -- The search for the entry that goes is the one for the handle.
  unfold unsubscribe find?
  rw [if_neg (by simp [opened]), if_neg (by simp [own]), if_pos own]
  cases found : (registry.entries handle.type).find? (·.id == handle.id) with
  | none => simp only [found]; rfl
  | some removed =>
    simp only [found]
    cases retained : removed.retained <;> simp [retained]

section Sections

variable {registry : Registry} (wellFormed : registry.WellFormed)

include wellFormed

/-- A handler that is subscribed again gains the reference that is asked for, unless it has it. -/
theorem WellFormed.holds_upgrade {alive : Handler → Bool} {type : EventType} {existing : Entry}
    (living : existing ∈ registry.live alive type) (retain : Bool) (handler : Handler) :
    (registry.setEntries type
        ((registry.live alive type).map (Entry.upgrade existing.id retain))).holds handler =
      registry.holds handler +
        if retain && !existing.retained && existing.handler == handler then 1 else 0 := by
  -- Where the list is rewritten the dead go as well, but they held nothing.
  let kept := registry.subscriptions.filter (Subscription.stays type (Entry.isAlive alive))
  have apart : (kept.map (·.entry.id)).Nodup :=
    wellFormed.ids_nodup.sublist (List.filter_sublist.map _)
  have there : ⟨type, existing⟩ ∈ kept := by
    refine List.mem_filter.mpr ⟨wellFormed.mem_of_live living, ?_⟩
    simp [Subscription.stays, (List.mem_filter.mp living).2]
  rw [holds_eq_of_perm (wellFormed.subscriptions_upgrade living),
    countP_owns_upgrade apart there, countP_owns_filter_stays, ← holds_eq]

/-- A new entry adds a reference to its handler if it is retained. -/
theorem WellFormed.holds_new (alive : Handler → Bool) (type : EventType) (entry : Entry)
    (handler : Handler) :
    (registry.next.setEntries type (registry.live alive type ++ [entry])).holds handler =
      registry.holds handler + if entry.retained && entry.handler == handler then 1 else 0 := by
  -- The dead that go held nothing, and the new entry holds what it was given.
  rw [holds_eq_of_perm (wellFormed.subscriptions_new entry), List.countP_append,
    countP_owns_filter_stays, ← holds_eq, List.countP_singleton]
  rfl

/-- A weak subscription adds no reference and takes none away, whoever is subscribed already. -/
theorem WellFormed.holds_subscribe_weak (alive : Handler → Bool) (type : EventType)
    (handler other : Handler) :
    (registry.subscribe alive type handler false).registry.holds other = registry.holds other := by
  -- Neither an upgrade nor a new entry holds anything if it is weak.
  rcases registry.subscribe_cases alive type handler false with
    ⟨error, refused⟩ | ⟨_, _, ⟨existing, found, made⟩ | ⟨absent, made⟩⟩
  · rw [refused]
    rfl
  · rw [made]
    exact wellFormed.holds_upgrade (List.mem_of_find?_eq_some found) false other
  · rw [made]
    exact wellFormed.holds_new alive type _ other

/-- The subscriptions that a handle of the registry can end are that of its entry, if it has one. -/
theorem WellFormed.filter_handle {handle : SubscriptionHandle}
    (own : handle.registry = registry.id) :
    registry.subscriptions.filter (fun subscription =>
        decide (subscription.type = handle.type) && subscription.entry.id == handle.id) =
      (registry.find? handle).toList.map (Subscription.mk handle.type) := by
  -- In one list the ids ascend, so what a filter finds is what a search finds.
  have single : ∀ {entries : List Entry}, entries.Pairwise (·.id < ·.id) →
      entries.filter (·.id == handle.id) = (entries.find? (·.id == handle.id)).toList := by
    intro entries ascending
    induction entries with
    | nil => rfl
    | cons entry rest ih =>
      obtain ⟨below, restAscending⟩ := List.pairwise_cons.mp ascending
      by_cases hit : entry.id = handle.id
      · -- Everything behind the entry has a larger id.
        have others : rest.filter (·.id == handle.id) = [] :=
          List.filter_eq_nil_iff.mpr fun other listed => by
            have larger := below other listed
            simp only [beq_iff_eq]
            omega
        rw [List.filter_cons_of_pos (by simpa using hit),
          List.find?_cons_of_pos (by simpa using hit), others]
        rfl
      · rw [List.filter_cons_of_neg (by simpa using hit),
          List.find?_cons_of_neg (by simpa using hit), ih restAscending]
  rw [← List.filter_filter, List.filter_comm, wellFormed.filter_type, List.filter_map, find?,
    if_pos own, ← single (wellFormed.ascending handle.type)]
  rfl

/-- The end of a subscription gives back the reference of its entry, if that is retained. -/
theorem WellFormed.holds_unsubscribe (alive : Handler → Bool) (handle : SubscriptionHandle)
    (handler : Handler) :
    let done := registry.unsubscribe alive handle
    done.registry.holds handler + done.released.count handler = registry.holds handler := by
  -- The registry and what it releases share out the subscriptions, by whether they are meant.
  intro done
  by_cases closed : registry.closed = true
  · simp only [done, unsubscribe_closed closed]
    rfl
  have opened : registry.closed = false := by simpa using closed
  by_cases own : handle.registry = registry.id
  · let meant : Subscription → Bool := fun subscription =>
      decide (subscription.type = handle.type) && subscription.entry.id == handle.id
    have kept : done.registry.holds handler =
        (registry.subscriptions.filter fun subscription => !meant subscription).countP
          (Subscription.owns handler) := by
      simp only [done, wellFormed.unsubscribe_registry opened own]
      rw [holds_eq_of_perm (wellFormed.subscriptions_setEntries_filter _ _), List.countP_filter,
        List.countP_filter]
      refine List.countP_congr fun subscription _ => ?_
      -- Of what holds a reference, only the subscription that is meant goes.
      simp only [meant, Subscription.owns, Subscription.stays, leaves, Entry.isAlive,
        Bool.and_eq_true, Bool.or_eq_true, Bool.not_eq_true', beq_iff_eq, decide_eq_true_eq,
        Bool.and_eq_false_iff, decide_eq_false_iff_not, beq_eq_false_iff_ne, ne_eq]
      tauto
    have released : done.released.count handler =
        (registry.subscriptions.filter meant).countP (Subscription.owns handler) := by
      rw [wellFormed.filter_handle own, unsubscribe_released opened own]
      cases registry.find? handle with
      | none => rfl
      | some entry =>
        cases retained : entry.retained <;>
          simp [Subscription.owns, retained, List.count_singleton]
    rw [kept, released, holds_eq, Nat.add_comm]
    exact (List.countP_eq_countP_filter_add registry.subscriptions _ meant).symm
  · simp only [done, unsubscribe_foreign opened own]
    rfl

/-- Closing gives back every reference. -/
theorem WellFormed.holds_close (handler : Handler) :
    registry.close.registry.holds handler = 0 ∧
      registry.close.released.count handler = registry.holds handler := by
  -- Everything that was held is released at once.
  refine ⟨?_, ?_⟩
  · rw [holds_eq, wellFormed.subscriptions_close]
    rfl
  · unfold Registry.close
    split
    · rename_i closed
      simp [unchanged, holds, allEntries, wellFormed.emptied closed]
    · simp only [holds]
      rw [List.count, List.countP_map, List.countP_filter]
      refine List.countP_congr fun entry _ => ?_
      simp [and_comm]

/-- A living entry is the one that is found for its handler, and its type accepts subscriptions. -/
theorem WellFormed.find?_living (apart : registry.HandlersApart) {alive : Handler → Bool}
    {type : EventType} {entry : Entry} (living : entry ∈ registry.live alive type) :
    type.isBlank = false ∧ registry.closed = false ∧
      (registry.live alive type).find? (·.handler == entry.handler) = some entry := by
  have stored := wellFormed.mem_of_live living
  obtain ⟨entries, listed, _⟩ := mem_subscriptionsOf.mp stored
  have opened : registry.closed = false := by
    refine Bool.eq_false_iff.mpr fun closed => ?_
    rw [wellFormed.emptied closed] at listed
    exact absurd listed List.not_mem_nil
  refine ⟨wellFormed.named type (List.mem_map_of_mem listed), opened, ?_⟩
  cases found : (registry.live alive type).find? (·.handler == entry.handler) with
  | none => exact absurd (List.find?_eq_none.mp found entry living) (by simp)
  | some other =>
    have there := List.mem_of_find?_eq_some found
    have same : other.handler = entry.handler := by simpa using List.find?_some found
    -- No handler has two entries of one type.
    exact congrArg some (List.inj_on_of_nodup_map (apart type) (List.mem_of_mem_filter there)
      (List.mem_of_mem_filter living) same)

end Sections

/-- What the sections of a registry do to its references, whichever handlers are alive. -/
structure Accounts (registry : Registry) (alive : Handler → Bool) : Prop where
  /-- A weak subscription adds no reference and takes none away. -/
  weak : ∀ type handler other,
    (registry.subscribe alive type handler false).registry.holds other = registry.holds other
  /-- A living entry stays as it is when its handler is subscribed weakly again. -/
  weakAgain : ∀ type, ∀ entry ∈ registry.live alive type,
    let done := registry.subscribe alive type entry.handler false
    done.answer = .ok (registry.handle entry.id type) ∧
      done.registry.entries type = registry.live alive type
  /-- A weak entry becomes retained and adds a reference; it keeps its id and its place. -/
  retainedAgain : ∀ type, ∀ entry ∈ registry.live alive type,
    let done := registry.subscribe alive type entry.handler true
    done.answer = .ok (registry.handle entry.id type) ∧
      done.registry.entries type =
        (registry.live alive type).map (Entry.upgrade entry.id true) ∧
      ∀ other, done.registry.holds other = registry.holds other +
        if !entry.retained && entry.handler == other then 1 else 0
  /-- A handler without a living entry goes to the end, with the reference that is asked for. -/
  retainedNew : ∀ type handler, type.isBlank = false → registry.closed = false →
    (∀ entry ∈ registry.live alive type, entry.handler ≠ handler) →
    let done := registry.subscribe alive type handler true
    done.answer = .ok (registry.handle (registry.nextId + 1) type) ∧
      done.registry.entries type =
        registry.live alive type ++ [⟨registry.nextId + 1, handler, true⟩] ∧
      ∀ other, done.registry.holds other =
        registry.holds other + if handler == other then 1 else 0
  /-- The end of a subscription gives back the reference of its entry, if there is one. -/
  ended : ∀ handle other,
    let done := registry.unsubscribe alive handle
    done.registry.holds other + done.released.count other = registry.holds other
  pruned : ∀ other, (registry.prune alive).registry.holds other = registry.holds other
  /-- Closing gives back all references. -/
  closed : ∀ other, registry.close.registry.holds other = 0 ∧
    registry.close.released.count other = registry.holds other

/-- The accounts of a registry are in order as long as no handler has two entries of one type. -/
theorem WellFormed.accounts {registry : Registry} (wellFormed : registry.WellFormed)
    (apart : registry.HandlersApart) (alive : Handler → Bool) : registry.Accounts alive where
  -- Each clause is the account of one section, in the one case that it speaks of.
  weak := wellFormed.holds_subscribe_weak alive
  weakAgain type entry living := by
    obtain ⟨named, opened, found⟩ := wellFormed.find?_living apart living
    have same : (registry.live alive type).map (Entry.upgrade entry.id false) =
        registry.live alive type := by
      refine (List.map_congr_left fun other _ => ?_).trans (List.map_id _)
      simp [Entry.upgrade]
    simp only [subscribe_found named opened found, entries_setEntries, if_true, same, and_self]
  retainedAgain type entry living := by
    obtain ⟨named, opened, found⟩ := wellFormed.find?_living apart living
    simp only [subscribe_found named opened found, entries_setEntries, if_true, true_and]
    exact fun other => wellFormed.holds_upgrade living true other
  retainedNew type handler named opened absent := by
    have nobody : (registry.live alive type).find? (·.handler == handler) = none :=
      List.find?_eq_none.mpr fun entry living => by simpa using absent entry living
    simp only [subscribe_new named opened nobody, entries_setEntries, if_true, true_and]
    exact fun other => wellFormed.holds_new alive type ⟨_, handler, true⟩ other
  ended := wellFormed.holds_unsubscribe alive
  pruned := registry.holds_prune alive
  closed := wellFormed.holds_close

end Registry

end EventBus
