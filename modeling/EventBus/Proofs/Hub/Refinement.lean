import EventBus.Proofs.Hub.Tracking

/-!
A hub answers as its roster does, request after request: dead subscriptions that a registry has not
dropped yet show in nothing but the end of a subscription and the count of pruning.
-/

namespace EventBus

namespace Hub

namespace Simulates

variable {hub : Hub} {roster : Roster}

/-- Taking references to what is alive already revives nothing. -/
theorem hold (simulates : hub.Simulates roster) (outside : Handler → Nat) (born : List Handler)
    (grows : ∀ handler ∈ hub.born, handler ∈ born)
    (held : ∀ handler, 0 < outside handler → handler ∈ born)
    (more : ∀ handler, 0 < hub.outside handler → 0 < outside handler)
    (revives : ∀ subscription ∈ hub.registry.subscriptions,
      0 < outside subscription.entry.handler → hub.alive subscription.entry.handler = true) :
    Simulates { hub with outside, born } { roster with outside, born } := by
  -- A stored subscription is alive afterwards exactly when it was before.
  have same : ∀ subscription ∈ hub.registry.subscriptions,
      hub.alive subscription.entry.handler =
        Hub.alive { hub with outside, born } subscription.entry.handler := by
    intro subscription stored
    rw [Bool.eq_iff_iff, @alive_iff { hub with outside, born } simulates.grounded]
    constructor
    · intro living
      exact ((alive_iff simulates.grounded).mp living).imp_left (more _)
    · rintro (held | retained)
      · exact revives subscription stored held
      · exact (alive_iff simulates.grounded).mpr (Or.inr retained)
  -- Nothing is stored or struck out, so only the filter of what is alive has to be looked at.
  exact { simulates with
    outside_eq := rfl
    born_eq := rfl
    stored_born := fun subscription stored => grows _ (simulates.stored_born subscription stored)
    held_born := held
    living := simulates.living.trans (List.Perm.of_eq (List.filter_congr same))
    dying := fun _ living => living }

/-- A handler that comes into being has no subscriptions. -/
theorem create (simulates : hub.Simulates roster) {handler : Handler}
    (fresh : handler ∉ hub.born) :
    Simulates { hub.take handler with born := handler :: hub.born }
      { roster.take handler with born := handler :: roster.born } := by
  rw [simulates.born_eq]
  -- The new handler is the only one that gains an owner.
  have started := simulates.hold (hub.take handler).outside (handler :: hub.born)
    (fun other born => List.mem_cons_of_mem handler born) (fun other held => ?_)
    (fun other held => ?_) (fun subscription stored held => ?_)
  · simpa only [Roster.take, take, simulates.outside_eq] using started
  · simp only [take] at held
    split at held
    · rename_i same
      exact same ▸ List.mem_cons_self
    · exact List.mem_cons_of_mem handler (simulates.held_born other held)
  · -- Whoever was held is still held, the new handler being counted once more.
    simp only [take]
    split <;> omega
  · -- What is stored has come into being before.
    have differs : subscription.entry.handler ≠ handler := fun same =>
      fresh (same ▸ simulates.stored_born subscription stored)
    simp only [take, if_neg differs] at held
    exact (alive_iff simulates.grounded).mpr (Or.inl held)

/-- Another reference to a handler that is held changes nothing. -/
theorem clone (simulates : hub.Simulates roster) {handler : Handler}
    (held : 0 < hub.outside handler) :
    Simulates (hub.take handler) (roster.take handler) := by
  -- Whoever has an owner among the clients had one before.
  have before : ∀ other, 0 < (hub.take handler).outside other → 0 < hub.outside other := by
    intro other holds
    simp only [take] at holds
    split at holds
    · rename_i same
      exact same ▸ held
    · exact holds
  have taken := simulates.hold (hub.take handler).outside hub.born
    (fun other born => born) (fun other holds => simulates.held_born other (before other holds))
    (fun other holds => ?_)
    (fun subscription stored holds => (alive_iff simulates.grounded).mpr (Or.inl (before _ holds)))
  · simpa only [Roster.take, take, simulates.outside_eq, simulates.born_eq] using taken
  · simp only [take]
    split <;> omega

/-- With the last reference to a handler go its subscriptions. -/
theorem release (simulates : hub.Simulates roster) (handler : Handler) :
    Simulates (hub.giveUp handler) (roster.giveUp handler) := by
  -- Nobody gains an owner, so subscriptions can only die.
  have fewer : ∀ other, 0 < (hub.giveUp handler).outside other → 0 < hub.outside other := by
    intro other holds
    simp only [giveUp] at holds
    split at holds <;> omega
  have dying : ∀ other, (hub.giveUp handler).alive other = true → hub.alive other = true := by
    intro other living
    have owned := (@alive_iff (hub.giveUp handler) simulates.grounded other).mp living
    exact (alive_iff simulates.grounded).mpr (owned.imp_left (fewer other))
  let later : Roster :=
    { roster with
      outside := fun other =>
        if other = handler then roster.outside other - 1 else roster.outside other }
  have tracks : (hub.giveUp handler).Tracks hub.alive later :=
    { simulates with
      outside_eq := by
        simp only [later, simulates.outside_eq]
        rfl
      held_born := fun other holds => simulates.held_born other (fewer other holds)
      dying }
  -- What has died since is struck out, as in the roster.
  exact tracks.settle

/-- A snapshot holds only what is alive already. -/
theorem holdSnapshot (simulates : hub.Simulates roster) {type : EventType}
    {subscribers : List Subscriber} (taken : roster.snapshot type = .ok subscribers) :
    Simulates
      { hub with
        outside := fun handler =>
          hub.outside handler + (subscribers.map Subscriber.handler).count handler }
      { roster with
        outside := fun handler =>
          roster.outside handler + (subscribers.map Subscriber.handler).count handler } := by
  -- A snapshot takes its handlers from listed subscriptions.
  have listed : ∀ handler ∈ subscribers.map Subscriber.handler,
      ∃ subscription ∈ roster.subscriptions, subscription.entry.handler = handler := by
    unfold Roster.snapshot at taken
    split at taken
    · cases taken
    · cases taken
      intro handler held
      simp only [List.map_map, List.mem_map, List.mem_filter] at held
      obtain ⟨subscription, ⟨listed, _⟩, rfl⟩ := held
      exact ⟨subscription, listed, rfl⟩
  have living : ∀ handler,
      0 < hub.outside handler + (subscribers.map Subscriber.handler).count handler →
        hub.alive handler = true ∧ handler ∈ hub.born := by
    intro handler holds
    -- Whoever is held afterwards was held before or is in the snapshot, and alive in either case.
    rcases Nat.eq_zero_or_pos (hub.outside handler) with none | some
    · have counted : 0 < (subscribers.map Subscriber.handler).count handler := by omega
      obtain ⟨subscription, there, rfl⟩ := listed handler (List.count_pos_iff.mp counted)
      have found := simulates.living.mem_iff.mp there
      exact ⟨(List.mem_filter.mp found).2,
        simulates.stored_born subscription (List.mem_of_mem_filter found)⟩
    · exact ⟨(alive_iff simulates.grounded).mpr (Or.inl some), simulates.held_born handler some⟩
  -- So taking these references revives nobody.
  have held := simulates.hold
    (fun handler => hub.outside handler + (subscribers.map Subscriber.handler).count handler)
    hub.born (fun _ born => born) (fun handler holds => (living handler holds).2)
    (fun handler holds => Nat.add_pos_left holds _)
    (fun subscription _ holds => (living _ holds).1)
  simpa only [simulates.outside_eq, ← simulates.born_eq] using held

/-- A new registry is tracked by a new list when it has the same owners and the same life. -/
theorem change (simulates : hub.Simulates roster) {registry : Registry}
    {subscriptions : List Subscription} (wellFormed : registry.WellFormed)
    (id_eq : registry.id = hub.registry.id) (closed_eq : registry.closed = hub.registry.closed)
    (stored_born : ∀ subscription ∈ registry.subscriptions,
      subscription.entry.handler ∈ hub.born)
    (ascending : subscriptions.Pairwise (·.entry.id < ·.entry.id))
    (living : subscriptions.Perm
      (registry.subscriptions.filter fun subscription => hub.alive subscription.entry.handler))
    (alive_eq : Hub.alive { hub with registry } = hub.alive) :
    Simulates { hub with registry }
      { roster with made := registry.nextId, subscriptions } where
  wellFormed := wellFormed
  grounded := simulates.grounded
  id_eq := simulates.id_eq.trans id_eq.symm
  closed_eq := simulates.closed_eq.trans closed_eq.symm
  made_eq := rfl
  outside_eq := simulates.outside_eq
  born_eq := simulates.born_eq
  stored_born := stored_born
  held_born := simulates.held_born
  ascending := ascending
  living := by
    -- By hypothesis the same handlers are alive after the change as before it.
    rw [alive_eq]
    exact living
  dying := fun _ living => living

/-- Dropping dead entries of one type drops nothing that is alive. -/
theorem filter_stays (simulates : hub.Simulates roster) (type : EventType) :
    (hub.registry.subscriptions.filter
        (Subscription.stays type (Entry.isAlive hub.alive))).filter
          (fun subscription => hub.alive subscription.entry.handler) =
      hub.registry.subscriptions.filter fun subscription =>
        hub.alive subscription.entry.handler := by
  rw [List.filter_filter]
  refine List.filter_congr fun subscription stored => ?_
  have living := isAlive_eq simulates.grounded stored
  -- What is alive stays, and what is dead is not listed in either case.
  cases alive : hub.alive subscription.entry.handler with
  | false => rfl
  | true =>
    have stays : subscription.entry.isAlive hub.alive = true := living.trans alive
    simp [Subscription.stays, stays]

/-- Nobody becomes or ceases to be an owner where every retained subscription has its like. -/
theorem alive_eq (simulates : hub.Simulates roster) {registry : Registry}
    (fewer : ∀ subscription ∈ registry.subscriptions, subscription.entry.retained = true →
      hub.alive subscription.entry.handler = true)
    (more : ∀ subscription ∈ hub.registry.subscriptions, subscription.entry.retained = true →
      ∃ other ∈ registry.subscriptions, other.entry.retained = true ∧
        other.entry.handler = subscription.entry.handler) :
    Hub.alive { hub with registry } = hub.alive := by
  funext handler
  rw [Bool.eq_iff_iff, @alive_iff { hub with registry } simulates.grounded]
  -- Owners among the clients are the same; the others are retained subscriptions.
  constructor
  · rintro (held | ⟨subscription, stored, retained, rfl⟩)
    · exact (alive_iff simulates.grounded).mpr (Or.inl held)
    · exact fewer subscription stored retained
  · intro living
    rcases (alive_iff simulates.grounded).mp living with
      held | ⟨subscription, stored, retained, rfl⟩
    · exact Or.inl held
    · exact Or.inr (more subscription stored retained)

/-- A retained subscription outlasts the dead ones of any type. -/
theorem mem_filter_stays (type : EventType)
    {subscription : Subscription} (stored : subscription ∈ hub.registry.subscriptions)
    (retained : subscription.entry.retained = true) :
    subscription ∈ hub.registry.subscriptions.filter
      (Subscription.stays type (Entry.isAlive hub.alive)) := by
  -- A subscription that is retained stays whatever its type and whoever else holds the handler.
  refine List.mem_filter.mpr ⟨stored, ?_⟩
  simp [Subscription.stays, Entry.isAlive, retained]

/-- Subscribing a handler again finds the listed subscription. -/
theorem upgrade (simulates : hub.Simulates roster) {type : EventType} {handler : Handler}
    (held : 0 < hub.outside handler) {existing : Entry}
    (stored : existing ∈ hub.registry.live hub.alive type) (same : existing.handler = handler)
    (retain : Bool) {registry : Registry}
    (eq : registry = hub.registry.setEntries type
      ((hub.registry.live hub.alive type).map (Entry.upgrade existing.id retain)))
    (wellFormed : registry.WellFormed) :
    Simulates { hub with registry }
      { roster with
        subscriptions := roster.subscriptions.map (Subscription.upgrade existing.id retain) } := by
  -- The entry to be upgraded is the only one of its number, so the list is mapped as a whole.
  have changed := @Registry.WellFormed.subscriptions_upgrade _ _ _ retain simulates.wellFormed _
    stored
  rw [← eq] at changed
  have made : roster.made = registry.nextId := by
    rw [simulates.made_eq, eq]
    rfl
  -- Everything that is stored afterwards was stored before, perhaps without being retained.
  have upgraded : ∀ subscription ∈ registry.subscriptions,
      ∃ old ∈ hub.registry.subscriptions,
        subscription = old.upgrade existing.id retain := by
    intro subscription there
    obtain ⟨old, kept, rfl⟩ := List.mem_map.mp (changed.mem_iff.mp there)
    exact ⟨old, List.mem_of_mem_filter kept, rfl⟩
  -- An upgrade keeps the handler, and so it keeps what is alive.
  have living : (roster.subscriptions.map (Subscription.upgrade existing.id retain)).Perm
      (registry.subscriptions.filter fun subscription =>
        hub.alive subscription.entry.handler) := by
    refine (simulates.living.map _).trans (List.Perm.trans ?_ (changed.filter _).symm)
    rw [List.filter_map, ← simulates.filter_stays type]
    refine List.Perm.of_eq (congrArg _ (List.filter_congr fun subscription _ => ?_))
    simp [Subscription.upgrade]
  -- It remains to see that the listed subscriptions and their order are those of before.
  have started := simulates.change wellFormed (by rw [eq]; rfl) (by rw [eq]; rfl)
    (fun subscription there => ?_) (List.pairwise_map.mpr ?_) living
    (simulates.alive_eq (fun subscription there retained => ?_)
      (fun subscription there retained => ?_))
  · rw [← made] at started
    exact started
  · obtain ⟨old, before, rfl⟩ := upgraded subscription there
    simpa [Subscription.upgrade] using simulates.stored_born old before
  · simpa [Subscription.upgrade] using simulates.ascending
  · -- What was not retained before is now retained for a handler that a client holds.
    obtain ⟨old, before, rfl⟩ := upgraded subscription there
    by_cases hit : old.entry.id = existing.id
    · have found := simulates.wellFormed.eq_of_id before
        (simulates.wellFormed.mem_of_live stored) hit
      rw [found]
      -- What was retained stays retained, by the upgrade or because it is left as it was.
      simpa [Subscription.upgrade, same] using (alive_iff simulates.grounded).mpr (Or.inl held)
    · simp only [Subscription.upgrade, Entry.upgrade, if_neg hit] at retained ⊢
      exact (alive_iff simulates.grounded).mpr (Or.inr ⟨old, before, retained, rfl⟩)
  · refine ⟨subscription.upgrade existing.id retain, changed.mem_iff.mpr (List.mem_map_of_mem
      (mem_filter_stays type there retained)), ?_, by simp [Subscription.upgrade]⟩
    simp only [Subscription.upgrade, Entry.upgrade]
    split <;> simp [retained]

/-- A new subscription goes to the end of the list. -/
theorem append (simulates : hub.Simulates roster) {type : EventType} {handler : Handler}
    (held : 0 < hub.outside handler) (retain : Bool) {registry : Registry}
    (eq : registry = hub.registry.next.setEntries type
      (hub.registry.live hub.alive type ++ [⟨hub.registry.nextId + 1, handler, retain⟩]))
    (wellFormed : registry.WellFormed) :
    Simulates { hub with registry }
      { roster with
        made := roster.made + 1
        subscriptions := roster.subscriptions ++ [⟨type, roster.made + 1, handler, retain⟩] } := by
  have owned := (alive_iff simulates.grounded).mpr (Or.inl held)
  have changed := @Registry.WellFormed.subscriptions_new _ hub.alive type simulates.wellFormed
    ⟨hub.registry.nextId + 1, handler, retain⟩
  rw [← eq] at changed
  have made : roster.made + 1 = registry.nextId := by
    rw [simulates.made_eq, eq]
    rfl
  -- Only one subscription is stored that was not stored before.
  have added : ∀ subscription ∈ registry.subscriptions,
      subscription ∈ hub.registry.subscriptions ∨
        subscription = ⟨type, hub.registry.nextId + 1, handler, retain⟩ := by
    intro subscription there
    exact (List.mem_append.mp (changed.mem_iff.mp there)).imp List.mem_of_mem_filter
      List.mem_singleton.mp
  -- The new subscription is alive, since a client holds its handler.
  have living : List.Perm
      (roster.subscriptions ++ [⟨type, hub.registry.nextId + 1, handler, retain⟩])
      (registry.subscriptions.filter fun subscription =>
        hub.alive subscription.entry.handler) := by
    refine List.Perm.trans ?_ (changed.filter _).symm
    rw [List.filter_append, simulates.filter_stays type, List.filter_singleton, owned]
    exact simulates.living.append_right _
  have started := simulates.change wellFormed (by rw [eq]; rfl) (by rw [eq]; rfl)
    (fun subscription there => ?_) ?_ living
    (simulates.alive_eq (fun subscription there retained => ?_)
      (fun subscription there retained => ?_))
  · rw [← made] at started
    rw [simulates.made_eq]
    simpa only [simulates.made_eq] using started
  · rcases added subscription there with before | rfl
    · exact simulates.stored_born subscription before
    · exact simulates.held_born handler held
  · refine List.pairwise_append.mpr ⟨simulates.ascending, List.pairwise_singleton _ _, ?_⟩
    -- Its id has not been given out before, and is above all others.
    intro subscription listed new appended
    rw [List.mem_singleton.mp appended]
    exact Nat.lt_succ_of_le (simulates.wellFormed.counted _ (simulates.stored listed)).2
  · rcases added subscription there with before | rfl
    · exact (alive_iff simulates.grounded).mpr (Or.inr ⟨subscription, before, retained, rfl⟩)
    · exact owned
  · exact ⟨subscription, changed.mem_iff.mpr (List.mem_append_left _
      (mem_filter_stays type there retained)), retained, rfl⟩

/-- Where the roster is not closed, the registry is open. -/
theorem opened (simulates : hub.Simulates roster) (closed : ¬ roster.closed = true) :
    hub.registry.closed = false := by
  -- Both sides agree on whether they are closed.
  rw [← simulates.closed_eq]
  simpa using closed

/-- Subscribing is answered alike, and both sides stay together. -/
theorem subscribe (simulates : hub.Simulates roster) {handler : Handler}
    (held : 0 < hub.outside handler) (type : EventType) (retain : Bool) :
    let done := hub.registry.subscribe hub.alive type handler retain
    done.answer = (roster.subscribe type handler retain).1 ∧
      Simulates { hub with registry := done.registry }
        (roster.subscribe type handler retain).2 := by
  have wellFormed := simulates.wellFormed.subscribe hub.alive type handler retain
  -- Both sides look at the same characters of the name.
  have sameBlank : Roster.isBlank type = type.isBlank := rfl
  unfold Roster.subscribe
  rw [sameBlank]
  -- The refusals come in the same order on both sides: first the blank type, then the close.
  by_cases blank : type.isBlank = true
  · rw [if_pos blank, Registry.subscribe_blank blank]
    exact ⟨rfl, simulates⟩
  have named : type.isBlank = false := by simpa using blank
  rw [if_neg blank]
  by_cases closed : roster.closed = true
  · rw [if_pos closed, Registry.subscribe_closed named (simulates.closed_eq.symm.trans closed)]
    exact ⟨rfl, simulates⟩
  have opened := simulates.opened closed
  rw [if_neg closed]
  -- Both sides look for the handler, and find the same subscription or none.
  simp only [simulates.find?_same]
  cases found : (hub.registry.live hub.alive type).find? (·.handler == handler) with
  | some existing =>
    have same : existing.handler = handler := by simpa using List.find?_some found
    have made := @Registry.subscribe_found _ _ _ _ retain named opened _ found
    have upgraded := simulates.upgrade held (List.mem_of_find?_eq_some found) same retain
      (congrArg Section.registry made) wellFormed
    refine ⟨?_, upgraded⟩
    rw [made, simulates.id_eq]
    rfl
  | none =>
    -- A handler that is not found gets the next number, which is the same on both sides.
    have made := @Registry.subscribe_new _ _ _ _ retain named opened found
    have appended := simulates.append held retain (congrArg Section.registry made) wellFormed
    refine ⟨?_, appended⟩
    rw [made, simulates.id_eq, simulates.made_eq]
    rfl

/-- A roster without the subscription that a handle is for, before it is settled. -/
theorem strikeOut (simulates : hub.Simulates roster) (handle : SubscriptionHandle)
    {entries : List Entry}
    (changed : (hub.registry.setEntries handle.type entries).subscriptions.Perm
      (hub.registry.subscriptions.filter
        (Subscription.stays handle.type (Registry.leaves hub.alive handle))))
    (wellFormed : (hub.registry.setEntries handle.type entries).WellFormed) :
    Tracks hub.alive { hub with registry := hub.registry.setEntries handle.type entries }
      { roster with
        subscriptions := roster.subscriptions.filter fun subscription =>
          !Roster.isMeant handle subscription } := by
  -- Nothing is stored that was not stored before.
  have before : ∀ subscription ∈ (hub.registry.setEntries handle.type entries).subscriptions,
      subscription ∈ hub.registry.subscriptions := fun subscription there =>
    List.mem_of_mem_filter (changed.mem_iff.mp there)
  exact { simulates with
    wellFormed
    stored_born := fun subscription there =>
      simulates.stored_born subscription (before subscription there)
    ascending := simulates.ascending.sublist List.filter_sublist
    living := by
      refine (simulates.living.filter _).trans (List.Perm.trans ?_ (changed.filter _).symm)
      rw [List.filter_filter, List.filter_filter]
      refine List.Perm.of_eq (List.filter_congr fun subscription stored => ?_)
      -- Of what is alive, only the subscription that is meant goes.
      have living := isAlive_eq simulates.grounded stored
      cases alive : hub.alive subscription.entry.handler with
      | false => simp
      | true =>
        have stays : subscription.entry.isAlive hub.alive = true := living.trans alive
        by_cases ofType : subscription.type = handle.type <;>
          simp [Roster.isMeant, Subscription.stays, Registry.leaves, stays, ofType]
    dying := fun handler living => by
      rw [@alive_iff { hub with registry := hub.registry.setEntries handle.type entries }
        simulates.grounded] at living
      refine (alive_iff simulates.grounded).mpr (living.imp_right ?_)
      rintro ⟨subscription, there, retained, same⟩
      exact ⟨subscription, before subscription there, retained, same⟩ }

/-- A handle finds its entry where it is meant for a listed subscription or for a remnant. -/
theorem any_stored (simulates : hub.Simulates roster) (handle : SubscriptionHandle) :
    (hub.registry.entries handle.type).any (·.id == handle.id) =
      (roster.subscriptions.any (Roster.isMeant handle) ||
        hub.remnants.any (Roster.isMeant handle)) := by
  -- All that is stored is searched for its type and its id at once.
  rw [← List.any_append, ← simulates.stored_perm.any_eq]
  have ofType := congrArg (List.any · (·.entry.id == handle.id))
    (simulates.wellFormed.filter_type handle.type)
  simp only [List.any_filter, List.any_map, Function.comp_def] at ofType
  exact ofType.symm

/-- The end of a subscription finds the listed one, or a dead one that is still stored. -/
theorem unsubscribe (simulates : hub.Simulates roster) (handle : SubscriptionHandle) :
    let done := hub.registry.unsubscribe hub.alive handle
    .unsubscribed done.answer =
        hub.due (.unsubscribe handle) (.unsubscribed (roster.unsubscribe handle).1) ∧
      Simulates { hub with registry := done.registry } (roster.unsubscribe handle).2 := by
  have wellFormed := simulates.wellFormed.unsubscribe hub.alive handle
  unfold Roster.unsubscribe
  by_cases closed : roster.closed = true
  · rw [if_pos closed, Registry.unsubscribe_closed (simulates.closed_eq.symm.trans closed)]
    exact ⟨rfl, simulates⟩
  have opened := simulates.opened closed
  rw [if_neg closed]
  by_cases own : handle.registry = hub.registry.id
  · rw [if_neg (by simpa [simulates.id_eq] using own)]
    have changed := simulates.wellFormed.subscriptions_setEntries_filter handle.type
      (Registry.leaves hub.alive handle)
    have eq := @Registry.WellFormed.unsubscribe_registry _ hub.alive simulates.wellFormed opened _
      own
    refine ⟨?_, ?_⟩
    · rw [Registry.unsubscribe_answer opened own]
      -- The search does not look at what is alive, so it passes no remnant over.
      simp only [due, simulates.any_stored, own, beq_self_eq_true, Bool.true_and]
    · rw [eq] at wellFormed ⊢
      exact (simulates.strikeOut handle changed wellFormed).settle
  · rw [if_pos (by simpa [simulates.id_eq] using own), Registry.unsubscribe_foreign opened own]
    -- The handle of another registry finds nothing here, whatever is stored.
    have foreign : (handle.registry == hub.registry.id) = false := by simpa using own
    exact ⟨by simp [due, foreign, Registry.unchanged], simulates⟩

/-- Pruning counts the remnants. -/
theorem prune_answer (simulates : hub.Simulates roster) :
    (hub.registry.prune hub.alive).answer = hub.remnants.length := by
  have stored := congrArg List.length (Registry.map_entry_subscriptions hub.registry)
  have kept := congrArg List.length
    (Registry.map_entry_subscriptions (hub.registry.prune hub.alive).registry)
  rw [List.length_map] at stored kept
  -- What is kept is what is alive, that is, what the roster lists.
  have living : (hub.registry.prune hub.alive).registry.subscriptions.length =
      roster.subscriptions.length := by
    rw [Registry.subscriptions_prune, simulates.living.length_eq]
    exact congrArg List.length
      (List.filter_congr fun subscription there => isAlive_eq simulates.grounded there)
  have parts := simulates.stored_perm.length_eq
  rw [List.length_append] at parts
  have counted : (hub.registry.prune hub.alive).answer =
      hub.registry.allEntries.length -
        (hub.registry.prune hub.alive).registry.allEntries.length := rfl
  omega

/-- Pruning drops nothing that is listed. -/
theorem prune (simulates : hub.Simulates roster) :
    Simulates { hub with registry := (hub.registry.prune hub.alive).registry } roster := by
  have changed := Registry.subscriptions_prune hub.registry hub.alive
  -- Pruning asks who is alive, and a retained entry always is.
  have kept : ∀ subscription ∈ hub.registry.subscriptions,
      subscription.entry.retained = true →
        subscription ∈ (hub.registry.prune hub.alive).registry.subscriptions := by
    intro subscription stored retained
    rw [changed]
    exact List.mem_filter.mpr ⟨stored, by simp [Subscription.isAlive, Entry.isAlive, retained]⟩
  have still := simulates.change (simulates.wellFormed.prune hub.alive) rfl rfl
    (fun subscription there => ?_) simulates.ascending ?_
    (simulates.alive_eq (fun subscription there retained => ?_)
      (fun subscription there retained => ⟨subscription, kept _ there retained, retained, rfl⟩))
  · have made : (hub.registry.prune hub.alive).registry.nextId = roster.made :=
      simulates.made_eq.symm
    rw [made] at still
    exact still
  · rw [changed] at there
    exact simulates.stored_born subscription (List.mem_of_mem_filter there)
  · -- What is alive in the list is not dead in the registry, so the filter passes it all.
    rw [changed, List.filter_filter]
    refine simulates.living.trans (List.Perm.of_eq ?_)
    refine List.filter_congr fun subscription stored => ?_
    rw [isAlive_eq simulates.grounded stored, Bool.and_self]
  · rw [changed] at there
    exact (alive_iff simulates.grounded).mpr
      (Or.inr ⟨subscription, List.mem_of_mem_filter there, retained, rfl⟩)

/-- Closing strikes out everything. -/
theorem close (simulates : hub.Simulates roster) :
    hub.registry.close.answer = !roster.closed ∧
      Simulates { hub with registry := hub.registry.close.registry }
        { roster with closed := true, subscriptions := [] } := by
  -- Afterwards nothing is stored, so there is nothing that the empty list would have to match.
  have empty := simulates.wellFormed.subscriptions_close
  refine ⟨?_, { simulates with
    wellFormed := simulates.wellFormed.close
    id_eq := ?_
    closed_eq := ?_
    made_eq := ?_
    stored_born := by simp [empty]
    ascending := List.Pairwise.nil
    living := by simp [empty]
    dying := fun _ living => living }⟩
  · -- A close is answered by whether it found the registry open.
    rw [simulates.closed_eq]
    unfold Registry.close
    split <;> rename_i closed <;> simp [Registry.unchanged, closed]
  · rw [simulates.id_eq]
    unfold Registry.close
    split <;> rfl
  · unfold Registry.close
    split
    · rename_i closed
      exact closed.symm
    · rfl
  · rw [simulates.made_eq]
    unfold Registry.close
    split <;> rfl

end Simulates

section Runs

variable (config : BusConfig) (outcome : Handler → Event → Option Cause)

/-- A bus is only noted down as the single owner, and otherwise subscribes in its registry. -/
theorem simulates_subscribe {hub : Hub} {roster : Roster} (simulates : hub.Simulates roster)
    {handler : Handler} (held : 0 < hub.outside handler) (type : EventType) :
    let done := (bus config outcome).subscribe type handler hub
    done.1 = (roster.subscribe type handler false).1 ∧
      done.2.Simulates (roster.subscribe type handler false).2 ∧
      done.2.outside = hub.outside := by
  -- The sink and the notes of the bus play no part in what the roster says.
  obtain ⟨answered, after⟩ := simulates.subscribe held type false
  rw [subscribe_eq]
  refine ⟨answered, ?_, ?_⟩
  · split
    · exact after.records _
    · exact after.records _
  · split <;> rfl

/-- Subscribing to one type after the other is answered alike. -/
theorem simulates_subscribeEach {hub : Hub} {roster : Roster} (simulates : hub.Simulates roster)
    {handler : Handler} (held : 0 < hub.outside handler) (types : List EventType) :
    let done := (bus config outcome).subscribeEach handler types hub
    done.1 = (roster.subscribeEach handler types).1 ∧
      done.2.Simulates (roster.subscribeEach handler types).2 := by
  -- The induction is on the types, with a handler that stays held from one to the next.
  induction types generalizing hub roster with
  | nil => exact ⟨rfl, simulates⟩
  | cons type rest ih =>
    obtain ⟨answered, after, same⟩ := simulates_subscribe config outcome simulates held type
    rw [subscribeEach_cons, Roster.subscribeEach]
    generalize (bus config outcome).subscribe type handler hub = real at answered after same
    generalize roster.subscribe type handler false = model at answered after
    obtain ⟨stored, next⟩ := real
    obtain ⟨meant, later⟩ := model
    obtain rfl : stored = meant := answered
    -- The first refusal ends both series.
    cases stored with
    | error error => exact ⟨rfl, after⟩
    | ok handle =>
      obtain ⟨restAnswered, restAfter⟩ := ih after (same ▸ held)
      exact ⟨congrArg (Except.map (handle :: ·)) restAnswered, restAfter⟩

/-- Every request that clients can make is answered alike, and both sides stay together. -/
theorem simulates_serve {hub : Hub} {roster : Roster} (simulates : hub.Simulates roster)
    {request : Request} (allowed : allows hub.outside hub.born request = true) :
    let done := serve (bus config outcome) request hub
    done.1 = hub.due request (roster.serve request).1 ∧
      done.2.Simulates (roster.serve request).2 := by
  -- Requests that only read are answered alike since both sides mean the same.
  cases request with
  | create handler =>
    exact ⟨rfl, simulates.create (by simpa [allows] using allowed)⟩
  | clone handler =>
    exact ⟨rfl, simulates.clone (by simpa [allows] using allowed)⟩
  | release handler =>
    exact ⟨rfl, simulates.release handler⟩
  | subscribe type handler =>
    obtain ⟨answered, after, _⟩ := simulates_subscribe config outcome simulates
      (by simpa [allows] using allowed) type
    exact ⟨congrArg Answer.subscribed answered, after⟩
  | subscribeRetained type handler =>
    obtain ⟨answered, after⟩ := simulates.subscribe (by simpa [allows] using allowed) type true
    simp only [serve, bind, StateT.bind, subscribeRetained_eq]
    exact ⟨congrArg Answer.subscribed answered, after.records _⟩
  | subscribeMany types handler =>
    -- Both sides look for a blank type before they look at anything else.
    have sameBlank : Roster.isBlank = EventType.isBlank := rfl
    simp only [serve, Roster.serve, Bus.subscribeMany, Roster.subscribeMany, sameBlank]
    cases blank : types.find? EventType.isBlank with
    | some type => exact ⟨rfl, simulates⟩
    | none =>
      obtain ⟨answered, after⟩ := simulates_subscribeEach config outcome simulates
        (by simpa [allows] using allowed) types
      exact ⟨congrArg Answer.subscribedMany answered, after⟩
  | unsubscribe handle =>
    obtain ⟨answered, after⟩ := simulates.unsubscribe handle
    simp only [serve, bind, StateT.bind, unsubscribe_eq]
    exact ⟨answered, after.records _⟩
  -- A snapshot passes references on, and the client holds them afterwards.
  | snapshot type =>
    simp only [serve, Roster.serve, bind, StateT.bind, snapshot_eq, simulates.snapshot]
    cases taken : roster.snapshot type with
    | error error => exact ⟨rfl, simulates⟩
    | ok subscribers => exact ⟨rfl, simulates.holdSnapshot taken⟩
  | size => exact ⟨congrArg Answer.size simulates.size, simulates⟩
  | isEmpty =>
    refine ⟨congrArg Answer.isEmpty ?_, simulates⟩
    have empty : (hub.registry.size hub.alive == 0) = roster.subscriptions.isEmpty := by
      rw [simulates.size]
      cases roster.subscriptions <;> rfl
    exact empty
  | types => exact ⟨congrArg Answer.types simulates.types, simulates⟩
  -- The requests that change the registry leave a note in the log, which the roster does not keep.
  | prune =>
    simp only [serve, bind, StateT.bind, prune_eq]
    exact ⟨congrArg Answer.pruned simulates.prune_answer, simulates.prune.records _⟩
  | close =>
    obtain ⟨answered, after⟩ := simulates.close
    simp only [serve, bind, StateT.bind, close_eq]
    refine ⟨congrArg Answer.closed answered, ?_⟩
    split
    · exact after.records _
    · exact after.records _
  | isClosed => exact ⟨congrArg Answer.closed simulates.closed_eq.symm, simulates⟩

/-- Only the request for the types is answered with types. -/
theorem eq_types_of_serve {hub : Hub} {request : Request} {types : List EventType}
    (answered : (serve (bus config outcome) request hub).1 = .types types) :
    request = .types ∧ types = hub.registry.types hub.alive := by
  -- Every other request has an answer of its own kind.
  cases request with
  | types =>
    cases answered
    exact ⟨rfl, rfl⟩
  | _ => cases answered

/-- Every request that clients can make is answered as the roster says. -/
theorem Simulates.agrees {hub : Hub} {roster : Roster} (simulates : hub.Simulates roster)
    {request : Request} (allowed : allows hub.outside hub.born request = true) :
    hub.Agrees request (serve (bus config outcome) request hub).1 (roster.serve request).1 := by
  -- What is said besides about types is that they come in order.
  refine ⟨(simulates_serve config outcome simulates allowed).1, fun types answered => ?_⟩
  obtain ⟨_, rfl⟩ := eq_types_of_serve config outcome answered
  exact simulates.types_ascending

/-- From a hub and a roster that mean the same, every list of requests is answered alike. -/
theorem Simulates.refines {hub : Hub} {roster : Roster} (simulates : hub.Simulates roster)
    (requests : List Request) : hub.Refines config roster requests := by
  -- The induction is on the requests, with the hub and the roster that the first one leaves.
  induction requests generalizing hub roster with
  | nil => exact trivial
  | cons request rest ih =>
    simp only [Refines, step?, Roster.step?, simulates.allows_eq]
    by_cases allowed : allows hub.outside hub.born request = true
    · -- Both sides answer, and still mean the same when they go on.
      obtain ⟨_, after⟩ := simulates_serve config (fun _ _ => none) simulates allowed
      simp only [if_pos allowed]
      exact ⟨simulates.agrees config _ allowed, ih after⟩
    · -- What is not allowed on one side is not allowed on the other, and nothing happens.
      simp only [if_neg allowed]

end Runs

end Hub

/--
A bus answers every list of requests, of any clients in any order, as the roster of its living
subscriptions does; requests that clients cannot make are refused by both.
-/
theorem hub_refines_roster (config : BusConfig) (id : Nat) (requests : List Request) :
    (Hub.new id).Refines config (Roster.new id) requests :=
  (Hub.simulates_new id).refines config requests

/--
A handler with two subscriptions dies. One of these is still stored when it is ended, and the other
when the registry is pruned; the handler that is retained is all that can be seen.
-/
def lingeringSubscriptions : List Request :=
  let mailer : Handler := ⟨1, "mailer"⟩
  let audit : Handler := ⟨2, "audit"⟩
  [.create mailer, .create audit, .subscribe ⟨"order"⟩ mailer, .subscribeRetained ⟨"order"⟩ audit,
    .subscribe ⟨"invoice"⟩ mailer, .release mailer, .release audit, .snapshot ⟨"order"⟩, .size,
    .unsubscribe ⟨0, 1, ⟨"order"⟩⟩, .prune, .unsubscribe ⟨0, 3, ⟨"invoice"⟩⟩, .prune]

/-- Only the end of a subscription and the count of pruning show what lingers. -/
theorem lingeringSubscriptions_answered :
    (Hub.new 0).Refines {} (Roster.new 0) lingeringSubscriptions ∧
      (Hub.new 0).answers? {} lingeringSubscriptions = some [.done, .done,
        .subscribed (.ok ⟨0, 1, ⟨"order"⟩⟩), .subscribed (.ok ⟨0, 2, ⟨"order"⟩⟩),
        .subscribed (.ok ⟨0, 3, ⟨"invoice"⟩⟩), .done, .done,
        .snapshot (.ok [⟨2, ⟨2, "audit"⟩⟩]), .size 1, .unsubscribed (.ok true), .pruned 1,
        .unsubscribed (.ok false), .pruned 0] :=
  ⟨hub_refines_roster {} 0 lingeringSubscriptions, rfl⟩

end EventBus
