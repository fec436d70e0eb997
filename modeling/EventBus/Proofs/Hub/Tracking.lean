import EventBus.Proofs.Hub.Operations
import EventBus.Proofs.Hub.Roster
import Mathlib.Data.List.Dedup

/-!
The roster of a hub: which of the stored subscriptions it lists, in which order, and what follows
from that for everything that is read from a registry.
-/

namespace EventBus

namespace EventType

/-- Sorting moves types and does no more. -/
theorem sort_perm (types : List EventType) : (sort types).Perm types := List.mergeSort_perm _ _

/-- Sorted types ascend. -/
theorem sort_pairwise (types : List EventType) :
    (sort types).Pairwise fun a b => a.name ≤ b.name := by
  -- The order of names is total and transitive, which is all that sorting asks for.
  refine (List.pairwise_mergeSort ?_ ?_ types).imp of_decide_eq_true
  · intro a b c below above
    simp only [decide_eq_true_eq] at below above ⊢
    exact String.le_trans below above
  · intro a b
    simpa using String.le_total a.name b.name

/-- Two types whose names are not above each other are the same. -/
theorem eq_of_name_le {a b : EventType} (below : a.name ≤ b.name) (above : b.name ≤ a.name) :
    a = b :=
  EventType.mk.injEq .. |>.mpr (String.le_antisymm below above)

/-- The order of sorted types does not depend on where they stood before. -/
theorem sort_eq_of_perm {types others : List EventType} (same : types.Perm others) :
    sort types = sort others :=
  -- There is only one ascending list of the same names.
  List.Perm.eq_of_pairwise (fun _ _ _ _ => eq_of_name_le) (sort_pairwise types)
    (sort_pairwise others) (((sort_perm types).trans same).trans (sort_perm others).symm)

/-- Types without repetition are sorted strictly. -/
theorem sort_ascending {types : List EventType} (nodup : types.Nodup) :
    (sort types).Pairwise fun a b => a.name < b.name := by
  -- Sorting repeats nothing, so neighbours that do not descend have to ascend.
  have distinct : (sort types).Nodup := (sort_perm types).nodup_iff.mpr nodup
  refine ((sort_pairwise types).and distinct).imp ?_
  rintro a b ⟨below, differs⟩
  exact String.not_le.mp fun above => differs (eq_of_name_le below above)

end EventType

namespace Flight

/-- The subscribers whose handlers a flight holds. -/
def held (flight : Flight) : List Subscriber :=
  flight.queued ++ flight.pending ++ flight.submitted ++ flight.running ++ flight.stranded

/-- A flight holds the handlers of the subscribers that it looks after. -/
theorem holds_pos_iff {flight : Flight} {handler : Handler} :
    0 < flight.holds handler ↔ ∃ subscriber ∈ flight.held, subscriber.handler = handler := by
  -- Twice a positive count is positive, and so is a sum with one positive part.
  simp only [holds, held, Nat.add_pos_iff_pos_or_pos, Nat.mul_pos_iff_of_pos_left Nat.two_pos,
    List.countP_pos_iff, beq_iff_eq, List.mem_append, or_and_right, exists_or]

end Flight

namespace Hub

/-- A stored subscription that is retained is an owner of its handler. -/
theorem holds_pos_iff {registry : Registry} {handler : Handler} :
    0 < registry.holds handler ↔
      ∃ subscription ∈ registry.subscriptions,
        subscription.entry.retained = true ∧ subscription.entry.handler = handler := by
  -- The registry counts entries, which are the subscriptions without their types.
  simp only [Registry.holds, List.countP_pos_iff, ← Registry.map_entry_subscriptions, List.mem_map,
    Bool.and_eq_true, beq_iff_eq]
  constructor
  · rintro ⟨_, ⟨subscription, stored, rfl⟩, retained, same⟩
    exact ⟨subscription, stored, retained, same⟩
  · rintro ⟨subscription, stored, retained, same⟩
    exact ⟨subscription.entry, ⟨subscription, stored, rfl⟩, retained, same⟩

/-- How many references to a handler the flights hold. -/
def aloft (hub : Hub) (handler : Handler) : Nat :=
  hub.voyages.foldl (fun count voyage => count + voyage.flight.holds handler) 0

/-- A flight keeps a handler alive as long as it has a subscriber of that handler to look after. -/
theorem aloft_pos_iff {hub : Hub} {handler : Handler} :
    0 < hub.aloft handler ↔
      ∃ voyage ∈ hub.voyages, ∃ subscriber ∈ voyage.flight.held, subscriber.handler = handler := by
  -- The sum is positive exactly if one of the flights holds the handler.
  have counted : hub.aloft handler =
      (hub.voyages.map fun voyage => voyage.flight.holds handler).sum := by
    rw [aloft, List.sum_eq_foldl, List.foldl_map]
  rw [counted, List.sum_pos_iff_exists_pos_nat]
  simp only [List.mem_map, exists_exists_and_eq_and, Flight.holds_pos_iff]

/-- A handler is alive when a client, a flight or a stored subscription owns it. -/
theorem alive_iff_owned {hub : Hub} {handler : Handler} :
    hub.alive handler = true ↔
      0 < hub.outside handler ∨ 0 < hub.aloft handler ∨
        ∃ subscription ∈ hub.registry.subscriptions,
          subscription.entry.retained = true ∧ subscription.entry.handler = handler := by
  -- The owners are the sum of three counts, one for each kind of owner.
  have counted : hub.owners handler =
      hub.outside handler + hub.aloft handler + hub.registry.holds handler := rfl
  rw [← holds_pos_iff, alive, decide_eq_true_eq, counted]
  omega

/-- Without flights, a handler is alive when a client or a stored subscription owns it. -/
theorem alive_iff {hub : Hub} (grounded : hub.voyages = []) {handler : Handler} :
    hub.alive handler = true ↔
      0 < hub.outside handler ∨
        ∃ subscription ∈ hub.registry.subscriptions,
          subscription.entry.retained = true ∧ subscription.entry.handler = handler := by
  -- Nothing is counted where nothing is aloft.
  have none_aloft : hub.aloft handler = 0 := by rw [aloft, grounded, List.foldl_nil]
  rw [alive_iff_owned, none_aloft]
  simp only [Nat.lt_irrefl, false_or]

/-- A stored subscription is alive exactly when its handler is. -/
theorem isAlive_eq {hub : Hub} (grounded : hub.voyages = []) {subscription : Subscription}
    (stored : subscription ∈ hub.registry.subscriptions) :
    subscription.isAlive hub.alive = hub.alive subscription.entry.handler := by
  cases retained : subscription.entry.retained with
  | false => simp [Subscription.isAlive, Entry.isAlive, retained]
  | true =>
    -- A retained entry is alive by itself, and so is the handler that it owns.
    have living := (alive_iff grounded).mpr (Or.inr ⟨subscription, stored, retained, rfl⟩)
    simp [Subscription.isAlive, Entry.isAlive, retained, living]

/--
A roster lists the stored subscriptions whose handlers were alive when it was last settled.

Until it is settled again, handlers can only have died.
-/
structure Tracks (known : Handler → Bool) (hub : Hub) (roster : Roster) : Prop where
  wellFormed : hub.registry.WellFormed
  grounded : hub.voyages = []
  id_eq : roster.id = hub.registry.id
  closed_eq : roster.closed = hub.registry.closed
  made_eq : roster.made = hub.registry.nextId
  outside_eq : roster.outside = hub.outside
  born_eq : roster.born = hub.born
  /-- A handler that comes into being cannot revive a subscription. -/
  stored_born : ∀ subscription ∈ hub.registry.subscriptions,
    subscription.entry.handler ∈ hub.born
  held_born : ∀ handler, 0 < hub.outside handler → handler ∈ hub.born
  ascending : roster.subscriptions.Pairwise (·.entry.id < ·.entry.id)
  living : roster.subscriptions.Perm
    (hub.registry.subscriptions.filter fun subscription => known subscription.entry.handler)
  dying : ∀ handler, hub.alive handler = true → known handler = true

/-- A settled roster lists exactly the subscriptions that are alive. -/
def Simulates (hub : Hub) (roster : Roster) : Prop := hub.Tracks hub.alive roster

/-- Nothing is listed in the beginning. -/
theorem simulates_new (id : Nat) : (Hub.new id).Simulates (Roster.new id) where
  -- Both sides begin with a fresh id and empty lists.
  wellFormed := Registry.wellFormed_new id
  grounded := rfl
  id_eq := rfl
  closed_eq := rfl
  made_eq := rfl
  outside_eq := rfl
  born_eq := rfl
  stored_born := by simp [Hub.new, Registry.new, Registry.subscriptions, subscriptionsOf]
  held_born := by simp [Hub.new]
  ascending := List.Pairwise.nil
  living := List.Perm.refl _
  dying := fun _ living => living

namespace Tracks

variable {known : Handler → Bool} {hub : Hub} {roster : Roster}

/-- A listed subscription is stored. -/
theorem stored (tracks : hub.Tracks known roster) {subscription : Subscription}
    (listed : subscription ∈ roster.subscriptions) :
    subscription ∈ hub.registry.subscriptions :=
  List.mem_of_mem_filter (tracks.living.mem_iff.mp listed)

/-- The roster knows as well as the hub which handlers are owned. -/
theorem owned_eq (tracks : hub.Tracks known roster) : roster.owned = hub.alive := by
  funext handler
  rw [Bool.eq_iff_iff, alive_iff tracks.grounded]
  simp only [Roster.owned, tracks.outside_eq, Bool.or_eq_true, decide_eq_true_eq, List.any_eq_true,
    Bool.and_eq_true, beq_iff_eq]
  -- They agree on the clients, and differ at most in the subscriptions that they look through.
  refine or_congr_right ⟨?_, ?_⟩
  · rintro ⟨subscription, listed, retained, same⟩
    exact ⟨subscription, tracks.stored listed, retained, same⟩
  · rintro ⟨subscription, stored, retained, same⟩
    -- A retained subscription keeps its handler alive, so it is listed.
    have living := (alive_iff tracks.grounded).mpr (Or.inr ⟨subscription, stored, retained, rfl⟩)
    have listed := tracks.living.mem_iff.mpr
      (List.mem_filter.mpr ⟨stored, tracks.dying _ living⟩)
    exact ⟨subscription, listed, retained, same⟩

/-- Settling strikes out what has died since. -/
theorem settle (tracks : hub.Tracks known roster) : hub.Simulates roster.settle :=
  { tracks with
    ascending := tracks.ascending.sublist List.filter_sublist
    living := by
      -- Of what was known to live, what lives still is what lives now.
      have filtered := tracks.living.filter fun subscription => hub.alive subscription.entry.handler
      rw [List.filter_filter] at filtered
      simp only [Roster.settle, tracks.owned_eq]
      refine filtered.trans (List.Perm.of_eq (List.filter_congr fun subscription _ => ?_))
      cases living : hub.alive subscription.entry.handler with
      | false => rfl
      | true => simp [tracks.dying _ living]
    dying := fun _ living => living }

/-- What is written to the log does not matter. -/
theorem records (tracks : hub.Tracks known roster) (records : List LogRecord) :
    Tracks known { hub with records } roster :=
  { tracks with }

end Tracks

namespace Simulates

variable {hub : Hub} {roster : Roster}

/-- What is written to the log does not matter. -/
theorem records (simulates : hub.Simulates roster) (records : List LogRecord) :
    Simulates { hub with records } roster :=
  Tracks.records simulates records

/-- The living entries of a type are the listed subscriptions to it, in the same order. -/
theorem filter_type (simulates : hub.Simulates roster) (type : EventType) :
    roster.subscriptions.filter (·.type = type) =
      (hub.registry.live hub.alive type).map (Subscription.mk type) := by
  have wellFormed := simulates.wellFormed
  have same : (roster.subscriptions.filter (·.type = type)).Perm
      ((hub.registry.live hub.alive type).map (Subscription.mk type)) := by
    refine (simulates.living.filter _).trans (List.Perm.of_eq ?_)
    rw [List.filter_comm, wellFormed.filter_type, List.filter_map]
    refine congrArg _ (List.filter_congr fun entry stored => ?_)
    exact (isAlive_eq simulates.grounded (wellFormed.mem_entries.mp stored)).symm
  -- Both stand in the order of their ids, so they are the same list.
  refine List.Perm.eq_of_pairwise (fun _ _ _ _ below above => ?_) (simulates.ascending.filter _)
    (List.pairwise_map.mpr wellFormed.live_ascending) same
  exact absurd (Nat.lt_trans below above) (Nat.lt_irrefl _)

/-- The living subscription of a handler to a type is the listed one. -/
theorem find?_same (simulates : hub.Simulates roster) (type : EventType) (handler : Handler) :
    (roster.subscriptions.find? fun subscription =>
        subscription.type = type && subscription.entry.handler = handler) =
      ((hub.registry.live hub.alive type).find? (·.handler == handler)).map
        (Subscription.mk type) := by
  -- Both search the same list of one type, the one by subscriptions and the other by entries.
  have found := congrArg (List.find? (·.entry.handler == handler)) (simulates.filter_type type)
  rw [List.find?_filter, List.find?_map] at found
  refine Eq.trans (congrArg (List.find? · _) (funext fun subscription => ?_)) found
  simp [Bool.decide_and]

/-- A snapshot lists the same subscribers in the same order. -/
theorem snapshot (simulates : hub.Simulates roster) (type : EventType) :
    hub.registry.snapshot hub.alive type = roster.snapshot type := by
  -- Both refuse when closed, and otherwise list the living subscriptions of the type.
  simp only [Registry.snapshot, Roster.snapshot, simulates.closed_eq, simulates.filter_type,
    List.map_map]
  rfl

/-- The number of listed subscriptions is the number of living ones. -/
theorem size (simulates : hub.Simulates roster) :
    hub.registry.size hub.alive = roster.subscriptions.length := by
  rw [Registry.size, ← Registry.map_entry_subscriptions, List.countP_map,
    List.countP_eq_length_filter, simulates.living.length_eq]
  -- What is counted as alive is what the roster lists.
  refine congrArg List.length (List.filter_congr fun subscription stored => ?_)
  exact isAlive_eq simulates.grounded stored

/-- The types whose lists have something in them, as they are told before sorting. -/
theorem filterMap_types (alive : Handler → Bool) (lists : List (EventType × List Entry)) :
    (lists.filterMap fun (type, entries) =>
        if entries.any (Entry.isAlive alive) then some type else none) =
      (lists.filter fun (_, entries) => entries.any (Entry.isAlive alive)).map Prod.fst := by
  -- The induction is on the lists, of which each is told or left out.
  induction lists with
  | nil => rfl
  | cons head rest ih =>
    obtain ⟨type, entries⟩ := head
    cases living : entries.any (Entry.isAlive alive) with
    | false => simp only [List.filterMap_cons, List.filter_cons, living, ih, Bool.false_eq_true,
        if_false]
    | true => simp only [List.filterMap_cons, List.filter_cons, living, ih, if_true, List.map_cons]

/-- A type has a list with something alive in it exactly when a listed subscription is to it. -/
theorem mem_types (simulates : hub.Simulates roster) {type : EventType} :
    type ∈ hub.registry.lists.filterMap (fun (type, entries) =>
        if entries.any (Entry.isAlive hub.alive) then some type else none) ↔
      type ∈ roster.subscriptions.map Subscription.type := by
  simp only [List.mem_filterMap, List.mem_map, Option.ite_none_right_eq_some, Option.some.injEq,
    List.any_eq_true, simulates.living.mem_iff, List.mem_filter, Prod.exists]
  -- A living entry of a list is a listed subscription to its type, and the other way round.
  constructor
  · rintro ⟨_, entries, listed, ⟨entry, stored, living⟩, rfl⟩
    have held : ⟨_, entry⟩ ∈ hub.registry.subscriptions :=
      mem_subscriptionsOf.mpr ⟨entries, listed, stored⟩
    exact ⟨⟨_, entry⟩, ⟨held, (isAlive_eq simulates.grounded held).symm.trans living⟩, rfl⟩
  · rintro ⟨subscription, ⟨held, living⟩, rfl⟩
    obtain ⟨entries, listed, stored⟩ := mem_subscriptionsOf.mp held
    exact ⟨_, entries, listed,
      ⟨_, stored, (isAlive_eq simulates.grounded held).trans living⟩, rfl⟩

/-- The types that are told are those of the listed subscriptions. -/
theorem types (simulates : hub.Simulates roster) :
    hub.registry.types hub.alive = roster.types := by
  -- Both sort their types in the same way, so it is enough that they sort the same types.
  have sorted : roster.types = EventType.sort (roster.subscriptions.map Subscription.type).dedup :=
    rfl
  rw [sorted]
  refine EventType.sort_eq_of_perm ?_
  refine (List.perm_ext_iff_of_nodup ?_ (List.nodup_dedup _)).mpr fun type => ?_
  · -- Every type has one list, so none is told twice.
    rw [filterMap_types]
    exact simulates.wellFormed.types_nodup.sublist (List.filter_sublist.map Prod.fst)
  · rw [simulates.mem_types, List.mem_dedup]

/-- The types are told in strictly ascending order. -/
theorem types_ascending (simulates : hub.Simulates roster) :
    (hub.registry.types hub.alive).Pairwise fun a b => a.name < b.name := by
  -- The roster has no type twice, and sorting makes that a strict order.
  rw [simulates.types]
  exact EventType.sort_ascending (List.nodup_dedup _)

/-- What is stored is listed or a remnant. -/
theorem stored_perm (simulates : hub.Simulates roster) :
    hub.registry.subscriptions.Perm (roster.subscriptions ++ hub.remnants) := by
  -- The roster lists what is alive, and the remnants are what is not.
  refine (List.filter_append_perm (fun subscription => hub.alive subscription.entry.handler)
    hub.registry.subscriptions).symm.trans ?_
  exact simulates.living.symm.append_right _

/-- What clients can ask depends on what they hold, which the roster knows as well. -/
theorem allows_eq (simulates : hub.Simulates roster) (request : Request) :
    roster.allows request = Hub.allows hub.outside hub.born request := by
  -- What is asked for depends on holding and on having come into being, and both agree there.
  cases request <;> simp only [Roster.allows, Hub.allows, simulates.outside_eq, simulates.born_eq]

end Simulates

end Hub

end EventBus
