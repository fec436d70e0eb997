import EventBus.Dispatch.Handling
import Mathlib.Data.List.Nodup

/-! What a result says of the outcomes that were counted into it, and of their order. -/

namespace EventBus

/-- The failure that an outcome carries. -/
def Outcome.failure? : Outcome → Option Failure
  | .done failure => failure
  | .skipped => none

namespace DispatchResult

/-- The result of some outcomes, counted in order. -/
def sum (type : EventType) (outcomes : List Outcome) : DispatchResult :=
  outcomes.foldl record (empty type)

/-- Counting one outcome adds one invocation or one skip, and its failure. -/
theorem record_eq (result : DispatchResult) (outcome : Outcome) :
    result.record outcome =
      { result with
        invoked := result.invoked + if outcome = .skipped then 0 else 1
        skipped := result.skipped + if outcome = .skipped then 1 else 0
        failures := result.failures ++ outcome.failure?.toList } := by
  -- An outcome is a success, a failure or a skip.
  match outcome with
  | .done none => simp [record, Outcome.failure?]
  | .done (some failure) => simp [record, Outcome.failure?]
  | .skipped => simp [record, Outcome.failure?]

/-- Counting outcomes into a result adds their numbers and their failures. -/
theorem foldl_record (result : DispatchResult) (outcomes : List Outcome) :
    outcomes.foldl record result =
      { result with
        invoked := result.invoked + outcomes.countP (· ≠ .skipped)
        skipped := result.skipped + outcomes.count .skipped
        failures := result.failures ++ outcomes.filterMap Outcome.failure? } := by
  -- The result so far stays arbitrary, since every step counts into another one.
  induction outcomes generalizing result with
  | nil => simp
  | cons outcome rest ih =>
    rw [List.foldl_cons, ih, record_eq]
    match outcome with
    | .done none =>
      simp [Outcome.failure?, List.filterMap_cons, Nat.add_assoc, Nat.add_comm 1]
    | .done (some failure) => simp [Outcome.failure?, Nat.add_assoc, Nat.add_comm 1]
    | .skipped =>
      simp [Outcome.failure?, List.filterMap_cons, Nat.add_assoc, Nat.add_comm 1]

/-- The sum of outcomes by its parts. -/
theorem sum_eq (type : EventType) (outcomes : List Outcome) :
    sum type outcomes =
      ⟨type, outcomes.countP (· ≠ .skipped), outcomes.count .skipped,
        outcomes.filterMap Outcome.failure?⟩ := by
  -- The sum starts from nothing.
  simp [sum, foldl_record, empty]

/-- Calling everybody skips nobody and counts every failure in the order of the calls. -/
theorem sum_outcomes {α : Type} (type : EventType) (calls : List α) (subscriber : α → Subscriber)
    (cause? : α → Option Cause) :
    sum type (calls.map fun call => (subscriber call).outcome (cause? call)) =
      ⟨type, calls.length, 0, calls.filterMap fun call =>
        (cause? call).map (subscriber call).failure⟩ := by
  -- Being called is never being skipped.
  have called : (calls.map fun call =>
      (subscriber call).outcome (cause? call)).countP (· ≠ .skipped) = calls.length := by
    rw [List.countP_map]
    exact List.countP_eq_length.mpr fun _ _ => by simp [Subscriber.outcome]
  have skipped : (calls.map fun call =>
      (subscriber call).outcome (cause? call)).count .skipped = 0 := by
    refine List.count_eq_zero.mpr fun there => ?_
    obtain ⟨_, _, equal⟩ := List.mem_map.mp there
    cases equal
  rw [sum_eq, called, skipped, List.filterMap_map]
  rfl

/-- Sorting moves failures and does no more. -/
theorem sorted_failures_perm (result : DispatchResult) :
    result.sorted.failures.Perm result.failures :=
  List.mergeSort_perm _ _

/-- Failures of distinct subscriptions are sorted strictly. -/
theorem sorted_failures_pairwise {result : DispatchResult}
    (distinct : (result.failures.map Failure.subscription).Nodup) :
    result.sorted.failures.Pairwise (·.subscription < ·.subscription) := by
  have nodup : (result.sorted.failures.map Failure.subscription).Nodup :=
    ((sorted_failures_perm result).map _).nodup_iff.mpr distinct
  -- The sort leaves equal ids next to each other, and there are none.
  have ascending : result.sorted.failures.Pairwise (·.subscription ≤ ·.subscription) := by
    refine (List.pairwise_mergeSort ?_ ?_ result.failures).imp of_decide_eq_true
    · intro a b c below above
      simp only [decide_eq_true_eq] at below above ⊢
      exact Nat.le_trans below above
    · intro a b
      simpa using Nat.le_total a.subscription b.subscription
  refine (ascending.and (List.pairwise_map.mp nodup)).imp ?_
  rintro a b ⟨below, differs⟩
  exact Nat.lt_of_le_of_ne below differs

/-- The invocations and the skips are all outcomes. -/
theorem sum_total (type : EventType) (outcomes : List Outcome) :
    (sum type outcomes).invoked + (sum type outcomes).skipped = outcomes.length := by
  induction outcomes with
  | nil => rfl
  | cons outcome rest ih =>
    simp only [sum_eq, ne_eq, List.countP_cons, List.count_cons, List.length_cons] at ih ⊢
    -- An outcome is either an invocation or a skip.
    cases outcome with
    | done failure =>
      simp only [reduceCtorEq, not_false_eq_true, decide_true, if_true, beq_iff_eq, if_false]
      omega
    | skipped =>
      simp only [not_true_eq_false, decide_false, Bool.false_eq_true, if_false, beq_self_eq_true,
        if_true]
      omega

/-- Sorting recovers the order of failures that ascended before their outcomes were mixed. -/
theorem sorted_sum_eq_of_perm {type : EventType} {mixed outcomes : List Outcome}
    (same : mixed.Perm outcomes)
    (ascending : (sum type outcomes).failures.Pairwise (·.subscription < ·.subscription)) :
    (sum type mixed).sorted = sum type outcomes := by
  have failures : (sum type mixed).failures.Perm (sum type outcomes).failures := by
    simpa only [sum_eq] using same.filterMap Outcome.failure?
  have distinct : ((sum type mixed).failures.map Failure.subscription).Nodup :=
    (failures.map _).nodup_iff.mpr (List.pairwise_map.mpr (ascending.imp Nat.ne_of_lt))
  -- Two strictly ascending lists of the same failures are one list.
  have sorted : (sum type mixed).sorted.failures = (sum type outcomes).failures := by
    refine List.Perm.eq_of_pairwise (fun _ _ _ _ below above => ?_)
      (sorted_failures_pairwise distinct) ascending
      ((sorted_failures_perm _).trans failures)
    exact absurd (Nat.lt_trans below above) (Nat.lt_irrefl _)
  -- The numbers do not depend on the order, so the failures are all that has to be sorted.
  calc (sum type mixed).sorted
      = { sum type mixed with failures := (sum type mixed).sorted.failures } := rfl
    _ = { sum type mixed with failures := (sum type outcomes).failures } := by rw [sorted]
    _ = sum type outcomes := by
      simp only [sum_eq]
      rw [same.countP_eq, same.count_eq]

end DispatchResult

/-- An outcome of a subscriber is its own when it carries no failure of another. -/
def Outcome.IsOwn (subscriber : Subscriber) (outcome : Outcome) : Prop :=
  ∀ failure ∈ outcome.failure?, ∃ cause, failure = subscriber.failure cause

/-- Own failures carry the ids of the subscribers whose outcomes they are. -/
theorem failures_subscription_sublist {fates : List (Subscriber × Outcome)}
    (own : ∀ subscriber outcome, (subscriber, outcome) ∈ fates → outcome.IsOwn subscriber) :
    (((fates.map Prod.snd).filterMap Outcome.failure?).map Failure.subscription).Sublist
      (fates.map (·.1.id)) := by
  induction fates with
  | nil => exact List.Sublist.slnil
  | cons fate rest ih =>
    obtain ⟨subscriber, outcome⟩ := fate
    have tail := ih fun other outcome there => own other outcome (List.mem_cons_of_mem _ there)
    -- A fate without a failure only leaves out its id.
    cases carried : outcome.failure? with
    | none =>
      simp only [List.map_cons, List.filterMap_cons, carried]
      exact tail.cons _
    | some failure =>
      obtain ⟨cause, rfl⟩ := own subscriber outcome List.mem_cons_self failure carried
      simp only [List.map_cons, List.filterMap_cons, carried]
      exact tail.cons_cons _

/-- A failure among the outcomes belongs to one of the fates. -/
theorem mem_failures {fates : List (Subscriber × Outcome)} {failure : Failure} :
    failure ∈ (fates.map Prod.snd).filterMap Outcome.failure? ↔
      ∃ subscriber, (subscriber, .done (some failure)) ∈ fates := by
  -- A failure is carried by an outcome that is no skip.
  simp only [List.mem_filterMap, List.mem_map, Prod.exists]
  constructor
  · rintro ⟨outcome, ⟨subscriber, other, there, rfl⟩, carried⟩
    cases other with
    | done failure? =>
      cases carried
      exact ⟨subscriber, there⟩
    | skipped => cases carried
  · rintro ⟨subscriber, there⟩
    exact ⟨_, ⟨subscriber, _, there, rfl⟩, rfl⟩

/-- A failure that is the fate of nobody is not among the failures. -/
theorem count_failures_eq_zero {fates : List (Subscriber × Outcome)} {subscriber : Subscriber}
    {cause : Cause}
    (own : ∀ other outcome, (other, outcome) ∈ fates → outcome.IsOwn other)
    (apart : ∀ other outcome, (other, outcome) ∈ fates → other.id = subscriber.id →
      outcome ≠ .done (some (subscriber.failure cause))) :
    ((fates.map Prod.snd).filterMap Outcome.failure?).count (subscriber.failure cause) = 0 := by
  refine List.count_eq_zero.mpr fun there => ?_
  obtain ⟨other, fate⟩ := mem_failures.mp there
  -- Whoever's fate it is has the id that stands in the failure.
  obtain ⟨_, equal⟩ := own other _ fate _ rfl
  exact apart other _ fate (congrArg Failure.subscription equal).symm rfl

/-- The failure of one fate is once among the failures. -/
theorem count_failures_eq_one {fates : List (Subscriber × Outcome)} {subscriber : Subscriber}
    {cause : Cause}
    (own : ∀ other outcome, (other, outcome) ∈ fates → outcome.IsOwn other)
    (ids : (fates.map (·.1.id)).Nodup)
    (there : (subscriber, .done (some (subscriber.failure cause))) ∈ fates) :
    ((fates.map Prod.snd).filterMap Outcome.failure?).count (subscriber.failure cause) = 1 := by
  -- Two equal failures would have one id.
  have distinct := ids.sublist (failures_subscription_sublist own)
  exact List.count_eq_one_of_mem distinct.of_map (mem_failures.mpr ⟨subscriber, there⟩)

end EventBus
