import EventBus.Proofs.Tracker.History
import Mathlib.Data.List.Nodup

/-!
The calls of a tracker and its history agree: each call appends its event once and sends it once
after that, and the history has both as soon as they are done.
-/

namespace EventBus.Watch

/-- The history has every call exactly as far as the call has come. -/
structure Recorded (watch : Watch) : Prop where
  appended : ∀ number event, (number, event) ∈ Watch.appended watch.history ↔
    ∃ made, 1 ≤ made ∧ watch.calls[number]? = some ⟨event, made⟩
  sent : ∀ number event, (∃ time, ⟨number, event, time⟩ ∈ Watch.sent watch.history) ↔
    watch.calls[number]? = some ⟨event, 2⟩
  appendedOnce : ((Watch.appended watch.history).map Prod.fst).Nodup
  sentOnce : ((Watch.sent watch.history).map Arrival.call).Nodup

namespace Recorded

variable {watch later : Watch}

/-- Nobody has called a tracker that nobody has used. -/
theorem start (maxLen : Nat) (source : Option String) : (Watch.start maxLen source).Recorded where
  -- There is no call, and nothing in the history.
  appended := by simp [Watch.start, Watch.appended]
  sent := by simp [Watch.start, Watch.sent]
  appendedOnce := .nil
  sentOnce := .nil

/-- A call that has sent its event has appended it. -/
theorem appended_of_sent (recorded : watch.Recorded) {arrival : Arrival}
    (gone : arrival ∈ Watch.sent watch.history) :
    (arrival.call, arrival.event) ∈ Watch.appended watch.history :=
  -- It has sent, so it has made both changes, and appending is the first of them.
  (recorded.appended _ _).mpr
    ⟨2, Nat.le_succ 1, (recorded.sent _ _).mp ⟨arrival.time, gone⟩⟩

/-- A call that begins has done nothing. -/
theorem handle (recorded : watch.Recorded) (event : Event) :
    Watch.Recorded { watch with calls := watch.calls ++ [⟨event, 0⟩] } := by
  have same : ∀ number other made, 1 ≤ made →
      ((watch.calls ++ [Call.mk event 0])[number]? = some (Call.mk other made) ↔
        watch.calls[number]? = some (Call.mk other made)) := fun number other made positive => by
    -- The call that begins is the only one with its number, and has made no change.
    rcases Nat.lt_trichotomy number watch.calls.length with before | new | behind
    · rw [List.getElem?_append_left before]
    · subst new
      rw [List.getElem?_concat_length, List.getElem?_eq_none Nat.le.refl]
      simp only [Option.some.injEq, Call.mk.injEq, reduceCtorEq, iff_false, not_and]
      omega
    · have outside : (watch.calls ++ [Call.mk event 0]).length ≤ number := by
        rw [List.length_append]
        exact behind
      rw [List.getElem?_eq_none outside, List.getElem?_eq_none behind.le]
  refine ⟨fun number other => ?_, fun number other => ?_, recorded.appendedOnce, recorded.sentOnce⟩
  · rw [recorded.appended]
    exact exists_congr fun made => and_congr_right fun positive => (same _ _ _ positive).symm
  · rw [recorded.sent]
    exact (same _ _ _ (Nat.le_succ 1)).symm

variable {number : Nat} {event : Event}

/-- A call that has begun appends its event for the first time. -/
theorem append (recorded : watch.Recorded) (tracker : Tracker)
    (called : watch.calls[number]? = some ⟨event, 0⟩) :
    Watch.Recorded { watch with
      tracker
      calls := watch.calls.set number ⟨event, 1⟩
      history := .appended number event :: watch.history } := by
  have inside : number < watch.calls.length := (List.getElem?_eq_some_iff.mp called).1
  -- A call that has changed nothing is nowhere in the history.
  have fresh : ∀ other, (number, other) ∉ Watch.appended watch.history := fun other there => by
    obtain ⟨made, positive, found⟩ := (recorded.appended _ _).mp there
    rw [called] at found
    cases found
    omega
  -- Of this call the event is listed now, and of the others nothing changes.
  refine ⟨fun other content => ?_, fun other content => ?_, ?_, recorded.sentOnce⟩
  · rw [Watch.appended, List.mem_append, List.mem_singleton]
    by_cases same : other = number
    · subst same
      rw [or_iff_right (fresh content), List.getElem?_set_self inside]
      simp [eq_comm]
    · rw [recorded.appended, List.getElem?_set_ne (Ne.symm same)]
      simp [same]
  · show (∃ time, _ ∈ Watch.sent watch.history) ↔ _
    rw [recorded.sent]
    by_cases same : other = number
    · subst same
      rw [List.getElem?_set_self inside, called]
      simp
    · rw [List.getElem?_set_ne (Ne.symm same)]
  · rw [Watch.appended, List.map_append, List.map_singleton, ← List.concat_eq_append]
    refine recorded.appendedOnce.concat fun there => ?_
    obtain ⟨⟨_, content⟩, listed, rfl⟩ := List.mem_map.mp there
    exact fresh content listed

/-- A call that has appended its event sends it for the first time. -/
theorem send (recorded : watch.Recorded) (tracker : Tracker)
    (called : watch.calls[number]? = some ⟨event, 1⟩) (now : Nat) :
    Watch.Recorded { watch with
      tracker
      calls := watch.calls.set number ⟨event, 2⟩
      history := .sent ⟨number, event, now⟩ :: watch.history } := by
  have inside : number < watch.calls.length := (List.getElem?_eq_some_iff.mp called).1
  -- A call that has only appended its event has sent nothing.
  have fresh : ∀ other time, ⟨number, other, time⟩ ∉ Watch.sent watch.history :=
    fun other time there => by
      have found := (recorded.sent _ _).mp ⟨time, there⟩
      rw [called] at found
      cases found
  -- Sending leaves the list of those appended alone, so only what was sent is looked at.
  refine ⟨fun other content => ?_, fun other content => ?_, recorded.appendedOnce, ?_⟩
  · show _ ∈ Watch.appended watch.history ↔ _
    rw [recorded.appended]
    by_cases same : other = number
    · subst same
      rw [List.getElem?_set_self inside, called]
      simp
    · rw [List.getElem?_set_ne (Ne.symm same)]
  · simp only [Watch.sent, List.mem_append, List.mem_singleton, Arrival.mk.injEq]
    by_cases same : other = number
    · subst same
      rw [List.getElem?_set_self inside]
      simp [fresh, eq_comm]
    · rw [List.getElem?_set_ne (Ne.symm same), ← recorded.sent]
      simp [same]
  · rw [Watch.sent, List.map_append, List.map_singleton, ← List.concat_eq_append]
    refine recorded.sentOnce.concat fun there => ?_
    obtain ⟨⟨_, content, time⟩, listed, rfl⟩ := List.mem_map.mp there
    exact fresh content time listed

/-- Every move keeps the calls of a tracker with its history. -/
theorem step (recorded : watch.Recorded) {move : Move}
    (happened : watch.step? move = some later) : later.Recorded := by
  cases step_of_step? happened with
  | handle event => exact recorded.handle event
  | append called => exact recorded.append _ called
  | send called => exact recorded.send _ called _
  -- What the clients do changes nothing about the calls.
  | await | answer | elapse | look | abandon | clear | pass =>
    exact ⟨recorded.appended, recorded.sent, recorded.appendedOnce, recorded.sentOnce⟩

/-- However a tracker is used, its calls go with its history. -/
theorem leads (recorded : watch.Recorded) (used : watch.Leads later) : later.Recorded :=
  used.keeps (fun _ _ _ before happened => before.step happened) recorded

end Recorded

end EventBus.Watch
