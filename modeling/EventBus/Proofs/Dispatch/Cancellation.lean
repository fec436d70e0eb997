import EventBus.Proofs.Dispatch.Calls

/-!
What a cancellation does: nobody is submitted after it, and those who are passed over count as
skipped as long as the collector hears of it.
-/

namespace EventBus

/-- An outcome is sent after the collector has looked into the channel for the last time. -/
def SentUnheard (moves : List Move) (id : Nat) : Prop :=
  SentWhen (fun before => .timeOut ∈ before) moves id

namespace Flight

/-- How a result counts the subscribers of a snapshot: each has one fate, and it sums them up. -/
structure Counts (origin : Flight) (result : DispatchResult)
    (fates : List (Subscriber × Outcome)) : Prop where
  everybody : (fates.map Prod.fst).Perm origin.queued
  invoked : result.invoked = (invokedOf fates).length
  skipped : result.skipped = (skippedOf fates).length
  failures : result.failures.Perm ((fates.map Prod.snd).filterMap Outcome.failure?)

/-- A fan-out that has ended stays so. -/
theorem fanOutEnded_advance {flight next : Flight} {move : Move} {more : List Notice}
    (advance : flight.Advance move next more) (ended : flight.fanOutEnded = true) :
    next.fanOutEnded = true := by
  obtain ⟨unended, sent⟩ := unended_of_fanOutEnded ended
  obtain ⟨queued, submitted, running⟩ : flight.queued = [] ∧ flight.submitted = [] ∧
      flight.running = [] := by simpa [Flight.unended] using unended
  -- Whatever the fan-out does needs somebody who is not done.
  cases advance with
  | launch still _ => simp [launched_of_fanOutEnded ended] at still
  | skip _ _ waiting _ | submit _ _ waiting _ => simp [queued] at waiting
  | start picked => simp [pick?, submitted] at picked
  | finish picked => simp [pick?, running] at picked
  | send found _ | sendLate found _ => simp [sent] at found
  | abandon => rfl
  | _ => exact ended

/-- A handler that runs can end in any way, cancelled or not. -/
theorem finish_possible {flight : Flight} {subscriber : Subscriber}
    (running : subscriber ∈ flight.running) (cause : Option Cause) :
    (flight.step? (.finish subscriber.id cause)).isSome = true := by
  -- The move looks at who is running, and at nothing else.
  simp only [step?, pick?, Option.isSome_map, List.find?_isSome]
  exact ⟨subscriber, running, by simp⟩

section Runs

variable {origin flight : Flight} {moves : List Move} {notices : List Notice}

/-- A collector that has left without a deadline has left after the fan-out. -/
theorem ended_of_departed (fresh : origin.Fresh)
    (ran : origin.replay? moves = some (flight, notices)) (up : .abandon ∉ moves)
    (departed : flight.collector = .departed) :
    .timeOut ∈ moves ∨ flight.fanOutEnded = true := by
  -- The two kinds in which a collector leaves are told apart by the deadline.
  refine replay?_induction (motive := fun moves _ flight => .abandon ∉ moves →
    flight.collector = .departed → .timeOut ∈ moves ∨ flight.fanOutEnded = true)
    ?_ ?_ ran up departed
  · intro _ departed
    rcases fresh.opening with ⟨_, collecting, _⟩ | ⟨launched, _, _, nobody⟩
    · simp [collecting] at departed
    · simp [fanOutEnded, launched, nobody, fresh.submitted, fresh.running, fresh.ended]
  · intro moves _ flight move next _ earlier before advance up departed
    rw [List.mem_append, List.mem_singleton, not_or] at up
    by_cases gone : flight.collector = .departed
    · exact (before up.1 gone).imp (List.mem_append_left _) (fanOutEnded_advance advance)
    -- It leaves with this move, of which there are two kinds.
    cases advance with
    | departComplete _ _ ended => exact Or.inr ended
    | departTimedOut departing =>
      exact Or.inl (List.mem_append_left _ ((departing_iff fresh earlier up.1).mp departing).1)
    | expire | timeOut => simp at departed
    | abandon => exact absurd rfl up.2
    | _ => exact absurd departed gone

/-- What is not heard was sent before the collector had left, or after that. -/
theorem sentUnheard_iff (fresh : origin.Fresh)
    (ran : origin.replay? moves = some (flight, notices)) (up : .abandon ∉ moves) (id : Nat) :
    SentUnheard moves id ↔ SentBetween moves id ∨ SentLate moves id := by
  constructor
  · rintro ⟨before, after, split, timedOut⟩
    by_cases left : .depart ∈ before
    · exact Or.inr ⟨before, after, split, left⟩
    · exact Or.inl ⟨before, after, split, timedOut, left⟩
  · rintro (⟨before, after, split, timedOut, _⟩ | ⟨before, after, rfl, left⟩)
    · exact ⟨before, after, split, timedOut⟩
    · refine ⟨before, after, rfl, ?_⟩
      obtain ⟨between, _, _, reached, went, _⟩ := replay?_append_iff.mp ran
      obtain ⟨_, _, _, sent, _⟩ := replay?_cons_iff.mp went
      refine (ended_of_departed fresh reached (fun there => up (List.mem_append_left _ there))
        (departed_of_depart reached left)).resolve_right fun ended => ?_
      -- A fan-out that has ended has nothing to send.
      simp [step?, (unended_of_fanOutEnded ended).2] at sent

section Counted

variable (fresh : origin.Fresh) (ran : origin.replay? moves = some (flight, notices))
  (up : .abandon ∉ moves)

include fresh ran up

/-- The tally of a collector that has left counts everybody by its fate. -/
theorem counts (departed : flight.collector = .departed) :
    origin.Counts flight.tally (origin.ledger {} moves).fates where
  -- Every clause reads off the tally what was counted.
  everybody := fates_perm fresh ran up departed
  invoked := by
    rw [(collected fresh ran up).sorted departed, DispatchResult.sum_eq, invokedOf,
      List.length_map, ← List.countP_eq_length_filter, DispatchResult.sorted, List.countP_map]
    rfl
  skipped := by
    rw [(collected fresh ran up).sorted departed, DispatchResult.sum_eq, skippedOf,
      List.length_map, ← List.countP_eq_length_filter]
    change ((origin.ledger {} moves).fates.map Prod.snd).count .skipped = _
    rw [List.count, List.countP_map]
    exact List.countP_congr fun fate _ => by simp
  failures := failures_perm fresh ran up departed

/-- Nobody who was called is passed over. -/
theorem not_skipped_of_called {subscriber : Subscriber} (called : subscriber ∈ calls notices) :
    (subscriber, .skipped) ∉ (origin.ledger {} moves).outcomes flight := by
  intro skipped
  have distinct := (called_perm fresh ran up).nodup_iff.mpr fresh.nodup
  -- Everybody is in one place, and these are two.
  exact (List.nodup_append.mp distinct).2.2 subscriber (List.mem_append_right _ called) subscriber
    (mem_skippedOf.mpr skipped) rfl

/-- Whoever was called runs, or its handler has ended. -/
theorem finished_of_called {subscriber : Subscriber} (called : subscriber ∈ calls notices) :
    subscriber ∈ flight.running ∨ ∃ cause, .finish subscriber.id cause ∈ moves := by
  -- Called is who runs or has ended with an outcome, and a skip is none that a call can have.
  refine (List.mem_append.mp ((calls_perm fresh ran up).mem_iff.mp called)).imp_right ?_
  intro invoked
  obtain ⟨outcome, there, ended⟩ := mem_invokedOf.mp invoked
  rcases outcome_reason fresh ran up there with ⟨skipped, _⟩ | ⟨cause, finished, _⟩
  · exact absurd skipped ended
  · exact ⟨cause, finished⟩

/-- What the collector counts as a skip has come through the channel. -/
theorem mem_taken_of_skipped {subscriber : Subscriber}
    (skipped : (subscriber, .skipped) ∈ (origin.ledger {} moves).fates) :
    (subscriber, .skipped) ∈ (origin.ledger {} moves).taken := by
  refine (List.mem_append.mp skipped).resolve_right fun missing => ?_
  -- Whoever is missing is counted as invoked.
  obtain ⟨_, _, late⟩ := (collected fresh ran up).overdue subscriber _ missing
  cases late

/-- Whoever was called counts as invoked. -/
theorem invoked_of_called (departed : flight.collector = .departed) {subscriber : Subscriber}
    (called : subscriber ∈ calls notices) :
    subscriber ∈ invokedOf (origin.ledger {} moves).fates := by
  -- Everybody has a fate, and that of a handler that was called is not a skip.
  obtain ⟨outcome, there⟩ :=
    exists_fate fresh ran up departed ((calls_subperm fresh ran).subset called)
  refine mem_invokedOf.mpr ⟨outcome, there, ?_⟩
  rintro rfl
  refine not_skipped_of_called fresh ran up called ?_
  simp [Ledger.outcomes, mem_taken_of_skipped fresh ran up there]

/-- When the fan-out has ended, whoever was not called was passed over. -/
theorem skipped_of_uncalled (ended : flight.fanOutEnded = true) {subscriber : Subscriber}
    (queued : subscriber ∈ origin.queued) (uncalled : subscriber ∉ calls notices) :
    (subscriber, .skipped) ∈ (origin.ledger {} moves).outcomes flight := by
  -- When the fan-out has ended there is nothing else that could have become of anybody.
  have everybody := (called_perm_of_ended fresh ran up ended).mem_iff.mpr queued
  exact mem_skippedOf.mp ((List.mem_append.mp everybody).resolve_left uncalled)

/-- What was not heard is not with the collector. -/
theorem sentUnheard_iff_count (departed : flight.collector = .departed) {subscriber : Subscriber}
    (queued : subscriber ∈ origin.queued) :
    SentUnheard moves subscriber.id ↔
      0 < ((origin.ledger {} moves).lost.map (·.1.id)).count subscriber.id ∨
        0 < ((origin.ledger {} moves).late.map (·.1.id)).count subscriber.id := by
  -- Unheard is what was lost with the channel or came after it.
  rw [sentUnheard_iff fresh ran up, sentBetween_iff fresh ran up departed,
    sentLate_iff (fresh.collecting queued) ran up]

/--
Once the fan-out has ended, those who count as skipped are those who were not called and of whose
being passed over the collector has heard.
-/
theorem mem_skippedOf_fates (departed : flight.collector = .departed)
    (ended : flight.fanOutEnded = true) {subscriber : Subscriber}
    (queued : subscriber ∈ origin.queued) :
    subscriber ∈ skippedOf (origin.ledger {} moves).fates ↔
      subscriber ∉ calls notices ∧ ¬ SentUnheard moves subscriber.id := by
  -- An outcome is in one place only, so what the collector has heard was neither lost nor late.
  have alone := places_count_le_one fresh ran up subscriber.id
  rw [mem_skippedOf, sentUnheard_iff_count fresh ran up departed queued]
  constructor
  · intro skipped
    have taken := mem_taken_of_skipped fresh ran up skipped
    have here := count_id_pos taken rfl
    refine ⟨fun called => not_skipped_of_called fresh ran up called ?_, by omega⟩
    simp [Ledger.outcomes, taken]
  · rintro ⟨uncalled, heard⟩
    have there := skipped_of_uncalled fresh ran up ended queued uncalled
    -- Nothing is on its way any more, so what is neither lost nor late was taken.
    simp only [Ledger.outcomes, (unended_of_fanOutEnded ended).2,
      (collected fresh ran up).closed departed, List.mem_append, List.not_mem_nil, false_or]
      at there
    rcases there with (taken | lost) | late
    · exact List.mem_append_left _ taken
    · exact absurd (Or.inl (count_id_pos lost rfl)) heard
    · exact absurd (Or.inr (count_id_pos late rfl)) heard

/-- Everybody counts as invoked or as skipped. -/
theorem invokedOf_skippedOf_perm (departed : flight.collector = .departed) :
    (invokedOf (origin.ledger {} moves).fates ++ skippedOf (origin.ledger {} moves).fates).Perm
      origin.queued :=
  (map_fst_perm_invokedOf _).symm.trans (fates_perm fresh ran up departed)

/-- Nobody counts as both. -/
theorem mem_invokedOf_iff_not (departed : flight.collector = .departed) {subscriber : Subscriber}
    (queued : subscriber ∈ origin.queued) :
    subscriber ∈ invokedOf (origin.ledger {} moves).fates ↔
      subscriber ∉ skippedOf (origin.ledger {} moves).fates := by
  -- The two lists have everybody of the snapshot between them, once each.
  have counted := invokedOf_skippedOf_perm fresh ran up departed
  have apart := (List.nodup_append.mp (counted.nodup_iff.mpr fresh.nodup)).2.2
  refine ⟨fun invoked skipped => apart subscriber invoked subscriber skipped rfl, fun heard => ?_⟩
  exact (List.mem_append.mp (counted.mem_iff.mpr queued)).resolve_right heard

/--
Once the fan-out has ended, those who count as invoked are those who were called and those who were
passed over unheard.
-/
theorem mem_invokedOf_fates (departed : flight.collector = .departed)
    (ended : flight.fanOutEnded = true) {subscriber : Subscriber}
    (queued : subscriber ∈ origin.queued) :
    subscriber ∈ invokedOf (origin.ledger {} moves).fates ↔
      subscriber ∈ calls notices ∨ SentUnheard moves subscriber.id := by
  -- Who is not counted as skipped counts as invoked.
  rw [mem_invokedOf_iff_not fresh ran up departed queued,
    mem_skippedOf_fates fresh ran up departed ended queued]
  tauto

/--
Once the fan-out has ended, as many count as invoked as were called exactly if the collector has
heard of everybody who was passed over.
-/
theorem length_invokedOf_eq_iff (departed : flight.collector = .departed)
    (ended : flight.fanOutEnded = true) :
    (invokedOf (origin.ledger {} moves).fates).length = (calls notices).length ↔
      ∀ subscriber ∈ origin.queued, SentUnheard moves subscriber.id →
        subscriber ∈ calls notices := by
  have counted := invokedOf_skippedOf_perm fresh ran up departed
  have once := (List.nodup_append.mp (counted.nodup_iff.mpr fresh.nodup)).1
  -- Whoever was called is counted, so the question is whether anybody else is.
  have some_called : (calls notices).Subperm (invokedOf (origin.ledger {} moves).fates) := by
    obtain ⟨part, same, sublist⟩ := calls_subperm fresh ran
    exact List.subperm_of_subset (same.nodup_iff.mp (fresh.nodup.sublist sublist))
      fun _ called => invoked_of_called fresh ran up departed called
  constructor
  · intro equal subscriber queued unheard
    have all_called := some_called.perm_of_length_le (Nat.le_of_eq equal)
    exact all_called.mem_iff.mpr
      ((mem_invokedOf_fates fresh ran up departed ended queued).mpr (Or.inr unheard))
  · intro heard
    refine Nat.le_antisymm (List.subperm_of_subset once fun subscriber invoked => ?_).length_le
      some_called.length_le
    have queued := counted.mem_iff.mp (List.mem_append_left _ invoked)
    exact ((mem_invokedOf_fates fresh ran up departed ended queued).mp invoked).elim id
      (heard subscriber queued)

/-- Whose outcome was not heard is said to be too late. -/
theorem timedOut_of_unheard (departed : flight.collector = .departed) {subscriber : Subscriber}
    (queued : subscriber ∈ origin.queued) (unheard : SentUnheard moves subscriber.id) :
    ∃ after, origin.timeout = some after ∧
      subscriber.failure (.timedOut after) ∈ flight.tally.failures := by
  -- An outcome is in one place, and one that was not heard is not with the collector.
  have alone := places_count_le_one fresh ran up subscriber.id
  have gone := (sentUnheard_iff_count fresh ran up departed queued).mp unheard
  obtain ⟨outcome, there⟩ := exists_fate fresh ran up departed queued
  rcases List.mem_append.mp there with taken | missing
  · -- What was heard was taken, and nothing is in two places.
    have here := count_id_pos taken rfl
    omega
  · obtain ⟨after, timed, rfl⟩ := (collected fresh ran up).overdue _ outcome missing
    exact ⟨after, timed,
      (failures_perm fresh ran up departed).mem_iff.mpr (mem_failures.mpr ⟨_, there⟩)⟩

end Counted

/-- In a cancelled flight, only those who were submitted already are called. -/
theorem calls_advance_cancelled {flight next : Flight} {move : Move} {more : List Notice}
    (advance : flight.Advance move next more) (cancelled : flight.cancelled = true) :
    next.cancelled = true ∧ (calls more ++ next.submitted).Subperm flight.submitted ∧
      (move ≠ .abandon → (calls more ++ next.submitted).Perm flight.submitted) := by
  -- It is enough to say where the submitted are, but for the flight that is abandoned.
  suffices moved : next.cancelled = true ∧
      (move ≠ .abandon → (calls more ++ next.submitted).Perm flight.submitted) by
    refine ⟨moved.1, ?_, moved.2⟩
    by_cases up : move = .abandon
    · subst up
      cases advance
      exact List.nil_subperm
    · exact (moved.2 up).subperm
  cases advance with
  | submit _ _ _ wanted => simp [cancelled] at wanted
  | start picked =>
    obtain ⟨_, _, moved⟩ := perm_of_pick? picked
    exact ⟨cancelled, fun _ => moved.symm⟩
  | sendLate found departed => exact ⟨cancelled, fun _ => by simp⟩
  | cancel => exact ⟨rfl, fun _ => List.Perm.refl _⟩
  | abandon => exact ⟨cancelled, fun up => absurd rfl up⟩
  | _ => exact ⟨cancelled, fun _ => List.Perm.refl _⟩

/-- In a run of a cancelled flight, only those who were submitted already are called. -/
theorem calls_of_cancelled (cancelled : origin.cancelled = true)
    (ran : origin.replay? moves = some (flight, notices)) :
    (calls notices ++ flight.submitted).Subperm origin.submitted ∧
      (.abandon ∉ moves → (calls notices ++ flight.submitted).Perm origin.submitted) := by
  refine (replay?_induction (motive := fun moves notices flight => flight.cancelled = true ∧
    (calls notices ++ flight.submitted).Subperm origin.submitted ∧
      (.abandon ∉ moves → (calls notices ++ flight.submitted).Perm origin.submitted))
    -- Once cancelled, a flight stays so, and every move of it takes from those who were submitted.
    ?_ ?_ ran).2
  · exact ⟨cancelled, List.Subperm.refl _, fun _ => List.Perm.refl _⟩
  · intro moves notices flight move next more _ before advance
    obtain ⟨cancelled, some_submitted, submitted⟩ := before
    obtain ⟨still, some_moved, moved⟩ := calls_advance_cancelled advance cancelled
    rw [calls_append, List.append_assoc]
    refine ⟨still, ((List.subperm_append_left _).mpr some_moved).trans some_submitted,
      fun up => ?_⟩
    rw [List.mem_append, List.mem_singleton, not_or] at up
    exact ((moved (Ne.symm up.2)).append_left _).trans (submitted up.1)

/--
After a cancellation, only those who were submitted before it are called, and those who were still
waiting to be submitted never are.
-/
theorem calls_after_cancel (fresh : origin.Fresh) {before after : List Move}
    (ran : origin.replay? (before ++ .cancel :: after) = some (flight, notices)) :
    ∃ between earlier later, origin.replay? before = some (between, earlier) ∧
      notices = earlier ++ later ∧ (calls later).Subperm between.submitted ∧
      (∀ subscriber ∈ between.queued, subscriber ∉ calls notices) ∧
      (.abandon ∉ after → flight.fanOutEnded = true →
        (calls later).Perm between.submitted) := by
  -- The run is cut at the cancellation, and what follows is a run of a cancelled flight.
  obtain ⟨between, earlier, _, reached, went, rfl⟩ := replay?_append_iff.mp ran
  obtain ⟨next, first, later, cancelled, rest, rfl⟩ := replay?_cons_iff.mp went
  cases advance_of_step? cancelled
  obtain ⟨some_submitted, submitted⟩ := calls_of_cancelled rfl rest
  have some_called : (calls later).Subperm between.submitted :=
    (List.sublist_append_left _ _).subperm.trans some_submitted
  refine ⟨between, earlier, later, reached, rfl, some_called, fun subscriber queued => ?_,
    fun up ended => ?_⟩
  · -- Whoever is queued while the flight is served is neither submitted nor called.
    by_cases up : .abandon ∈ before
    · simp [(dead_of_abandon reached up).queued] at queued
    have distinct := (called_perm fresh reached up).nodup_iff.mpr fresh.nodup
    rw [List.append_assoc, List.append_assoc, List.nodup_append] at distinct
    intro called
    refine distinct.2.2 subscriber queued subscriber ?_ rfl
    rw [List.nil_append, calls_append] at called
    rcases List.mem_append.mp called with early | late
    · simp [early]
    · simp [some_called.subset late]
  · have nobody := (unended_of_fanOutEnded ended).1
    simp only [unended, List.append_eq_nil_iff] at nobody
    simpa [nobody.1.2] using submitted up

end Runs

end Flight

end EventBus
