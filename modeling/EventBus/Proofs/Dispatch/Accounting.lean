import EventBus.Proofs.Dispatch.Collector

/-!
The result of a flight accounts for every subscriber of its snapshot exactly once, whatever the
order in which the parties of the flight make their moves.
-/

namespace EventBus

namespace Flight

/-- Once the collector has left, it stays away and its tally stays as it is. -/
theorem departed_advance {flight next : Flight} {move : Move} {notices : List Notice}
    (advance : flight.Advance move next notices) (departed : flight.collector = .departed) :
    next.collector = .departed ∧ next.tally = flight.tally := by
  -- All moves of a collector are moves of one that is still there.
  cases advance with
  | receive collecting _ => simp [departed] at collecting
  | expire _ collecting _ => simp [departed] at collecting
  | drain draining _ => simp [departed] at draining
  | timeOut draining _ _ => simp [departed] at draining
  | departComplete collecting _ _ => simp [departed] at collecting
  | departTimedOut departing => simp [departed] at departing
  | abandon => exact ⟨rfl, rfl⟩
  | _ => exact ⟨departed, rfl⟩

/-- A result that has been told of is the tally of a collector that has left. -/
structure Told (notices : List Notice) (flight : Flight) : Prop where
  concluded : ∀ result, .concluded result ∈ notices →
    flight.collector = .departed ∧ flight.tally = result
  delivered : ∀ result, flight.verdict = .delivered result →
    flight.collector = .departed ∧ flight.tally = result
  answered : ∀ result, .answered result ∈ notices →
    flight.collector = .departed ∧ flight.tally = result

/-- What is told of an outcome that comes too late is its failure. -/
theorem mem_lateFailure {outcome : Outcome} {notice : Notice}
    (there : notice ∈ lateFailure outcome) :
    ∃ failure, outcome = .done (some failure) ∧ notice = .unobserved failure := by
  -- Only a failure makes anybody speak.
  match outcome with
  | .done none => cases there
  | .done (some failure) => exact ⟨failure, rfl, List.mem_singleton.mp there⟩
  | .skipped => cases there

/-- A result is concluded from the tally of a collector that has left. -/
theorem concluded_advance {flight next : Flight} {move : Move} {notices : List Notice}
    (advance : flight.Advance move next notices) {result : DispatchResult}
    (there : .concluded result ∈ notices) :
    flight.collector = .departed ∧ flight.tally = result := by
  -- Only the conclusion tells of a result; a late outcome tells of a failure.
  cases advance with
  | conclude departed _ _ | concludeUnwatched departed _ _ =>
    obtain rfl : result = flight.tally := by simpa using there
    exact ⟨departed, rfl⟩
  | sendLate found departed =>
    obtain ⟨failure, _, late⟩ := mem_lateFailure there
    cases late
  | _ => simp at there

/-- The result that is handed over is the one that was delivered. -/
theorem answered_advance {flight next : Flight} {move : Move} {notices : List Notice}
    (advance : flight.Advance move next notices) {result : DispatchResult}
    (there : .answered result ∈ notices) : flight.verdict = .delivered result := by
  -- Nobody but the holder of the token is handed a result.
  cases advance with
  | @join other watched delivered =>
    obtain rfl : result = other := by simpa using there
    exact delivered
  | sendLate found departed =>
    obtain ⟨failure, _, late⟩ := mem_lateFailure there
    cases late
  | _ => simp at there

/-- A result that is delivered was delivered before or is concluded now. -/
theorem delivered_advance {flight next : Flight} {move : Move} {notices : List Notice}
    (advance : flight.Advance move next notices) {result : DispatchResult}
    (delivered : next.verdict = .delivered result) :
    flight.verdict = .delivered result ∨
      (flight.collector = .departed ∧ flight.tally = result) := by
  -- A result is delivered once, and nothing puts another in its place.
  cases advance with
  | conclude departed _ _ =>
    obtain rfl : flight.tally = result := by simpa using delivered
    exact Or.inr ⟨departed, rfl⟩
  | concludeUnwatched departed _ _ =>
    cases failures : flight.tally.failures <;> simp [failures, reportingVerdict] at delivered
  | @report failure left reporting =>
    cases left <;> simp [reportingVerdict] at delivered
  | join watched before => simp at delivered
  | drop watched => cases verdict : flight.verdict <;> simp [verdict] at delivered
  | abandon => cases verdict : flight.verdict <;> simp_all [abandoned]
  | _ => exact Or.inl delivered

/-- Every move keeps what has been told of results. -/
theorem Told.advance {flight next : Flight} {move : Move} {notices more : List Notice}
    (told : Told notices flight) (advance : flight.Advance move next more) :
    Told (notices ++ more) next := by
  -- The tally of a collector that has left does not change any more.
  have stays : ∀ result, flight.collector = .departed ∧ flight.tally = result →
      next.collector = .departed ∧ next.tally = result := by
    rintro result ⟨departed, tally⟩
    obtain ⟨still, same⟩ := departed_advance advance departed
    exact ⟨still, same.trans tally⟩
  refine ⟨fun result there => stays result ?_, fun result delivered => stays result ?_,
    fun result there => stays result ?_⟩
  · rcases List.mem_append.mp there with before | now
    · exact told.concluded result before
    · exact concluded_advance advance now
  · rcases delivered_advance advance delivered with before | now
    · exact told.delivered result before
    · exact now
  · rcases List.mem_append.mp there with before | now
    · exact told.answered result before
    · exact told.delivered result (answered_advance advance now)

/-- In every run, the results that have been told of are the tally. -/
theorem told {origin : Flight} (fresh : origin.Fresh) {moves : List Move}
    {notices : List Notice} {flight : Flight}
    (ran : origin.replay? moves = some (flight, notices)) : Told notices flight := by
  -- Each move tells what it does to the verdict; a flight with nobody to ask begins with one.
  refine replay?_induction (motive := fun _ notices flight => Told notices flight) ?_ ?_ ran
  · refine ⟨by simp, fun result delivered => ?_, by simp⟩
    rcases fresh.opening with ⟨_, _, undecided⟩ | ⟨_, departed, verdict, _⟩
    · simp [undecided] at delivered
    · obtain rfl : DispatchResult.empty origin.event.type = result := by
        simpa [verdict] using delivered
      exact ⟨departed, fresh.tally⟩
  · intro moves notices flight move next more _ told advance
    exact told.advance advance

/-- A result that is told of is the sum of what was counted, sorted by subscription. -/
theorem concluded_eq {origin : Flight} (fresh : origin.Fresh) {moves : List Move}
    {notices : List Notice} {flight : Flight}
    (ran : origin.replay? moves = some (flight, notices)) (up : .abandon ∉ moves)
    {result : DispatchResult} (concluded : .concluded result ∈ notices) :
    result =
      (DispatchResult.sum origin.event.type ((origin.ledger {} moves).fates.map Prod.snd)).sorted := by
  -- It is the tally of the collector, which sorts what it has counted as it leaves.
  obtain ⟨departed, rfl⟩ := (told fresh ran).concluded result concluded
  exact (collected fresh ran up).sorted departed

/-- Why a flight counts an outcome for a subscriber. -/
inductive Explains (origin : Flight) (moves : List Move) (subscriber : Subscriber) :
    Outcome → Prop
  | succeeded (ended : .finish subscriber.id none ∈ moves)
    (taken : (subscriber, .done none) ∈ (origin.ledger {} moves).taken) :
    Explains origin moves subscriber (.done none)
  | failed {cause : Cause} (ended : .finish subscriber.id (some cause) ∈ moves)
    (taken : (subscriber, .done (some ⟨subscriber.id, subscriber.handler.name, cause⟩)) ∈
      (origin.ledger {} moves).taken) :
    Explains origin moves subscriber
      (.done (some ⟨subscriber.id, subscriber.handler.name, cause⟩))
  /-- Its outcome was not received, and it was not in the channel after the deadline. -/
  | timedOut {after : Duration} (timed : origin.timeout = some after)
    (absent : ∀ outcome, (subscriber, outcome) ∉ (origin.ledger {} moves).taken) :
    Explains origin moves subscriber
      (.done (some ⟨subscriber.id, subscriber.handler.name, .timedOut after⟩))
  | skipped (cancelled : .cancel ∈ moves)
    (taken : (subscriber, .skipped) ∈ (origin.ledger {} moves).taken) :
    Explains origin moves subscriber .skipped

/-- An outcome that is explained is the subscriber's own. -/
theorem Explains.isOwn {origin : Flight} {moves : List Move} {subscriber : Subscriber}
    {outcome : Outcome} (explained : Explains origin moves subscriber outcome) :
    outcome.IsOwn subscriber := by
  -- The outcomes of the four kinds are all made from the subscriber.
  cases explained with
  | succeeded ended taken => simp [Outcome.IsOwn, Outcome.failure?]
  | failed ended taken => simp [Outcome.IsOwn, Outcome.failure?, Subscriber.failure]
  | timedOut timed absent => simp [Outcome.IsOwn, Outcome.failure?, Subscriber.failure]
  | skipped cancelled taken => simp [Outcome.IsOwn, Outcome.failure?]

/-- A subscriber is said to be too late only if there is a deadline and its outcome was not seen. -/
theorem Explains.unseen {origin : Flight} {moves : List Move} {subscriber : Subscriber}
    {failure : Failure} (explained : Explains origin moves subscriber (.done (some failure)))
    (genuine : ∀ move ∈ moves, move.isGenuine = true) {after : Duration}
    (late : failure.cause = .timedOut after) :
    origin.timeout = some after ∧
      ∀ outcome, (subscriber, outcome) ∉ (origin.ledger {} moves).taken := by
  -- Such a failure is a handler's own or the collector's word, and it can only be the latter.
  cases explained with
  | @failed cause ended taken =>
    -- No handler says of itself that it is late.
    obtain rfl : cause = .timedOut after := late
    exact absurd (genuine _ ended) (by simp [Move.isGenuine])
  | timedOut timed absent =>
    obtain rfl : _ = after := by simpa using late
    exact ⟨timed, absent⟩

/-- A subscriber is skipped only if the flight was cancelled. -/
theorem Explains.cancel_mem {origin : Flight} {moves : List Move} {subscriber : Subscriber}
    (explained : Explains origin moves subscriber .skipped) : .cancel ∈ moves := by
  -- Of the four kinds one is a skip.
  cases explained with
  | skipped cancelled taken => exact cancelled

/-- A result that accounts for every subscriber of a snapshot exactly once. -/
structure Accounts (origin : Flight) (moves : List Move) (result : DispatchResult) : Prop where
  type_eq : result.type = origin.event.type
  /-- Every subscriber has one fate, and the result is the sum of these. -/
  fates : ∃ fates : List (Subscriber × Outcome),
    (fates.map Prod.fst).Perm origin.queued ∧
    (∀ subscriber outcome, (subscriber, outcome) ∈ fates →
      Explains origin moves subscriber outcome) ∧
    result.invoked = (fates.map Prod.snd).countP (· ≠ .skipped) ∧
    result.skipped = (fates.map Prod.snd).count .skipped ∧
    result.failures.Perm ((fates.map Prod.snd).filterMap Outcome.failure?)
  total : result.invoked + result.skipped = origin.queued.length
  ascending : result.failures.Pairwise (·.subscription < ·.subscription)
  own : ∀ failure ∈ result.failures, ∃ subscriber ∈ origin.queued, ∃ cause,
    failure = ⟨subscriber.id, subscriber.handler.name, cause⟩
  /-- Only a subscriber whose outcome the collector never saw is said to be too late. -/
  timedOut : ∀ failure ∈ result.failures, ∀ after, failure.cause = .timedOut after →
    origin.timeout = some after ∧
      ∀ subscriber outcome, (subscriber, outcome) ∈ (origin.ledger {} moves).taken →
        subscriber.id ≠ failure.subscription
  skipped : result.skipped ≠ 0 → .cancel ∈ moves

section Departed

variable {origin flight : Flight} {moves : List Move} {notices : List Notice}

/-- Everybody is counted once the collector has left. -/
theorem fates_perm (fresh : origin.Fresh) (ran : origin.replay? moves = some (flight, notices))
    (up : .abandon ∉ moves) (departed : flight.collector = .departed) :
    ((origin.ledger {} moves).fates.map Prod.fst).Perm origin.queued := by
  -- When the collector leaves, nobody is awaited any more.
  have collected := collected fresh ran up
  have waits := collected.awaited
  rwa [collected.finished (Or.inr departed), List.nil_append] at waits

/-- Everybody has a fate once the collector has left. -/
theorem exists_fate (fresh : origin.Fresh) (ran : origin.replay? moves = some (flight, notices))
    (up : .abandon ∉ moves) (departed : flight.collector = .departed) {subscriber : Subscriber}
    (queued : subscriber ∈ origin.queued) :
    ∃ outcome, (subscriber, outcome) ∈ (origin.ledger {} moves).fates := by
  -- Who was queued is among those who are counted.
  obtain ⟨⟨_, outcome⟩, there, rfl⟩ :=
    List.mem_map.mp ((fates_perm fresh ran up departed).mem_iff.mpr queued)
  exact ⟨outcome, there⟩

/-- Nobody is counted twice where everybody of a snapshot is counted. -/
theorem ids_nodup_of_counted (fresh : origin.Fresh) {fates : List (Subscriber × Outcome)}
    (counted : (fates.map Prod.fst).Perm origin.queued) : (fates.map (·.1.id)).Nodup := by
  -- Counted are those of the snapshot, and no two of those share an id.
  have distinct := (counted.map Subscriber.id).nodup_iff.mpr fresh.ids_nodup
  rwa [List.map_map] at distinct

/-- The failures of the result are those of what was counted. -/
theorem failures_perm (fresh : origin.Fresh)
    (ran : origin.replay? moves = some (flight, notices)) (up : .abandon ∉ moves)
    (departed : flight.collector = .departed) :
    flight.tally.failures.Perm
      (((origin.ledger {} moves).fates.map Prod.snd).filterMap Outcome.failure?) := by
  -- The result is what was counted, up to the order of its failures.
  have sorted := DispatchResult.sorted_failures_perm
    (.sum origin.event.type ((origin.ledger {} moves).fates.map Prod.snd))
  rwa [← (collected fresh ran up).sorted departed, DispatchResult.sum_eq] at sorted

/-- Whoever is missing has not been counted before. -/
theorem not_taken_of_missing (fresh : origin.Fresh)
    (counted : ((origin.ledger {} moves).fates.map Prod.fst).Perm origin.queued)
    {subscriber : Subscriber} {outcome : Outcome}
    (missing : (subscriber, outcome) ∈ (origin.ledger {} moves).missing) (other : Outcome) :
    (subscriber, other) ∉ (origin.ledger {} moves).taken := by
  intro taken
  -- Otherwise it would be counted twice.
  have distinct := counted.nodup_iff.mpr fresh.nodup
  rw [Ledger.fates, List.map_append] at distinct
  exact (List.nodup_append.mp distinct).2.2 subscriber (List.mem_map_of_mem taken) subscriber
    (List.mem_map_of_mem missing) rfl

/-- What the collector has counted is explained. -/
theorem explains_fates (fresh : origin.Fresh)
    (ran : origin.replay? moves = some (flight, notices)) (up : .abandon ∉ moves)
    (counted : ((origin.ledger {} moves).fates.map Prod.fst).Perm origin.queued)
    {subscriber : Subscriber} {outcome : Outcome}
    (there : (subscriber, outcome) ∈ (origin.ledger {} moves).fates) :
    Explains origin moves subscriber outcome := by
  -- What was taken has come through the channel, and the rest was declared late.
  rcases List.mem_append.mp there with taken | missing
  · have known : (subscriber, outcome) ∈ (origin.ledger {} moves).outcomes flight := by
      simp [Ledger.outcomes, taken]
    rcases outcome_reason fresh ran up known with ⟨rfl, cancelled⟩ | ⟨cause, ended, rfl⟩
    · exact .skipped cancelled taken
    · cases cause with
      | none => exact .succeeded ended taken
      | some cause => exact .failed ended taken
  · obtain ⟨after, timed, rfl⟩ := (collected fresh ran up).overdue subscriber outcome missing
    exact .timedOut timed (not_taken_of_missing fresh counted missing)

/-- Own failures stand in the order of the snapshot. -/
theorem failures_ascending (fresh : origin.Fresh) {fate : Subscriber → Outcome}
    (own : ∀ subscriber ∈ origin.queued, (fate subscriber).IsOwn subscriber) :
    (DispatchResult.sum origin.event.type (origin.queued.map fate)).failures.Pairwise
      (·.subscription < ·.subscription) := by
  let fates := origin.queued.map fun subscriber => (subscriber, fate subscriber)
  have own : ∀ subscriber outcome, (subscriber, outcome) ∈ fates →
      outcome.IsOwn subscriber := by
    intro subscriber outcome there
    obtain ⟨_, queued, equal⟩ := List.mem_map.mp there
    cases equal
    exact own subscriber queued
  -- The ids of the failures are some of the ids of the snapshot, in the same order.
  have sublist := failures_subscription_sublist own
  simp only [fates, List.map_map, Function.comp_def] at sublist
  have ids : (origin.queued.map Subscriber.id).Pairwise (· < ·) :=
    List.pairwise_map.mpr fresh.ascending
  have failures := ids.sublist sublist
  rw [DispatchResult.sum_eq]
  exact List.pairwise_map.mp failures

/-- When nobody is late, the tally sums up the fates of all in the order of the snapshot. -/
theorem tally_eq_sum (fresh : origin.Fresh) (ran : origin.replay? moves = some (flight, notices))
    (up : .abandon ∉ moves) (departed : flight.collector = .departed)
    (punctual : (origin.ledger {} moves).missing = []) {fate : Subscriber → Outcome}
    (agrees : ∀ subscriber outcome, (subscriber, outcome) ∈ (origin.ledger {} moves).taken →
      outcome = fate subscriber) :
    flight.tally = .sum origin.event.type (origin.queued.map fate) := by
  have counted := fates_perm fresh ran up departed
  have tally := (collected fresh ran up).sorted departed
  have own : ∀ subscriber ∈ origin.queued, (fate subscriber).IsOwn subscriber := by
    intro subscriber queued
    obtain ⟨outcome, there⟩ := exists_fate fresh ran up departed queued
    have explained := explains_fates fresh ran up counted there
    rw [Ledger.fates, punctual, List.append_nil] at there
    exact agrees subscriber outcome there ▸ explained.isOwn
  rw [Ledger.fates, punctual, List.append_nil] at counted tally
  -- What was counted is the fate of the subscribers that were counted.
  have outcomes : (origin.ledger {} moves).taken.map Prod.snd =
      ((origin.ledger {} moves).taken.map Prod.fst).map fate := by
    rw [List.map_map]
    exact List.map_congr_left fun _ taken => agrees _ _ taken
  rw [tally, outcomes]
  -- These are all subscribers in some order, and the sort does away with the order.
  exact DispatchResult.sorted_sum_eq_of_perm (counted.map _) (failures_ascending fresh own)

/-- When the collector has left, its tally accounts for every subscriber of the snapshot. -/
theorem accounts (fresh : origin.Fresh) (ran : origin.replay? moves = some (flight, notices))
    (up : .abandon ∉ moves) (genuine : ∀ move ∈ moves, move.isGenuine = true)
    (departed : flight.collector = .departed) : Accounts origin moves flight.tally := by
  have counted := fates_perm fresh ran up departed
  have explained : ∀ subscriber outcome,
      (subscriber, outcome) ∈ (origin.ledger {} moves).fates →
        Explains origin moves subscriber outcome :=
    fun _ _ there => explains_fates fresh ran up counted there
  have known : ∀ subscriber outcome, (subscriber, outcome) ∈ (origin.ledger {} moves).taken →
      subscriber ∈ origin.queued := fun _ _ taken =>
    counted.mem_iff.mp (List.mem_map_of_mem (List.mem_append_left _ taken))
  have tally := (collected fresh ran up).sorted departed
  have failures := failures_perm fresh ran up departed
  generalize (origin.ledger {} moves).fates = fates at counted explained tally failures
  have own : ∀ subscriber outcome, (subscriber, outcome) ∈ fates →
      outcome.IsOwn subscriber := fun _ _ there => (explained _ _ there).isOwn
  -- Every failure of the result is the failure of one explained fate.
  have failed : ∀ failure ∈ flight.tally.failures, ∃ subscriber ∈ origin.queued,
      Explains origin moves subscriber (.done (some failure)) := by
    intro failure there
    obtain ⟨subscriber, fate⟩ := mem_failures.mp (failures.mem_iff.mp there)
    exact ⟨subscriber, counted.mem_iff.mp (List.mem_map_of_mem fate), explained _ _ fate⟩
  exact {
    type_eq := by
      rw [tally, DispatchResult.sum_eq]
      rfl
    fates := by
      refine ⟨fates, counted, explained, ?_, ?_, failures⟩
      · rw [tally, DispatchResult.sum_eq]
        rfl
      · rw [tally, DispatchResult.sum_eq]
        rfl
    total := by
      have total := DispatchResult.sum_total origin.event.type (fates.map Prod.snd)
      rw [tally, ← counted.length_eq, List.length_map]
      rw [List.length_map] at total
      exact total
    ascending := by
      rw [tally]
      refine DispatchResult.sorted_failures_pairwise ?_
      rw [DispatchResult.sum_eq]
      exact (ids_nodup_of_counted fresh counted).sublist (failures_subscription_sublist own)
    own := by
      intro failure there
      obtain ⟨subscriber, queued, explains⟩ := failed failure there
      exact ⟨subscriber, queued, explains.isOwn failure rfl⟩
    timedOut := by
      intro failure there after late
      obtain ⟨subscriber, queued, explains⟩ := failed failure there
      obtain ⟨timed, absent⟩ := explains.unseen genuine late
      refine ⟨timed, fun other outcome taken same => absent outcome ?_⟩
      -- The failure has the id of its subscriber, and nobody else of the snapshot has it.
      obtain ⟨_, rfl⟩ := explains.isOwn failure rfl
      exact fresh.eq_of_id (known other outcome taken) queued same ▸ taken
    skipped := by
      intro some
      rw [tally, DispatchResult.sum_eq] at some
      -- Some fate is a skip, and every skip is explained by a cancellation.
      have there : Outcome.skipped ∈ fates.map Prod.snd :=
        List.count_pos_iff.mp (Nat.pos_of_ne_zero some)
      obtain ⟨⟨subscriber, _⟩, fate, rfl⟩ := List.mem_map.mp there
      exact (explained subscriber _ fate).cancel_mem }

end Departed

end Flight

end EventBus
