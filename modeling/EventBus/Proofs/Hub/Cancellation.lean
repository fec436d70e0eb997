import EventBus.Proofs.Dispatch.Cancellation
import EventBus.Proofs.Hub.Voyages

/-! Who is called and who is counted when the holder of a token cancels its flight. -/

namespace EventBus

/--
The result of a flight counts those as skipped who were never called and of whose being passed over
its collector has heard.

Whose skip is sent after the last look into the channel counts as invoked and is said to be too
late. So as many count as invoked as were called exactly if nobody was passed over unheard.
-/
theorem concluded_counts {config : BusConfig} {hub : Hub}
    (reachable : Hub.Reachable config hub) {voyage : Voyage} (sailing : voyage ∈ hub.voyages)
    (up : .abandon ∉ voyage.moves) (ended : voyage.flight.fanOutEnded = true)
    {result : DispatchResult} (concluded : .concluded result ∈ voyage.notices) :
    (∃ fates, voyage.origin.Counts result fates ∧
      ∀ subscriber ∈ voyage.origin.queued,
        (subscriber ∈ skippedOf fates ↔
          subscriber ∉ calls voyage.notices ∧ ¬ SentUnheard voyage.moves subscriber.id) ∧
        (subscriber ∈ invokedOf fates ↔
          subscriber ∈ calls voyage.notices ∨ SentUnheard voyage.moves subscriber.id) ∧
        (subscriber ∉ calls voyage.notices → .cancel ∈ voyage.moves) ∧
        (SentUnheard voyage.moves subscriber.id → ∃ after, config.timeout = some after ∧
          ⟨subscriber.id, subscriber.handler.name, .timedOut after⟩ ∈ result.failures)) ∧
    (result.invoked = (calls voyage.notices).length ↔
      ∀ subscriber ∈ voyage.origin.queued, SentUnheard voyage.moves subscriber.id →
        subscriber ∈ calls voyage.notices) := by
  -- The counts are those of the fates, and a fate tells of a call or of a skip.
  have sound := (reachable.sound config).voyages voyage sailing
  have fresh := sound.fresh
  have ran := voyage.replayed
  obtain ⟨departed, rfl⟩ := (Flight.told fresh ran).concluded result concluded
  have counts := Flight.counts fresh ran up departed
  refine ⟨⟨_, counts, fun subscriber queued => ⟨?_, ?_, fun uncalled => ?_, fun unheard => ?_⟩⟩, ?_⟩
  · exact Flight.mem_skippedOf_fates fresh ran up departed ended queued
  · exact Flight.mem_invokedOf_fates fresh ran up departed ended queued
  · -- Whoever was passed over has the skip for an outcome, which takes a cancellation.
    have skipped := Flight.skipped_of_uncalled fresh ran up ended queued uncalled
    rcases Flight.outcome_reason fresh ran up skipped with ⟨_, cancelled⟩ | ⟨cause, _, no⟩
    · exact cancelled
    · simp [Subscriber.outcome] at no
  · obtain ⟨after, timed, there⟩ :=
      Flight.timedOut_of_unheard fresh ran up departed queued unheard
    exact ⟨after, sound.timed after timed, there⟩
  · rw [counts.invoked]
    exact Flight.length_invokedOf_eq_iff fresh ran up departed ended

/-- A dispatch to two subscribers with one slot that is cancelled while the first one runs. -/
def cancelledDispatch : List Incident :=
  Hub.pairDispatch [.launch, .submit, .start 1, .cancel, .finish 1 none, .send 1, .submit, .send 2,
    .receive, .receive, .depart, .conclude]

/-- The first subscriber counts as invoked, and the second one as skipped. -/
theorem cancelledDispatch_counts :
    ∃ hub voyage result, Hub.Reachable { concurrency := 1 } hub ∧ voyage ∈ hub.voyages ∧
      .abandon ∉ voyage.moves ∧ voyage.flight.fanOutEnded = true ∧
      .concluded result ∈ voyage.notices ∧ result.invoked = 1 ∧ result.skipped = 1 ∧
      ∃ fates, voyage.origin.Counts result fates ∧
        ∀ subscriber ∈ voyage.origin.queued, subscriber ∈ skippedOf fates ↔
          subscriber ∉ calls voyage.notices ∧ ¬ SentUnheard voyage.moves subscriber.id := by
  -- The dispatch is run to its end, with what is known of it by evaluation.
  obtain ⟨hub, ran, voyage, result, sailing, up, ended, concluded, invoked, skipped⟩ :
      ∃ hub, (Hub.new 0).run? { concurrency := 1 } cancelledDispatch = some hub ∧
        ∃ voyage result, voyage ∈ hub.voyages ∧ .abandon ∉ voyage.moves ∧
          voyage.flight.fanOutEnded = true ∧ .concluded result ∈ voyage.notices ∧
          result.invoked = 1 ∧ result.skipped = 1 :=
    ⟨_, rfl, _, _, .head _, by decide, rfl, .tail _ (.head _), rfl, rfl⟩
  have reachable := (Hub.Reachable.new 0).run? ran
  obtain ⟨⟨fates, counts, everybody⟩, _⟩ := concluded_counts reachable sailing up ended concluded
  exact ⟨hub, voyage, result, reachable, sailing, up, ended, concluded, invoked, skipped, fates,
    counts, fun subscriber queued => (everybody subscriber queued).1⟩

/-- A dispatch to two subscribers with one slot that is cancelled just before the deadline. -/
def expiredDispatch : List Incident :=
  Hub.pairDispatch [.launch, .submit, .start 1, .cancel, .expire, .timeOut, .depart, .conclude,
    .finish 1 none, .send 1, .submit, .send 2, .join]

/--
The second subscriber waits for a slot when the flight is cancelled, and counts as invoked although
it is never called.
-/
theorem expiredDispatch_miscounts :
    let audit : Subscriber := ⟨2, 2, "audit"⟩
    ∃ hub voyage result before after flight earlier,
      Hub.Reachable { concurrency := 1, timeout := some (.ofMillis 50) } hub ∧
      voyage ∈ hub.voyages ∧ .abandon ∉ voyage.moves ∧ voyage.flight.tasks = 0 ∧
      voyage.moves = before ++ .cancel :: after ∧
      voyage.origin.replay? before = some (flight, earlier) ∧
      flight.collector = .collecting ∧ audit ∈ flight.queued ∧
      .answered result ∈ voyage.notices ∧ audit ∉ calls voyage.notices ∧
      ⟨2, "audit", .timedOut (.ofMillis 50)⟩ ∈ result.failures ∧
      (calls voyage.notices).length = 1 ∧ result.invoked = 2 ∧ result.skipped = 0 := by
  intro audit
  -- Cancelled, the second subscriber is in the queue, and the deadline finds it there.
  obtain ⟨hub, ran, voyage, result, before, after, flight, earlier, facts⟩ :
      ∃ hub, (Hub.new 0).run? { concurrency := 1, timeout := some (.ofMillis 50) }
          expiredDispatch = some hub ∧
        ∃ voyage result before after flight earlier,
          voyage ∈ hub.voyages ∧ .abandon ∉ voyage.moves ∧ voyage.flight.tasks = 0 ∧
          voyage.moves = before ++ .cancel :: after ∧
          voyage.origin.replay? before = some (flight, earlier) ∧
          flight.collector = .collecting ∧ audit ∈ flight.queued ∧
          .answered result ∈ voyage.notices ∧ audit ∉ calls voyage.notices ∧
          ⟨2, "audit", .timedOut (.ofMillis 50)⟩ ∈ result.failures ∧
          (calls voyage.notices).length = 1 ∧ result.invoked = 2 ∧ result.skipped = 0 :=
    ⟨_, rfl, _, _, [.launch, .submit, .start 1], _, _, _, .head _, by decide, rfl, rfl, rfl, rfl,
      .head _, .tail _ (.tail _ (.head _)), by decide,
      (DispatchResult.sorted_failures_perm _).mem_iff.mpr (by decide), rfl, rfl, rfl⟩
  exact ⟨hub, voyage, result, before, after, flight, earlier,
    (Hub.Reachable.new 0).run? ran, facts⟩

/--
After a cancellation, a flight calls those whom it has submitted already, and nobody else.

These are at most as many as there are slots, and each of them is called in the end. Whoever is
called runs until its handler ends by itself, and counts as invoked.
-/
theorem cancelled_flight_calls_submitted {config : BusConfig} {hub : Hub}
    (reachable : Hub.Reachable config hub) {voyage : Voyage} (sailing : voyage ∈ hub.voyages)
    {before after : List Move} (cancelled : voyage.moves = before ++ .cancel :: after) :
    (∃ flight earlier later, voyage.origin.replay? before = some (flight, earlier) ∧
      voyage.notices = earlier ++ later ∧ (calls later).Subperm flight.submitted ∧
      flight.submitted.length ≤ max 1 config.concurrency ∧
      (∀ subscriber ∈ flight.queued, subscriber ∉ calls voyage.notices) ∧
      (.abandon ∉ after → voyage.flight.fanOutEnded = true →
        (calls later).Perm flight.submitted)) ∧
    (.abandon ∉ voyage.moves →
      (∀ subscriber ∈ calls voyage.notices,
        (∃ cause, .finish subscriber.id cause ∈ voyage.moves) ∨
          ∀ cause, (voyage.flight.step? (.finish subscriber.id cause)).isSome = true) ∧
      ∀ result, .concluded result ∈ voyage.notices → ∃ fates, voyage.origin.Counts result fates ∧
        ∀ subscriber ∈ calls voyage.notices, subscriber ∈ invokedOf fates) := by
  have fresh := ((reachable.sound config).voyages voyage sailing).fresh
  have ran := voyage.replayed
  refine ⟨?_, fun up => ⟨fun subscriber called => ?_, fun result concluded => ?_⟩⟩
  · obtain ⟨_, _, begun⟩ := reachable.begun sailing
    obtain ⟨flight, earlier, later, reached, noticed, some_submitted, waiting, submitted⟩ :=
      Flight.calls_after_cancel fresh (cancelled ▸ ran)
    refine ⟨flight, earlier, later, reached, noticed, some_submitted, ?_, waiting, submitted⟩
    -- Whoever is submitted holds a slot.
    have bounded := Nat.le_trans (Flight.busy_le_slots fresh reached) begun.slots_le
    simp only [Flight.busy] at bounded
    omega
  · rcases Flight.finished_of_called fresh ran up called with running | finished
    · exact Or.inr (Flight.finish_possible running)
    · exact Or.inl finished
  · obtain ⟨departed, rfl⟩ := (Flight.told fresh ran).concluded result concluded
    exact ⟨_, Flight.counts fresh ran up departed,
      fun _ called => Flight.invoked_of_called fresh ran up departed called⟩

/-- A dispatch to two subscribers that is cancelled between two starts. -/
def overtakenStart : List Incident :=
  Hub.pairDispatch [.launch, .submit, .submit, .start 1, .cancel, .start 2, .finish 1 none,
    .finish 2 none, .send 1, .send 2, .receive, .receive, .depart, .conclude]

/-- Both subscribers were submitted before the cancellation, and both count as invoked. -/
theorem overtakenStart_invokes :
    ∃ hub voyage, Hub.Reachable { concurrency := 2 } hub ∧ voyage ∈ hub.voyages ∧
      ∃ before after, voyage.moves = before ++ .cancel :: after ∧ .abandon ∉ voyage.moves ∧
        ∃ result, .concluded result ∈ voyage.notices ∧
          ∃ fates, voyage.origin.Counts result fates ∧
            ∀ subscriber ∈ calls voyage.notices, subscriber ∈ invokedOf fates := by
  -- The cancellation comes between the two starts.
  obtain ⟨hub, ran, voyage, result, before, after, sailing, cancelled, up, concluded⟩ :
      ∃ hub, (Hub.new 0).run? { concurrency := 2 } overtakenStart = some hub ∧
        ∃ voyage result before after, voyage ∈ hub.voyages ∧
          voyage.moves = before ++ .cancel :: after ∧ .abandon ∉ voyage.moves ∧
          .concluded result ∈ voyage.notices :=
    ⟨_, rfl, _, _, [.launch, .submit, .submit, .start 1], _, .head _, rfl, by decide,
      .tail _ (.tail _ (.head _))⟩
  have reachable := (Hub.Reachable.new 0).run? ran
  exact ⟨hub, voyage, reachable, sailing, before, after, cancelled, up, result, concluded,
    ((cancelled_flight_calls_submitted reachable sailing cancelled).2 up).2 result concluded⟩

/-- The second handler has not started when the flight is cancelled, and is called all the same. -/
theorem overtakenStart_calls :
    ∃ hub voyage, Hub.Reachable { concurrency := 2 } hub ∧ voyage ∈ hub.voyages ∧
      ∃ before after flight earlier later subscriber,
        voyage.moves = before ++ .cancel :: after ∧
        voyage.origin.replay? before = some (flight, earlier) ∧
        voyage.notices = earlier ++ later ∧ subscriber ∈ voyage.origin.queued ∧
        subscriber ∉ calls earlier ∧ subscriber ∈ calls later := by
  -- The cancellation comes between the two starts, and nothing stops the second one.
  obtain ⟨hub, ran, facts⟩ :
      ∃ hub, (Hub.new 0).run? { concurrency := 2 } overtakenStart = some hub ∧
        ∃ voyage, voyage ∈ hub.voyages ∧ ∃ before after flight earlier later subscriber,
          voyage.moves = before ++ .cancel :: after ∧
          voyage.origin.replay? before = some (flight, earlier) ∧
          voyage.notices = earlier ++ later ∧ subscriber ∈ voyage.origin.queued ∧
          subscriber ∉ calls earlier ∧ subscriber ∈ calls later :=
    ⟨_, rfl, _, .head _, [.launch, .submit, .submit, .start 1], _, _, _, _, _, rfl, rfl, rfl,
      .tail _ (.head _), by decide, .head _⟩
  obtain ⟨voyage, sailing, facts⟩ := facts
  exact ⟨hub, voyage, (Hub.Reachable.new 0).run? ran, sailing, facts⟩

end EventBus
