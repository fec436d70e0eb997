import EventBus.Proofs.Dispatch.Abandonment
import EventBus.Proofs.Hub.Voyages

/-! Where the failures of a flight are once its result was taken, and which of them are nowhere. -/

namespace EventBus

/--
A failure that was sent is in exactly one place once the result was taken, unless it was sent after
the last look into the channel and before the channel was gone: then it is in no place at all.

A failure that was not sent yet can still be sent, as long as the runtime is up. If the runtime has
gone before there was a result, the sink has what was sent after the channel was gone.
-/
theorem joined_failure_reports {config : BusConfig} {hub : Hub}
    (reachable : Hub.Reachable config hub) {voyage : Voyage} (sailing : voyage ∈ hub.voyages)
    (kept : .drop ∉ voyage.moves) {subscriber : Subscriber}
    (queued : subscriber ∈ voyage.origin.queued) {cause : Cause}
    (failed : .finish subscriber.id (some cause) ∈ voyage.moves) :
    let failure : Failure := ⟨subscriber.id, subscriber.handler.name, cause⟩
    (∀ result, .answered result ∈ voyage.notices →
      (.send subscriber.id ∈ voyage.moves → ¬ SentBetween voyage.moves subscriber.id →
        Flight.reports failure result voyage.notices = 1) ∧
      (SentBetween voyage.moves subscriber.id →
        Flight.reports failure result voyage.notices = 0) ∧
      (failure ∉ result.failures → ∃ after, config.timeout = some after ∧
        ⟨subscriber.id, subscriber.handler.name, .timedOut after⟩ ∈ result.failures) ∧
      (.send subscriber.id ∉ voyage.moves → .abandon ∉ voyage.moves →
        (voyage.flight.step? (.send subscriber.id)).isSome = true)) ∧
    (.aborted ∈ voyage.notices →
      (∀ result, .answered result ∉ voyage.notices) ∧
      (SentLate voyage.moves subscriber.id → (sink voyage.notices).count failure = 1) ∧
      (¬ SentLate voyage.moves subscriber.id → (sink voyage.notices).count failure = 0)) := by
  -- What is sent while the flight is served decides the matter, for nothing is sent later.
  have sound := (reachable.sound config).voyages voyage sailing
  obtain ⟨served, between, earlier, serving⟩ := Flight.exists_served sound.fresh voyage.replayed
  have genuine : ∀ after, cause ≠ .timedOut after := by
    rintro after rfl
    exact absurd (sound.genuine _ failed) (by simp [Move.isGenuine])
  have failing : Flight.Failed voyage.origin served subscriber cause :=
    ⟨queued, (serving.mem_iff (by simp [Flight.idle])).mp failed, genuine⟩
  have token : .drop ∉ served := by
    obtain ⟨unserved, moves, _⟩ := serving.rest
    exact fun there => kept (moves ▸ List.mem_append_left _ there)
  intro failure
  refine ⟨fun result joined => ?_, fun aborted => ?_⟩
  · obtain ⟨departed, tally⟩ := serving.complete result joined
    obtain ⟨unsent, once, never, late⟩ :=
      failing.reports sound.fresh serving.ran serving.up token departed
    have counted : Flight.reports failure result voyage.notices =
        Flight.reports failure between.tally earlier := by
      rw [Flight.reports, Flight.reports, serving.silent, tally]
    rw [serving.mem_iff (by simp [Flight.idle]), SentBetween, serving.sentWhen_iff, counted,
      ← tally]
    refine ⟨once, never, fun absent => ?_, fun silent up => ?_⟩
    · obtain ⟨after, timed, there⟩ := late absent
      exact ⟨after, sound.timed after timed, there⟩
    · exact serving.still up ▸ unsent silent
  · rw [SentLate, serving.sentWhen_iff, serving.silent]
    exact ⟨Flight.not_answered_of_aborted voyage.replayed aborted,
      failing.count_late sound.fresh serving.ran serving.up token⟩

/-- What is sent in between is sent before the collector leaves. -/
theorem SentBetween.mem_takeWhile {moves : List Move} {id : Nat} (sent : SentBetween moves id) :
    .send id ∈ moves.takeWhile (· ≠ .depart) := by
  -- No departure stands before the sending, so the sending is in front of the first one.
  obtain ⟨before, after, rfl, _, present⟩ := sent
  rw [List.takeWhile_append_of_pos]
  · simp
  · intro move there
    simpa using fun leaving : move = .depart => present (leaving ▸ there)

/-- A dispatch with a deadline to a handler that fails after the collector has left. -/
def lateDispatch : List Incident :=
  Hub.soleDispatch [.launch, .submit, .start 1, .expire, .timeOut, .depart, .conclude,
    .finish 1 (some (.failed "full")), .send 1, .join]

/-- The failure that comes late is in the result or in the sink, and there once. -/
theorem lateDispatch_reports :
    ∃ hub voyage result, Hub.Reachable { timeout := some (.ofMillis 50) } hub ∧
      voyage ∈ hub.voyages ∧ .drop ∉ voyage.moves ∧ .answered result ∈ voyage.notices ∧
      ⟨1, 1, "audit"⟩ ∈ voyage.origin.queued ∧
      .finish 1 (some (.failed "full")) ∈ voyage.moves ∧
      Flight.reports ⟨1, "audit", .failed "full"⟩ result voyage.notices = 1 := by
  -- The dispatch is run to its end, with what is known of it by evaluation.
  obtain ⟨hub, ran, voyage, result, sailing, kept, joined, queued, failed, sent, early⟩ :
      ∃ hub, (Hub.new 0).run? { timeout := some (.ofMillis 50) } lateDispatch = some hub ∧
        ∃ voyage result, voyage ∈ hub.voyages ∧ .drop ∉ voyage.moves ∧
          .answered result ∈ voyage.notices ∧ ⟨1, 1, "audit"⟩ ∈ voyage.origin.queued ∧
          .finish 1 (some (.failed "full")) ∈ voyage.moves ∧ .send 1 ∈ voyage.moves ∧
          .send 1 ∉ voyage.moves.takeWhile (· ≠ .depart) :=
    ⟨_, rfl, _, _, .head _, by decide, .tail _ (.tail _ (.tail _ (.head _))), .head _,
      by decide, by decide, by decide⟩
  have reachable := (Hub.Reachable.new 0).run? ran
  exact ⟨hub, voyage, result, reachable, sailing, kept, joined, queued, failed,
    ((joined_failure_reports reachable sailing kept queued failed).1 result joined).1 sent
      fun between => early between.mem_takeWhile⟩

/-- A dispatch with a deadline to a handler that fails after the collector has stopped looking. -/
def overtakenDispatch : List Incident :=
  Hub.soleDispatch [.launch, .submit, .start 1, .expire, .timeOut,
    .finish 1 (some (.failed "full")), .send 1, .depart, .conclude, .join]

/-- A failure that is sent before the channel is gone and after the last look is lost. -/
theorem overtakenDispatch_loses :
    let failure : Failure := ⟨1, "audit", .failed "full"⟩
    ∃ hub voyage result, Hub.Reachable { timeout := some (.ofMillis 50) } hub ∧
      voyage ∈ hub.voyages ∧ .drop ∉ voyage.moves ∧ .abandon ∉ voyage.moves ∧
      .answered result ∈ voyage.notices ∧ ⟨1, 1, "audit"⟩ ∈ voyage.origin.queued ∧
      .finish 1 (some (.failed "full")) ∈ voyage.moves ∧ voyage.flight.fanOutEnded = true ∧
      failure ∉ result.failures ∧ failure ∉ sink voyage.notices := by
  -- The sending falls between the last look into the channel and the leaving of the collector.
  intro failure
  obtain ⟨hub, ran, voyage, result, facts⟩ :
      ∃ hub, (Hub.new 0).run? { timeout := some (.ofMillis 50) } overtakenDispatch = some hub ∧
        ∃ voyage result, voyage ∈ hub.voyages ∧ .drop ∉ voyage.moves ∧
          .abandon ∉ voyage.moves ∧ .answered result ∈ voyage.notices ∧
          ⟨1, 1, "audit"⟩ ∈ voyage.origin.queued ∧
          .finish 1 (some (.failed "full")) ∈ voyage.moves ∧ voyage.flight.fanOutEnded = true ∧
          failure ∉ result.failures ∧ failure ∉ sink voyage.notices :=
    ⟨_, rfl, _, _, .head _, by decide, by decide, .tail _ (.tail _ (.head _)), .head _,
      by decide, rfl,
      fun there => absurd ((DispatchResult.sorted_failures_perm _).mem_iff.mp there) (by decide),
      by decide⟩
  exact ⟨hub, voyage, result, (Hub.Reachable.new 0).run? ran, facts⟩

end EventBus
