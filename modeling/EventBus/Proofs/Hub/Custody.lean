import EventBus.Proofs.Dispatch.Custody
import EventBus.Proofs.Hub.Voyages

/-! Who observes the failures of a result, and when nobody does. -/

namespace EventBus

/--
No failure of a result is observed twice, and when the flight is over and its token is gone, each
was returned to a caller of a join or went to the sink.

The exception is a token that was dropped after it got the result, without a join: then no failure
is observed at all.
-/
theorem failures_observed_once {config : BusConfig} {hub : Hub}
    (reachable : Hub.Reachable config hub) {voyage : Voyage} (sailing : voyage ∈ hub.voyages)
    {result : DispatchResult} (concluded : .concluded result ∈ voyage.notices) {failure : Failure}
    (there : failure ∈ result.failures) :
    observed failure voyage.notices ≤ 1 ∧
      (voyage.flight.tasks = 0 → voyage.flight.watched = false → voyage.flight.verdict ≠ .lost →
        (¬ Forsaken voyage.moves → observed failure voyage.notices = 1) ∧
        (Forsaken voyage.moves → observed failure voyage.notices = 0)) := by
  -- The custody of the flight says who has the failure once nothing is left to be done.
  have sound := (reachable.sound config).voyages voyage sailing
  have ran := voyage.replayed
  obtain ⟨once, settled⟩ :=
    Flight.observed_of_concluded sound.fresh ran sound.genuine concluded there
  refine ⟨once, fun finished gone served => ?_⟩
  exact settled (Flight.spent_of_finished sound.fresh ran finished gone served)

/-- A dispatch to one failing handler that is joined after the end. -/
def joinedDispatch : List Incident :=
  Hub.soleDispatch [.launch, .submit, .start 1, .finish 1 (some (.failed "full")), .send 1,
    .receive, .depart, .conclude, .join]

/-- The failure is returned to the caller of the join, and nowhere else. -/
theorem joinedDispatch_observed :
    ∃ hub voyage result failure, Hub.Reachable {} hub ∧ voyage ∈ hub.voyages ∧
      .concluded result ∈ voyage.notices ∧ failure ∈ result.failures ∧
      observed failure voyage.notices = 1 := by
  -- The dispatch is run to its end, with what is known of it by evaluation.
  obtain ⟨hub, ran, voyage, result, failure, sailing, concluded, there, finished, gone, served,
      heeded⟩ :
      ∃ hub, (Hub.new 0).run? {} joinedDispatch = some hub ∧
        ∃ voyage result failure, voyage ∈ hub.voyages ∧ .concluded result ∈ voyage.notices ∧
          failure ∈ result.failures ∧ voyage.flight.tasks = 0 ∧ voyage.flight.watched = false ∧
          voyage.flight.verdict ≠ .lost ∧ ¬ Forsaken voyage.moves :=
    ⟨_, rfl, _, _, ⟨1, "audit", .failed "full"⟩, .head _, .tail _ (.head _),
      (DispatchResult.sorted_failures_perm _).mem_iff.mpr (by decide), rfl, rfl, by decide,
      by decide⟩
  have reachable := (Hub.Reachable.new 0).run? ran
  exact ⟨hub, voyage, result, failure, reachable, sailing, concluded, there,
    ((failures_observed_once reachable sailing concluded there).2 finished gone served).1 heeded⟩

/-- A dispatch to one failing handler whose token is dropped after the end. -/
def forsakenDispatch : List Incident :=
  Hub.soleDispatch [.launch, .submit, .start 1, .finish 1 (some (.failed "full")), .send 1,
    .receive, .depart, .conclude, .drop]

/-- The failure is in the result, and nobody observes it. -/
theorem forsakenDispatch_loses :
    ∃ hub voyage result failure, Hub.Reachable {} hub ∧ voyage ∈ hub.voyages ∧
      .abandon ∉ voyage.moves ∧ .concluded result ∈ voyage.notices ∧
      failure ∈ result.failures ∧ voyage.flight.tasks = 0 ∧ voyage.flight.watched = false ∧
      returned voyage.notices = [] ∧ sink voyage.notices = [] := by
  -- The token is dropped between the conclusion and a join that never comes.
  obtain ⟨hub, ran, voyage, result, failure, facts⟩ :
      ∃ hub, (Hub.new 0).run? {} forsakenDispatch = some hub ∧
        ∃ voyage result failure, voyage ∈ hub.voyages ∧ .abandon ∉ voyage.moves ∧
          .concluded result ∈ voyage.notices ∧ failure ∈ result.failures ∧
          voyage.flight.tasks = 0 ∧ voyage.flight.watched = false ∧
          returned voyage.notices = [] ∧ sink voyage.notices = [] :=
    ⟨_, rfl, _, _, ⟨1, "audit", .failed "full"⟩, .head _, by decide, .tail _ (.head _),
      (DispatchResult.sorted_failures_perm _).mem_iff.mpr (by decide), rfl, rfl, rfl, rfl⟩
  exact ⟨hub, voyage, result, failure, (Hub.Reachable.new 0).run? ran, facts⟩

end EventBus
