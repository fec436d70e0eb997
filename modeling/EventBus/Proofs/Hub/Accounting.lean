import EventBus.Proofs.Hub.Voyages

/-! Whatever happens at a hub, the result of a flight accounts for every subscriber of its own. -/

namespace EventBus

/--
A result that a flight comes to accounts for every subscriber of its snapshot exactly once.

The snapshot has the subscribers of the event's type that were live when it was published. The hub
may have any number of flights, and clients, fan-outs, collectors and deadlines may act in any
order; only the runtime has to stay up for this flight.
-/
theorem concluded_accounts {config : BusConfig} {hub : Hub}
    (reachable : Hub.Reachable config hub) {voyage : Voyage} (sailing : voyage ∈ hub.voyages)
    (up : .abandon ∉ voyage.moves) {result : DispatchResult}
    (concluded : .concluded result ∈ voyage.notices) :
    (∃ before, Hub.Reachable config before ∧
      voyage.origin.queued = (before.registry.live before.alive voyage.origin.event.type).map
        fun entry => ⟨entry.id, entry.handler⟩) ∧
    voyage.origin.Accounts voyage.moves result ∧
    ∀ after, voyage.origin.timeout = some after → config.timeout = some after := by
  -- The run of the voyage and the moment at which it began say all there is to say.
  have sound := (reachable.sound config).voyages voyage sailing
  obtain ⟨before, could, begun⟩ := reachable.begun sailing
  obtain ⟨departed, rfl⟩ := (Flight.told sound.fresh voyage.replayed).concluded result concluded
  exact ⟨⟨before, could, (Registry.of_snapshot begun.snapshot).2⟩,
    Flight.accounts sound.fresh voyage.replayed up sound.genuine departed, sound.timed⟩

/--
A dispatch to four subscribers with two slots: one succeeds, one fails, one is still running at the
deadline, and one is passed over since the flight was cancelled.
-/
def failingDispatch : List Incident :=
  let handlers : List Handler := [⟨1, "mailer"⟩, ⟨2, "audit"⟩, ⟨3, "ledger"⟩, ⟨4, "archive"⟩]
  let event : Event := ⟨⟨0⟩, ⟨"order"⟩, .null, .epoch, none⟩
  let moves : List Move := [.launch, .submit, .submit, .start 2, .start 1,
    .finish 2 (some (.failed "full")), .finish 1 none, .send 2, .receive, .send 1, .submit,
    .start 3, .cancel, .submit, .send 4, .expire, .drain, .drain, .timeOut, .depart, .conclude]
  handlers.map (fun handler => .request (.create handler)) ++
    handlers.map (fun handler => .request (.subscribe ⟨"order"⟩ handler)) ++
    .publishAsync true event :: moves.map (.move 0)

/-- The result says of each of the four subscribers what became of it. -/
theorem failingDispatch_accounts :
    let result : DispatchResult := ⟨⟨"order"⟩, 3, 1,
      [⟨2, "audit", .failed "full"⟩, ⟨3, "ledger", .timedOut (.ofMillis 50)⟩]⟩
    ∃ hub voyage, Hub.Reachable { concurrency := 2, timeout := some (.ofMillis 50) } hub ∧
      voyage ∈ hub.voyages ∧ .abandon ∉ voyage.moves ∧ .concluded result ∈ voyage.notices ∧
      voyage.origin.queued =
        [⟨1, 1, "mailer"⟩, ⟨2, 2, "audit"⟩, ⟨3, 3, "ledger"⟩, ⟨4, 4, "archive"⟩] ∧
      voyage.origin.Accounts voyage.moves result := by
  intro result
  -- The dispatch is run, and what its one flight has counted is looked at.
  have ends : ((Hub.new 0).run? { concurrency := 2, timeout := some (.ofMillis 50) }
      failingDispatch).any (fun hub => hub.voyages.any fun voyage =>
        .abandon ∉ voyage.moves ∧ voyage.notices.any (· matches .concluded _) = true ∧
          voyage.origin.queued =
            [⟨1, 1, "mailer"⟩, ⟨2, 2, "audit"⟩, ⟨3, 3, "ledger"⟩, ⟨4, 4, "archive"⟩] ∧
          .sum voyage.origin.event.type ((voyage.origin.ledger {} voyage.moves).fates.map Prod.snd) =
            result) = true := by
    decide +kernel
  obtain ⟨hub, ran, there⟩ := (Option.any_eq_true _ _).mp ends
  obtain ⟨voyage, sailing, found⟩ := List.any_eq_true.mp there
  obtain ⟨up, concludes, queued, counted⟩ := of_decide_eq_true found
  have reachable := (Hub.Reachable.new 0).run? ran
  obtain ⟨other, concluded⟩ : ∃ other, .concluded other ∈ voyage.notices := by
    obtain ⟨notice, told, concludes⟩ := List.any_eq_true.mp concludes
    cases notice with
    | concluded other => exact ⟨other, told⟩
    | _ => cases concludes
  -- The failures were counted in the order of the subscriptions, so the sort leaves them there.
  obtain rfl : other = result := by
    have fresh := ((reachable.sound _).voyages voyage sailing).fresh
    rw [Flight.concluded_eq fresh voyage.replayed up concluded, counted, DispatchResult.sorted,
      List.mergeSort_of_pairwise (by decide)]
  exact ⟨hub, voyage, reachable, sailing, up, concluded, queued,
    (concluded_accounts reachable sailing up concluded).2.1⟩

end EventBus
