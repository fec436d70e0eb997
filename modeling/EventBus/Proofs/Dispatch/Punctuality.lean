import EventBus.Proofs.Dispatch.Cancellation

/-! A flight whose deadline does not pass counts everybody as its handlers have ended. -/

namespace EventBus

namespace Flight

variable {origin flight : Flight} {moves : List Move} {notices : List Notice}

/-- A collector whose deadline does not pass leaves after the fan-out, and misses nobody. -/
theorem punctual (fresh : origin.Fresh) (ran : origin.replay? moves = some (flight, notices))
    (up : .abandon ∉ moves) (timely : .expire ∉ moves) :
    (flight.collector = .collecting ∨
      flight.collector = .departed ∧ flight.fanOutEnded = true) ∧
        (origin.ledger {} moves).missing = [] := by
  -- The invariant says where a collector can be that is never disturbed.
  refine ledger_induction (motive := fun moves _ flight ledger =>
    .abandon ∉ moves → .expire ∉ moves →
      (flight.collector = .collecting ∨
        flight.collector = .departed ∧ flight.fanOutEnded = true) ∧ ledger.missing = [])
    ?_ ?_ ran up timely
  · intro _ _
    refine ⟨?_, rfl⟩
    rcases fresh.opening with ⟨_, collecting, _⟩ | ⟨launched, departed, _, nobody⟩
    · exact Or.inl collecting
    · refine Or.inr ⟨departed, ?_⟩
      simp [fanOutEnded, launched, nobody, fresh.submitted, fresh.running, fresh.ended]
  · intro moves _ flight ledger move next _ _ before advance up timely
    rw [List.mem_append, List.mem_singleton, not_or] at up timely
    obtain ⟨whereabouts, missing⟩ := before up.1 timely.1
    have ends : flight.fanOutEnded = true → next.fanOutEnded = true := fanOutEnded_advance advance
    -- Without the deadline the collector leaves in one way only.
    cases advance with
    | expire => exact absurd rfl timely.2
    | abandon => exact absurd rfl up.2
    | timeOut draining | departTimedOut departing => simp_all
    | departComplete collecting empty ended => exact ⟨Or.inr ⟨rfl, ends ended⟩, missing⟩
    | send found present | sendLate found present =>
      refine ⟨whereabouts.imp_right fun left => ⟨left.1, ends left.2⟩, ?_⟩
      simp only [Ledger.after]
      split <;> exact missing
    | _ => exact ⟨whereabouts.imp_right fun left => ⟨left.1, ends left.2⟩, missing⟩

end Flight

end EventBus
