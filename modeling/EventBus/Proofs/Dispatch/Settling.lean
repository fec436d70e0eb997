import EventBus.Proofs.Dispatch.Accounting

/-!
A flight that is left alone goes on until its result is taken, and its result does not depend on the
order in which its handlers end.
-/

namespace EventBus

/-- A move by which a flight goes on without its deadline and its token. -/
def Move.isOnward : Move → Bool
  | .launch | .submit | .start _ | .finish .. | .send _ | .receive | .drain | .depart
  | .conclude => true
  | _ => false

namespace Flight

/-- The outcome of a subscriber whose handler ends as it is said to. -/
def outcomeOf (origin : Flight) (outcome : Handler → Event → Option Cause)
    (subscriber : Subscriber) : Outcome :=
  subscriber.outcome (outcome subscriber.handler origin.event)

/-- The result of calling every subscriber in order. -/
def expected (origin : Flight) (outcome : Handler → Event → Option Cause) : DispatchResult :=
  .sum origin.event.type (origin.queued.map (origin.outcomeOf outcome))

/-- A move without a deadline or a cancellation, and where handlers end as they are said to. -/
def Undisturbed (origin : Flight) (outcome : Handler → Event → Option Cause) : Move → Prop
  | .expire | .cancel | .drop | .abandon => False
  | .finish id cause => ∀ subscriber ∈ origin.queued, subscriber.id = id →
    cause = outcome subscriber.handler origin.event
  | _ => True

/-- What holds of a flight that has been left alone. -/
structure Calm (flight : Flight) (ledger : Ledger) (notices : List Notice) : Prop where
  collector : flight.collector = .collecting ∨ flight.collector = .departed
  punctual : ledger.missing = []
  wanted : flight.cancelled = false
  undecided : flight.collector = .collecting → flight.verdict = .undecided
  verdict : (flight.watched = true ∧
      (flight.verdict = .undecided ∨ ∃ result, flight.verdict = .delivered result)) ∨
    (flight.verdict = .spent ∧ ∃ result, .answered result ∈ notices)

/-- A flight is calm when it has just been set going. -/
theorem Fresh.calm {origin : Flight} (fresh : origin.Fresh) : Calm origin {} [] where
  -- Nothing has been done to a flight that has just been set going.
  collector := fresh.opening.imp (·.2.1) (·.2.1)
  punctual := rfl
  wanted := fresh.cancelled
  undecided collecting := by
    rcases fresh.opening with ⟨_, _, undecided⟩ | ⟨_, departed, _⟩
    · exact undecided
    · simp [departed] at collecting
  verdict := by
    refine Or.inl ⟨fresh.watched, ?_⟩
    rcases fresh.opening with ⟨_, _, undecided⟩ | ⟨_, _, delivered, _⟩
    · exact Or.inl undecided
    · exact Or.inr ⟨_, delivered⟩

/-- A flight that is left alone stays calm. -/
theorem Calm.advance {origin flight next : Flight} {ledger : Ledger} {move : Move}
    {outcome : Handler → Event → Option Cause} {notices more : List Notice}
    (calm : Calm flight ledger notices) (undisturbed : origin.Undisturbed outcome move)
    (advance : flight.Advance move next more) :
    Calm next (ledger.after flight move) (notices ++ more) := by
  have verdict := calm.verdict.imp_right fun ⟨spent, result, there⟩ =>
    (⟨spent, result, List.mem_append_left more there⟩ :
      flight.verdict = Verdict.spent ∧ ∃ result, Notice.answered result ∈ notices ++ more)
  -- No move of a calm flight touches more than one part of it.
  cases advance with
  | send found present =>
    simp only [Ledger.after, if_neg present]
    exact { calm with verdict }
  | sendLate found departed =>
    simp only [Ledger.after, if_pos departed]
    exact { calm with verdict }
  | expire | cancel | drop | abandon => exact undisturbed.elim
  -- The deadline has not passed, so nobody is draining.
  | timeOut draining empty timed =>
    rcases calm.collector with collecting | departed
    · simp [collecting] at draining
    · simp [departed] at draining
  | departComplete collecting empty ended =>
    exact { calm with
      collector := Or.inr rfl
      undecided := fun still => by simp at still
      verdict }
  | departTimedOut departing =>
    exact { calm with
      collector := Or.inr rfl
      undecided := fun still => by simp at still
      verdict }
  | conclude departed undecided watched =>
    exact { calm with
      undecided := fun collecting => by simp [departed] at collecting
      verdict := Or.inl ⟨watched, Or.inr ⟨_, rfl⟩⟩ }
  | concludeUnwatched departed undecided unwatched =>
    -- Nobody drops the token, so it is there until the result is taken.
    simp [undecided, unwatched] at verdict
  | report reporting => simp [reporting] at verdict
  | join watched delivered =>
    exact { calm with
      undecided := fun collecting => by simp [calm.undecided collecting] at delivered
      verdict := Or.inr ⟨rfl, _, List.mem_append_right notices List.mem_cons_self⟩ }
  | joinLost watched lost => simp [lost] at verdict
  | _ => exact { calm with verdict }

/-- What is left to be done of a flight that is left alone, counted in moves. -/
def weight (flight : Flight) : Nat :=
  5 * flight.queued.length + 4 * flight.submitted.length + 3 * flight.running.length
    + 2 * flight.ended.length + flight.channel.length
    + (!flight.launched).toNat + (flight.collector != .departed).toNat
    + (flight.verdict == .undecided).toNat + flight.watched.toNat

/-- Every move by which a flight goes on leaves less to be done. -/
theorem weight_advance {flight next : Flight} {move : Move} {notices : List Notice}
    (advance : flight.Advance move next notices) (onward : move.isOnward = true) :
    next.weight < flight.weight := by
  -- Each party hands on what weighs more than what becomes of it.
  simp only [weight]
  cases advance with
  | launch still undecided =>
    simp [still]
  | skip launched room queued cancelled | submit launched room queued wanted =>
    simp only [queued, List.length_cons, List.length_append, List.length_nil]
    omega
  | start picked =>
    have moved := (perm_of_pick? picked).2.2.length_eq
    simp only [moved, List.length_cons, List.length_append, List.length_nil]
    omega
  | finish picked =>
    -- An outcome weighs less than the handler that it comes from.
    have moved := (perm_of_pick? picked).2.2.length_eq
    simp only [moved, List.length_cons, List.length_append, List.length_nil]
    omega
  | send found present =>
    have moved := (perm_eraseP_of_find? found).length_eq
    simp only [moved, List.length_cons, List.length_append, List.length_nil]
    omega
  | sendLate found departed =>
    have moved := (perm_eraseP_of_find? found).length_eq
    simp only [moved, List.length_cons]
    omega
  | receive collecting first | drain draining first =>
    simp only [count, first, List.length_cons]
    omega
  | departComplete collecting empty ended =>
    -- Leaving is the collector's last move, and counts for one.
    have leaves : (Collector.collecting != .departed) = true := rfl
    simp [collecting, empty, leaves]
  | departTimedOut departing =>
    have leaves : (Collector.departing != .departed) = true := rfl
    simp only [departing, leaves, bne_self_eq_false, Bool.toNat_true, Bool.toNat_false,
      List.length_nil]
    omega
  | conclude departed undecided watched =>
    simp [undecided]
  | concludeUnwatched departed undecided unwatched =>
    -- Whether failures are left to be reported or not, there is a verdict.
    cases failures : flight.tally.failures <;> simp [undecided, reportingVerdict]
  | _ => cases onward

/-- Every move of a flight that is left alone leaves less to be done. -/
theorem Calm.weight_lt {origin flight next : Flight} {ledger : Ledger} {move : Move}
    {outcome : Handler → Event → Option Cause} {notices more : List Notice}
    (calm : Calm flight ledger notices) (undisturbed : origin.Undisturbed outcome move)
    (advance : flight.Advance move next more) : next.weight < flight.weight := by
  by_cases onward : move.isOnward = true
  · exact weight_advance advance onward
  have verdict := calm.verdict
  -- All that is left is the taking of the result.
  cases advance with
  | expire | cancel | drop | abandon => exact undisturbed.elim
  | timeOut draining empty timed =>
    rcases calm.collector with collecting | departed
    · simp [collecting] at draining
    · simp [departed] at draining
  | report reporting => simp [reporting] at verdict
  | @join result watched delivered =>
    have before : (Verdict.delivered result == .undecided) = false := rfl
    have after : (Verdict.spent == .undecided) = false := rfl
    simp [weight, delivered, watched, before, after]
  | joinLost _ lost => simp [lost] at verdict
  | _ => exact absurd rfl onward

section Runs

variable {origin flight : Flight} {outcome : Handler → Event → Option Cause} {moves : List Move}
  {notices : List Notice}

/-- Nothing that disturbs is among undisturbed moves. -/
theorem up_of_undisturbed (undisturbed : ∀ move ∈ moves, origin.Undisturbed outcome move) :
    .abandon ∉ moves :=
  fun there => undisturbed _ there

/-- In every run that is left alone, the flight is calm. -/
theorem calm (fresh : origin.Fresh) (ran : origin.replay? moves = some (flight, notices))
    (undisturbed : ∀ move ∈ moves, origin.Undisturbed outcome move) :
    Calm flight (origin.ledger {} moves) notices := by
  refine ledger_induction (motive := fun moves notices flight ledger =>
    (∀ move ∈ moves, origin.Undisturbed outcome move) → Calm flight ledger notices)
    ?_ ?_ ran undisturbed
  · exact fun _ => fresh.calm
  · intro moves notices flight ledger move next more _ before advance undisturbed
    -- The earlier moves are undisturbed as well, so the flight was calm before the last.
    have earlier := before fun made there => undisturbed made (List.mem_append_left _ there)
    exact earlier.advance (undisturbed move (by simp)) advance

/-- Every outcome that is counted in a run that is left alone is the one that was expected. -/
theorem taken_eq (fresh : origin.Fresh) (ran : origin.replay? moves = some (flight, notices))
    (undisturbed : ∀ move ∈ moves, origin.Undisturbed outcome move)
    {subscriber : Subscriber} {counted : Outcome}
    (taken : (subscriber, counted) ∈ (origin.ledger {} moves).taken) :
    counted = origin.outcomeOf outcome subscriber := by
  have up := up_of_undisturbed undisturbed
  have known : (subscriber, counted) ∈ (origin.ledger {} moves).outcomes flight := by
    simp [Ledger.outcomes, taken]
  have queued : subscriber ∈ origin.queued := by
    refine (everybody_perm fresh ran up).mem_iff.mp (List.mem_append_right _ ?_)
    exact List.mem_map_of_mem known
  -- A skip would need a cancellation, so the handler has ended as it was said to.
  rcases outcome_reason fresh ran up known with ⟨_, cancelled⟩ | ⟨cause, ended, rfl⟩
  · exact (undisturbed _ cancelled).elim
  · rw [undisturbed _ ended subscriber queued rfl]
    rfl

/-- In every run that is left alone, the tally of a collector that has left is as expected. -/
theorem tally_eq_expected (fresh : origin.Fresh)
    (ran : origin.replay? moves = some (flight, notices))
    (undisturbed : ∀ move ∈ moves, origin.Undisturbed outcome move)
    (departed : flight.collector = .departed) : flight.tally = origin.expected outcome :=
  -- Undisturbed, a flight is punctual, and what was taken of each subscriber is its own outcome.
  tally_eq_sum fresh ran (up_of_undisturbed undisturbed) departed
    (calm fresh ran undisturbed).punctual fun _ _ taken => taken_eq fresh ran undisturbed taken

/-- A run that is left alone has as many moves as there was to do, at most. -/
theorem length_add_weight_le (fresh : origin.Fresh)
    (ran : origin.replay? moves = some (flight, notices))
    (undisturbed : ∀ move ∈ moves, origin.Undisturbed outcome move) :
    moves.length + flight.weight ≤ origin.weight := by
  -- The weight pays for the moves, and each of them costs something.
  refine replay?_induction (motive := fun moves _ flight =>
    (∀ move ∈ moves, origin.Undisturbed outcome move) →
      moves.length + flight.weight ≤ origin.weight) ?_ ?_ ran undisturbed
  · intro _
    simp
  · intro moves notices flight move next more earlier before advance undisturbed
    have first : ∀ made ∈ moves, origin.Undisturbed outcome made := fun made there =>
      undisturbed made (List.mem_append_left _ there)
    have bounded := before first
    have less := (calm fresh earlier first).weight_lt (undisturbed move (by simp)) advance
    rw [List.length_append, List.length_singleton]
    omega

/-- A run that is left alone can go on until the result is handed over. -/
theorem progress (fresh : origin.Fresh) (ran : origin.replay? moves = some (flight, notices))
    (undisturbed : ∀ move ∈ moves, origin.Undisturbed outcome move) :
    (∃ result, .answered result ∈ notices) ∨
      ∃ move, origin.Undisturbed outcome move ∧ (flight.step? move).isSome = true := by
  have calm := calm fresh ran undisturbed
  have collected := collected fresh ran (up_of_undisturbed undisturbed)
  rcases calm.collector with collecting | departed
  · right
    have undecided := calm.undecided collecting
    -- The parties are looked at in order, from the launch to the leaving of the collector.
    by_cases launched : flight.launched = true
    swap
    · exact ⟨.launch, trivial, by simp [step?, launched, undecided]⟩
    cases channel : flight.channel with
    | cons sent rest => exact ⟨.receive, trivial, by simp [step?, collecting, channel]⟩
    | nil =>
    cases ended : flight.ended with
    | cons first rest => exact ⟨.send first.1.id, trivial, by simp [step?, ended]⟩
    | nil =>
    cases running : flight.running with
    | cons first rest =>
      refine ⟨.finish first.id (outcome first.handler origin.event), ?_, ?_⟩
      · intro subscriber queued same
        have there : first ∈ origin.queued := by
          refine (everybody_perm fresh ran (up_of_undisturbed undisturbed)).mem_iff.mp ?_
          simp [everybody, unended, running]
        rw [fresh.eq_of_id queued there same]
      · simp [step?, pick?, running]
    | nil =>
    cases submitted : flight.submitted with
    | cons first rest => exact ⟨.start first.id, trivial, by simp [step?, pick?, submitted]⟩
    | nil =>
    cases queued : flight.queued with
    | cons first rest =>
      -- Nobody occupies a slot any more, and there is at least one.
      have room : flight.busy < flight.slots := by
        simpa [busy, submitted, running, ended] using flight.slots_pos
      exact ⟨.submit, trivial, by simp [step?, launched, room, queued, calm.wanted]⟩
    | nil =>
      -- Nothing is left anywhere, so the fan-out has ended and the collector may leave.
      refine ⟨.depart, trivial, ?_⟩
      simp [step?, collecting, channel, fanOutEnded, launched, queued, submitted, running, ended]
  · rcases calm.verdict with ⟨watched, undecided | ⟨result, delivered⟩⟩ | ⟨_, answered⟩
    · exact Or.inr ⟨.conclude, trivial, by simp [step?, departed, undecided]⟩
    · exact Or.inr ⟨.join, trivial, by simp [step?, watched, delivered]⟩
    · exact Or.inl answered

end Runs

/-- What there is to do of a flight that has just been set going. -/
theorem Fresh.weight_le {origin : Flight} (fresh : origin.Fresh) :
    origin.weight ≤ 5 * origin.queued.length + 4 := by
  -- Beside the subscribers there are four things left to be done, at most.
  have stages : (!origin.launched).toNat + (origin.collector != .departed).toNat
      + (origin.verdict == .undecided).toNat + origin.watched.toNat ≤ 4 := by
    have launched := Bool.toNat_le (!origin.launched)
    have collector := Bool.toNat_le (origin.collector != .departed)
    have verdict := Bool.toNat_le (origin.verdict == .undecided)
    have watched := Bool.toNat_le origin.watched
    omega
  simp only [weight, fresh.submitted, fresh.running, fresh.ended, fresh.channel, List.length_nil]
  omega

/--
A flight settles to a result when, left alone, it ends by handing over this result.

It ends since it can go on until it has handed something over, and cannot go on forever.
-/
structure SettlesTo (origin : Flight) (outcome : Handler → Event → Option Cause)
    (result : DispatchResult) : Prop where
  answers : ∀ {moves notices flight}, origin.replay? moves = some (flight, notices) →
    (∀ move ∈ moves, origin.Undisturbed outcome move) →
      ∀ other, .answered other ∈ notices → other = result
  progress : ∀ {moves notices flight}, origin.replay? moves = some (flight, notices) →
    (∀ move ∈ moves, origin.Undisturbed outcome move) → .answered result ∉ notices →
      ∃ move, origin.Undisturbed outcome move ∧ (flight.step? move).isSome = true
  bounded : ∀ {moves notices flight}, origin.replay? moves = some (flight, notices) →
    (∀ move ∈ moves, origin.Undisturbed outcome move) →
      moves.length ≤ 5 * origin.queued.length + 4

/-- A flight settles to the result of calling every subscriber in order. -/
theorem settlesTo_expected {origin : Flight} (fresh : origin.Fresh)
    (outcome : Handler → Event → Option Cause) :
    origin.SettlesTo outcome (origin.expected outcome) := by
  have answers : ∀ {moves notices flight}, origin.replay? moves = some (flight, notices) →
      (∀ move ∈ moves, origin.Undisturbed outcome move) →
        ∀ other, .answered other ∈ notices → other = origin.expected outcome := by
    intro moves notices flight ran undisturbed other there
    obtain ⟨departed, rfl⟩ := (told fresh ran).answered other there
    exact tally_eq_expected fresh ran undisturbed departed
  refine ⟨answers, ?_, ?_⟩
  · intro moves notices flight ran undisturbed unanswered
    refine (Flight.progress fresh ran undisturbed).resolve_left ?_
    rintro ⟨other, there⟩
    exact unanswered (answers ran undisturbed other there ▸ there)
  · intro moves notices flight ran undisturbed
    -- Every move has taken something from what there was to do.
    have bounded := length_add_weight_le fresh ran undisturbed
    have weight := fresh.weight_le
    omega

end Flight

end EventBus
