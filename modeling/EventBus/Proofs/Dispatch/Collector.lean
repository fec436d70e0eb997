import EventBus.Proofs.Dispatch.Ledger
import EventBus.Proofs.Dispatch.Sums

/-!
What the collector of a flight knows: whom it still waits for, what it has counted, and that its
tally is the sum of what it has counted.
-/

namespace EventBus

namespace Flight

/-- The subscribers that are not counted yet; before the launch this is everybody. -/
def awaited (flight : Flight) : List Subscriber :=
  if flight.launched then flight.pending else flight.queued

/-- From the launch on, the pending subscribers are waited for. -/
theorem awaited_of_launched {flight : Flight} (launched : flight.launched = true) :
    flight.awaited = flight.pending :=
  if_pos launched

/-- Before the launch, everybody in the queue is waited for. -/
theorem awaited_of_still {flight : Flight} (still : flight.launched = false) :
    flight.awaited = flight.queued :=
  if_neg (by simp [still])

/-- What holds of the collector at all times. -/
structure Collected (origin flight : Flight) (ledger : Ledger) : Prop where
  timeout_eq : flight.timeout = origin.timeout
  event_eq : flight.event = origin.event
  launched : flight.collector ≠ .collecting → flight.launched = true
  /-- Everybody is waited for or counted, and nobody is both. -/
  awaited : (flight.awaited ++ ledger.fates.map Prod.fst).Perm origin.queued
  /-- Nobody is missing before the deadline. -/
  punctual : flight.collector = .collecting ∨ flight.collector = .draining → ledger.missing = []
  /-- Nobody is waited for once everybody is counted. -/
  finished : flight.collector = .departing ∨ flight.collector = .departed → flight.awaited = []
  /-- The channel goes with the collector. -/
  closed : flight.collector = .departed → flight.channel = []
  /-- Outcomes get lost or come too late only by the leaving of the collector. -/
  early : flight.collector ≠ .departed → ledger.lost = [] ∧ ledger.late = []
  tallied : flight.collector ≠ .departed →
    flight.tally = .sum origin.event.type (ledger.fates.map Prod.snd)
  sorted : flight.collector = .departed →
    flight.tally = (DispatchResult.sum origin.event.type (ledger.fates.map Prod.snd)).sorted
  overdue : ∀ subscriber outcome, (subscriber, outcome) ∈ ledger.missing → ∃ after,
    origin.timeout = some after ∧ outcome = .done (some (subscriber.failure (.timedOut after)))

/-- Nothing is counted in the beginning. -/
theorem Fresh.collected {origin : Flight} (fresh : origin.Fresh) :
    Collected origin origin {} where
  timeout_eq := rfl
  event_eq := rfl
  -- Nothing has happened yet, so every clause speaks of a beginning of one of the two kinds.
  launched gone := by
    rcases fresh.opening with ⟨_, collecting, _⟩ | ⟨launched, _⟩
    · exact absurd collecting gone
    · exact launched
  awaited := by
    rcases fresh.opening with ⟨still, _⟩ | ⟨launched, _, _, nobody⟩
    · simp [Flight.awaited, still, Ledger.fates]
    · simp [Flight.awaited, launched, Ledger.fates, fresh.pending, nobody]
  punctual _ := rfl
  finished gone := by
    rcases fresh.opening with ⟨_, collecting, _⟩ | ⟨launched, _⟩
    · simp [collecting] at gone
    · simp [Flight.awaited, launched, fresh.pending]
  closed _ := fresh.channel
  early _ := ⟨rfl, rfl⟩
  tallied _ := fresh.tally
  sorted _ := by
    simp [fresh.tally, DispatchResult.sum, DispatchResult.sorted, DispatchResult.empty,
      Ledger.fates]
  overdue := by simp

/-- An outcome on its way belongs to a subscriber that the collector waits for. -/
theorem Collected.awaits {origin flight : Flight} {ledger : Ledger}
    (collected : Collected origin flight ledger) (fresh : origin.Fresh)
    (everybody : (flight.everybody ledger).Perm origin.queued)
    (waiting : flight.collector = .collecting ∨ flight.collector = .draining)
    {subscriber : Subscriber} {outcome : Outcome}
    (sent : (subscriber, outcome) ∈ flight.channel) :
    flight.launched = true ∧ flight.pending.find? (·.id == subscriber.id) = some subscriber := by
  have distinct := List.nodup_iff_count_le_one.mp (everybody.nodup_iff.mpr fresh.nodup) subscriber
  have known := everybody.count_eq subscriber
  have waits := collected.awaited.count_eq subscriber
  have there : 0 < (flight.channel.map Prod.fst).count subscriber :=
    List.count_pos_iff.mpr (List.mem_map_of_mem sent)
  simp only [Flight.everybody, unended, Ledger.outcomes, List.map_append, List.count_append]
    at distinct known
  simp only [Ledger.fates, collected.punctual waiting, List.append_nil, List.count_append] at waits
  -- It is in the channel, so it is neither in the queue nor counted; so it is waited for.
  have launched : flight.launched = true := by
    by_contra still
    rw [awaited_of_still (by simpa using still)] at waits
    omega
  rw [awaited_of_launched launched] at waits
  have pending : subscriber ∈ flight.pending := List.count_pos_iff.mp (by omega)
  have snapshot : ∀ other ∈ flight.pending, other ∈ origin.queued := by
    intro other waited
    refine collected.awaited.mem_iff.mp (List.mem_append_left _ ?_)
    rwa [awaited_of_launched launched]
  refine ⟨launched, ?_⟩
  -- The search goes by ids, which are unique in a snapshot.
  cases found : flight.pending.find? (·.id == subscriber.id) with
  | none => exact absurd (List.find?_eq_none.mp found subscriber pending) (by simp)
  | some other =>
    have same : other.id = subscriber.id := by simpa using List.find?_some found
    exact congrArg some (fresh.eq_of_id (snapshot other (List.mem_of_find?_eq_some found))
      (snapshot subscriber pending) same)

/-- Counting an outcome keeps what holds of the collector. -/
theorem Collected.counts {origin flight : Flight} {ledger : Ledger}
    (collected : Collected origin flight ledger) (fresh : origin.Fresh)
    (everybody : (flight.everybody ledger).Perm origin.queued)
    (waiting : flight.collector = .collecting ∨ flight.collector = .draining)
    {subscriber : Subscriber} {outcome : Outcome} {rest : List (Subscriber × Outcome)}
    (first : flight.channel = (subscriber, outcome) :: rest) :
    Collected origin (flight.count subscriber outcome rest)
      { ledger with taken := ledger.taken ++ flight.channel.take 1 } := by
  -- An outcome is only in the channel while its subscriber is waited for.
  obtain ⟨launched, found⟩ := collected.awaits fresh everybody waiting
    (first ▸ List.mem_cons_self : (subscriber, outcome) ∈ flight.channel)
  have removed := perm_eraseP_of_find? found
  have punctual := collected.punctual waiting
  have waits := collected.awaited
  have present : flight.collector ≠ .departed := by
    rcases waiting with collecting | draining
    · simp [collecting]
    · simp [draining]
  have tallied := collected.tallied present
  simp only [Flight.awaited, if_pos launched, Ledger.fates, punctual, List.append_nil] at waits
  simp only [Ledger.fates, punctual, List.append_nil] at tallied
  -- The one that is counted is waited for no longer, and all else stays as it was.
  exact { collected with
    awaited := by
      simp only [Flight.awaited, count, Ledger.fates, punctual, first]
      grind
    finished := fun gone => by
      rcases waiting with collecting | draining
      · simp [count, collecting] at gone
      · simp [count, draining] at gone
    closed := fun departed => absurd departed present
    tallied := fun _ => by
      simp [count, Ledger.fates, punctual, first, tallied, DispatchResult.sum]
    sorted := fun departed => absurd departed present }

/-- A fan-out that has ended has been there. -/
theorem launched_of_fanOutEnded {flight : Flight} (ended : flight.fanOutEnded = true) :
    flight.launched = true := by
  -- That it was launched is one of the things the question looks at.
  simp only [fanOutEnded, Bool.and_eq_true] at ended
  exact ended.1.1.1.1

/-- A fan-out that has ended has nobody without an outcome, and has sent every outcome. -/
theorem unended_of_fanOutEnded {flight : Flight} (ended : flight.fanOutEnded = true) :
    flight.unended = [] ∧ flight.ended = [] := by
  -- Nobody may be left at any of the stations of the fan-out.
  simp only [fanOutEnded, Bool.and_eq_true, List.isEmpty_iff] at ended
  obtain ⟨⟨⟨⟨_, queued⟩, submitted⟩, running⟩, sent⟩ := ended
  exact ⟨by simp [unended, queued, submitted, running], sent⟩

/-- When the fan-out has ended and the channel is empty, everybody is counted. -/
theorem Collected.nobody {origin flight : Flight} {ledger : Ledger}
    (collected : Collected origin flight ledger)
    (everybody : (flight.everybody ledger).Perm origin.queued)
    (collecting : flight.collector = .collecting) (empty : flight.channel = [])
    (ended : flight.fanOutEnded = true) : flight.awaited = [] := by
  obtain ⟨unended, sent⟩ := unended_of_fanOutEnded ended
  obtain ⟨lost, late⟩ := collected.early (by simp [collecting])
  have known := everybody.length_eq
  have waits := collected.awaited.length_eq
  simp only [Flight.everybody, unended, Ledger.outcomes, sent, empty, lost, late,
    List.length_append, List.length_map, List.length_nil] at known
  simp only [Ledger.fates, collected.punctual (Or.inl collecting), List.length_append,
    List.length_map, List.length_nil] at waits
  -- Everybody's outcome is with the collector, and all that it has are counted.
  exact List.eq_nil_of_length_eq_zero (by omega)

/-- Whoever is waited for when the time is up is late by the timeout of the flight. -/
theorem overdue_eq {flight : Flight} {after : Duration} (timed : flight.timeout = some after) :
    flight.overdue = flight.pending.map fun subscriber =>
      (subscriber, .done (some (subscriber.failure (.timedOut after)))) := by
  -- The deadline is the one the flight was set going with.
  simp [overdue, timed]

/-- The end of the waiting keeps what holds of the collector. -/
theorem Collected.timesOut {origin flight : Flight} {ledger : Ledger} {after : Duration}
    (collected : Collected origin flight ledger) (draining : flight.collector = .draining)
    (timed : flight.timeout = some after) :
    Collected origin
      { flight with
        collector := .departing, pending := [],
        tally := (flight.pending.map fun subscriber =>
          Outcome.done (some (subscriber.failure (.timedOut after)))).foldl
            DispatchResult.record flight.tally }
      (ledger.after flight .timeOut) := by
  -- Everybody who is still waited for is counted as late, and nobody is waited for any more.
  have launched := collected.launched (by simp [draining])
  have punctual := collected.punctual (Or.inr draining)
  have waits := collected.awaited
  have tallied := collected.tallied (by simp [draining])
  rw [awaited_of_launched launched] at waits
  have overdue := overdue_eq timed
  have names : flight.overdue.map Prod.fst = flight.pending := by
    simp [overdue, Function.comp_def]
  exact { collected with
    launched := fun _ => launched
    awaited := by
      rw [awaited_of_launched]
      · simp only [Ledger.after, Ledger.fates, List.map_append, names, punctual] at waits ⊢
        grind
      · exact launched
    punctual := fun waiting => by simp at waiting
    finished := fun _ => by
      rw [awaited_of_launched]
      exact launched
    closed := fun departed => by simp at departed
    early := fun _ => collected.early (by simp [draining])
    tallied := fun _ => by
      simp only [Ledger.after, Ledger.fates, punctual, tallied, overdue, DispatchResult.sum]
      simp [Function.comp_def]
    sorted := fun departed => by simp at departed
    overdue := fun subscriber outcome there => by
      simp only [Ledger.after, punctual, List.nil_append, overdue, List.mem_map] at there
      obtain ⟨_, _, equal⟩ := there
      cases equal
      exact ⟨after, collected.timeout_eq.symm.trans timed, rfl⟩ }

/-- The leaving of the collector keeps what holds of it. -/
theorem Collected.departs {origin flight : Flight} {ledger : Ledger}
    (collected : Collected origin flight ledger) (present : flight.collector ≠ .departed)
    (launched : flight.launched = true) (nobody : flight.awaited = []) :
    Collected origin
      { flight with collector := .departed, channel := [], tally := flight.tally.sorted }
      { ledger with lost := ledger.lost ++ flight.channel } :=
  -- The sum is sorted once, in this move, and what is in the channel is given up.
  { collected with
    launched := fun _ => launched
    punctual := fun waiting => by simp at waiting
    finished := fun _ => nobody
    closed := fun _ => rfl
    early := fun still => absurd rfl still
    tallied := fun still => absurd rfl still
    sorted := fun _ => congrArg DispatchResult.sorted (collected.tallied present) }

/-- Every move keeps what holds of the collector. -/
theorem Collected.advance {origin flight next : Flight} {ledger : Ledger} {move : Move}
    {notices : List Notice} (collected : Collected origin flight ledger) (fresh : origin.Fresh)
    (everybody : (flight.everybody ledger).Perm origin.queued)
    (advance : flight.Advance move next notices) (up : move ≠ .abandon) :
    Collected origin next (ledger.after flight move) := by
  -- Only launching, counting, timing out and leaving are anything to the collector.
  cases advance with
  | launch still undecided =>
    -- Those who were waited for as the queue are waited for as pending from now on.
    have waits := collected.awaited
    rw [awaited_of_still still] at waits
    exact { collected with
      launched := fun _ => rfl
      awaited := waits
      finished := fun gone => by
        have launched := collected.launched (by rcases gone with gone | gone <;> simp_all)
        exact absurd (still.symm.trans launched) (by simp) }
  | skip launched room queued cancelled | submit launched room queued wanted =>
    -- The fan-out goes on, and the collector does not see it.
    have waits := collected.awaited
    have finished := collected.finished
    rw [awaited_of_launched launched] at waits finished
    exact { collected with
      awaited := by
        rw [awaited_of_launched]
        · exact waits
        · exact launched
      finished := by
        rw [awaited_of_launched]
        · exact finished
        · exact launched }
  | send found present =>
    simp only [Ledger.after, if_neg present]
    exact { collected with closed := fun departed => absurd departed present }
  | sendLate found departed =>
    simp only [Ledger.after, if_pos departed]
    exact { collected with early := fun present => absurd departed present }
  -- An outcome that is taken before the deadline counts like one that is taken after it.
  | receive collecting first => exact collected.counts fresh everybody (Or.inl collecting) first
  | drain draining first => exact collected.counts fresh everybody (Or.inr draining) first
  | expire launched collecting timed =>
    exact { collected with
      launched := fun _ => launched
      punctual := fun _ => collected.punctual (Or.inl collecting)
      finished := fun gone => by simp at gone
      closed := fun departed => by simp at departed
      early := fun _ => collected.early (by simp [collecting])
      tallied := fun _ => collected.tallied (by simp [collecting])
      sorted := fun departed => by simp at departed }
  | timeOut draining empty timed => exact collected.timesOut draining timed
  -- A collector without a deadline waits for all, so nobody is left when the fan-out has ended.
  | departComplete collecting empty ended =>
    exact collected.departs (by simp [collecting]) (launched_of_fanOutEnded ended)
      (collected.nobody everybody collecting empty ended)
  | departTimedOut departing =>
    exact collected.departs (by simp [departing]) (collected.launched (by simp [departing]))
      (collected.finished (Or.inl departing))
  | abandon => exact absurd rfl up
  | _ => exact { collected with }

/-- In every run, what holds of the collector holds. -/
theorem collected {origin : Flight} (fresh : origin.Fresh) {moves : List Move}
    {notices : List Notice} {flight : Flight}
    (ran : origin.replay? moves = some (flight, notices)) (up : .abandon ∉ moves) :
    Collected origin flight (origin.ledger {} moves) := by
  refine (ledger_induction (motive := fun moves _ flight ledger =>
    .abandon ∉ moves →
      (flight.everybody ledger).Perm origin.queued ∧ Collected origin flight ledger)
    ?_ ?_ ran up).2
  · exact fun up => ⟨everybody_perm fresh rfl up, fresh.collected⟩
  · intro moves _ flight ledger move next _ _ before advance up
    rw [List.mem_append, List.mem_singleton, not_or] at up
    -- That everybody is in one place goes along with the invariant, which needs it at each move.
    obtain ⟨everybody, collected⟩ := before up.1
    exact ⟨(everybody_advance advance (Ne.symm up.2) ledger).trans everybody,
      collected.advance fresh everybody advance (Ne.symm up.2)⟩

end Flight

end EventBus
