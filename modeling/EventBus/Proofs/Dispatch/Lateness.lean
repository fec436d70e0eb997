import EventBus.Proofs.Dispatch.Accounting

/-!
What becomes of the outcomes that are sent when the collector has stopped counting: those that come
after it has left go to the failure sink, and those that come before it has left get lost.
-/

namespace EventBus

/-- The failure that goes to the failure sink with a notice. -/
def Notice.unobserved? : Notice → Option Failure
  | .unobserved failure => some failure
  | _ => none

/-- The failures that went to the failure sink, in order. -/
def sink (notices : List Notice) : List Failure := notices.filterMap Notice.unobserved?

/-- The failures that a ledger knows to have come too late. -/
def Ledger.lateFailures (ledger : Ledger) : List Failure :=
  (ledger.late.map Prod.snd).filterMap Outcome.failure?

/-- An outcome is sent when the moves before it have a property. -/
def SentWhen (property : List Move → Prop) (moves : List Move) (id : Nat) : Prop :=
  ∃ before after, moves = before ++ .send id :: after ∧ property before

/-- An outcome is sent after the last look into the channel and before the channel is gone. -/
def SentBetween (moves : List Move) (id : Nat) : Prop :=
  SentWhen (fun before => .timeOut ∈ before ∧ .depart ∉ before) moves id

/-- An outcome is sent after the channel is gone. -/
def SentLate (moves : List Move) (id : Nat) : Prop :=
  SentWhen (fun before => .depart ∈ before) moves id

/-- What is sent at all is sent when anything may have happened before. -/
theorem send_mem_iff {moves : List Move} {id : Nat} :
    .send id ∈ moves ↔ SentWhen (fun _ => True) moves id := by
  -- Some moves come before it, and nothing is asked of them.
  simp [SentWhen, List.mem_iff_append]

/-- In a run with a last move, an outcome is sent before that move or by it. -/
theorem sentWhen_concat {property : List Move → Prop} {moves : List Move} {move : Move}
    {id : Nat} :
    SentWhen property (moves ++ [move]) id ↔
      SentWhen property moves id ∨ (move = .send id ∧ property moves) := by
  constructor
  · rintro ⟨before, after, split, held⟩
    -- The last move is the sending itself, or the sending was made before it.
    rcases List.eq_nil_or_concat after with rfl | ⟨earlier, last, rfl⟩
    · obtain ⟨rfl, sent⟩ := List.append_inj' split rfl
      exact Or.inr ⟨List.head_eq_of_cons_eq sent, held⟩
    · rw [List.concat_eq_append, ← List.cons_append, ← List.append_assoc] at split
      obtain ⟨rfl, _⟩ := List.append_inj' split rfl
      exact Or.inl ⟨before, earlier, rfl, held⟩
  · rintro (⟨before, after, rfl, held⟩ | ⟨rfl, held⟩)
    · exact ⟨before, after ++ [move], by simp, held⟩
    · exact ⟨moves, [], rfl, held⟩

/-- Moves of others at the end leave it as it was when something was sent. -/
theorem sentWhen_append_iff {property : List Move → Prop} {served unserved : List Move} {id : Nat}
    (silent : .send id ∉ unserved) :
    SentWhen property (served ++ unserved) id ↔ SentWhen property served id := by
  -- The moves at the end are taken away one by one, and none of them is the sending.
  induction unserved using List.reverseRecOn with
  | nil => rw [List.append_nil]
  | append_singleton unserved move ih =>
    rw [List.mem_append, List.mem_singleton, not_or] at silent
    rw [← List.append_assoc, sentWhen_concat, ih silent.1, or_iff_left]
    exact fun ⟨sent, _⟩ => silent.2 sent.symm

namespace Flight

section Phases

variable {origin flight : Flight} {moves : List Move} {notices : List Notice}

/-- The collector that has left is gone. -/
theorem departed_of_depart (ran : origin.replay? moves = some (flight, notices))
    (left : .depart ∈ moves) : flight.collector = .departed := by
  -- No move brings a collector back.
  refine replay?_induction (motive := fun moves _ flight =>
    .depart ∈ moves → flight.collector = .departed) ?_ ?_ ran left
  · intro left
    cases left
  · intro moves _ flight move next _ _ before advance left
    rcases List.mem_append.mp left with earlier | now
    · exact (departed_advance advance (before earlier)).1
    · obtain rfl := List.mem_singleton.mp now
      cases advance <;> rfl

/-- The collector is departing from its last look into the channel until it leaves. -/
theorem departing_iff (fresh : origin.Fresh)
    (ran : origin.replay? moves = some (flight, notices)) (up : .abandon ∉ moves) :
    flight.collector = .departing ↔ .timeOut ∈ moves ∧ .depart ∉ moves := by
  -- The one move leads there, the other one away, and the rest leave it alone.
  refine replay?_induction (motive := fun moves _ flight => .abandon ∉ moves →
    (flight.collector = .departing ↔ .timeOut ∈ moves ∧ .depart ∉ moves)) ?_ ?_ ran up
  · intro _
    -- No collector is departing when its flight is set going.
    rcases fresh.opening with ⟨_, collecting, _⟩ | ⟨_, departed, _⟩
    · simp [collecting]
    · simp [departed]
  · intro moves _ flight move next _ earlier before advance up
    rw [List.mem_append, List.mem_singleton, not_or] at up
    have same := before up.1
    cases advance with
    | expire _ collecting _ => simpa [collecting] using same
    | timeOut draining _ _ =>
      have present : .depart ∉ moves := fun left => by
        simp [departed_of_depart earlier left] at draining
      simpa using present
    | departComplete | departTimedOut => simp
    | receive collecting _ => simpa [count, collecting] using same
    | drain draining _ => simpa [count, draining] using same
    | abandon => exact absurd rfl up.2
    | _ => simpa using same

/-- The collector of a flight that went out is gone once it has left, and not before. -/
theorem departed_iff (opened : origin.collector = .collecting)
    (ran : origin.replay? moves = some (flight, notices)) (up : .abandon ∉ moves) :
    flight.collector = .departed ↔ .depart ∈ moves := by
  refine ⟨fun departed => ?_, departed_of_depart ran⟩
  refine replay?_induction (motive := fun moves _ flight => .abandon ∉ moves →
    flight.collector = .departed → .depart ∈ moves) ?_ ?_ ran up departed
  · intro _ departed
    simp [opened] at departed
  · intro moves _ flight move next _ _ before advance up departed
    rw [List.mem_append, List.mem_singleton, not_or] at up
    -- A collector leaves by departing, and by nothing else while the flight is served.
    cases advance with
    | departComplete | departTimedOut => simp
    | expire | timeOut => simp at departed
    | abandon => exact absurd rfl up.2
    | _ => exact List.mem_append_left _ (before up.1 departed)

/-- A move sends the outcome of a subscriber. -/
def Sends (flight : Flight) (move : Move) (subscriber : Subscriber) (outcome : Outcome) : Prop :=
  move = .send subscriber.id ∧
    flight.ended.find? (·.1.id == subscriber.id) = some (subscriber, outcome)

/-- The outcome that is sent is the one that was found. -/
theorem sends_iff {flight : Flight} {id : Nat} {sender : Subscriber} {carried : Outcome}
    (found : flight.ended.find? (·.1.id == id) = some (sender, carried))
    {subscriber : Subscriber} {outcome : Outcome} :
    flight.Sends (.send id) subscriber outcome ↔ (subscriber, outcome) = (sender, carried) := by
  -- The id names the first outcome of its subscriber, and that is the one that is taken.
  have same : sender.id = id := by simpa using List.find?_some found
  constructor
  · rintro ⟨sent, there⟩
    cases sent
    exact (Option.some.inj (found.symm.trans there)).symm
  · intro equal
    cases equal
    exact ⟨by rw [same], same ▸ found⟩

/-- A sending sends the outcome of somebody. -/
theorem exists_sends {flight next : Flight} {id : Nat} {more : List Notice}
    (advance : flight.Advance (.send id) next more) :
    ∃ subscriber outcome, subscriber.id = id ∧ flight.Sends (.send id) subscriber outcome := by
  -- In either kind the fan-out has found an outcome to send.
  cases advance with
  | send found _ | sendLate found _ =>
    exact ⟨_, _, by simpa using List.find?_some found, (sends_iff found).mpr rfl⟩

/-- An outcome in some place has its id counted there. -/
theorem count_id_pos {outcomes : List (Subscriber × Outcome)} {subscriber : Subscriber}
    {outcome : Outcome} {id : Nat} (there : (subscriber, outcome) ∈ outcomes)
    (same : subscriber.id = id) : 0 < (outcomes.map (·.1.id)).count id :=
  List.count_pos_iff.mpr (same ▸ List.mem_map_of_mem there)

/--
In every run, a place has exactly what was sent at the right time.

The place takes what is sent under a condition and keeps it, and the condition on the flight is a
property of the moves.
-/
theorem sentWhen_iff {property : List Move → Prop} (condition : Flight → Prop)
    (place : Flight → Ledger → List (Subscriber × Outcome)) (empty : place origin {} = [])
    (agree : ∀ {moves notices flight}, origin.replay? moves = some (flight, notices) →
      .abandon ∉ moves → (condition flight ↔ property moves))
    (takes : ∀ {flight next ledger move more subscriber outcome},
      flight.Advance move next more → move ≠ .abandon →
        ((subscriber, outcome) ∈ place next (ledger.after flight move) ↔
          (subscriber, outcome) ∈ place flight ledger ∨
            (condition flight ∧ flight.Sends move subscriber outcome)))
    (ran : origin.replay? moves = some (flight, notices)) (up : .abandon ∉ moves) (id : Nat) :
    SentWhen property moves id ↔
      0 < ((place flight (origin.ledger {} moves)).map (·.1.id)).count id := by
  -- The induction goes over the run, with the place beside the moves.
  refine ledger_induction (motive := fun moves _ flight ledger => .abandon ∉ moves →
    (SentWhen property moves id ↔ 0 < ((place flight ledger).map (·.1.id)).count id))
    ?_ ?_ ran up
  · intro _
    simp [empty, SentWhen]
  · intro moves notices flight ledger move next more earlier before advance up
    rw [List.mem_append, List.mem_singleton, not_or] at up
    -- Whether the last move is such a sending is decided by the flight before it.
    rw [sentWhen_concat, before up.1, ← agree earlier up.1]
    constructor
    · rintro (old | ⟨rfl, held⟩)
      · obtain ⟨⟨_, _⟩, there, same⟩ := List.mem_map.mp (List.count_pos_iff.mp old)
        exact count_id_pos ((takes advance (Ne.symm up.2)).mpr (Or.inl there)) same
      · obtain ⟨_, _, same, sends⟩ := exists_sends advance
        exact count_id_pos ((takes advance (Ne.symm up.2)).mpr (Or.inr ⟨held, sends⟩)) same
    · intro counted
      obtain ⟨⟨_, _⟩, there, rfl⟩ := List.mem_map.mp (List.count_pos_iff.mp counted)
      refine ((takes advance (Ne.symm up.2)).mp there).imp (count_id_pos · rfl) ?_
      exact fun ⟨held, sent, _⟩ => ⟨sent, held⟩

/-- The outcomes that the fan-out has sent. -/
def sent (flight : Flight) (ledger : Ledger) : List (Subscriber × Outcome) :=
  flight.channel ++ ledger.taken ++ ledger.lost ++ ledger.late

/-- What is sent stays sent, and nothing is sent but by the fan-out. -/
theorem mem_sent_advance {flight next : Flight} {ledger : Ledger} {move : Move}
    {more : List Notice} (advance : flight.Advance move next more) (up : move ≠ .abandon)
    {subscriber : Subscriber} {outcome : Outcome} :
    (subscriber, outcome) ∈ next.sent (ledger.after flight move) ↔
      (subscriber, outcome) ∈ flight.sent ledger ∨ flight.Sends move subscriber outcome := by
  -- An outcome is sent when it leaves the hands of the fan-out.
  simp only [sent, List.mem_append]
  -- What leaves the channel is taken or lost, and both count as sent.
  cases advance with
  | send found present =>
    simp only [Ledger.after, if_neg present, List.mem_append, List.mem_singleton, sends_iff found]
    tauto
  | sendLate found departed =>
    simp only [Ledger.after, if_pos departed, found, Option.toList_some, List.mem_append,
      List.mem_singleton, sends_iff found]
    tauto
  | receive _ first | drain _ first =>
    simp only [Ledger.after, count, first, List.take_succ_cons, List.take_zero, List.mem_append,
      List.mem_cons, List.not_mem_nil, or_false, Sends, reduceCtorEq, false_and]
    tauto
  | departComplete | departTimedOut =>
    simp only [Ledger.after, List.mem_append, List.not_mem_nil, false_or, Sends, reduceCtorEq,
      false_and, or_false]
    tauto
  | abandon => exact absurd rfl up
  | _ => simp [Ledger.after, Sends]

/-- What nobody hears: it lies in a channel that is about to go, or it went with the channel. -/
def unheard (flight : Flight) (ledger : Ledger) : List (Subscriber × Outcome) :=
  (if flight.collector = .departing then flight.channel else []) ++ ledger.lost

/-- What is sent to a departing collector is not heard, and nothing else is. -/
theorem mem_unheard_advance {flight next : Flight} {ledger : Ledger} {move : Move}
    {more : List Notice} (advance : flight.Advance move next more) (up : move ≠ .abandon)
    {subscriber : Subscriber} {outcome : Outcome} :
    (subscriber, outcome) ∈ next.unheard (ledger.after flight move) ↔
      (subscriber, outcome) ∈ flight.unheard ledger ∨
        (flight.collector = .departing ∧ flight.Sends move subscriber outcome) := by
  -- A collector that begins to depart has found the channel empty.
  cases advance with
  | send found present =>
    simp only [unheard, Ledger.after, if_neg present, sends_iff found]
    by_cases departing : flight.collector = .departing
    · simp only [departing, if_true, List.mem_append, List.mem_singleton, true_and]
      tauto
    · simp [departing]
  | sendLate found departed => simp [unheard, Ledger.after, departed]
  | receive collecting _ => simp [unheard, Ledger.after, count, collecting]
  | drain draining _ => simp [unheard, Ledger.after, count, draining]
  | expire _ collecting _ => simp [unheard, Ledger.after, collecting]
  | timeOut draining empty _ => simp [unheard, Ledger.after, draining, empty]
  | departComplete collecting empty _ => simp [unheard, Ledger.after, collecting, empty]
  | departTimedOut departing => simp [unheard, Ledger.after, departing, Sends, or_comm]
  | abandon => exact absurd rfl up
  | _ => simp [unheard, Ledger.after, Sends]

/-- What is sent after the collector has left is late, and nothing else is. -/
theorem mem_late_advance {flight next : Flight} {ledger : Ledger} {move : Move}
    {more : List Notice} (advance : flight.Advance move next more)
    {subscriber : Subscriber} {outcome : Outcome} :
    (subscriber, outcome) ∈ (ledger.after flight move).late ↔
      (subscriber, outcome) ∈ ledger.late ∨
        (flight.collector = .departed ∧ flight.Sends move subscriber outcome) := by
  -- Only a sending enters anything there, and only if nobody listens any more.
  cases advance with
  | send found present => simp [Ledger.after, present]
  | sendLate found departed => simp [Ledger.after, departed, found, sends_iff found]
  | _ => simp [Ledger.after, Sends]

/-- A token that is kept has its result taken, or the result is still to come to it. -/
def Heeded (flight : Flight) : Prop :=
  (flight.watched = true ∧
      (flight.verdict = .undecided ∨ ∃ result, flight.verdict = .delivered result)) ∨
    flight.verdict = .spent

/-- What is told of an outcome that comes too late goes to the sink. -/
theorem sink_lateFailure (outcome : Outcome) :
    sink (lateFailure outcome) = outcome.failure?.toList := by
  -- Only a failure makes anybody speak.
  match outcome with
  | .done none => rfl
  | .done (some failure) => rfl
  | .skipped => rfl

/-- The failure of a result that a move reports. -/
def reported (flight : Flight) : Move → List Failure
  | .report =>
    match flight.verdict with
    | .reporting left => left.take 1
    | _ => []
  | _ => []

/-- The sink gets what comes too late and what is reported. -/
theorem sink_advance {flight next : Flight} {move : Move} {more : List Notice}
    (advance : flight.Advance move next more) (ledger : Ledger) :
    ∃ late, (ledger.after flight move).lateFailures = ledger.lateFailures ++ late ∧
      sink more = late ++ flight.reported move := by
  -- Either a late outcome tells of its failure, or a result does, or the sink gets nothing.
  cases advance with
  | @sendLate _ _ outcome found departed =>
    refine ⟨outcome.failure?.toList, ?_, by simp [sink_lateFailure, reported]⟩
    cases carried : outcome.failure? <;>
      simp [Ledger.after, Ledger.lateFailures, departed, found, carried]
  | send found present => exact ⟨[], by simp [Ledger.after, present], rfl⟩
  | report reporting =>
    exact ⟨[], by simp [Ledger.after], by simp [reported, reporting, sink, Notice.unobserved?]⟩
  | _ => exact ⟨[], by simp [Ledger.after, Ledger.lateFailures], rfl⟩

/-- While a token is kept, no result is reported. -/
theorem Heeded.advance {flight next : Flight} {move : Move} {more : List Notice}
    (heeded : flight.Heeded) (advance : flight.Advance move next more) (up : move ≠ .abandon)
    (kept : move ≠ .drop) : next.Heeded ∧ flight.reported move = [] := by
  -- A result that has a holder goes to it.
  cases advance with
  | conclude departed undecided watched => exact ⟨Or.inl ⟨watched, Or.inr ⟨_, rfl⟩⟩, rfl⟩
  | concludeUnwatched departed undecided unwatched =>
    simp [Heeded, undecided, unwatched] at heeded
  | report reporting => simp [Heeded, reporting] at heeded
  | join watched delivered => exact ⟨Or.inr rfl, rfl⟩
  | joinLost watched lost => simp [Heeded, lost] at heeded
  | drop watched => exact absurd rfl kept
  | abandon => exact absurd rfl up
  | _ => exact ⟨heeded, rfl⟩

/-- In every run that keeps its token, the sink has the failures that came too late. -/
theorem sink_eq (fresh : origin.Fresh) (ran : origin.replay? moves = some (flight, notices))
    (up : .abandon ∉ moves) (kept : .drop ∉ moves) :
    sink notices = Ledger.lateFailures (origin.ledger {} moves) := by
  refine (ledger_induction (motive := fun moves notices flight ledger =>
    .abandon ∉ moves → .drop ∉ moves →
      flight.Heeded ∧ sink notices = Ledger.lateFailures ledger) ?_ ?_ ran up kept).2
  · refine fun _ _ => ⟨Or.inl ⟨fresh.watched, ?_⟩, rfl⟩
    exact fresh.opening.imp (·.2.2) fun ⟨_, _, delivered, _⟩ => ⟨_, delivered⟩
  · intro moves notices flight ledger move next more _ before advance up kept
    rw [List.mem_append, List.mem_singleton, not_or] at up kept
    obtain ⟨heeded, same⟩ := before up.1 kept.1
    obtain ⟨still, unreported⟩ := heeded.advance advance (Ne.symm up.2) (Ne.symm kept.2)
    obtain ⟨late, entered, told⟩ := sink_advance advance ledger
    -- The sink grows by what the ledger enters as late in the same move.
    refine ⟨still, ?_⟩
    rw [unreported, List.append_nil] at told
    rw [entered, ← same, ← told]
    exact List.filterMap_append

/-- No two outcomes of a run are of one subscriber. -/
theorem outcomes_ids_nodup (fresh : origin.Fresh)
    (ran : origin.replay? moves = some (flight, notices)) (up : .abandon ∉ moves) :
    (((origin.ledger {} moves).outcomes flight).map (·.1.id)).Nodup := by
  have distinct := ((everybody_perm fresh ran up).map Subscriber.id).nodup_iff.mpr fresh.ids_nodup
  -- Those with an outcome are part of everybody, and everybody is there once.
  rw [everybody, List.map_append, List.map_map] at distinct
  exact (List.nodup_append.mp distinct).2.1

/-- Every outcome of a run is its subscriber's own. -/
theorem outcome_isOwn (fresh : origin.Fresh)
    (ran : origin.replay? moves = some (flight, notices)) (up : .abandon ∉ moves)
    {subscriber : Subscriber} {outcome : Outcome}
    (there : (subscriber, outcome) ∈ (origin.ledger {} moves).outcomes flight) :
    outcome.IsOwn subscriber := by
  -- A skip says nothing of anybody, and the end of a handler speaks of that handler.
  rcases outcome_reason fresh ran up there with ⟨rfl, _⟩ | ⟨cause, _, rfl⟩
  · simp [Outcome.IsOwn, Outcome.failure?]
  · cases cause <;> simp [Outcome.IsOwn, Outcome.failure?, Subscriber.outcome]

/-- The failure of a handler, its own and not that of somebody who is late. -/
structure Failed (origin : Flight) (moves : List Move) (subscriber : Subscriber)
    (cause : Cause) : Prop where
  queued : subscriber ∈ origin.queued
  ended : .finish subscriber.id (some cause) ∈ moves
  genuine : ∀ after, cause ≠ .timedOut after

/-- In every run, a handler that has failed has its failure for an outcome. -/
theorem Failed.outcome (fresh : origin.Fresh)
    (ran : origin.replay? moves = some (flight, notices)) (up : .abandon ∉ moves)
    {subscriber : Subscriber} {cause : Cause} (failed : Failed origin moves subscriber cause) :
    (subscriber, .done (some (subscriber.failure cause))) ∈
      (origin.ledger {} moves).outcomes flight := by
  -- The id belongs to one subscriber of the snapshot only.
  obtain ⟨ended, same, there⟩ := outcome_of_finish ran up failed.ended
  have queued : ended ∈ origin.queued :=
    (everybody_perm fresh ran up).mem_iff.mp
      (List.mem_append_right _ (List.mem_map_of_mem there))
  obtain rfl := fresh.eq_of_id queued failed.queued same
  exact there

end Phases

/-- How often a failure is in a result and in the sink. -/
def reports (failure : Failure) (result : DispatchResult) (notices : List Notice) : Nat :=
  result.failures.count failure + (sink notices).count failure

section Departed

variable {origin flight : Flight} {moves : List Move} {notices : List Notice}

/-- Where the failure of a handler is once the collector has left. -/
theorem Failed.place (fresh : origin.Fresh)
    (ran : origin.replay? moves = some (flight, notices)) (up : .abandon ∉ moves)
    (departed : flight.collector = .departed) {subscriber : Subscriber} {cause : Cause}
    (failed : Failed origin moves subscriber cause) :
    let fate := (subscriber, Outcome.done (some (subscriber.failure cause)))
    fate ∈ flight.ended ∨ fate ∈ (origin.ledger {} moves).taken ∨
      fate ∈ (origin.ledger {} moves).lost ∨ fate ∈ (origin.ledger {} moves).late := by
  -- It is in one of the places of outcomes, and a channel that is gone is not one of them.
  have there := failed.outcome fresh ran up
  simp only [Ledger.outcomes, (collected fresh ran up).closed departed, List.append_nil,
    List.mem_append, or_assoc] at there
  exact there

/-- An id is in one place at most. -/
theorem places_count_le_one (fresh : origin.Fresh)
    (ran : origin.replay? moves = some (flight, notices)) (up : .abandon ∉ moves) (id : Nat) :
    (flight.ended.map (·.1.id)).count id + (flight.channel.map (·.1.id)).count id
      + ((origin.ledger {} moves).taken.map (·.1.id)).count id
      + ((origin.ledger {} moves).lost.map (·.1.id)).count id
      + ((origin.ledger {} moves).late.map (·.1.id)).count id ≤ 1 := by
  -- The places share out the outcomes, of which no two have the same id.
  have distinct := List.nodup_iff_count_le_one.mp (outcomes_ids_nodup fresh ran up) id
  simpa only [Ledger.outcomes, List.map_append, List.count_append] using distinct

/-- In every run, an outcome was sent exactly when it is with the collector, or lost, or late. -/
theorem send_iff (fresh : origin.Fresh) (ran : origin.replay? moves = some (flight, notices))
    (up : .abandon ∉ moves) (id : Nat) :
    .send id ∈ moves ↔
      0 < ((flight.sent (origin.ledger {} moves)).map (·.1.id)).count id := by
  -- This is the case of the general statement in which nothing is asked of the moves before.
  rw [send_mem_iff]
  refine sentWhen_iff (fun _ => True) sent ?_ (fun _ _ => Iff.rfl) ?_ ran up id
  · simp [sent, fresh.channel]
  · intro _ _ _ _ _ _ _ advance up
    rw [mem_sent_advance advance up, true_and]

/-- What somebody sends in between is lost once the collector has left, and nothing else is. -/
theorem sentBetween_iff (fresh : origin.Fresh)
    (ran : origin.replay? moves = some (flight, notices)) (up : .abandon ∉ moves)
    (departed : flight.collector = .departed) (id : Nat) :
    SentBetween moves id ↔ 0 < ((origin.ledger {} moves).lost.map (·.1.id)).count id := by
  have unheard := sentWhen_iff _ unheard (by simp [unheard, fresh.channel])
    (departing_iff fresh) (fun advance up => mem_unheard_advance advance up) ran up id
  -- With the channel gone, what is unheard is what got lost.
  rwa [Flight.unheard, if_neg (by simp [departed]), List.nil_append] at unheard

/-- What somebody sends after the collector has left is late, and nothing else is. -/
theorem sentLate_iff (opened : origin.collector = .collecting)
    (ran : origin.replay? moves = some (flight, notices)) (up : .abandon ∉ moves) (id : Nat) :
    SentLate moves id ↔ 0 < ((origin.ledger {} moves).late.map (·.1.id)).count id :=
  -- The late outcomes are those that come into the ledger once the collector has departed.
  sentWhen_iff _ (fun _ ledger => ledger.late) rfl (departed_iff opened)
    (fun advance _ => mem_late_advance advance) ran up id

/-- What was counted is of distinct subscribers, and each outcome is its subscriber's own. -/
theorem fates_own (fresh : origin.Fresh) (ran : origin.replay? moves = some (flight, notices))
    (up : .abandon ∉ moves) (departed : flight.collector = .departed) :
    (((origin.ledger {} moves).fates).map (·.1.id)).Nodup ∧
      ∀ subscriber outcome, (subscriber, outcome) ∈ (origin.ledger {} moves).fates →
        outcome.IsOwn subscriber := by
  -- Those who are counted are the snapshot, and an explained outcome is an own one.
  have counted := fates_perm fresh ran up departed
  exact ⟨ids_nodup_of_counted fresh counted,
    fun _ _ there => (explains_fates fresh ran up counted there).isOwn⟩

/-- Whoever has failed and was not counted is said to be too late. -/
theorem Failed.overdue (fresh : origin.Fresh)
    (ran : origin.replay? moves = some (flight, notices)) (up : .abandon ∉ moves)
    (departed : flight.collector = .departed) {subscriber : Subscriber} {cause : Cause}
    (failed : Failed origin moves subscriber cause)
    (absent : ((origin.ledger {} moves).taken.map (·.1.id)).count subscriber.id = 0) :
    flight.tally.failures.count (subscriber.failure cause) = 0 ∧ ∃ after,
      origin.timeout = some after ∧
        subscriber.failure (.timedOut after) ∈ flight.tally.failures := by
  -- Everybody is counted, and who was not heard is counted as late.
  have collected := collected fresh ran up
  obtain ⟨ids, own⟩ := fates_own fresh ran up departed
  refine ⟨?_, ?_⟩
  · rw [(failures_perm fresh ran up departed).count_eq]
    refine count_failures_eq_zero own fun other outcome there same => ?_
    rcases List.mem_append.mp there with taken | missing
    · have counted := count_id_pos taken same
      omega
    · -- The collector says of nobody that it failed by itself.
      obtain ⟨after, _, rfl⟩ := collected.overdue other outcome missing
      intro equal
      have late : Cause.timedOut after = cause := by
        simpa [Subscriber.failure] using
          congrArg (Option.map Failure.cause) (Outcome.done.inj equal)
      exact failed.genuine after late.symm
  · obtain ⟨outcome, there⟩ := exists_fate fresh ran up departed failed.queued
    rcases List.mem_append.mp there with taken | missing
    · exact absurd absent (Nat.ne_of_gt (count_id_pos taken rfl))
    · obtain ⟨after, timed, rfl⟩ := collected.overdue _ outcome missing
      refine ⟨after, timed, ?_⟩
      exact (failures_perm fresh ran up departed).mem_iff.mpr (mem_failures.mpr ⟨_, there⟩)

/-- The sink has a failure as often as it came too late. -/
theorem count_sink (fresh : origin.Fresh) (ran : origin.replay? moves = some (flight, notices))
    (up : .abandon ∉ moves) (kept : .drop ∉ moves) {subscriber : Subscriber} {cause : Cause} :
    ((subscriber, .done (some (subscriber.failure cause))) ∈ (origin.ledger {} moves).late →
      (sink notices).count (subscriber.failure cause) = 1) ∧
    (((origin.ledger {} moves).late.map (·.1.id)).count subscriber.id = 0 →
      (sink notices).count (subscriber.failure cause) = 0) := by
  -- Both halves count one id in a list in which no id is twice.
  have own : ∀ other outcome, (other, outcome) ∈ (origin.ledger {} moves).late →
      outcome.IsOwn other := fun other outcome there =>
    outcome_isOwn fresh ran up (List.mem_append_right _ there)
  have ids : ((origin.ledger {} moves).late.map (·.1.id)).Nodup :=
    (outcomes_ids_nodup fresh ran up).sublist ((List.sublist_append_right _ _).map _)
  rw [sink_eq fresh ran up kept]
  refine ⟨fun there => count_failures_eq_one own ids there, fun absent => ?_⟩
  refine count_failures_eq_zero own fun other outcome there same => ?_
  exact absurd absent (Nat.ne_of_gt (count_id_pos there same))

/-- The sink has a failure exactly if it is sent after the collector has left, and has it once. -/
theorem Failed.count_late (fresh : origin.Fresh)
    (ran : origin.replay? moves = some (flight, notices)) (up : .abandon ∉ moves)
    (kept : .drop ∉ moves) {subscriber : Subscriber} {cause : Cause}
    (failed : Failed origin moves subscriber cause) :
    (SentLate moves subscriber.id → (sink notices).count (subscriber.failure cause) = 1) ∧
    (¬ SentLate moves subscriber.id → (sink notices).count (subscriber.failure cause) = 0) := by
  have alone := places_count_le_one fresh ran up subscriber.id
  obtain ⟨inSink, notInSink⟩ := @count_sink _ _ _ _ fresh ran up kept subscriber cause
  rw [sentLate_iff (fresh.collecting failed.queued) ran up]
  refine ⟨fun sent => inSink ?_, fun unsent => notInSink (by omega)⟩
  -- Somebody's outcome is there, and it can be no other one.
  have there := failed.outcome fresh ran up
  simp only [Ledger.outcomes, List.mem_append] at there
  rcases there with (((ended | channel) | taken) | lost) | late
  · have here := count_id_pos ended rfl
    omega
  · have here := count_id_pos channel rfl
    omega
  · have here := count_id_pos taken rfl
    omega
  · have here := count_id_pos lost rfl
    omega
  · exact late

/--
Once the collector has left, a failure that has been sent is in one place, and the result says of
everybody whose own failure it does not have that it is late.

The exception is a failure that is sent between the last look into the channel and the leaving of
the collector, which is in no place at all.
-/
theorem Failed.reports (fresh : origin.Fresh)
    (ran : origin.replay? moves = some (flight, notices)) (up : .abandon ∉ moves)
    (kept : .drop ∉ moves) (departed : flight.collector = .departed) {subscriber : Subscriber}
    {cause : Cause} (failed : Failed origin moves subscriber cause) :
    (.send subscriber.id ∉ moves → (flight.step? (.send subscriber.id)).isSome = true) ∧
    (.send subscriber.id ∈ moves → ¬ SentBetween moves subscriber.id →
      Flight.reports (subscriber.failure cause) flight.tally notices = 1) ∧
    (SentBetween moves subscriber.id →
      Flight.reports (subscriber.failure cause) flight.tally notices = 0) ∧
    (subscriber.failure cause ∉ flight.tally.failures → ∃ after, origin.timeout = some after ∧
      subscriber.failure (.timedOut after) ∈ flight.tally.failures) := by
  -- The failure is in one of four places, and each of them says who has it.
  have alone := places_count_le_one fresh ran up subscriber.id
  have overdue := failed.overdue fresh ran up departed
  obtain ⟨ids, own⟩ := fates_own fresh ran up departed
  obtain ⟨inSink, notInSink⟩ := @count_sink _ _ _ _ fresh ran up kept subscriber cause
  rw [send_iff fresh ran up, sentBetween_iff fresh ran up departed]
  simp only [Flight.reports, Flight.sent, List.map_append, List.count_append]
  rcases failed.place fresh ran up departed with ended | taken | lost | late
  · -- The fan-out has not sent it yet, so nobody has it.
    have here := count_id_pos ended rfl
    refine ⟨fun _ => ?_, by omega, by omega, fun _ => (overdue (by omega)).2⟩
    simp only [step?, Option.isSome_map, List.find?_isSome]
    exact ⟨_, ended, by simp⟩
  · -- The collector has counted it.
    have here := count_id_pos taken rfl
    have counted : flight.tally.failures.count (subscriber.failure cause) = 1 := by
      rw [(failures_perm fresh ran up departed).count_eq]
      exact count_failures_eq_one own ids (List.mem_append_left _ taken)
    have silent := notInSink (by omega)
    refine ⟨by omega, by omega, by omega, fun absent => ?_⟩
    exact absurd (List.count_pos_iff.mp (by omega)) absent
  · -- It went with the channel.
    have here := count_id_pos lost rfl
    have silent := notInSink (by omega)
    obtain ⟨uncounted, timedOut⟩ := overdue (by omega)
    exact ⟨by omega, by omega, by omega, fun _ => timedOut⟩
  · -- It came too late, and went to the sink.
    have here := count_id_pos late rfl
    have told := inSink late
    obtain ⟨uncounted, timedOut⟩ := overdue (by omega)
    exact ⟨by omega, by omega, by omega, fun _ => timedOut⟩

end Departed

end Flight

end EventBus
