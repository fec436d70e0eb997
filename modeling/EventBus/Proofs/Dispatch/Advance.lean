import EventBus.Dispatch.Flight
import Mathlib.Data.List.Induction

/-!
The moves of a flight as a relation with one rule for each way in which a move can go, and runs of
a flight, which are taken apart at their last move.
-/

namespace EventBus

/-- A handler fails or panics by itself; only the collector says that somebody is late. -/
def Move.isGenuine : Move → Bool
  | .finish _ (some (.timedOut _)) => false
  | _ => true

namespace Flight

/-- A move of a flight, with the condition under which it is possible. -/
inductive Advance (flight : Flight) : Move → Flight → List Notice → Prop
  | launch (still : flight.launched = false) (undecided : flight.verdict = .undecided) :
    Advance flight .launch { flight with launched := true, pending := flight.queued } []
  | skip {next : Subscriber} {rest : List Subscriber} (launched : flight.launched = true)
    (room : flight.busy < flight.slots) (queued : flight.queued = next :: rest)
    (cancelled : flight.cancelled = true) :
    Advance flight .submit
      { flight with queued := rest, ended := flight.ended ++ [(next, .skipped)] } []
  | submit {next : Subscriber} {rest : List Subscriber} (launched : flight.launched = true)
    (room : flight.busy < flight.slots) (queued : flight.queued = next :: rest)
    (wanted : flight.cancelled = false) :
    Advance flight .submit
      { flight with queued := rest, submitted := flight.submitted ++ [next] } []
  | start {id : Nat} {subscriber : Subscriber} {rest : List Subscriber}
    (picked : pick? id flight.submitted = some (subscriber, rest)) :
    Advance flight (.start id)
      { flight with submitted := rest, running := flight.running ++ [subscriber] }
      [.called subscriber]
  | finish {id : Nat} {cause : Option Cause} {subscriber : Subscriber} {rest : List Subscriber}
    (picked : pick? id flight.running = some (subscriber, rest)) :
    Advance flight (.finish id cause)
      { flight with
        running := rest, ended := flight.ended ++ [(subscriber, subscriber.outcome cause)] } []
  | send {id : Nat} {subscriber : Subscriber} {outcome : Outcome}
    (found : flight.ended.find? (·.1.id == id) = some (subscriber, outcome))
    (present : flight.collector ≠ .departed) :
    Advance flight (.send id)
      { flight with
        ended := flight.ended.eraseP (·.1.id == id),
        channel := flight.channel ++ [(subscriber, outcome)] } []
  | sendLate {id : Nat} {subscriber : Subscriber} {outcome : Outcome}
    (found : flight.ended.find? (·.1.id == id) = some (subscriber, outcome))
    (departed : flight.collector = .departed) :
    Advance flight (.send id) { flight with ended := flight.ended.eraseP (·.1.id == id) }
      (lateFailure outcome)
  | receive {subscriber : Subscriber} {outcome : Outcome} {rest : List (Subscriber × Outcome)}
    (collecting : flight.collector = .collecting)
    (first : flight.channel = (subscriber, outcome) :: rest) :
    Advance flight .receive (flight.count subscriber outcome rest) []
  | expire (launched : flight.launched = true) (collecting : flight.collector = .collecting)
    (timed : flight.timeout.isSome = true) :
    Advance flight .expire { flight with collector := .draining } []
  | drain {subscriber : Subscriber} {outcome : Outcome} {rest : List (Subscriber × Outcome)}
    (draining : flight.collector = .draining)
    (first : flight.channel = (subscriber, outcome) :: rest) :
    Advance flight .drain (flight.count subscriber outcome rest) []
  | timeOut {after : Duration} (draining : flight.collector = .draining)
    (empty : flight.channel = []) (timed : flight.timeout = some after) :
    Advance flight .timeOut
      { flight with
        collector := .departing, pending := [],
        tally := (flight.pending.map fun subscriber =>
          Outcome.done (some (subscriber.failure (.timedOut after)))).foldl
            DispatchResult.record flight.tally } []
  | departComplete (collecting : flight.collector = .collecting) (empty : flight.channel = [])
    (ended : flight.fanOutEnded = true) :
    Advance flight .depart
      { flight with collector := .departed, channel := [], tally := flight.tally.sorted } []
  | departTimedOut (departing : flight.collector = .departing) :
    Advance flight .depart
      { flight with collector := .departed, channel := [], tally := flight.tally.sorted } []
  | conclude (departed : flight.collector = .departed) (undecided : flight.verdict = .undecided)
    (watched : flight.watched = true) :
    Advance flight .conclude { flight with verdict := .delivered flight.tally }
      [.concluded flight.tally]
  | concludeUnwatched (departed : flight.collector = .departed)
    (undecided : flight.verdict = .undecided) (unwatched : flight.watched = false) :
    Advance flight .conclude { flight with verdict := reportingVerdict flight.tally.failures }
      [.concluded flight.tally]
  | report {failure : Failure} {left : List Failure}
    (reporting : flight.verdict = .reporting (failure :: left)) :
    Advance flight .report { flight with verdict := reportingVerdict left } [.unobserved failure]
  | cancel (watched : flight.watched = true) :
    Advance flight .cancel { flight with cancelled := true } []
  | join {result : DispatchResult} (watched : flight.watched = true)
    (delivered : flight.verdict = .delivered result) :
    Advance flight .join { flight with watched := false, verdict := .spent } [.answered result]
  | joinLost (watched : flight.watched = true) (lost : flight.verdict = .lost) :
    Advance flight .join { flight with watched := false } [.aborted]
  | drop (watched : flight.watched = true) :
    Advance flight .drop
      { flight with
        watched := false,
        verdict := match flight.verdict with
          | .delivered _ => .spent
          | other => other } []
  | abandon : Advance flight .abandon flight.abandoned []

section Rules

variable {flight next : Flight} {notices : List Notice}

/-- A flight is launched once, before it has a result. -/
theorem advance_of_launch (moved : flight.step? .launch = some (next, notices)) :
    Advance flight .launch next notices := by
  -- A flight is launched once, and not when there is a verdict already.
  simp only [step?, Option.ite_none_right_eq_some, Bool.and_eq_true, Bool.not_eq_true',
    beq_iff_eq] at moved
  obtain ⟨⟨still, undecided⟩, equal⟩ := moved
  cases equal
  exact .launch still undecided

/-- With a free slot, the fan-out skips the next subscriber or submits it. -/
theorem advance_of_submit (moved : flight.step? .submit = some (next, notices)) :
    Advance flight .submit next notices := by
  simp only [step?, Option.ite_none_right_eq_some, Bool.and_eq_true, decide_eq_true_eq] at moved
  obtain ⟨⟨launched, room⟩, taken⟩ := moved
  split at taken
  · cases taken
  · rename_i first rest queued
    -- The next subscriber is skipped or submitted, depending on the token alone.
    split at taken
    · rename_i cancelled
      cases taken
      exact .skip launched room queued cancelled
    · rename_i wanted
      cases taken
      exact .submit launched room queued (by simpa using wanted)

/-- A handler starts for a subscriber that was submitted. -/
theorem advance_of_start {id : Nat} (moved : flight.step? (.start id) = some (next, notices)) :
    Advance flight (.start id) next notices := by
  -- The subscriber is picked from those that were submitted.
  simp only [step?, Option.map_eq_some_iff] at moved
  obtain ⟨⟨subscriber, rest⟩, picked, equal⟩ := moved
  cases equal
  exact .start picked

/-- A handler ends that was running. -/
theorem advance_of_finish {id : Nat} {cause : Option Cause}
    (moved : flight.step? (.finish id cause) = some (next, notices)) :
    Advance flight (.finish id cause) next notices := by
  -- The subscriber is picked from those that are running.
  simp only [step?, Option.map_eq_some_iff] at moved
  obtain ⟨⟨subscriber, rest⟩, picked, equal⟩ := moved
  cases equal
  exact .finish picked

/-- An outcome goes into the channel, or to nobody once the collector has left. -/
theorem advance_of_send {id : Nat} (moved : flight.step? (.send id) = some (next, notices)) :
    Advance flight (.send id) next notices := by
  simp only [step?, Option.map_eq_some_iff] at moved
  obtain ⟨⟨subscriber, outcome⟩, found, equal⟩ := moved
  -- The collector decides what becomes of the outcome, and nothing else about it is looked at.
  simp only [deliver] at equal
  split at equal
  · rename_i departed
    cases equal
    exact .sendLate found departed
  · rename_i present
    cases equal
    exact .send found present

/-- Before the deadline the collector takes the first outcome of the channel. -/
theorem advance_of_receive (moved : flight.step? .receive = some (next, notices)) :
    Advance flight .receive next notices := by
  -- There must be an outcome in the channel, and a collector that still listens.
  simp only [step?] at moved
  split at moved
  · rename_i collecting first
    cases moved
    exact .receive collecting first
  · cases moved

/-- Only a flight with a deadline that is still collecting can expire. -/
theorem advance_of_expire (moved : flight.step? .expire = some (next, notices)) :
    Advance flight .expire next notices := by
  -- The guard asks for a deadline and for a collector that it can surprise.
  simp only [step?, Option.ite_none_right_eq_some, Bool.and_eq_true, beq_iff_eq] at moved
  obtain ⟨⟨⟨launched, collecting⟩, timed⟩, equal⟩ := moved
  cases equal
  exact .expire launched collecting timed

/-- After the deadline the collector takes what is left in the channel. -/
theorem advance_of_drain (moved : flight.step? .drain = some (next, notices)) :
    Advance flight .drain next notices := by
  -- The collector reads on until the channel is empty.
  simp only [step?] at moved
  split at moved
  · rename_i draining first
    cases moved
    exact .drain draining first
  · cases moved

/-- With the channel empty after the deadline, everybody missing is counted. -/
theorem advance_of_timeOut (moved : flight.step? .timeOut = some (next, notices)) :
    Advance flight .timeOut next notices := by
  -- Only an empty channel sends the collector on its way.
  simp only [step?] at moved
  split at moved
  · rename_i draining empty timed
    cases moved
    exact .timeOut draining empty timed
  · cases moved

/-- The collector leaves with everybody's outcome, or after the deadline. -/
theorem advance_of_depart (moved : flight.step? .depart = some (next, notices)) :
    Advance flight .depart next notices := by
  simp only [step?, Option.ite_none_right_eq_some] at moved
  obtain ⟨complete, equal⟩ := moved
  cases equal
  -- What makes it leave depends on what it was doing.
  split at complete
  · rename_i collecting
    obtain ⟨empty, ended⟩ := Bool.and_eq_true_iff.mp complete
    exact .departComplete collecting (List.isEmpty_iff.mp empty) ended
  · rename_i departing
    exact .departTimedOut departing
  · cases complete

/-- The result is concluded once, for the holder of the token or for the failure sink. -/
theorem advance_of_conclude (moved : flight.step? .conclude = some (next, notices)) :
    Advance flight .conclude next notices := by
  simp only [step?, Option.ite_none_right_eq_some, Bool.and_eq_true, beq_iff_eq] at moved
  obtain ⟨⟨departed, undecided⟩, equal⟩ := moved
  cases equal
  -- Where the result goes is decided by the token, and what it says is not.
  split
  · rename_i watched
    exact .conclude departed undecided watched
  · rename_i unwatched
    exact .concludeUnwatched departed undecided (by simpa using unwatched)

/-- The failures of a result that nobody waits for are reported one by one. -/
theorem advance_of_report (moved : flight.step? .report = some (next, notices)) :
    Advance flight .report next notices := by
  -- There is a move for every failure that is still to be told.
  simp only [step?] at moved
  split at moved
  · rename_i reporting
    cases moved
    exact .report reporting
  · cases moved

/-- Only the holder of the token can cancel. -/
theorem advance_of_cancel (moved : flight.step? .cancel = some (next, notices)) :
    Advance flight .cancel next notices := by
  -- The guard asks whether the token is still there.
  simp only [step?, Option.ite_none_right_eq_some] at moved
  obtain ⟨watched, equal⟩ := moved
  cases equal
  exact .cancel watched

/-- The holder of the token takes the result, or learns that there will be none. -/
theorem advance_of_join (moved : flight.step? .join = some (next, notices)) :
    Advance flight .join next notices := by
  -- With a token there is either a result to be taken, or the loss of one to be learned of.
  simp only [step?, Option.ite_none_right_eq_some] at moved
  obtain ⟨watched, taken⟩ := moved
  split at taken
  · rename_i delivered
    cases taken
    exact .join watched delivered
  · rename_i lost
    cases taken
    exact .joinLost watched lost
  · cases taken

/-- The token is dropped by its holder. -/
theorem advance_of_drop (moved : flight.step? .drop = some (next, notices)) :
    Advance flight .drop next notices := by
  -- The guard asks whether the token is still there.
  simp only [step?, Option.ite_none_right_eq_some] at moved
  obtain ⟨watched, equal⟩ := moved
  cases equal
  exact .drop watched

/-- A possible move goes by one of the rules. -/
theorem advance_of_step? {move : Move} (moved : flight.step? move = some (next, notices)) :
    Advance flight move next notices := by
  -- The branches in which a move answers at all are the rules of the relation.
  cases move with
  | launch => exact advance_of_launch moved
  | submit => exact advance_of_submit moved
  | start id => exact advance_of_start moved
  | finish id cause => exact advance_of_finish moved
  | send id => exact advance_of_send moved
  | receive => exact advance_of_receive moved
  | expire => exact advance_of_expire moved
  | drain => exact advance_of_drain moved
  | timeOut => exact advance_of_timeOut moved
  | depart => exact advance_of_depart moved
  | conclude => exact advance_of_conclude moved
  | report => exact advance_of_report moved
  | cancel => exact advance_of_cancel moved
  | join => exact advance_of_join moved
  | drop => exact advance_of_drop moved
  | abandon =>
    -- All that serves a flight can end at any time.
    cases moved
    exact .abandon

end Rules

/-- A run with a first move is that move and the run behind it. -/
theorem replay?_cons_iff {flight last : Flight} {move : Move} {rest : List Move}
    {notices : List Notice} :
    flight.replay? (move :: rest) = some (last, notices) ↔
      ∃ next first later, flight.step? move = some (next, first) ∧
        next.replay? rest = some (last, later) ∧ notices = first ++ later := by
  -- The run is cut behind its first move, and its notices with it.
  simp only [replay?, bind, Option.bind_eq_some_iff, pure, Option.some.injEq, Prod.mk.injEq,
    Prod.exists]
  constructor
  · rintro ⟨next, first, moved, _, later, ran, rfl, rfl⟩
    exact ⟨next, first, later, moved, ran, rfl⟩
  · rintro ⟨next, first, later, moved, ran, rfl⟩
    exact ⟨next, first, moved, last, later, ran, rfl, rfl⟩

/-- A run in two parts reaches a flight in between. -/
theorem replay?_append_iff {flight last : Flight} {before after : List Move}
    {notices : List Notice} :
    flight.replay? (before ++ after) = some (last, notices) ↔
      ∃ between first later, flight.replay? before = some (between, first) ∧
        between.replay? after = some (last, later) ∧ notices = first ++ later := by
  -- The first part is walked move by move, from whatever flight it has reached.
  induction before generalizing flight notices with
  | nil => simp [replay?]
  | cons move rest ih =>
    simp only [List.cons_append, replay?_cons_iff, ih]
    constructor
    · rintro ⟨next, noticed, _, moved, ⟨between, first, later, ran, went, rfl⟩, rfl⟩
      exact ⟨between, noticed ++ first, later, ⟨next, noticed, first, moved, ran, rfl⟩, went,
        (List.append_assoc ..).symm⟩
    · rintro ⟨between, _, later, ⟨next, noticed, first, moved, ran, rfl⟩, went, rfl⟩
      exact ⟨next, noticed, first ++ later, moved, ⟨between, first, later, ran, went, rfl⟩,
        List.append_assoc ..⟩

/-- A run with a last move is the run before it and that move. -/
theorem replay?_concat_iff {flight last : Flight} {moves : List Move} {move : Move}
    {notices : List Notice} :
    flight.replay? (moves ++ [move]) = some (last, notices) ↔
      ∃ between before more, flight.replay? moves = some (between, before) ∧
        between.step? move = some (last, more) ∧ notices = before ++ more := by
  -- A last move is a second part of one move.
  rw [replay?_append_iff]
  constructor
  · rintro ⟨between, before, _, earlier, single, rfl⟩
    obtain ⟨next, more, _, moved, rest, rfl⟩ := replay?_cons_iff.mp single
    cases rest
    exact ⟨between, before, more, earlier, moved, by rw [List.append_nil]⟩
  · rintro ⟨between, before, more, earlier, moved, rfl⟩
    have single : between.replay? [move] = some (last, more ++ []) :=
      replay?_cons_iff.mpr ⟨last, more, [], moved, rfl, rfl⟩
    exact ⟨between, before, _, earlier, single, by rw [List.append_nil]⟩

/-- What holds at the start of a run and is kept by every move of it holds at its end. -/
theorem replay?_induction {origin : Flight} {motive : List Move → List Notice → Flight → Prop}
    (start : motive [] [] origin)
    (go : ∀ {moves notices flight move next more},
      origin.replay? moves = some (flight, notices) → motive moves notices flight →
        flight.Advance move next more → motive (moves ++ [move]) (notices ++ more) next)
    {moves : List Move} {notices : List Notice} {flight : Flight}
    (ran : origin.replay? moves = some (flight, notices)) : motive moves notices flight := by
  -- The run is taken apart at its end, since a motive speaks of all moves up to a point.
  induction moves using List.reverseRecOn generalizing notices flight with
  | nil =>
    cases ran
    exact start
  | append_singleton moves move ih =>
    obtain ⟨between, before, more, earlier, moved, rfl⟩ := replay?_concat_iff.mp ran
    exact go earlier (ih earlier) (advance_of_step? moved)

end Flight

end EventBus
