import EventBus.Proofs.Dispatch.Abandonment

/-!
Who is in charge of the failures of a result: they wait for the token, go to whoever joins, or are
reported to the sink one by one. They are forsaken where the token is dropped after it got them.
-/

namespace EventBus

/-- The result that is handed over with a notice. -/
def Notice.answer? : Notice → Option DispatchResult
  | .answered result => some result
  | _ => none

/-- The failures that were returned to callers of a join. -/
def returned (notices : List Notice) : List Failure :=
  (notices.filterMap Notice.answer?).flatMap DispatchResult.failures

/-- What is returned with several notices is returned one after the other. -/
theorem returned_cons (notice : Notice) (notices : List Notice) :
    returned (notice :: notices) =
      notice.answer?.elim [] DispatchResult.failures ++ returned notices := by
  -- A notice is an answer, or returns nothing.
  cases notice <;> rfl

/-- Nothing is returned without a notice. -/
@[simp] theorem returned_nil : returned [] = [] := rfl

/-- What is returned in two parts of a run is returned one after the other. -/
@[simp] theorem returned_append (earlier later : List Notice) :
    returned (earlier ++ later) = returned earlier ++ returned later := by
  -- Notices are read one by one.
  simp [returned]

/-- A late failure is not returned to anybody. -/
@[simp] theorem returned_lateFailure (outcome : Outcome) :
    returned (Flight.lateFailure outcome) = [] := by
  -- What is late is told to the sink, if it is told at all.
  match outcome with
  | .done none => rfl
  | .done (some failure) => rfl
  | .skipped => rfl

/-- How often a failure was returned to a caller of a join or went to the sink. -/
def observed (failure : Failure) (notices : List Notice) : Nat :=
  (returned notices).count failure + (sink notices).count failure

/-- The token is dropped after the result was concluded. -/
def Forsaken (moves : List Move) : Prop := .drop ∈ moves.dropWhile (· ≠ .conclude)

instance : DecidablePred Forsaken := fun _ => inferInstanceAs (Decidable (_ ∈ _))

/-- What is forsaken was dropped. -/
theorem Forsaken.drop_mem {moves : List Move} (forsaken : Forsaken moves) : .drop ∈ moves :=
  (List.dropWhile_sublist _).subset forsaken

/-- In a run with a last move, a result is forsaken before that move or by it. -/
theorem forsaken_concat {moves : List Move} {move : Move} :
    Forsaken (moves ++ [move]) ↔ Forsaken moves ∨ (move = .drop ∧ .conclude ∈ moves) := by
  induction moves with
  | nil => by_cases concludes : move = .conclude <;> simp [Forsaken, concludes]
  | cons first rest ih =>
    simp only [Forsaken, ne_eq, decide_not] at ih
    -- From the conclusion on, every drop counts.
    by_cases concludes : first = .conclude
    · simp [Forsaken, concludes, eq_comm]
    · simp [Forsaken, concludes, ih, Ne.symm concludes]

/-- Nothing is forsaken before there is a result. -/
theorem not_forsaken_of_open {moves : List Move} (unconcluded : .conclude ∉ moves) :
    ¬ Forsaken moves := by
  -- The induction is on the last move, since forsaking takes a conclusion before the drop.
  induction moves using List.reverseRecOn with
  | nil => simp [Forsaken]
  | append_singleton moves move ih =>
    rw [List.mem_append, not_or] at unconcluded
    simp [forsaken_concat, ih unconcluded.1, unconcluded.1]

/-- What is left of a verdict when the token is dropped. -/
def Verdict.dropped : Verdict → Verdict
  | .delivered _ => .spent
  | other => other

/-- What is left of a verdict when nothing serves the flight any more. -/
def Verdict.abandoned : Verdict → Verdict
  | .undecided | .reporting _ => .lost
  | other => other

namespace Flight

/--
Where the failures of a result are, by what has become of it.

The last two lists are those that were returned to a caller of a join and those that were reported.
-/
inductive Custody (moves : List Move) (result : DispatchResult) :
    Bool → Verdict → List Failure → List Failure → Prop
  | undecided {watched : Bool} (unconcluded : .conclude ∉ moves) :
    Custody moves result watched .undecided [] []
  /-- Only a result without failures is there from the beginning. -/
  | delivered (kept : .drop ∉ moves) (waits : .conclude ∈ moves ∨ result.failures = []) :
    Custody moves result true (.delivered result) [] []
  | reporting {told left : List Failure} (heeded : ¬ Forsaken moves)
    (parts : told ++ left = result.failures) :
    Custody moves result false (.reporting left) [] told
  | joined (heeded : ¬ Forsaken moves) : Custody moves result false .spent result.failures []
  | reported (heeded : ¬ Forsaken moves) : Custody moves result false .spent [] result.failures
  | forsaken (dropped : Forsaken moves) : Custody moves result false .spent [] []
  /-- What was still to be reported goes with the flight. -/
  | lost {watched : Bool} {told left : List Failure} (parts : told ++ left = result.failures) :
    Custody moves result watched .lost [] told

namespace Custody

variable {moves : List Move} {result answer : DispatchResult} {watched : Bool} {verdict : Verdict}
  {given told left : List Failure} {failure : Failure}

/-- Most moves leave it as it was where the failures are. -/
theorem concat (custody : Custody moves result watched verdict given told) {move : Move}
    (kept : move ≠ .drop) (other : move ≠ .conclude) :
    Custody (moves ++ [move]) result watched verdict given told := by
  -- Only a drop can make a result forsaken.
  have same : Forsaken (moves ++ [move]) ↔ Forsaken moves := by simp [forsaken_concat, kept]
  cases custody with
  | undecided unconcluded => exact .undecided (by simp [unconcluded, Ne.symm other])
  | delivered still waits =>
    exact .delivered (by simp [still, Ne.symm kept]) (waits.imp_left (List.mem_append_left _))
  | reporting heeded parts => exact .reporting (same.not.mpr heeded) parts
  | joined heeded => exact .joined (same.not.mpr heeded)
  | reported heeded => exact .reported (same.not.mpr heeded)
  | forsaken dropped => exact .forsaken (same.mpr dropped)
  | lost parts => exact .lost parts

/-- A result that is not decided may become another one. -/
theorem recount (custody : Custody moves result watched .undecided given told)
    (other : DispatchResult) : Custody moves other watched .undecided given told := by
  -- An undecided result has given nobody anything yet.
  cases custody with
  | undecided unconcluded => exact .undecided unconcluded

/-- Failures that are to be reported are reported as long as there are any. -/
theorem ofReporting (heeded : ¬ Forsaken moves) (parts : told ++ left = result.failures) :
    Custody moves result false (reportingVerdict left) [] told := by
  -- The last failure that is told of ends the reporting.
  cases left with
  | nil =>
    rw [List.append_nil] at parts
    exact parts ▸ .reported heeded
  | cons first rest => exact .reporting heeded parts

/-- The conclusion hands the failures to the token, if somebody holds it. -/
theorem conclude (custody : Custody moves result true .undecided given told)
    (kept : .drop ∉ moves) :
    Custody (moves ++ [.conclude]) result true (.delivered result) given told := by
  -- Without a result, nothing was returned or reported.
  cases custody
  exact .delivered (by simp [kept]) (Or.inl (by simp))

/-- The conclusion leaves the failures to be reported when the token is gone. -/
theorem concludeUnwatched (custody : Custody moves result false .undecided given told) :
    Custody (moves ++ [.conclude]) result false (reportingVerdict result.failures) given told := by
  cases custody with
  | undecided unconcluded =>
    -- There was no result when the token was dropped.
    exact ofReporting (by simp [forsaken_concat, not_forsaken_of_open unconcluded])
      (List.nil_append _)

/-- A report takes the next failure to the sink. -/
theorem report (custody : Custody moves result watched (.reporting (failure :: left)) given told) :
    Custody (moves ++ [.report]) result watched (reportingVerdict left) given
      (told ++ [failure]) := by
  cases custody with
  | reporting heeded parts =>
    -- What was reported and what is left make up the result at all times.
    exact ofReporting (by simp [forsaken_concat, heeded]) (by simpa using parts)

/-- A join takes all failures. -/
theorem join (custody : Custody moves result true (.delivered answer) given told) :
    Custody (moves ++ [.join]) result false .spent (given ++ answer.failures) told := by
  cases custody with
  | delivered kept waits =>
    -- Whoever joins holds the token, so it was not dropped.
    exact .joined (by simpa [forsaken_concat] using fun dropped => kept (Forsaken.drop_mem dropped))

/-- A drop forsakes the failures that the token has got, and leaves the others to be reported. -/
theorem drop (custody : Custody moves result true verdict given told) :
    Custody (moves ++ [.drop]) result false verdict.dropped given told := by
  -- What the token has got by then goes with it, and an undecided result still finds out.
  cases custody with
  | undecided unconcluded => exact .undecided (by simp [unconcluded])
  | delivered kept waits =>
    by_cases concluded : .conclude ∈ moves
    · exact .forsaken (by simp [forsaken_concat, concluded])
    · -- The result that was there from the beginning has no failures.
      have heeded : ¬ Forsaken (moves ++ [.drop]) := not_forsaken_of_open (by simp [concluded])
      have nothing : ([] : List Failure) ++ [] = result.failures := by
        simp [waits.resolve_left concluded]
      exact ofReporting heeded nothing
  | lost parts => exact .lost parts

/-- What the fan-out and the conductor have not done is lost when the flight is abandoned. -/
theorem abandon (custody : Custody moves result watched verdict given told) :
    Custody (moves ++ [.abandon]) result watched verdict.abandoned given told := by
  -- Whoever was told of something before has been told of it still.
  have after : Custody (moves ++ [.abandon]) result watched verdict given told :=
    custody.concat (by simp) (by simp)
  cases custody with
  | undecided _ => exact .lost (List.nil_append _)
  | reporting _ parts => exact .lost parts
  | _ => exact after

/-- A failure is in at most as many places as there are in the result. -/
theorem count_le (custody : Custody moves result watched verdict given told)
    (failure : Failure) :
    given.count failure + told.count failure ≤ result.failures.count failure := by
  cases custody with
  | reporting _ parts | lost parts =>
    -- What is left to report has been told to nobody yet.
    rw [← parts, List.count_append]
    simp
  | _ => simp

/-- When a result has been dealt with, all its failures were taken, unless they were forsaken. -/
theorem count_spent (custody : Custody moves result watched .spent given told)
    (failure : Failure) :
    (¬ Forsaken moves → given.count failure + told.count failure = result.failures.count failure) ∧
      (Forsaken moves → given.count failure + told.count failure = 0) := by
  -- The result was joined, or reported, or dropped with the token.
  cases custody with
  | joined heeded | reported heeded => simp [heeded]
  | forsaken dropped => simp [dropped]

end Custody

section Moves

variable {flight next : Flight} {move : Move} {more : List Notice}

/-- A result is decided after the collector has left. -/
theorem departed_of_decided_advance (advance : flight.Advance move next more)
    (before : flight.verdict ≠ .undecided → flight.collector = .departed)
    (decided : next.verdict ≠ .undecided) : next.collector = .departed := by
  -- A collector that moves is still there, so that the result was not decided before.
  cases advance with
  | conclude departed _ _ | concludeUnwatched departed _ _ => exact departed
  | receive collecting _ | expire _ collecting _ => simp [before decided] at collecting
  | drain draining _ | timeOut draining _ _ => simp [before decided] at draining
  | departComplete | departTimedOut | abandon => rfl
  | report reporting => exact before (by simp [reporting])
  | join watched delivered => exact before (by simp [delivered])
  | drop watched =>
    refine before fun undecided => ?_
    simp [undecided] at decided
  | launch still undecided => exact absurd undecided decided
  | _ => exact before decided

/-- A token that is dropped stays so. -/
theorem watched_advance (advance : flight.Advance move next more)
    (watched : next.watched = true) : flight.watched = true ∧ move ≠ .drop := by
  -- A token that is gone is not given out again.
  cases advance with
  | join _ _ | joinLost _ _ | drop _ => cases watched
  | _ => exact ⟨watched, by simp⟩

/-- Every move hands the failures of a result on as its rule says. -/
theorem Custody.advance {moves : List Move} {given told : List Failure}
    (custody : Custody moves flight.tally flight.watched flight.verdict given told)
    (advance : flight.Advance move next more)
    (decided : flight.verdict ≠ .undecided → flight.collector = .departed)
    (kept : flight.watched = true → .drop ∉ moves) :
    Custody (moves ++ [move]) next.tally next.watched next.verdict (given ++ returned more)
      (told ++ flight.reported move) := by
  -- A collector that is still there counts for a result that is not decided.
  have counting : flight.collector ≠ .departed → ∀ result,
      Custody moves result flight.watched flight.verdict given told := by
    intro there result
    have undecided := Classical.not_not.mp fun settled => there (decided settled)
    rw [undecided] at custody ⊢
    exact custody.recount result
  cases advance with
  | conclude departed undecided watched =>
    rw [undecided, watched] at custody
    simpa [returned_cons, Notice.answer?, Flight.reported, watched] using
      custody.conclude (kept watched)
  | concludeUnwatched departed undecided unwatched =>
    rw [undecided, unwatched] at custody
    simpa [returned_cons, Notice.answer?, Flight.reported, unwatched] using
      custody.concludeUnwatched
  | report reporting =>
    rw [reporting] at custody
    simpa [returned_cons, Notice.answer?, Flight.reported, reporting] using custody.report
  | join watched settled =>
    rw [settled, watched] at custody
    simpa [returned_cons, Notice.answer?, Flight.reported] using custody.join
  | joinLost watched gone =>
    rw [gone, watched] at custody
    cases custody with
    | lost parts =>
      simpa [returned_cons, Notice.answer?, Flight.reported, gone] using Custody.lost parts
  | drop watched =>
    rw [watched] at custody
    simp only [returned_nil, Flight.reported, List.append_nil]
    exact custody.drop
  | abandon =>
    simp only [returned_nil, Flight.reported, List.append_nil]
    exact custody.abandon
  | receive collecting _ | expire _ collecting _ | departComplete collecting _ _ =>
    simp only [returned_nil, Flight.reported, List.append_nil]
    exact (counting (by simp [collecting]) _).concat (by simp) (by simp)
  | drain draining _ | timeOut draining _ _ =>
    simp only [returned_nil, Flight.reported, List.append_nil]
    exact (counting (by simp [draining]) _).concat (by simp) (by simp)
  | departTimedOut departing =>
    simp only [returned_nil, Flight.reported, List.append_nil]
    exact (counting (by simp [departing]) _).concat (by simp) (by simp)
  | start picked =>
    simpa [returned_cons, Notice.answer?, Flight.reported] using
      custody.concat (by simp) (by simp)
  | _ => simpa [Flight.reported] using custody.concat (by simp) (by simp)

end Moves

section Runs

variable {origin flight : Flight} {moves : List Move} {notices : List Notice}

/-- In every run, a result is decided after the collector has left. -/
theorem departed_of_decided (fresh : origin.Fresh)
    (ran : origin.replay? moves = some (flight, notices)) :
    flight.verdict ≠ .undecided → flight.collector = .departed := by
  -- A conclusion takes a collector that has left, and that never comes back.
  refine replay?_induction (motive := fun _ _ flight =>
    flight.verdict ≠ .undecided → flight.collector = .departed) ?_ ?_ ran
  · rcases fresh.opening with ⟨_, _, undecided⟩ | ⟨_, departed, _⟩
    · exact fun decided => absurd undecided decided
    · exact fun _ => departed
  · intro moves notices flight move next more _ before advance
    exact departed_of_decided_advance advance before

/-- Whoever still holds a token has not dropped it. -/
theorem not_drop_of_watched (ran : origin.replay? moves = some (flight, notices))
    (watched : flight.watched = true) : .drop ∉ moves := by
  -- Dropping the token is what takes it away, and there is no second one.
  refine replay?_induction (motive := fun moves _ flight =>
    flight.watched = true → .drop ∉ moves) (fun _ => by simp) ?_ ran watched
  intro moves notices flight move next more _ before advance watched
  obtain ⟨still, kept⟩ := watched_advance advance watched
  simp [before still, Ne.symm kept]

/-- In every run, the failures are where what has become of the result says. -/
theorem custody (fresh : origin.Fresh) (ran : origin.replay? moves = some (flight, notices)) :
    ∃ told, (sink notices).Perm ((origin.ledger {} moves).lateFailures ++ told) ∧
      Custody moves flight.tally flight.watched flight.verdict (returned notices) told := by
  -- What came too late goes past the result, so it is entered apart from what is told of it.
  refine ledger_induction (motive := fun moves notices flight ledger =>
    ∃ told, (sink notices).Perm (ledger.lateFailures ++ told) ∧
      Custody moves flight.tally flight.watched flight.verdict (returned notices) told) ?_ ?_ ran
  · -- In the beginning the token is there, and at most a result without failures.
    refine ⟨[], List.Perm.refl _, ?_⟩
    rw [fresh.watched, fresh.tally]
    rcases fresh.opening with ⟨_, _, undecided⟩ | ⟨_, _, delivered, _⟩
    · rw [undecided]
      exact .undecided (by simp)
    · rw [delivered]
      exact .delivered (by simp) (Or.inr rfl)
  · intro moves notices flight ledger move next more earlier before advance
    obtain ⟨told, gone, custody⟩ := before
    obtain ⟨late, entered, now⟩ := sink_advance advance ledger
    refine ⟨told ++ flight.reported move, ?_, ?_⟩
    · -- The sink gets what is entered as late, and what is reported.
      rw [entered, sink, List.filterMap_append]
      change (sink notices ++ sink more).Perm _
      rw [now]
      grind
    · rw [returned_append]
      exact custody.advance advance (departed_of_decided fresh earlier)
        (not_drop_of_watched earlier)

/-- No failure of the result is one that came too late. -/
theorem count_lateFailures_eq_zero (fresh : origin.Fresh)
    (ran : origin.replay? moves = some (flight, notices)) (up : .abandon ∉ moves)
    (genuine : ∀ move ∈ moves, move.isGenuine = true) (departed : flight.collector = .departed)
    {failure : Failure} (there : failure ∈ flight.tally.failures) :
    (origin.ledger {} moves).lateFailures.count failure = 0 := by
  -- A failure of the result is what its subscriber was counted with.
  obtain ⟨subscriber, fate⟩ :=
    mem_failures.mp ((failures_perm fresh ran up departed).mem_iff.mp there)
  obtain ⟨cause, rfl⟩ := (fates_own fresh ran up departed).2 subscriber _ fate failure rfl
  have known : ∀ other outcome, (other, outcome) ∈ (origin.ledger {} moves).late →
      (other, outcome) ∈ (origin.ledger {} moves).outcomes flight :=
    fun other outcome late => List.mem_append_right _ late
  refine count_failures_eq_zero (fun other outcome late =>
    outcome_isOwn fresh ran up (known other outcome late)) fun other outcome late same equal => ?_
  rcases List.mem_append.mp fate with taken | missing
  · -- Whoever was counted with its own outcome has sent nothing later.
    have alone := places_count_le_one fresh ran up subscriber.id
    have here := count_id_pos taken rfl
    have twice := count_id_pos late same
    omega
  · -- A handler does not say of itself that it is late.
    obtain ⟨after, _, tardy⟩ := (collected fresh ran up).overdue subscriber _ missing
    rcases outcome_reason fresh ran up (known other outcome late) with ⟨rfl, _⟩ | ⟨own, ended, rfl⟩
    · cases equal
    · cases own with
      | none => cases equal
      | some own =>
        have causes : own = .timedOut after := by
          simpa [Subscriber.failure] using
            congrArg (Option.map Failure.cause) (Outcome.done.inj (equal.trans tardy))
        exact absurd (genuine _ ended) (by simp [causes, Move.isGenuine])

/-- A failure of a result is in it once. -/
theorem count_tally_failures (fresh : origin.Fresh)
    (ran : origin.replay? moves = some (flight, notices)) (up : .abandon ∉ moves)
    (departed : flight.collector = .departed) {failure : Failure}
    (there : failure ∈ flight.tally.failures) : flight.tally.failures.count failure = 1 := by
  have counted := failures_perm fresh ran up departed
  obtain ⟨ids, own⟩ := fates_own fresh ran up departed
  -- It is the failure of one fate, and nobody has two.
  obtain ⟨subscriber, fate⟩ := mem_failures.mp (counted.mem_iff.mp there)
  obtain ⟨cause, rfl⟩ := own subscriber _ fate failure rfl
  rw [counted.count_eq]
  exact count_failures_eq_one own ids fate

/--
No failure of a result is observed twice, and each is observed once when the result has been dealt
with, unless it was forsaken.
-/
theorem observed_of_concluded (fresh : origin.Fresh)
    (ran : origin.replay? moves = some (flight, notices))
    (genuine : ∀ move ∈ moves, move.isGenuine = true) {result : DispatchResult}
    (concluded : .concluded result ∈ notices) {failure : Failure}
    (there : failure ∈ result.failures) :
    observed failure notices ≤ 1 ∧ (flight.verdict = .spent →
      (¬ Forsaken moves → observed failure notices = 1) ∧
        (Forsaken moves → observed failure notices = 0)) := by
  obtain ⟨served, between, earlier, serving⟩ := exists_served fresh ran
  obtain ⟨told, gone, custody⟩ := custody fresh ran
  obtain ⟨_, tally⟩ := (Flight.told fresh ran).concluded result concluded
  -- The result was complete before the flight was abandoned, if it was.
  have before : .concluded result ∈ earlier := by
    obtain ⟨later, rfl, final⟩ := serving.split ran
    refine (List.mem_append.mp concluded).resolve_right fun late => ?_
    simpa [Notice.isFinal] using final _ late
  obtain ⟨departed, same⟩ := (Flight.told fresh serving.ran).concluded result before
  have served_genuine : ∀ move ∈ served, move.isGenuine = true := by
    obtain ⟨_, rfl, _⟩ := serving.rest
    exact fun move made => genuine move (List.mem_append_left _ made)
  have late := count_lateFailures_eq_zero fresh serving.ran serving.up served_genuine departed
    (same ▸ there)
  have once := count_tally_failures fresh serving.ran serving.up departed (same ▸ there)
  rw [same] at once
  rw [tally] at custody
  -- None of what came too late is a failure of the result.
  have counted : observed failure notices =
      (returned notices).count failure + told.count failure := by
    rw [observed, gone.count_eq, List.count_append, serving.ledger_eq ran, late, Nat.zero_add]
  have bounded := custody.count_le failure
  refine ⟨by omega, fun spent => ?_⟩
  rw [spent] at custody
  obtain ⟨heeded, forsaken⟩ := custody.count_spent failure
  exact ⟨fun kept => by rw [counted, heeded kept, once], fun dropped => by
    rw [counted, forsaken dropped]⟩

/-- When all tasks have ended and the token is gone, the result has been dealt with. -/
theorem spent_of_finished (fresh : origin.Fresh)
    (ran : origin.replay? moves = some (flight, notices)) (finished : flight.tasks = 0)
    (gone : flight.watched = false) (served : flight.verdict ≠ .lost) :
    flight.verdict = .spent := by
  obtain ⟨_, _, custody⟩ := custody fresh ran
  rw [gone] at custody
  -- A result that waits to be taken or reported has a token or a task.
  cases verdict : flight.verdict with
  | undecided | reporting left => simp [tasks, verdict] at finished
  | delivered result =>
    rw [verdict] at custody
    cases custody
  | spent => rfl
  | lost => exact absurd verdict served

end Runs

end Flight

end EventBus
