import EventBus.Proofs.Dispatch.Cancellation
import EventBus.Proofs.Dispatch.Custody
import EventBus.Proofs.Hub.Closing

/-!
A tower is a hub together with the tracker of its tasks and the calls that wait for them. A flight
has two tasks: its conductor, and the fan-out that the conductor starts.
-/

namespace EventBus

namespace Flight

/-- The conductor of a flight has its result to come to, or failures to report. -/
def conducted (flight : Flight) : Bool :=
  match flight.verdict with
  | .undecided | .reporting _ => true
  | _ => false

/-- The fan-out of a flight has somebody to start or to hear from. -/
def fanningOut (flight : Flight) : Bool := flight.launched && !flight.fanOutEnded

/-- A flight keeps those of its two tasks going that have something to do. -/
theorem tasks_eq (flight : Flight) :
    flight.tasks = flight.conducted.toNat + flight.fanningOut.toNat := by
  -- Both sides are sums over the two tasks, so the stages can be gone through one by one.
  unfold tasks conducted fanningOut
  cases flight.verdict <;> cases flight.launched && !flight.fanOutEnded <;> rfl

/--
A flight owes something: an invocation that is not over, an outcome or a failure that is not handed
on, or a result that is neither delivered nor reported.
-/
def Owes (flight : Flight) : Prop :=
  flight.unended ≠ [] ∨ flight.ended ≠ [] ∨ flight.verdict = .undecided ∨
    ∃ left, flight.verdict = .reporting left

section Moves

variable {flight next : Flight} {move : Move} {more : List Notice}
  (advance : flight.Advance move next more)

include advance

/-- A conductor that has nothing to do gets nothing to do. -/
theorem conducted_of_advance (conducted : next.conducted = true) : flight.conducted = true := by
  -- What decides a verdict is never taken back, so each move is checked against the verdict.
  cases advance with
  | concludeUnwatched _ undecided _ => simp [Flight.conducted, undecided]
  | report reporting => simp [Flight.conducted, reporting]
  | drop watched =>
    cases verdict : flight.verdict <;> simp_all [Flight.conducted]
  | abandon =>
    cases verdict : flight.verdict <;> simp_all [Flight.conducted, abandoned]
  | conclude | join => simp [Flight.conducted] at conducted
  | _ => exact conducted

/-- A fan-out comes into being with the launch, and has nothing to do any more once it has ended. -/
theorem fanningOut_of_advance (fanning : next.fanningOut = true) :
    move = .launch ∨ flight.fanningOut = true := by
  -- After the launch only the end of the fan-out can stop it, and that is final.
  obtain ⟨launched, unended⟩ : next.launched = true ∧ next.fanOutEnded = false := by
    simpa [fanningOut] using fanning
  by_cases launch : move = .launch
  · exact Or.inl launch
  have before : flight.launched = true := by
    cases advance with
    | launch => exact absurd rfl launch
    | abandon => cases unended
    | _ => exact launched
  have busy : flight.fanOutEnded = false := by
    refine Bool.eq_false_iff.mpr fun ended => ?_
    cases (fanOutEnded_advance advance ended).symm.trans unended
  exact Or.inr (by simp [fanningOut, before, busy])

end Moves

section Runs

variable {origin flight : Flight} {moves : List Move} {notices : List Notice}

/-- A flight that has not been launched is still undecided. -/
theorem undecided_of_unlaunched (fresh : origin.Fresh)
    (ran : origin.replay? moves = some (flight, notices)) (unlaunched : flight.launched = false) :
    flight.collector = .collecting ∧ flight.verdict = .undecided := by
  -- The induction is on the moves, all of which keep the collector back until the launch.
  refine replay?_induction (motive := fun _ _ flight => flight.launched = false →
    flight.collector = .collecting ∧ flight.verdict = .undecided) ?_ ?_ ran unlaunched
  · intro unlaunched
    rcases fresh.opening with ⟨_, collecting, undecided⟩ | ⟨launched, _⟩
    · exact ⟨collecting, undecided⟩
    · cases launched.symm.trans unlaunched
  · intro moves notices flight move next more _ before advance unlaunched
    -- Whatever could end this is possible after the launch alone.
    cases advance with
    | launch | abandon => cases unlaunched
    | expire launched _ _ => cases launched.symm.trans unlaunched
    | timeOut draining _ _ => simp [before unlaunched] at draining
    | departComplete _ _ ended => cases (launched_of_fanOutEnded ended).symm.trans unlaunched
    | departTimedOut departing => simp [before unlaunched] at departing
    | conclude departed _ _ | concludeUnwatched departed _ _ => simp [before unlaunched] at departed
    | report reporting => simp [before unlaunched] at reporting
    | join _ delivered => simp [before unlaunched] at delivered
    | drop => exact ⟨(before unlaunched).1, by rw [(before unlaunched).2]⟩
    | _ => exact before unlaunched

/-- A flight that owes something keeps a task going. -/
theorem tasks_pos_of_owes (fresh : origin.Fresh)
    (ran : origin.replay? moves = some (flight, notices)) (owes : flight.Owes) :
    0 < flight.tasks := by
  -- Of what a flight can owe, calls and the end are up to the fan-out, all else to the conductor.
  rw [tasks_eq]
  have undecided_pos : flight.verdict = .undecided → 0 < flight.conducted.toNat := by
    intro undecided
    simp [conducted, undecided]
  by_cases launched : flight.launched = true
  · rcases owes with unended | ended | undecided | ⟨left, reporting⟩
    · have busy : flight.fanOutEnded = false :=
        Bool.eq_false_iff.mpr fun done => unended (unended_of_fanOutEnded done).1
      simp [fanningOut, launched, busy]
    · have busy : flight.fanOutEnded = false :=
        Bool.eq_false_iff.mpr fun done => ended (unended_of_fanOutEnded done).2
      simp [fanningOut, launched, busy]
    · exact Nat.add_pos_left (undecided_pos undecided) _
    · exact Nat.add_pos_left (by simp [conducted, reporting]) _
  · -- The conductor has the fan-out still to start.
    have undecided := (undecided_of_unlaunched fresh ran (by simpa using launched)).2
    exact Nat.add_pos_left (undecided_pos undecided) _

/-- A flight without a task has nothing left to do, and nothing more will come of it. -/
theorem dead_of_tasks_eq_zero (fresh : origin.Fresh)
    (ran : origin.replay? moves = some (flight, notices)) (idle : flight.tasks = 0) :
    flight.Dead := by
  -- An idle flight has neither of its tasks, and what each of them would do is done.
  rw [tasks_eq] at idle
  have conducted : flight.conducted = false := by
    cases same : flight.conducted <;> simp_all
  have decided : flight.verdict ≠ .undecided := by
    intro undecided
    simp [Flight.conducted, undecided] at conducted
  have launched : flight.launched = true := by
    refine Bool.of_not_eq_false fun unlaunched => ?_
    exact decided (undecided_of_unlaunched fresh ran unlaunched).2
  have ended : flight.fanOutEnded = true := by
    cases same : flight.fanOutEnded <;> simp_all [fanningOut]
  obtain ⟨unended, sent⟩ := unended_of_fanOutEnded ended
  obtain ⟨queued, submitted, running⟩ : flight.queued = [] ∧ flight.submitted = [] ∧
      flight.running = [] := by simpa [Flight.unended] using unended
  exact {
    launched, queued, submitted, running
    ended := sent
    collector := departed_of_decided fresh ran decided
    decided
    silent := fun left reporting => by simp [Flight.conducted, reporting] at conducted }

end Runs

end Flight

/-- A count of tasks that others can wait for. -/
structure TaskTracker where
  closed : Bool := false
  count : Nat := 0
  deriving DecidableEq, Repr

namespace TaskTracker

/-- The tracker with more tasks; it takes them even when it is closed. -/
def spawn (tracker : TaskTracker) (number : Nat) : TaskTracker :=
  { tracker with count := tracker.count + number }

/-- The tracker after the exit of a task. -/
def exit (tracker : TaskTracker) : TaskTracker := { tracker with count := tracker.count - 1 }

/-- The tracker once it is closed. -/
def close (tracker : TaskTracker) : TaskTracker := { tracker with closed := true }

/-- Whether those who wait may go on. -/
def isDone (tracker : TaskTracker) : Bool := tracker.closed && tracker.count == 0

end TaskTracker

/-- A task of the flight at an index. -/
inductive Task where
  /-- It collects the outcomes, and hands over the result or reports its failures. -/
  | conductor (index : Nat)
  /-- It starts the handlers, and sees each of them end. -/
  | fanOut (index : Nat)
  deriving DecidableEq, Repr

namespace Task

/-- Whether a task has done all it has to do. -/
def isOver (hub : Hub) : Task → Bool
  | conductor index => (hub.voyages[index]?).all fun voyage => !voyage.flight.conducted
  | fanOut index => (hub.voyages[index]?).all fun voyage => voyage.flight.fanOutEnded

/-- The tasks that come into being with an incident. -/
def spawned (later : Hub) : Incident → Answer → List Task
  | .publishAsync _ _, .launched (.ok index) =>
    -- A flight to nobody has its result from the beginning, and needs no task.
    match later.voyages[index]? with
    | some voyage => if voyage.flight.conducted then [conductor index] else []
    | none => []
  | .move index .launch, _ => [fanOut index]
  | _, _ => []

end Task

/-- A call that waits for the tasks of a bus. -/
structure Drain where
  /-- How many flights had begun when the call was made. -/
  begun : Nat
  returned : Bool := false
  deriving DecidableEq, Repr

/-- A hub with the tasks that are alive, their tracker, and all who have waited for them. -/
structure Tower where
  hub : Hub
  tracker : TaskTracker
  tasks : List Task
  drains : List Drain

/-- What happens at a tower. -/
inductive Tower.Act where
  /-- A client or a flight acts at the hub. -/
  | occur (incident : Incident)
  /-- A task that is over is taken out of the tracker. -/
  | exit (task : Task)
  /-- Somebody begins to wait for all tasks. -/
  | drain
  /-- A call that waits returns. -/
  | wake (index : Nat)

namespace Tower

variable (config : BusConfig)

/-- A tower at which nothing has happened yet. -/
def new (id : Nat) : Tower := ⟨.new id, {}, [], []⟩

/-- Whether an incident is the end of a runtime, with which all tasks of a flight end at once. -/
def shutsDown : Incident → Bool
  | .move _ .abandon => true
  | _ => false

/-- The tower after an act, or nothing where it is impossible; the runtime stays up. -/
def step? (tower : Tower) : Act → Option Tower
  | .occur incident =>
    if shutsDown incident then none
    else do
      let (answer, hub) ← tower.hub.step? config incident
      let tasks := Task.spawned hub incident answer
      -- A task is counted as long as the one that starts it is alive.
      let tracker := tower.tracker.spawn tasks.length
      return { tower with
        hub
        tasks := tower.tasks ++ tasks
        tracker := if Hub.closes (incident, answer) then tracker.close else tracker }
  | .exit task =>
    if task ∈ tower.tasks ∧ task.isOver tower.hub = true then
      some { tower with tasks := tower.tasks.erase task, tracker := tower.tracker.exit }
    else none
  | .drain =>
    -- The tracker is closed so that the call can return, and is never opened again.
    some { tower with
      tracker := tower.tracker.close
      drains := tower.drains ++ [{ begun := tower.hub.voyages.length }] }
  | .wake index => do
    let drain ← tower.drains[index]?
    if tower.tracker.isDone && !drain.returned then
      return { tower with drains := tower.drains.set index { drain with returned := true } }
    else none

/-- The towers that can come about, whatever happens in whichever order. -/
inductive Reachable : Tower → Prop
  | new (id : Nat) : Reachable (Tower.new id)
  | step {tower next : Tower} {act : Act} (before : Reachable tower)
    (happened : tower.step? config act = some next) : Reachable next

/-- The tower after a list of acts, if each of them is possible. -/
def run? (tower : Tower) : List Act → Option Tower
  | [] => some tower
  | act :: rest => do run? (← tower.step? config act) rest

variable {config}

/-- What can happen at a tower that can come about leads to another one. -/
theorem Reachable.run? {acts : List Act} {tower last : Tower} (reachable : tower.Reachable config)
    (ran : tower.run? config acts = some last) : last.Reachable config := by
  -- The induction is on the acts, with the tower that the first one leads to.
  induction acts generalizing tower with
  | nil =>
    cases ran
    exact reachable
  | cons act rest ih =>
    obtain ⟨next, happened, went⟩ := Option.bind_eq_some_iff.mp ran
    exact ih (reachable.step happened) went

end Tower

end EventBus
