import EventBus.Proofs.Dispatch.Punctuality
import EventBus.Proofs.Serial.Crew

/-!
A flight with a single slot in step with a plain loop over the same snapshot. At any time, what the
loop has still to do leads from a scene that mirrors that of the flight to the end of the loop.
-/

namespace EventBus

/-- The calls of a snapshot in the calling thread, one after the other. -/
structure Loop (σ : Type) where
  config : BusConfig
  cast : Cast σ
  event : Event
  subscribers : List Subscriber
  /-- The scene at which the snapshot has just been taken. -/
  opening : Scene σ

namespace Loop

variable {σ : Type} (loop : Loop σ)

/-- The index of a flight that is set going in the place of the loop. -/
def index : Nat := loop.opening.hub.voyages.length

/-- The handlers of the snapshot. -/
def held : List Handler := loop.subscribers.map Subscriber.handler

/-- The routines of the calls. -/
def parts : Parts σ := loop.cast.parts loop.config loop.event

/-- The rest of the loop, when some subscribers wait for their calls. -/
def rest : List Subscriber → Routine (Scene σ) (List Turn) :=
  .takeTurns (Routine.bus loop.config 0 (loop.cast.respond loop.config 0)).call loop.event

/-- The rest of the loop, when some handlers have their routines before them and others wait. -/
def remainder : List (Subscriber × Routine (Scene σ) Ending) → List Subscriber →
    Routine (Scene σ) (List Turn)
  | [], waiting => loop.rest waiting
  | (subscriber, routine) :: others, waiting => do
    let ending ← routine
    let turns ← remainder others waiting
    return ⟨subscriber, ending.cause⟩ :: turns

/-- What the whole loop comes to. -/
def upshot : Upshot (Scene σ) (List Turn) := (loop.rest loop.subscribers).run loop.opening

/-- The next subscriber that waits is the next that is called. -/
theorem run_rest_cons (subscriber : Subscriber) (waiting : List Subscriber) (scene : Scene σ) :
    (loop.rest (subscriber :: waiting)).run scene =
      (loop.remainder [(subscriber, loop.parts subscriber)] waiting).run scene := by
  -- The loop calls the first of the list, and what is left is the remainder with it at work.
  simp only [rest, Routine.run_takeTurns_cons, Routine.run_call, remainder, Routine.run_bind,
    Routine.run_pure, List.append_nil]
  rfl

/-- The routine of every call is blind. -/
theorem parts_blind (subscriber : Subscriber) : Routine.Blind loop.held (loop.parts subscriber) :=
  Routine.Blind.called ((loop.cast subscriber.handler loop.event).blind loop.config 0)

/-- A flight with one slot over the snapshot of the loop. -/
structure Solo (origin : Flight) : Prop where
  single : origin.slots = 1
  queued : origin.queued = loop.subscribers
  event_eq : origin.event = loop.event

/--
A flight that is in step with the loop.

The near scene is the one that the loop has come to, with the turns that it has behind it.
-/
structure Lockstep (stage : Stage σ) (voyage : Voyage) (near : Scene σ) (turns : List Turn) :
    Prop where
  manned : stage.Manned loop.held loop.index voyage
  solo : loop.Solo voyage.origin
  near_voyages : near.hub.voyages = loop.opening.hub.voyages
  mirrors : near.Mirrors loop.held voyage stage.scene
  /-- Everybody has had its turn, has it now or waits for it, in the order of the snapshot. -/
  order : turns.map Turn.subscriber ++
    (voyage.flight.running ++ (voyage.flight.submitted ++ voyage.flight.queued)) = loop.subscribers
  calls_eq : calls voyage.notices = turns.map Turn.subscriber ++ voyage.flight.running
  finished : ∀ id cause, .finish id cause ∈ voyage.moves ↔
    ∃ turn ∈ turns, turn.subscriber.id = id ∧ turn.cause = cause
  /-- What is left of the loop leads to its end. -/
  upshot : loop.upshot =
    let later := (loop.remainder stage.working
      (voyage.flight.submitted ++ voyage.flight.queued)).run near
    ⟨turns ++ later.answer, stage.marks ++ later.marks, later.world⟩

/-- Turns of distinct subscribers give everybody a fate. -/
theorem exists_fate {turns : List Turn} (distinct : (turns.map Turn.subscriber).Nodup) :
    ∃ fate : Subscriber → Outcome, ∀ turn ∈ turns,
      fate turn.subscriber = turn.subscriber.outcome turn.cause := by
  -- The fate is read off the first turn of the subscriber, and there is no second.
  refine ⟨fun subscriber => subscriber.outcome
    ((turns.find? (·.subscriber == subscriber)).bind Turn.cause), fun turn taken => ?_⟩
  cases found : turns.find? (·.subscriber == turn.subscriber) with
  | none => exact absurd (List.find?_eq_none.mp found turn taken) (by simp)
  | some first =>
    have same : first.subscriber = turn.subscriber := by simpa using List.find?_some found
    obtain rfl : first = turn :=
      List.inj_on_of_nodup_map distinct (List.mem_of_find?_eq_some found) taken same
    exact congrArg (fun found => first.subscriber.outcome (Option.bind found Turn.cause)) found

namespace Lockstep

variable {loop} {stage next : Stage σ} {voyage : Voyage} {near : Scene σ} {turns : List Turn}
  (lockstep : loop.Lockstep stage voyage near turns)

include lockstep

/-- When the flight has moved on, the scenes mirror each other still. -/
theorem mirrors_moved {move : Move} {later : Voyage} {more : List Notice}
    (advance : voyage.flight.Advance move later.flight more) :
    near.Mirrors loop.held later { stage.scene with
      hub.voyages := stage.scene.hub.voyages.set loop.index later } where
  hub :=
    { lockstep.mirrors.hub with
      voyages := by
        -- The voyage sits at the place where the near hub ends.
        simp [lockstep.mirrors.hub.voyages, index, ← lockstep.near_voyages]
      aboard := fun subscriber there =>
        lockstep.mirrors.hub.aboard subscriber (Flight.mem_held_of_advance advance there) }
  shared := lockstep.mirrors.shared

/-- No more is in progress than the one slot allows. -/
theorem busy_le : voyage.flight.busy ≤ 1 :=
  lockstep.solo.single ▸ Flight.busy_le_slots lockstep.manned.fresh voyage.replayed

/-- At most one handler is at work. -/
theorem working_le : stage.working.length ≤ 1 := by
  have busy := lockstep.busy_le
  -- As many are at work as the flight counts as running, and these are within its busy slots.
  have working := congrArg List.length lockstep.manned.working
  simp only [List.length_map, Flight.busy] at working busy
  omega

/-- The handler that is found at work is the only one. -/
theorem working_eq {id : Nat} {entry : Subscriber × Routine (Scene σ) Ending}
    (found : stage.working.find? (·.1.id == id) = some entry) :
    stage.working = [entry] ∧ entry.1.id = id := by
  have one := lockstep.working_le
  have there := List.mem_of_find?_eq_some found
  refine ⟨?_, by simpa using List.find?_some found⟩
  -- A list that has a member and no more than one is just this member.
  match working : stage.working with
  | [] => simp [working] at there
  | [only] =>
    rw [working, List.mem_singleton] at there
    rw [there]
  | first :: second :: rest => simp [working] at one

/-- A step of the handler at work is a step of the loop. -/
theorem work {id : Nat} {subscriber : Subscriber} {change : Scene σ → Scene σ}
    {marks : List Mark} {next : Scene σ → Routine (Scene σ) Ending}
    (keeps : stage.scene.hub.Keeps loop.held)
    (found : stage.working.find? (·.1.id == id) = some (subscriber, .step change marks next)) :
    loop.Lockstep
      { scene := change stage.scene
        marks := stage.marks ++ marks
        working := stage.working.map fun entry =>
          (entry.1, if entry.1.id = id then next stage.scene else entry.2) }
      voyage (change near) turns := by
  -- The handler that takes the step is the only one at work.
  obtain ⟨sole, rfl⟩ := lockstep.working_eq found
  have upshot := lockstep.upshot
  rw [sole] at upshot
  cases lockstep.manned.blind _ (List.mem_of_find?_eq_some found) with
  | step calm same later =>
    -- The routine is blind, so it goes the same way at the near scene as it does at the far one.
    obtain ⟨alike, mirrors⟩ := same lockstep.mirrors keeps
    exact {
      manned := lockstep.manned.work found
      solo := lockstep.solo
      near_voyages := (calm near).trans lockstep.near_voyages
      mirrors
      order := lockstep.order
      calls_eq := lockstep.calls_eq
      finished := lockstep.finished
      upshot := by
        -- The loop goes on from the near scene as the handler does from the far one.
        rw [upshot, sole, ← alike]
        simp only [List.map_cons, List.map_nil, if_true, remainder, Routine.run_bind, Routine.run,
          List.append_assoc] }

/-- A quiet move makes no difference to the loop. -/
theorem quiet {move : Move} {later : Voyage} (quiet : move.isQuiet = true)
    (extended : voyage.extend? move = some later) :
    loop.Lockstep { stage with
        scene.hub.voyages := stage.scene.hub.voyages.set loop.index later }
      later near turns := by
  obtain ⟨more, advance, notices⟩ := Voyage.advance_notices extended
  -- A quiet move passes nothing on to the handlers, which leaves the loop where it was.
  obtain ⟨running, waiting, silent⟩ :=
    Flight.quiet_advance advance quiet lockstep.manned.uncancelled
  obtain ⟨origin, moves⟩ := Voyage.extend?_eq_some extended
  exact {
    manned := lockstep.manned.quiet quiet extended
    solo := origin ▸ lockstep.solo
    near_voyages := lockstep.near_voyages
    mirrors := lockstep.mirrors_moved advance
    order := by
      rw [running, waiting]
      exact lockstep.order
    calls_eq := by
      rw [notices, calls_append, silent, List.append_nil, running]
      exact lockstep.calls_eq
    finished := fun id cause => by
      -- Who has ended is told by the finishing moves alone.
      have other : Move.finish id cause ≠ move := by rintro rfl; cases quiet
      rw [moves, List.mem_append, List.mem_singleton, or_iff_left other]
      exact lockstep.finished id cause
    upshot := by
      rw [waiting]
      exact lockstep.upshot }

/-- A handler begins when the loop comes to it. -/
theorem start {id : Nat} {later : Voyage} {subscriber : Subscriber} {rest : List Subscriber}
    (picked : Flight.pick? id voyage.flight.submitted = some (subscriber, rest))
    (extended : voyage.extend? (.start id) = some later) :
    loop.Lockstep { stage with
        scene.hub.voyages := stage.scene.hub.voyages.set loop.index later
        working := stage.working ++ [(subscriber, loop.parts subscriber)] }
      later near turns := by
  obtain ⟨more, advance, notices⟩ := Voyage.advance_notices extended
  obtain ⟨origin, moves⟩ := Voyage.extend?_eq_some extended
  obtain ⟨began, rfl⟩ := Flight.start_advance advance picked
  have moved := (Flight.perm_of_pick? picked).2.2
  -- The subscriber that begins takes the one slot, so nobody else is in progress.
  have busy := lockstep.busy_le
  have taken := moved.length_eq
  simp only [Flight.busy, taken, List.length_cons] at busy
  obtain rfl : rest = [] := List.eq_nil_of_length_eq_zero (by omega)
  have idle : voyage.flight.running = [] := List.eq_nil_of_length_eq_zero (by omega)
  have submitted : voyage.flight.submitted = [subscriber] := List.perm_singleton.mp moved
  have nobody : stage.working = [] := List.map_eq_nil_iff.mp (lockstep.manned.working.trans idle)
  have order := lockstep.order
  have called := lockstep.calls_eq
  have upshot := lockstep.upshot
  simp only [idle, submitted, nobody, List.nil_append, List.append_nil, List.singleton_append]
    at order called upshot
  -- The near scene stays as it is: the loop has merely come to its next call.
  exact {
    manned := lockstep.manned.start picked extended (loop.parts_blind subscriber)
    solo := origin ▸ lockstep.solo
    near_voyages := lockstep.near_voyages
    mirrors := lockstep.mirrors_moved advance
    order := by
      simp only [began, idle, List.nil_append, List.singleton_append]
      exact order
    calls_eq := by
      simp only [notices, calls_append, called, began, idle, List.nil_append]
      rfl
    finished := fun id cause => by
      rw [moves, List.mem_append, List.mem_singleton, or_iff_left (by simp)]
      exact lockstep.finished id cause
    upshot := by
      rw [upshot, nobody, began, List.nil_append, List.nil_append]
      exact congrArg (fun later : Upshot (Scene σ) (List Turn) =>
        (⟨turns ++ later.answer, stage.marks ++ later.marks, later.world⟩ : Upshot _ _))
        (loop.run_rest_cons subscriber voyage.flight.queued near) }

/-- A handler that has ended has had its turn. -/
theorem finish {id : Nat} {later : Voyage} {subscriber : Subscriber} {ending : Ending}
    (found : stage.working.find? (·.1.id == id) = some (subscriber, .done ending))
    (extended : voyage.extend? (.finish id ending.cause) = some later) :
    loop.Lockstep { stage with
        scene.hub.voyages := stage.scene.hub.voyages.set loop.index later
        working := stage.working.eraseP (·.1.id == id) }
      later near (turns ++ [⟨subscriber, ending.cause⟩]) := by
  obtain ⟨more, advance, notices⟩ := Voyage.advance_notices extended
  obtain ⟨origin, moves⟩ := Voyage.extend?_eq_some extended
  obtain ⟨other, rest, picked, rfl, ended⟩ := Flight.finish_advance advance
  obtain ⟨sole, rfl⟩ := lockstep.working_eq found
  have running := lockstep.manned.working
  rw [sole, List.map_cons, List.map_nil] at running
  have order := lockstep.order
  have called := lockstep.calls_eq
  have upshot := lockstep.upshot
  -- Nobody is left running when the one that runs has ended.
  rw [← running] at picked order called
  have alone := (Flight.perm_of_pick? picked).2.2
  obtain ⟨rfl, rfl⟩ : other = subscriber ∧ rest = [] := by
    simpa using (List.singleton_perm.mp alone).symm
  -- The turn is over, with the cause of which the flight was told.
  exact {
    manned := lockstep.manned.finish extended
    solo := origin ▸ lockstep.solo
    near_voyages := lockstep.near_voyages
    mirrors := lockstep.mirrors_moved advance
    order := by
      rw [List.map_append, ended, List.append_assoc]
      exact order
    calls_eq := by
      rw [notices, List.append_nil, called, List.map_append, ended, List.append_nil]
      rfl
    finished := fun id cause => by
      rw [moves, List.mem_append, List.mem_singleton, lockstep.finished id cause]
      simp only [List.mem_append, List.mem_singleton, or_and_right, exists_or, exists_eq_left,
        Move.finish.injEq]
      grind
    upshot := by
      -- The routine has come to its end, so the loop goes on with those who wait.
      rw [upshot, sole, ended]
      simp [remainder, Routine.run_bind, Routine.run] }

/-- Whatever comes next, the flight stays in step with the loop. -/
theorem step (keeps : stage.scene.hub.Keeps loop.held)
    (step : stage.Step loop.config loop.index loop.parts next) :
    ∃ voyage near turns, loop.Lockstep next voyage near turns := by
  -- Every rule speaks of the one voyage at this place.
  cases step with
  | work found => exact ⟨_, _, _, lockstep.work keeps found⟩
  | quiet quiet sailing extended =>
    obtain rfl := Option.some.inj (lockstep.manned.sailing.symm.trans sailing)
    exact ⟨_, _, _, lockstep.quiet quiet extended⟩
  | start picked sailing extended =>
    obtain rfl := Option.some.inj (lockstep.manned.sailing.symm.trans sailing)
    exact ⟨_, _, _, lockstep.start picked extended⟩
  | finish found sailing extended =>
    obtain rfl := Option.some.inj (lockstep.manned.sailing.symm.trans sailing)
    exact ⟨_, _, _, lockstep.finish found extended⟩

/-- When the fan-out has ended, the loop has come to its end as well. -/
theorem ended (ended : voyage.flight.fanOutEnded = true) :
    stage.working = [] ∧ turns.map Turn.subscriber = loop.subscribers ∧
      loop.upshot = ⟨turns, stage.marks, near⟩ := by
  have nobody := (Flight.unended_of_fanOutEnded ended).1
  obtain ⟨queued, submitted, running⟩ : voyage.flight.queued = [] ∧
      voyage.flight.submitted = [] ∧ voyage.flight.running = [] := by
    simpa [Flight.unended] using nobody
  have order := lockstep.order
  have upshot := lockstep.upshot
  have idle : stage.working = [] := List.map_eq_nil_iff.mp (lockstep.manned.working.trans running)
  simp only [queued, submitted, running, idle, List.append_nil] at order upshot
  refine ⟨idle, order, upshot.trans ?_⟩
  -- Nothing is left of the loop.
  simp only [remainder, rest, Routine.takeTurns, Routine.run_pure, List.append_nil]

end Lockstep

end Loop

end EventBus
