import EventBus.Proofs.Lock.Settling

/-!
A handler may call back into the bus as it dies. It dies behind the task that gives it up, which has
its answer by then and its change in the registry, and in a thread that does not hold the lock.
-/

namespace EventBus.Locked

namespace Machine

variable {machine : Machine} {index : Nat} {thread : Thread}

/-- A step of a disciplined machine changes the registry as a section does, if at all. -/
theorem Disciplined.evolves_step {move : Move} {next : Machine} (disciplined : machine.Disciplined)
    (stepped : machine.Step move next) : machine.registry.Evolves next.registry := by
  -- Only an instruction of a writer changes the registry; a handler that acts finds it unchanged.
  cases stepped with
  | goBack found done behind => exact .refl
  | @proceed thread instruction rest result after found upcoming free ran plain =>
    obtain ⟨known, follows, stage⟩ := disciplined.stage found upcoming
    rcases stage.permits.registry follows.tracks move.order ran with same | ⟨_, evolves⟩
    · show machine.registry.Evolves after.registry
      exact same ▸ .refl
    · exact evolves
  | @act thread instruction rest result after resume found upcoming ran acts =>
    obtain ⟨known, follows, stage⟩ := disciplined.stage found upcoming
    have same := (interrupted stage.permits follows.tracks (owners_view found) ran acts).2.2.1
    have unchanged : after.registry = machine.registry := congrArg View.registry same
    show machine.registry.Evolves after.registry
    exact unchanged ▸ .refl

/-- The registry evolves as a disciplined machine runs. -/
theorem Disciplined.evolves {moves : List Move} {last : Machine} (disciplined : machine.Disciplined)
    (ran : machine.run? moves = some last) : machine.registry.Evolves last.registry := by
  -- Only a disciplined machine changes its registry by sections, so both go together.
  let Later (middle : Machine) : Prop :=
    middle.Disciplined ∧ machine.registry.Evolves middle.registry
  have step {middle next : Machine} {move : Move} (held : Later middle)
      (stepped : middle.Step move next) : Later next :=
    ⟨held.1.step stepped, held.2.trans (held.1.evolves_step stepped)⟩
  exact (run?_induction step ran ⟨disciplined, .refl⟩).2

/--
A handler dies in a move, and the thread that has given it up does next what the handler says.

The task that it was given up by is complete, and answers what it would have answered anyway.
-/
inductive Ends (machine : Machine) (move : Move) (handler : Handler) : Machine → Prop
  | intro {thread : Thread} {task : Task} (after : task.Result → Client) (answer : task.Result)
    (released : List Handler) (records : List LogRecord)
    (found : machine.threads[move.thread]? = some thread) (free : thread.holding = none)
    (settles : thread.code =
      Client.settling after { answer, released := handler :: released, records })
    (complete : ∀ moves later, machine.run? moves = some later →
      task.Complete answer later.registry) :
    Ends machine move handler (machine.put move.thread
      { machine.view thread with hand := fun _ => 0 } move.script.procedure
      (⟨((machine.view thread).lose [handler]).hand,
        fun _ => Client.settling after { answer, released, records }⟩ :: thread.outer))

/-- Where the last reference to a handler is lost, it is given up, and the handler acts at once. -/
theorem Disciplined.last_released {move : Move} {next : Machine} (disciplined : machine.Disciplined)
    (stepped : machine.Step move next) {handler : Handler} (alive : 0 < machine.owners handler)
    (dead : next.owners handler = 0) :
    ∃ thread rest, machine.threads[move.thread]? = some thread ∧
      thread.code = .step (.release handler) rest ∧ machine.owners handler = 1 ∧
      next = machine.put move.thread { machine.view thread with hand := fun _ => 0 }
        move.script.procedure
        (⟨((machine.view thread).lose [handler]).hand, fun _ => rest ()⟩ :: thread.outer) := by
  cases stepped with
  | @goBack thread cause frame outer found done behind =>
    -- What the handler has left behind is still there.
    rw [owners_put found] at dead
    rw [← owners_view found] at alive
    simp only [View.owners, view, afar, behind, List.map_cons, List.sum_cons] at alive dead
    omega
  | @proceed thread instruction rest result after found upcoming free ran plain =>
    obtain ⟨known, follows, stage⟩ := disciplined.stage found upcoming
    have kept := stage.permits.owners follows.tracks move.order ran handler
    rw [owners_view found, ← owners_put found after (rest result), dead] at kept
    have gives : 0 < instruction.gives handler := by omega
    obtain ⟨rfl, single⟩ := Instruction.eq_release_of_gives gives
    -- It was the last one, so its handler would have died.
    have last : machine.owners handler = 1 := by omega
    simp [interrupt, last] at plain
  | @act thread instruction rest result after resume found upcoming ran acts =>
    obtain ⟨known, follows, stage⟩ := disciplined.stage found upcoming
    have kept := stage.permits.owners follows.tracks move.order ran handler
    -- What the thread had in hand is in the frame now.
    have passed : (machine.put move.thread { after with hand := fun _ => 0 } move.script.procedure
        (⟨after.hand, fun cause => rest (resume cause)⟩ :: thread.outer)).owners handler =
          after.owners (machine.afar move.thread thread.outer) handler := by
      rw [owners_put found]
      simp only [View.owners, afar, List.map_cons, List.sum_cons]
      omega
    rw [owners_view found, ← passed, dead] at kept
    have gives : 0 < instruction.gives handler := by omega
    obtain ⟨rfl, single⟩ := Instruction.eq_release_of_gives gives
    cases ran
    exact ⟨thread, rest, found, upcoming, by omega, rfl⟩

/-- The last reference to a handler is given up without the lock, by a task that is complete. -/
theorem Disciplined.ends {move : Move} {next : Machine} (disciplined : machine.Disciplined)
    (stepped : machine.Step move next) {handler : Handler} (alive : 0 < machine.owners handler)
    (dead : next.owners handler = 0) : machine.Ends move handler next := by
  obtain ⟨thread, rest, found, upcoming, single, rfl⟩ :=
    disciplined.last_released stepped alive dead
  obtain ⟨known, follows, stage⟩ := disciplined.stage found upcoming
  -- The reference that is given up is the only one there is, so it is the only one in hand.
  have hand : known.hand handler ≤ 1 := by
    have total := congrFun (owners_view found) handler
    have own : known.hand handler = thread.hand handler := congrFun follows.hand handler
    simp only [View.owners, view] at total
    omega
  obtain ⟨task, after, ⟨answer, _, records⟩, released, rfl, rfl, answered⟩ := stage.settles hand
  refine .intro after answer released records found ?_ upcoming fun moves later ran => ?_
  · exact follows.holding.symm.trans answered.free
  · exact (answered.complete.evolves follows.evolves).evolves (disciplined.evolves ran)

/-- Putting a thread where it is changes nothing. -/
theorem put_view (found : machine.threads[index]? = some thread) :
    machine.put index (machine.view thread) thread.code thread.outer = machine := by
  -- The thread is put in the place where it stands.
  obtain ⟨inside, rfl⟩ := List.getElem?_eq_some_iff.mp found
  exact congrArg (fun threads => { machine with threads }) (List.set_getElem_self inside)

/-- What a thread does not have in hand stays where it is while the thread goes on. -/
theorem afar_put (view : View) (code : Procedure (Option Cause)) (outer more : List Frame) :
    (machine.put index view code outer).afar index more = machine.afar index more := by
  -- All other threads and what is kept elsewhere are as they were.
  funext handler
  simp only [afar, put, List.eraseIdx_set_eq]

/-- Of a thread that is put twice the second time is what counts. -/
theorem put_put (first second : View) (code later : Procedure (Option Cause))
    (outer more : List Frame) :
    (machine.put index first code outer).put index second later more =
      machine.put index second later more := by
  -- The second time overwrites the first.
  simp only [put, List.set_set]

/-- While the others rest, a thread carries out a procedure in which it lets no handler act. -/
theorem Disciplined.runs_alone {α : Type} {procedure : Procedure α}
    {next : α → Procedure (Option Cause)} {post : α → View → Prop}
    (disciplined : machine.Disciplined)
    (found : machine.threads[index]? = some thread) (upcoming : thread.code = procedure >>= next)
    (resting : ∀ other another, other ≠ index → machine.threads[other]? = some another →
      another.holding = none)
    (safe : Safe (.idle (machine.afar index thread.outer)) procedure (machine.view thread) post)
    (choices : Nat → Move) (own : ∀ turn, (choices turn).thread = index) :
    ∃ count value later, post value later ∧
      machine.run? ((List.range count).map choices) =
        some (machine.put index later (next value) thread.outer) := by
  -- The induction is on the procedure; all that the thread does not have in hand stays as it is.
  induction procedure generalizing machine thread choices with
  | done value =>
    refine ⟨0, value, machine.view thread, safe, ?_⟩
    rw [show next value = thread.code from upcoming.symm, put_view found]
    rfl
  | step instruction rest ih =>
    have permits : instruction.Permits (.idle (machine.afar index thread.outer))
      (machine.view thread) fun result later => Safe _ (rest result) later post := safe
    have free : machine.waits thread instruction = false := by
      cases instruction with
      | lock mode =>
        refine waits_eq_false (fun another listed => ?_) permits.1 _
        obtain ⟨other, there⟩ := List.getElem?_of_mem listed
        by_cases same : other = index
        · subst same
          rw [found] at there
          exact Option.some.inj there ▸ permits.1
        · exact resting other another same there
      | _ => rfl
    have tracks : (Company.idle (machine.afar index thread.outer)).Tracks
      (machine.afar index thread.outer) (machine.view thread) (machine.view thread) := ⟨rfl, rfl⟩
    cases ran : instruction.run (machine.afar index thread.outer) (choices 0).order
      (machine.view thread) with
    | mk result after =>
    obtain ⟨after, safe, _, rfl⟩ := permits.run tracks disciplined.intact (choices 0).order ran
    -- With the others at rest, nothing that is permitted lets a handler act.
    have plain : machine.interrupt instruction = none :=
      Option.eq_none_iff_forall_ne_some.mpr fun resume acts => by
        cases (interrupted permits tracks (owners_view found) ran acts).1
    have made : machine.step? (choices 0) =
        some (machine.put index after (rest result >>= next) thread.outer) := by
      rw [← own 0] at found ran ⊢
      exact step?_proceed found upcoming free ran plain
    have here := put_self found after (rest result >>= next) thread.outer
    have still (other : Nat) (another : Thread) (differs : other ≠ index)
        (there : (machine.put index after (rest result >>= next) thread.outer).threads[other]? =
          some another) : another.holding = none :=
      resting other another differs (put_other differs after _ _ ▸ there)
    obtain ⟨count, value, later, reached, went⟩ := ih result
      (disciplined.step (step_of_step? made)) here rfl still (by rw [afar_put]; exact safe)
      (fun turn => choices (turn + 1)) fun turn => own (turn + 1)
    -- One more move has been made, and the rest of the procedure has taken the others.
    refine ⟨count + 1, value, later, reached, ?_⟩
    rw [List.range_succ_eq_map, List.map_cons, List.map_map, run?, made]
    exact went.trans (congrArg some (put_put _ _ _ _ _ _))

/-- A task that nobody disturbs is done as the bus does it, before anything is given up. -/
theorem Disciplined.serves_alone {task : Task} {after : task.Result → Client}
    {effect : StateM Hub task.Result} (disciplined : machine.Disciplined)
    (found : machine.threads[index]? = some thread)
    (upcoming : thread.code = Client.procedure (.step task after))
    (known : task.effect? = some effect) (allowed : task.allowed thread.hand machine.born = true)
    (resting : ∀ other another, other ≠ index → machine.threads[other]? = some another →
      another.holding = none)
    (choices : Nat → Move) (own : ∀ turn, (choices turn).thread = index) :
    ∃ count remainder later,
      (∀ more, machine.run? ((List.range count).map choices ++ more) =
        (machine.put index later (Client.settling after remainder) thread.outer).run? more) ∧
      task.Complete remainder.answer later.registry ∧
      effect ((machine.view thread).hub (machine.afar index thread.outer)) =
        (remainder.answer, (later.settled remainder).hub (machine.afar index thread.outer)) := by
  -- A thread that is about to attempt a task does not hold the lock.
  have free : thread.holding = none := by
    obtain ⟨known, follows, stage⟩ := disciplined.running found
    obtain ⟨later, first⟩ : ∃ later, task.attempt = .step (.may task) later := ⟨_, rfl⟩
    rw [upcoming, Client.procedure_step, first] at stage
    exact follows.holding.symm.trans stage.permits.1
  have safe : Safe (.idle (machine.afar index thread.outer)) task.attempt (machine.view thread) _ :=
    safe_attempt disciplined.intact free (by rw [known]; nofun)
  obtain ⟨count, outcome, later, ⟨_, refused, served⟩, ran⟩ := disciplined.runs_alone found
    (upcoming.trans (Client.procedure_step after)) resting safe choices own
  cases outcome with
  | none =>
    -- The thread holds what the task needs, so it takes the task on.
    have denied : false = task.allowed thread.hand machine.born := refused rfl
    rw [allowed] at denied
    cases denied
  | some remainder =>
    have served := served remainder rfl
    exact ⟨count, remainder, later, run?_append ran, .of_served served,
      served.agrees _ effect rfl known⟩

/-- What makes it harmless for a handler to call back into the bus as it dies. -/
structure Reentrant (machine : Machine) : Prop where
  /-- A handler dies without the lock, and behind the task that has given it up. -/
  ends : ∀ {move : Move} {next : Machine} {handler : Handler}, machine.step? move = some next →
    0 < machine.owners handler → next.owners handler = 0 → machine.Ends move handler next
  /-- Who waits for the lock does not hold it, and is let in without doing anything itself. -/
  waits : ∀ {index : Nat} {thread : Thread} {mode : Mode}
    {next : Unit → Procedure (Option Cause)}, machine.threads[index]? = some thread →
    thread.code = .step (.lock mode) next → thread.holding = none ∧
      ∃ moves later, (∀ move ∈ moves, move.thread ≠ index) ∧ machine.run? moves = some later ∧
        later.threads[index]? = some thread ∧
        ∀ move : Move, move.thread = index → (later.step? move).isSome = true
  /-- Nobody waits for anything else. -/
  goesOn : ∀ {move : Move} {thread : Thread}, machine.threads[move.thread]? = some thread →
    (∀ mode next, thread.code ≠ .step (.lock mode) next) →
    (∀ cause, thread.code = .done cause → thread.outer ≠ []) →
    (machine.step? move).isSome = true
  /--
  A task that nobody disturbs comes to where the bus comes, with the same answer, up to what it has
  still to give up. Only from there on, handlers may die and do whatever they do.
  -/
  serves : ∀ {index : Nat} {thread : Thread} {task : Task} {after : task.Result → Client}
    {effect : StateM Hub task.Result}, machine.threads[index]? = some thread →
    thread.code = Client.procedure (.step task after) → task.effect? = some effect →
    task.allowed thread.hand machine.born = true →
    (∀ other another, other ≠ index → machine.threads[other]? = some another →
      another.holding = none) →
    ∀ choices : Nat → Move, (∀ turn, (choices turn).thread = index) →
      ∃ count remainder later,
        (∀ more, machine.run? ((List.range count).map choices ++ more) =
          (machine.put index later (Client.settling after remainder) thread.outer).run? more) ∧
        task.Complete remainder.answer later.registry ∧
        effect ((machine.view thread).hub (machine.afar index thread.outer)) =
          (remainder.answer, (later.settled remainder).hub (machine.afar index thread.outer))
  /-- What handlers do that die takes place before the client goes on, with the same answer. -/
  settles : ∀ {index : Nat} {thread : Thread} {task : Task} {after : task.Result → Client}
    {remainder : Remainder task.Result} {moves : List Move} {last : Machine},
    machine.threads[index]? = some thread → thread.code = Client.settling after remainder →
    machine.run? moves = some last →
      (∃ now, last.threads[index]? = some now ∧
        now.Settles after remainder.answer thread.outer) ∨
      ∃ first second middle now, moves = first ++ second ∧ machine.run? first = some middle ∧
        middle.threads[index]? = some now ∧ now.Returns after remainder.answer thread.outer

/-- Whatever threads do at a registry behind its lock, handlers may call back as they die. -/
theorem Reachable.reentrant (reachable : machine.Reachable) : machine.Reentrant where
  -- Each part is one of the lemmas on disciplined machines.
  ends stepped := reachable.disciplined.ends (step_of_step? stepped)
  waits found upcoming := by
    have free := reachable.disciplined.free_of_lock found upcoming
    obtain ⟨moves, later, apart, ran, same, admitted⟩ := reachable.disciplined.let_in found free
    refine ⟨free, moves, later, apart, ran, same, fun move own => ?_⟩
    subst own
    exact isSome_step? same upcoming (admitted _)
  -- A thread that has come to its end goes back to the frame below it.
  goesOn {move thread} found unlocked unfinished := by
    cases upcoming : thread.code with
    | done cause =>
      obtain ⟨frame, outer, behind⟩ := List.exists_cons_of_ne_nil (unfinished cause upcoming)
      unfold step?
      rw [found]
      dsimp only
      rw [upcoming]
      dsimp only
      rw [behind]
      rfl
    | step instruction next =>
      refine isSome_step? found upcoming ?_
      cases instruction with
      | lock mode => exact absurd upcoming (unlocked mode next)
      | _ => rfl
  serves := reachable.disciplined.serves_alone
  settles found rest ran := run?_settles ran found (.between _ _ rest rfl)

end Machine

/-- A handler that belongs to nobody but its subscription. -/
def lastHandler : Handler := ⟨1, "last"⟩

/-- A client that hands its only reference over, and then ends the subscription. -/
def lastClient : Client :=
  .step (.request (.create lastHandler)) fun _ => .step (.give ⟨"a"⟩ lastHandler) fun
    | .ok handle => .step (.request (.unsubscribe handle)) fun _ => .done none
    | .error _ => .done none

/-- As the handler dies, it counts the subscriptions and closes the bus. -/
def lastMove : Move where
  thread := 0
  script := .step (.request .size) fun _ => .step (.request .close) fun _ => .done none
  order := ⟨id, List.Perm.refl⟩

/-- A handler that dies with its subscription finds that one gone, and may call back. -/
theorem lastReference_reentrant :
    ∃ machine next, (Machine.start 1 [lastClient]).run? (.replicate 13 lastMove) = some machine ∧
      machine.step? lastMove = some next ∧ machine.owners lastHandler = 1 ∧
      next.owners lastHandler = 0 ∧ next.registry.lists = [] ∧ machine.Reentrant := by
  -- The thirteen moves are made one by one, up to the release of the last reference.
  have held : (((Machine.start 1 [lastClient]).run? (.replicate 13 lastMove)).any fun machine =>
      (machine.step? lastMove).any fun next => machine.owners lastHandler = 1 ∧
        next.owners lastHandler = 0 ∧ next.registry.lists = []) = true := by
    decide +kernel
  simp only [Option.any_eq_true, decide_eq_true_eq] at held
  obtain ⟨machine, ran, next, stepped, alive, dead, gone⟩ := held
  have reachable : machine.Reachable := ⟨1, [lastClient], .replicate 13 lastMove, ran⟩
  exact ⟨machine, next, ran, stepped, alive, dead, gone, reachable.reentrant⟩

end EventBus.Locked
