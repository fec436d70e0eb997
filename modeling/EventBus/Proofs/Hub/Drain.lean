import EventBus.Proofs.Hub.Tower

/-!
Whoever waits for the tasks of a bus waits for everything that its flights owe. The tracker never
runs empty while one of them has something to do, and takes new tasks after any number of waits.
-/

namespace EventBus

/-- A voyage of which nothing is left but its token and perhaps its result. -/
structure Voyage.Finished (voyage : Voyage) : Prop where
  dead : voyage.flight.Dead
  /-- Everybody of its snapshot was called or passed over. -/
  everybody : (calls voyage.notices ++
    skippedOf ((voyage.origin.ledger {} voyage.moves).outcomes voyage.flight)).Perm
      voyage.origin.queued
  /-- Every call has ended. -/
  ended : ∀ subscriber ∈ calls voyage.notices, ∃ cause,
    .finish subscriber.id cause ∈ voyage.moves
  /-- Nobody is called any more, and no failure is still to be recorded. -/
  silent : ∀ {moves later notices}, voyage.flight.replay? moves = some (later, notices) →
    calls notices = [] ∧ sink notices = []

/-- A voyage whose flight is dead is finished, if its runtime has stayed up. -/
theorem Flight.Dead.finished {voyage : Voyage} (dead : voyage.flight.Dead)
    (fresh : voyage.origin.Fresh) (up : .abandon ∉ voyage.moves) : voyage.Finished where
  dead
  everybody := by
    refine called_perm_of_ended fresh voyage.replayed up ?_
    simp [fanOutEnded, dead.launched, dead.queued, dead.submitted, dead.running, dead.ended]
  ended subscriber called := by
    refine (finished_of_called fresh voyage.replayed up called).resolve_left ?_
    simp [dead.running]
  silent ran := by
    obtain ⟨_, idling, silent, _⟩ := dead.replay ran
    -- All that is noticed of the holder of a token is the end of its flight.
    refine ⟨List.filterMap_eq_nil_iff.mpr fun notice there => ?_, silent⟩
    have final := isFinal_of_idle ran idling notice there
    cases notice <;> simp_all [Notice.isFinal, Notice.called?]

namespace Tower

variable {config : BusConfig}

/-- What holds of a tower at all times. -/
structure Sound (config : BusConfig) (tower : Tower) : Prop where
  reachable : tower.hub.Reachable config
  counted : tower.tracker.count = tower.tasks.length
  up : ∀ {index : Nat} {voyage : Voyage}, tower.hub.voyages[index]? = some voyage →
    .abandon ∉ voyage.moves
  /-- A conductor that has something to do is alive. -/
  conducted : ∀ {index : Nat} {voyage : Voyage}, tower.hub.voyages[index]? = some voyage →
    voyage.flight.conducted = true → .conductor index ∈ tower.tasks
  /-- A fan-out that has something to do is alive. -/
  fanningOut : ∀ {index : Nat} {voyage : Voyage}, tower.hub.voyages[index]? = some voyage →
    voyage.flight.fanningOut = true → .fanOut index ∈ tower.tasks
  /-- Nothing is left of the flights that were there when a call was made that has returned. -/
  awaited : ∀ drain ∈ tower.drains, drain.begun ≤ tower.hub.voyages.length ∧
    (drain.returned = true → ∀ {index : Nat} {voyage : Voyage}, index < drain.begun →
      tower.hub.voyages[index]? = some voyage → voyage.flight.Dead)

namespace Sound

/-- A tower at which nothing has happened is sound. -/
theorem new (id : Nat) : (Tower.new id).Sound config where
  -- There is no flight, so nothing is owed and nobody waits.
  reachable := .new id
  counted := rfl
  up := by simp [Tower.new, Hub.new]
  conducted := by simp [Tower.new, Hub.new]
  fanningOut := by simp [Tower.new, Hub.new]
  awaited := by simp [Tower.new]

variable {tower : Tower} (sound : tower.Sound config)

include sound

/-- Every flight of the tower began over a snapshot. -/
theorem fresh {index : Nat} {voyage : Voyage}
    (sailing : tower.hub.voyages[index]? = some voyage) : voyage.origin.Fresh :=
  ((sound.reachable.sound config).voyages voyage (List.mem_of_getElem? sailing)).fresh

/-- The tracker is not empty as long as a flight has a task. -/
theorem count_pos {index : Nat} {voyage : Voyage}
    (sailing : tower.hub.voyages[index]? = some voyage) (busy : 0 < voyage.flight.tasks) :
    0 < tower.tracker.count := by
  rw [sound.counted]
  rw [Flight.tasks_eq] at busy
  -- One of the two tasks has something to do, and is alive.
  cases conducted : voyage.flight.conducted with
  | true => exact List.length_pos_of_mem (sound.conducted sailing conducted)
  | false =>
    have fanning : voyage.flight.fanningOut = true := by
      cases same : voyage.flight.fanningOut <;> simp_all
    exact List.length_pos_of_mem (sound.fanningOut sailing fanning)

/-- When the tracker is empty, nothing is left of any flight. -/
theorem dead_of_count {index : Nat} {voyage : Voyage} (empty : tower.tracker.count = 0)
    (sailing : tower.hub.voyages[index]? = some voyage) : voyage.flight.Dead := by
  -- A task that is left would be counted, and none is.
  refine Flight.dead_of_tasks_eq_zero (sound.fresh sailing) voyage.replayed ?_
  refine Nat.eq_zero_of_not_pos fun busy => ?_
  have counted := sound.count_pos sailing busy
  omega

/-- An incident keeps a tower sound, since every task that it makes necessary comes into being. -/
theorem occur {incident : Incident} {answer : Answer} {hub : Hub} {tracker : TaskTracker}
    (stays : shutsDown incident = false)
    (happened : tower.hub.step? config incident = some (answer, hub))
    (counted : tracker.count =
      tower.tracker.count + (Task.spawned hub incident answer).length) :
    Tower.Sound config { tower with
      hub, tracker, tasks := tower.tasks ++ Task.spawned hub incident answer } where
  -- What the incident does to a flight decides which tasks come into being.
  reachable := sound.reachable.step happened
  counted := by rw [counted, sound.counted, List.length_append]
  up sailing := by
    cases (Hub.course happened).origin sailing with
    | calm before => exact sound.up before
    | begun last new begun =>
      rw [new]
      exact List.not_mem_nil
    | @moved move earlier _ before extended =>
      rw [(Voyage.extend?_eq_some extended).2, List.mem_append, List.mem_singleton, not_or]
      refine ⟨sound.up before, fun abandoned => ?_⟩
      subst abandoned
      cases stays
  conducted sailing conducted := by
    cases (Hub.course happened).origin sailing with
    | calm before => exact List.mem_append_left _ (sound.conducted before conducted)
    | begun last new begun =>
      refine List.mem_append_right _ ?_
      simp only [Task.spawned, sailing, conducted, if_true, List.mem_singleton]
    | moved before extended =>
      obtain ⟨more, advance⟩ := Voyage.advance_of_extend? extended
      exact List.mem_append_left _
        (sound.conducted before (Flight.conducted_of_advance advance conducted))
  fanningOut sailing fanning := by
    cases (Hub.course happened).origin sailing with
    | calm before => exact List.mem_append_left _ (sound.fanningOut before fanning)
    | begun last new begun =>
      -- A flight that begins has no fan-out yet, or none to start.
      rw [new, Voyage.new] at fanning
      rcases begun.opening with flown | grounded
      · rw [flown] at fanning
        cases fanning
      · rw [grounded] at fanning
        cases fanning
    | moved before extended =>
      obtain ⟨more, advance⟩ := Voyage.advance_of_extend? extended
      rcases Flight.fanningOut_of_advance advance fanning with rfl | already
      · exact List.mem_append_right _ List.mem_cons_self
      · exact List.mem_append_left _ (sound.fanningOut before already)
  awaited drain there := by
    obtain ⟨begun, dead⟩ := sound.awaited drain there
    refine ⟨Nat.le_trans begun (Hub.course happened).length_le, fun returned => ?_⟩
    intro index voyage earlier sailing
    cases (Hub.course happened).origin sailing with
    | calm before => exact dead returned earlier before
    | begun last _ _ => omega
    | moved before extended =>
      obtain ⟨more, advance⟩ := Voyage.advance_of_extend? extended
      exact ((dead returned earlier before).advance advance).1

/-- A task that is over was not needed any more. -/
theorem exit {task : Task} (alive : task ∈ tower.tasks) (done : task.isOver tower.hub = true) :
    Tower.Sound config { tower with
      tasks := tower.tasks.erase task, tracker := tower.tracker.exit } :=
  -- The tasks that others wait for are not over, so this one is none of them.
  { sound with
    counted := by
      rw [List.length_erase_of_mem alive, ← sound.counted]
      rfl
    conducted := fun sailing conducted => by
      refine (List.mem_erase_of_ne ?_).mpr (sound.conducted sailing conducted)
      rintro rfl
      simp [Task.isOver, sailing, conducted] at done
    fanningOut := fun sailing fanning => by
      refine (List.mem_erase_of_ne ?_).mpr (sound.fanningOut sailing fanning)
      rintro rfl
      simp only [Task.isOver, sailing, Option.all_some] at done
      simp [Flight.fanningOut, done] at fanning }

/-- A call that begins to wait has not returned. -/
theorem drain : Tower.Sound config { tower with
    tracker := tower.tracker.close
    drains := tower.drains ++ [{ begun := tower.hub.voyages.length }] } :=
  { sound with
    -- A call that has just been made waits for what has begun by now.
    counted := sound.counted
    awaited := fun drain there => by
      rcases List.mem_append.mp there with before | new
      · exact sound.awaited drain before
      · rw [List.mem_singleton.mp new]
        exact ⟨Nat.le_refl _, nofun⟩ }

/-- A call returns only when nothing is left of any flight. -/
theorem wake {index : Nat} {drain : Drain} (waiting : tower.drains[index]? = some drain)
    (done : tower.tracker.isDone = true) :
    Tower.Sound config { tower with
      drains := tower.drains.set index { drain with returned := true } } :=
  { sound with
    -- The call that wakes up has seen an empty tracker.
    awaited := fun other there => by
      rcases List.mem_or_eq_of_mem_set there with before | rfl
      · exact sound.awaited other before
      · have empty : tower.tracker.count = 0 := by
          simpa using (Bool.and_eq_true_iff.mp done).2
        exact ⟨(sound.awaited drain (List.mem_of_getElem? waiting)).1,
          fun _ _ _ _ sailing => sound.dead_of_count empty sailing⟩ }

/-- Whatever happens at a sound tower leaves it sound. -/
theorem step {next : Tower} {act : Act} (happened : tower.step? config act = some next) :
    next.Sound config := by
  -- The acts are those of the hub, of a task, and of those who wait.
  cases act with
  | occur incident =>
    simp only [step?, Option.ite_none_left_eq_some, bind, pure, Option.bind_eq_some_iff,
      Option.some.injEq, Prod.exists] at happened
    obtain ⟨stays, answer, hub, incidental, rfl⟩ := happened
    refine sound.occur (by simpa using stays) incidental ?_
    split <;> rfl
  | exit task =>
    simp only [step?, Option.ite_none_right_eq_some, Option.some.injEq] at happened
    obtain ⟨⟨alive, done⟩, rfl⟩ := happened
    exact sound.exit alive done
  | drain =>
    obtain rfl := Option.some.inj happened
    exact sound.drain
  | wake index =>
    simp only [step?, bind, pure, Option.bind_eq_some_iff, Option.ite_none_right_eq_some,
      Option.some.injEq, Bool.and_eq_true] at happened
    obtain ⟨drain, waiting, ⟨done, _⟩, rfl⟩ := happened
    exact sound.wake waiting done

end Sound

/-- Every tower that can come about is sound. -/
theorem Reachable.sound {tower : Tower} (reachable : tower.Reachable config) :
    tower.Sound config := by
  -- The induction is on how the tower came about, act by act.
  induction reachable with
  | new id => exact .new id
  | step before happened ih => exact ih.step happened

/-- A later tower has the same calls and flights at the same places, and perhaps more of them. -/
structure Continues (earlier later : Tower) : Prop where
  drains : ∀ {index : Nat} {drain : Drain}, earlier.drains[index]? = some drain →
    ∃ same, later.drains[index]? = some same ∧ same.begun = drain.begun
  voyages : ∀ {index : Nat} {voyage : Voyage}, earlier.hub.voyages[index]? = some voyage →
    ∃ same, later.hub.voyages[index]? = some same ∧ same.origin = voyage.origin

namespace Continues

/-- A tower continues itself. -/
theorem refl (tower : Tower) : tower.Continues tower :=
  ⟨fun there => ⟨_, there, rfl⟩, fun there => ⟨_, there, rfl⟩⟩

/-- What continues a continuation continues the first tower. -/
theorem trans {first second third : Tower} (here : first.Continues second)
    (there : second.Continues third) : first.Continues third where
  -- Either part keeps what is at an index there, and so do the two together.
  drains found := by
    obtain ⟨_, between, begun⟩ := here.drains found
    obtain ⟨last, later, same⟩ := there.drains between
    exact ⟨last, later, same.trans begun⟩
  voyages found := by
    obtain ⟨_, between, origin⟩ := here.voyages found
    obtain ⟨last, later, same⟩ := there.voyages between
    exact ⟨last, later, same.trans origin⟩

/-- Every act leaves a tower that continues the one before it. -/
theorem step {tower next : Tower} {act : Act} (happened : tower.step? config act = some next) :
    tower.Continues next := by
  -- Incidents only add to the flights and acts only to the calls, and none is taken away.
  cases act with
  | occur incident =>
    simp only [step?, Option.ite_none_left_eq_some, bind, pure, Option.bind_eq_some_iff,
      Option.some.injEq, Prod.exists] at happened
    obtain ⟨_, answer, hub, incidental, rfl⟩ := happened
    refine ⟨fun there => ⟨_, there, rfl⟩, fun {index voyage} sailing => ?_⟩
    have course := Hub.course incidental
    have inside : index < hub.voyages.length :=
      Nat.lt_of_lt_of_le (List.getElem?_eq_some_iff.mp sailing).1 course.length_le
    have arrived : hub.voyages[index]? = some hub.voyages[index] :=
      List.getElem?_eq_getElem inside
    refine ⟨_, arrived, ?_⟩
    cases course.origin arrived with
    | calm before => exact congrArg Voyage.origin (Option.some.inj (before.symm.trans sailing))
    | begun last _ _ =>
      have before := (List.getElem?_eq_some_iff.mp sailing).1
      omega
    | moved before extended =>
      rw [(Voyage.extend?_eq_some extended).1]
      exact congrArg Voyage.origin (Option.some.inj (before.symm.trans sailing))
  | exit task =>
    simp only [step?, Option.ite_none_right_eq_some, Option.some.injEq] at happened
    obtain ⟨_, rfl⟩ := happened
    exact ⟨fun there => ⟨_, there, rfl⟩, fun there => ⟨_, there, rfl⟩⟩
  | drain =>
    obtain rfl := Option.some.inj happened
    refine ⟨fun there => ⟨_, ?_, rfl⟩, fun there => ⟨_, there, rfl⟩⟩
    rw [List.getElem?_append_left (List.getElem?_eq_some_iff.mp there).1]
    exact there
  | wake target =>
    simp only [step?, bind, pure, Option.bind_eq_some_iff, Option.ite_none_right_eq_some,
      Option.some.injEq] at happened
    obtain ⟨waiting, found, _, rfl⟩ := happened
    refine ⟨fun {index drain} there => ?_, fun there => ⟨_, there, rfl⟩⟩
    -- The call that returns is the same call, made when the same flights had begun.
    by_cases same : target = index
    · subst same
      have inside := (List.getElem?_eq_some_iff.mp there).1
      obtain rfl := Option.some.inj (found.symm.trans there)
      exact ⟨_, List.getElem?_set_self inside, rfl⟩
    · exact ⟨drain, by rw [List.getElem?_set_ne same, there], rfl⟩

/-- A list of acts leaves a tower that continues the one before it. -/
theorem run {acts : List Act} {tower last : Tower} (ran : tower.run? config acts = some last) :
    tower.Continues last := by
  -- The acts are done one by one, each by a tower that continues the one before.
  induction acts generalizing tower with
  | nil =>
    cases ran
    exact .refl _
  | cons act rest ih =>
    obtain ⟨next, happened, went⟩ := Option.bind_eq_some_iff.mp ran
    exact (step happened).trans (ih went)

end Continues

/-- What a call waits for is finished once it has returned. -/
theorem Reachable.finished {tower : Tower} (reachable : tower.Reachable config) {drain : Drain}
    (called : drain ∈ tower.drains) (returned : drain.returned = true) {index : Nat}
    (earlier : index < drain.begun) :
    ∃ voyage, tower.hub.voyages[index]? = some voyage ∧ voyage.Finished := by
  -- Whatever the call has waited for is dead, and a flight that is dead has no more to do.
  have sound := reachable.sound
  obtain ⟨begun, dead⟩ := sound.awaited drain called
  have sailing : tower.hub.voyages[index]? = some tower.hub.voyages[index] :=
    List.getElem?_eq_getElem (Nat.lt_of_lt_of_le earlier begun)
  exact ⟨_, sailing,
    (dead returned earlier sailing).finished (sound.fresh sailing) (sound.up sailing)⟩

/-- An open bus begins a flight, however often its tasks have been waited for. -/
theorem publish_open (config : BusConfig) {tower : Tower}
    (opened : tower.hub.registry.closed = false) (event : Event) :
    ((Hub.bus config fun _ _ => none).publishAsync true event tower.hub).1 =
        .ok tower.hub.voyages.length ∧
      ∃ next origin, tower.step? config (.occur (.publishAsync true event)) = some next ∧
        next.drains = tower.drains ∧ next.hub.voyages = tower.hub.voyages ++ [.new origin] ∧
        origin.BegunAt config tower.hub := by
  -- An open registry has a snapshot, and with a runtime there is no other refusal.
  let done := (Hub.bus config fun _ _ => none).publishAsync true event tower.hub
  have accepted : ∀ error, done.1 ≠ .error error := by
    intro error refused
    simp only [done, Hub.publishAsync_eq, Registry.snapshot, opened] at refused
    split at refused
    · rename_i no
      cases no
    · cases refused
    · cases refused
  rcases (Hub.publishAsync_keeps config tower.hub true event).2 with
    ⟨⟨error, refused⟩, _⟩ | ⟨origin, answered, added, begun⟩
  · exact absurd refused (accepted error)
  · exact ⟨answered, _, origin, rfl, rfl, added, begun⟩

end Tower

/--
Waiting for the tasks of a bus waits for everything, and breaks nothing.

The tracker is not empty as long as a flight owes an invocation, a result or a record. So when a
call returns, every flight that had begun before it is finished, also where handlers went on after a
deadline. However often an open bus has been waited for, it begins further flights, and the next
call waits for them in the same way.
-/
theorem drain_awaits_flights {config : BusConfig} {tower : Tower}
    (reachable : tower.Reachable config) :
    (∀ (index : Nat) (voyage : Voyage), tower.hub.voyages[index]? = some voyage →
      voyage.flight.Owes → 0 < tower.tracker.count) ∧
    (∀ drain ∈ tower.drains, drain.returned = true → ∀ index < drain.begun,
      ∃ voyage, tower.hub.voyages[index]? = some voyage ∧ voyage.Finished) ∧
    (tower.hub.registry.closed = false → ∀ event,
      ((Hub.bus config fun _ _ => none).publishAsync true event tower.hub).1 =
          .ok tower.hub.voyages.length ∧
        ∃ next origin, tower.step? config (.occur (.publishAsync true event)) = some next ∧
          next.hub.voyages = tower.hub.voyages ++ [.new origin] ∧
          origin.BegunAt config tower.hub ∧
          ∀ acts last, next.run? config (.drain :: acts) = some last →
            ∃ drain later, last.drains[tower.drains.length]? = some drain ∧
              last.hub.voyages[tower.hub.voyages.length]? = some later ∧
              later.origin = origin ∧ (drain.returned = true → later.Finished)) := by
  -- The tracker counts the tasks that are left, and every task that is needed is left.
  have sound := reachable.sound
  refine ⟨fun index voyage sailing owes => ?_, fun drain called returned index earlier => ?_,
    fun opened event => ?_⟩
  · exact sound.count_pos sailing
      (Flight.tasks_pos_of_owes (sound.fresh sailing) voyage.replayed owes)
  · exact reachable.finished called returned earlier
  obtain ⟨answered, next, origin, happened, drains, voyages, begun⟩ :=
    Tower.publish_open config opened event
  refine ⟨answered, next, origin, happened, voyages, begun, fun acts last ran => ?_⟩
  have ran' : (next.step? config .drain).bind (fun later => later.run? config acts) = some last :=
    ran
  obtain ⟨waiting, called, went⟩ := Option.bind_eq_some_iff.mp ran'
  obtain rfl := Option.some.inj called
  have continues := Tower.Continues.run went
  -- The call is made when the flight has begun, and both stay where they are.
  have calling : (next.drains ++ [{ begun := next.hub.voyages.length }])[tower.drains.length]? =
      some { begun := next.hub.voyages.length } := by simp [drains]
  have begins : next.hub.voyages[tower.hub.voyages.length]? = some (.new origin) := by
    simp [voyages]
  obtain ⟨drain, found, begunBefore⟩ := continues.drains calling
  obtain ⟨later, sailing, same⟩ := continues.voyages begins
  refine ⟨drain, later, found, sailing, same, fun returned => ?_⟩
  have earlier : tower.hub.voyages.length < drain.begun := by
    rw [begunBefore, voyages]
    simp
  have lastReachable := (reachable.step happened).run? ran
  obtain ⟨voyage, there, finished⟩ :=
    lastReachable.finished (List.mem_of_getElem? found) returned earlier
  obtain rfl := Option.some.inj (there.symm.trans sailing)
  exact finished

/-- A flight outlives its deadline and its token, and is waited for on a bus that stays open. -/
def outlastingFlight : List Tower.Act :=
  (Hub.pairDispatch [.launch, .submit, .start 1, .expire, .timeOut, .depart, .conclude,
      .drop]).map .occur ++
    [.drain, .exit (.conductor 0)] ++
    ([.finish 1 (some (.failed "full")), .send 1, .submit, .start 2, .finish 2 none, .send 2].map
      fun move => .occur (.move 0 move)) ++
    [.exit (.fanOut 0), .wake 0]

/-- The flight is finished when the call returns, and the bus takes the next one. -/
theorem outlastingFlight_awaited :
    let config : BusConfig := { concurrency := 1, timeout := some (.ofMillis 50) }
    let event : Event := ⟨⟨0⟩, ⟨"order"⟩, .null, .epoch, none⟩
    ∃ tower voyage, (Tower.new 0).run? config outlastingFlight = some tower ∧
      tower.drains = [⟨1, true⟩] ∧ tower.hub.registry.closed = false ∧
      tower.hub.voyages[0]? = some voyage ∧ voyage.Finished ∧
      (calls voyage.notices).length = 2 ∧ (sink voyage.notices).length = 1 ∧
      ((Hub.bus config fun _ _ => none).publishAsync true event tower.hub).1 = .ok 1 := by
  -- The flight ends after its deadline, and the call is made in between.
  intro config event
  have seen : ((Tower.new 0).run? config outlastingFlight).map (fun tower =>
      (tower.drains, tower.hub.registry.closed, tower.hub.voyages.map fun voyage =>
        ((calls voyage.notices).length, (sink voyage.notices).length))) =
      some ([⟨1, true⟩], false, [(2, 1)]) := by decide +kernel
  obtain ⟨tower, ran, seen⟩ := Option.map_eq_some_iff.mp seen
  simp only [Prod.mk.injEq] at seen
  obtain ⟨drains, opened, sailed⟩ := seen
  obtain ⟨_, finished, accepts⟩ := drain_awaits_flights ((Tower.Reachable.new 0).run? ran)
  obtain ⟨voyage, sailing, finished⟩ :=
    finished ⟨1, true⟩ (drains ▸ List.mem_cons_self) rfl 0 (Nat.zero_lt_one)
  obtain ⟨sole, same, noticed⟩ := List.map_eq_singleton_iff.mp sailed
  rw [same] at sailing
  obtain rfl : sole = voyage := Option.some.inj sailing
  have accepted := (accepts opened event).1
  rw [same] at accepted
  obtain ⟨called, reported⟩ := Prod.mk.inj noticed
  exact ⟨tower, sole, ran, drains, opened, by rw [same]; rfl, finished, called, reported, accepted⟩

end EventBus
