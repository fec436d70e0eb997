import EventBus.Proofs.Dispatch.Settling
import EventBus.Proofs.Hub.Tower
import EventBus.Proofs.Serial.Crew

/-! A flight whose handlers come to an end comes to its own, whether its deadline passes or not. -/

namespace EventBus

/-- A quiet move is no handler's word. -/
theorem Move.genuine_of_quiet {move : Move} (quiet : move.isQuiet = true) :
    move.isGenuine = true := by
  -- Only a finish can be spurious.
  cases move with
  | finish => cases quiet
  | _ => rfl

/-- Handlers end genuinely, since none of them can say that it is late. -/
theorem Ending.genuine (id : Nat) (ending : Ending) :
    (Move.finish id ending.cause).isGenuine = true := by
  -- The cause is a failure or a panic of the handler, and never that it was late.
  cases ending <;> rfl

namespace Flight

/-- What is left to be done of a flight that may have passed its deadline. -/
def burden (flight : Flight) : Nat := flight.weight + (flight.collector == .draining).toNat

/-- Every move by which a flight goes on leaves less to be done, also after its deadline. -/
theorem burden_advance {flight next : Flight} {move : Move} {notices : List Notice}
    (advance : flight.Advance move next notices)
    (onward : move.isOnward = true ∨ move = .timeOut) : next.burden < flight.burden := by
  -- An onward move lowers the weight, and the end of the draining lowers what is added to it.
  rcases onward with onward | rfl
  · have lighter := weight_advance advance onward
    -- Only the passing of the deadline makes the collector drain the channel.
    have drains : next.collector = .draining → flight.collector = .draining := by
      cases advance with
      | departComplete | departTimedOut => exact fun draining => by simp at draining
      | expire | timeOut | abandon => cases onward
      | _ => exact fun draining => draining
    have counts : (next.collector == .draining).toNat ≤ (flight.collector == .draining).toNat := by
      by_cases draining : next.collector = .draining
      · exact Nat.le_of_eq (by rw [draining, drains draining])
      · rw [beq_eq_false_iff_ne.mpr draining]
        exact Nat.zero_le _
    simp only [burden]
    omega
  · cases advance with
    | timeOut draining empty timed =>
      have stays : (Collector.departing != .departed) = (Collector.draining != .departed) := rfl
      have drained : (Collector.departing == .draining) = false := rfl
      simp [burden, weight, draining, stays, drained]

/-- A deadline that has passed is the one that the flight has. -/
theorem timed_of_draining {origin flight : Flight} {moves : List Move} {notices : List Notice}
    (fresh : origin.Fresh) (ran : origin.replay? moves = some (flight, notices))
    (draining : flight.collector = .draining) : flight.timeout.isSome = true := by
  -- The collector drains only after the deadline has passed, and that takes a deadline.
  refine replay?_induction (motive := fun _ _ flight =>
    flight.collector = .draining → flight.timeout.isSome = true) ?_ ?_ ran draining
  · intro draining
    rcases fresh.opening with ⟨_, collecting, _⟩ | ⟨_, departed, _⟩
    · cases collecting.symm.trans draining
    · cases departed.symm.trans draining
  · intro moves notices flight move next more _ before advance draining
    cases advance with
    | expire launched collecting timed => exact timed
    | timeOut | departComplete | departTimedOut | abandon => cases draining
    | _ => exact before draining

/-- The fan-out has ended, and there is a verdict. -/
def Settled (flight : Flight) : Prop :=
  flight.fanOutEnded = true ∧ flight.verdict ≠ .undecided

end Flight

namespace Stage

variable {σ : Type} {config : BusConfig} {index : Nat} {parts : Parts σ} {held : List Handler}
  {stage next last : Stage σ} {voyage : Voyage}

/-- Some cues lead from one stage to another. -/
def Reaches (config : BusConfig) (index : Nat) (parts : Parts σ) (stage last : Stage σ) : Prop :=
  ∃ cues, stage.run? config index parts (fun _ => true) cues = some last

/-- Every stage reaches itself. -/
theorem Reaches.refl (stage : Stage σ) : Reaches config index parts stage stage := ⟨[], rfl⟩

/-- A cue leads to the next stage. -/
theorem Reaches.cue {cue : Cue} (stepped : stage.step? config index parts cue = some next) :
    Reaches config index parts stage next :=
  ⟨[cue], by simp only [run?, if_true, stepped, Option.bind_some]⟩

/-- What is reached from a stage that is reached is reached. -/
theorem Reaches.trans (first : Reaches config index parts stage next)
    (second : Reaches config index parts next last) : Reaches config index parts stage last := by
  obtain ⟨earlier, begun⟩ := first
  obtain ⟨later, ended⟩ := second
  -- The cues of both ways, one after the other.
  exact ⟨earlier ++ later, by rw [run?_append, begun, Option.bind_some, ended]⟩

/-- A stage can be reached at which less is to be done of the flight, without its deadline. -/
def LeadsOn (config : BusConfig) (index : Nat) (parts : Parts σ) (held : List Handler)
    (stage : Stage σ) (voyage : Voyage) : Prop :=
  ∃ next later, Reaches config index parts stage next ∧ next.Manned held index later ∧
    later.flight.burden < voyage.flight.burden ∧ (.expire ∈ later.moves → .expire ∈ voyage.moves)

/-- What a stage that is reached leads on to can be reached as well. -/
theorem Reaches.leadsOn (reached : Reaches config index parts stage next)
    (leads : LeadsOn config index parts held next voyage) :
    LeadsOn config index parts held stage voyage := by
  -- The target is the same, and so is all that is known of it.
  obtain ⟨last, later, after, manned, lighter, timely⟩ := leads
  exact ⟨last, later, reached.trans after, manned, lighter, timely⟩

/-- A quiet move fits to whatever the handlers do. -/
theorem working?_quiet {move : Move} (quiet : move.isQuiet = true) (flight : Flight) :
    stage.working? parts flight move = some stage.working := by
  -- The stage is only asked for a handler that starts or finishes.
  cases move with
  | start | finish | cancel | abandon => cases quiet
  | _ => rfl

namespace Manned

variable (manned : stage.Manned held index voyage)

include manned

variable (config parts) in
/-- A handler at work can come to the end of its routine. -/
theorem perform {id : Nat} {subscriber : Subscriber} {routine : Routine (Scene σ) Ending}
    (found : stage.working.find? (·.1.id == id) = some (subscriber, routine)) :
    ∃ next ending, Reaches config index parts stage next ∧ next.Manned held index voyage ∧
      next.working.find? (·.1.id == id) = some (subscriber, .done ending) := by
  -- The routine is followed down to its end, each step being a cue of the stage.
  induction routine generalizing stage with
  | done ending => exact ⟨stage, ending, .refl stage, manned, found⟩
  | step change marks next ih =>
    let between : Stage σ :=
      { scene := change stage.scene
        marks := stage.marks ++ marks
        working := stage.working.map fun entry =>
          (entry.1, if entry.1.id = id then next stage.scene else entry.2) }
    have stepped : stage.step? config index parts (.work id) = some between := by
      simp only [step?, found, between]
    -- The handler at work keeps its place under its identifier, with what is left of its routine.
    have same : subscriber.id = id := by simpa using List.find?_some found
    have still : between.working.find? (·.1.id == id) = some (subscriber, next stage.scene) := by
      show (stage.working.map _).find? _ = _
      rw [List.find?_map]
      show (stage.working.find? (·.1.id == id)).map _ = _
      rw [found, Option.map_some, if_pos same]
    obtain ⟨last, ending, reached, after, done⟩ := ih stage.scene (manned.work found) still
    exact ⟨last, ending, (Reaches.cue stepped).trans reached, after, done⟩

/-- A move by which the flight goes on leads on. -/
theorem leadsOn {move : Move} {working : List (Subscriber × Routine (Scene σ) Ending)}
    {later : Voyage} (genuine : move.isGenuine = true)
    (onward : move.isOnward = true ∨ move = .timeOut)
    (fits : stage.working? parts voyage.flight move = some working)
    (extended : voyage.extend? move = some later)
    (after : Manned held index
      { stage with scene.hub.voyages := stage.scene.hub.voyages.set index later, working } later) :
    LeadsOn config index parts held stage voyage := by
  obtain ⟨more, advance⟩ := Voyage.advance_of_extend? extended
  refine ⟨_, later, .cue (step?_move genuine manned.sailing fits extended), after,
    -- The burden falls with the move, and the list of moves grows by it, which is not the deadline.
    Flight.burden_advance advance onward, fun expired => ?_⟩
  rw [(Voyage.extend?_eq_some extended).2, List.mem_append, List.mem_singleton] at expired
  refine expired.resolve_right ?_
  rintro rfl
  simp [Move.isOnward] at onward

/-- A quiet move by which the flight goes on leads on. -/
theorem leadsOn_quiet (move : Move) (quiet : move.isQuiet = true)
    (onward : move.isOnward = true ∨ move = .timeOut)
    (possible : (voyage.flight.step? move).isSome = true) :
    LeadsOn config index parts held stage voyage := by
  -- The stage stands back for a quiet move, so it is enough that the flight can make it.
  rw [← Voyage.extend?_isSome] at possible
  obtain ⟨later, extended⟩ := Option.isSome_iff_exists.mp possible
  exact manned.leadsOn (Move.genuine_of_quiet quiet) onward (working?_quiet quiet _) extended
    (manned.quiet quiet extended)

/-- A handler that was submitted can begin. -/
theorem leadsOn_start {first : Subscriber} {rest : List Subscriber}
    (part : ∀ subscriber, Routine.Blind held (parts subscriber))
    (submitted : voyage.flight.submitted = first :: rest) :
    LeadsOn config index parts held stage voyage := by
  -- The first in the queue is found under its own identifier.
  have picked : Flight.pick? first.id voyage.flight.submitted = some (first, rest) := by
    simp [Flight.pick?, submitted]
  have possible : (voyage.extend? (.start first.id)).isSome = true := by
    rw [Voyage.extend?_isSome]
    simp [Flight.step?, picked]
  have fits : stage.working? parts voyage.flight (.start first.id) =
      some (stage.working ++ [(first, parts first)]) := by
    simp [working?, picked]
  obtain ⟨later, extended⟩ := Option.isSome_iff_exists.mp possible
  exact manned.leadsOn rfl (Or.inl rfl) fits extended
    (manned.start picked extended (part first))

/-- A handler that has come to the end of its routine can end. -/
theorem leadsOn_finish {id : Nat} {subscriber : Subscriber} {ending : Ending}
    (found : stage.working.find? (·.1.id == id) = some (subscriber, .done ending)) :
    LeadsOn config index parts held stage voyage := by
  -- Who is at work is running, so the flight finds the handler as the stage does.
  have running : voyage.flight.running.find? (·.id == id) = some subscriber := by
    rw [← manned.working, List.find?_map]
    exact congrArg (Option.map Prod.fst) found
  have possible : (voyage.extend? (.finish id ending.cause)).isSome = true := by
    rw [Voyage.extend?_isSome]
    simp [Flight.step?, Flight.pick?, running]
  have fits : stage.working? parts voyage.flight (.finish id ending.cause) =
      some (stage.working.eraseP (·.1.id == id)) := by
    simp [working?, found]
  obtain ⟨later, extended⟩ := Option.isSome_iff_exists.mp possible
  exact manned.leadsOn (ending.genuine id) (Or.inl rfl) fits extended (manned.finish extended)

/-- A handler that is called comes to its end. -/
theorem leadsOn_running {first : Subscriber} {rest : List Subscriber}
    (running : voyage.flight.running = first :: rest) :
    LeadsOn config index parts held stage voyage := by
  -- Somebody is at work for the first that runs, and can be led to the end of the routine.
  obtain ⟨⟨subscriber, routine⟩, others, working, _, _⟩ :=
    List.map_eq_cons_iff.mp (manned.working.trans running)
  have found : stage.working.find? (·.1.id == subscriber.id) = some (subscriber, routine) := by
    simp [working]
  obtain ⟨next, ending, reached, still, done⟩ := manned.perform config parts found
  exact reached.leadsOn (still.leadsOn_finish done)

/-- A flight whose fan-out has ended is settled by its collector. -/
theorem settled_or_leadsOn_of_ended (ended : voyage.flight.fanOutEnded = true) :
    voyage.flight.Settled ∨ LeadsOn config index parts held stage voyage := by
  -- The collector is taken through its stages, and in each one there is a move that it can make.
  cases collector : voyage.flight.collector with
  | collecting =>
    right
    cases channel : voyage.flight.channel with
    | cons sent rest =>
      exact manned.leadsOn_quiet .receive rfl (Or.inl rfl)
        (by simp [Flight.step?, collector, channel])
    | nil =>
      exact manned.leadsOn_quiet .depart rfl (Or.inl rfl)
        (by simp [Flight.step?, collector, channel, ended])
  | draining =>
    right
    cases channel : voyage.flight.channel with
    | cons sent rest =>
      exact manned.leadsOn_quiet .drain rfl (Or.inl rfl)
        (by simp [Flight.step?, collector, channel])
    | nil =>
      -- It drains because there is a deadline, which is then what it answers.
      obtain ⟨after, timed⟩ := Option.isSome_iff_exists.mp
        (Flight.timed_of_draining manned.fresh voyage.replayed collector)
      exact manned.leadsOn_quiet .timeOut rfl (Or.inr rfl)
        (by simp [Flight.step?, collector, channel, timed])
  | departing =>
    exact Or.inr (manned.leadsOn_quiet .depart rfl (Or.inl rfl)
      (by simp [Flight.step?, collector]))
  | departed =>
    by_cases undecided : voyage.flight.verdict = .undecided
    · exact Or.inr (manned.leadsOn_quiet .conclude rfl (Or.inl rfl)
        (by simp [Flight.step?, collector, undecided]))
    · exact Or.inl ⟨ended, undecided⟩

variable (config) in
/-- As long as a flight is not settled, its stage leads on. -/
theorem settled_or_leadsOn (part : ∀ subscriber, Routine.Blind held (parts subscriber)) :
    voyage.flight.Settled ∨ LeadsOn config index parts held stage voyage := by
  -- The parties are looked at in order, from the launch to the end of the fan-out.
  by_cases launched : voyage.flight.launched = true
  swap
  · obtain ⟨_, undecided⟩ := Flight.undecided_of_unlaunched manned.fresh voyage.replayed
      (by simpa using launched)
    exact Or.inr (manned.leadsOn_quiet .launch rfl (Or.inl rfl)
      (by simp [Flight.step?, launched, undecided]))
  cases ended : voyage.flight.ended with
  | cons first rest =>
    exact Or.inr (manned.leadsOn_quiet (.send first.1.id) rfl (Or.inl rfl)
      (by simp [Flight.step?, ended]))
  | nil =>
  cases running : voyage.flight.running with
  | cons first rest => exact Or.inr (manned.leadsOn_running running)
  | nil =>
  cases submitted : voyage.flight.submitted with
  | cons first rest => exact Or.inr (manned.leadsOn_start part submitted)
  | nil =>
  cases queued : voyage.flight.queued with
  | cons first rest =>
    -- Nobody occupies a slot any more, and there is at least one.
    have room : voyage.flight.busy < voyage.flight.slots := by
      simpa [Flight.busy, submitted, running, ended] using voyage.flight.slots_pos
    exact Or.inr (manned.leadsOn_quiet .submit rfl (Or.inl rfl)
      (by simp [Flight.step?, launched, room, queued, manned.uncancelled]))
  | nil =>
    refine manned.settled_or_leadsOn_of_ended ?_
    simp [Flight.fanOutEnded, launched, queued, submitted, running, ended]

variable (config) in
/-- From every stage one can be reached at which the flight is settled, without its deadline. -/
theorem settles (part : ∀ subscriber, Routine.Blind held (parts subscriber)) :
    ∃ last later, Reaches config index parts stage last ∧
      last.scene.hub.voyages[index]? = some later ∧ later.flight.Settled ∧
        (.expire ∈ later.moves → .expire ∈ voyage.moves) := by
  -- By induction on the burden, which each move on the way makes smaller.
  induction burden : voyage.flight.burden using Nat.strongRecOn generalizing stage voyage with
  | ind _ ih =>
    subst burden
    rcases manned.settled_or_leadsOn config part with
      settled | ⟨next, between, reached, still, lighter, timely⟩
    · exact ⟨stage, voyage, .refl stage, manned.sailing, settled, id⟩
    · obtain ⟨last, later, after, sailing, settled, punctual⟩ := ih _ lighter still rfl
      exact ⟨last, later, reached.trans after, sailing, settled, timely ∘ punctual⟩

end Manned

end Stage

end EventBus
