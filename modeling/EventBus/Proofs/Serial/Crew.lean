import EventBus.Proofs.Serial.Stage

/-!
The handlers at work on a stage are those whose calls the flight has begun and not ended, whatever
the number of slots.
-/

namespace EventBus

/-- A move takes a voyage on, and what is noticed of it comes last. -/
theorem Voyage.advance_notices {voyage later : Voyage} {move : Move}
    (extended : voyage.extend? move = some later) :
    ∃ more, voyage.flight.Advance move later.flight more ∧
      later.notices = voyage.notices ++ more := by
  unfold extend? at extended
  -- A voyage is extended exactly by a step that its flight can make.
  split at extended
  · cases extended
  · rename_i next more moved
    cases extended
    exact ⟨more, Flight.advance_of_step? moved, rfl⟩

namespace Flight

/-- A quiet move calls nobody, and changes neither who runs nor the order of those who wait. -/
theorem quiet_advance {flight next : Flight} {move : Move} {more : List Notice}
    (advance : flight.Advance move next more) (quiet : move.isQuiet = true)
    (wanted : flight.cancelled = false) :
    next.running = flight.running ∧
      next.submitted ++ next.queued = flight.submitted ++ flight.queued ∧ calls more = [] := by
  -- Only a start or a finish calls or ends anybody, and neither is quiet.
  cases advance with
  | skip launched room queued cancelled => simp [wanted] at cancelled
  | submit launched room queued wanted =>
    -- Who is submitted moves from the head of the queue to the end of those who wait for a slot.
    refine ⟨rfl, ?_, rfl⟩
    rw [queued, List.append_assoc]
    rfl
  | start | finish | cancel | abandon => cases quiet
  | sendLate found departed => exact ⟨rfl, rfl, calls_lateFailure _⟩
  | _ => exact ⟨rfl, rfl, rfl⟩

/-- A handler that begins to run was submitted. -/
theorem start_advance {flight next : Flight} {id : Nat} {subscriber : Subscriber}
    {rest : List Subscriber} {more : List Notice} (advance : flight.Advance (.start id) next more)
    (picked : pick? id flight.submitted = some (subscriber, rest)) :
    next = { flight with submitted := rest, running := flight.running ++ [subscriber] } ∧
      more = [.called subscriber] := by
  cases advance with
  | start again =>
    -- Identifiers are picked once, so it is the same subscriber.
    obtain ⟨rfl, rfl⟩ := Prod.mk.inj (Option.some.inj (again.symm.trans picked))
    exact ⟨rfl, rfl⟩

/-- A handler that ends was running, and its outcome waits to be sent. -/
theorem finish_advance {flight next : Flight} {id : Nat} {cause : Option Cause}
    {more : List Notice} (advance : flight.Advance (.finish id cause) next more) :
    ∃ subscriber rest, pick? id flight.running = some (subscriber, rest) ∧ more = [] ∧
      next = { flight with
        running := rest, ended := flight.ended ++ [(subscriber, subscriber.outcome cause)] } := by
  cases advance with
  | finish picked => exact ⟨_, _, picked, rfl, rfl⟩

/-- A flight never takes to looking after somebody else. -/
theorem mem_held_of_advance {flight next : Flight} {move : Move} {more : List Notice}
    (advance : flight.Advance move next more) {subscriber : Subscriber}
    (there : subscriber ∈ next.held) : subscriber ∈ flight.held := by
  simp only [held, List.mem_append] at there ⊢
  -- The launch puts everybody of the queue on the collector's list, and all else hands on or drops.
  cases advance with
  | launch => grind
  | skip launched room queued cancelled | submit launched room queued wanted => grind
  | start picked | finish picked =>
    have moved := (perm_of_pick? picked).2.2.mem_iff (a := subscriber)
    grind
  | @receive counted _ _ _ _ | @drain counted _ _ _ _ =>
    have waited : subscriber ∈ flight.pending.eraseP (·.id == counted.id) →
        subscriber ∈ flight.pending := List.mem_of_mem_eraseP
    simp only [count] at there
    grind
  | timeOut => grind
  | abandon =>
    simp only [abandoned] at there
    grind
  | _ => exact there

end Flight

namespace Stage

variable {σ : Type} {config : BusConfig} {index : Nat} {parts : Parts σ} {held : List Handler}
  {stage next : Stage σ} {voyage later : Voyage}

/-- A stage on which the handlers are at work that a flight has called and not seen the end of. -/
structure Manned (held : List Handler) (index : Nat) (stage : Stage σ) (voyage : Voyage) :
    Prop where
  sailing : stage.scene.hub.voyages[index]? = some voyage
  fresh : voyage.origin.Fresh
  up : .abandon ∉ voyage.moves
  wanted : .cancel ∉ voyage.moves
  working : stage.working.map Prod.fst = voyage.flight.running
  blind : ∀ entry ∈ stage.working, Routine.Blind held entry.2

namespace Manned

variable (manned : stage.Manned held index voyage)

include manned

/-- Nobody has cancelled the flight. -/
theorem uncancelled : voyage.flight.cancelled = false :=
  -- A flight is cancelled by its own move, and none is on the list.
  Bool.eq_false_iff.mpr fun cancelled =>
    manned.wanted (Flight.cancel_mem manned.fresh voyage.replayed cancelled)

/-- A move that does not break off the flight leaves a stage on which its handlers are at work. -/
theorem move {move : Move} {working : List (Subscriber × Routine (Scene σ) Ending)}
    (extended : voyage.extend? move = some later) (up : move ≠ .abandon)
    (wanted : move ≠ .cancel) (crew : working.map Prod.fst = later.flight.running)
    (blind : ∀ entry ∈ working, Routine.Blind held entry.2) :
    Manned held index
      { stage with scene.hub.voyages := stage.scene.hub.voyages.set index later, working }
      later := by
  -- The move is appended to the list and is neither the end of the process nor a cancellation.
  obtain ⟨origin, moves⟩ := Voyage.extend?_eq_some extended
  exact {
    sailing := List.getElem?_set_self (List.getElem?_eq_some_iff.mp manned.sailing).1
    fresh := origin ▸ manned.fresh
    up := by simpa [moves, manned.up] using up.symm
    wanted := by simpa [moves, manned.wanted] using wanted.symm
    working := crew
    blind }

/-- A quiet move leaves everybody at work. -/
theorem quiet {move : Move} (quiet : move.isQuiet = true)
    (extended : voyage.extend? move = some later) :
    Manned held index
      { stage with scene.hub.voyages := stage.scene.hub.voyages.set index later } later := by
  obtain ⟨more, advance, _⟩ := Voyage.advance_notices extended
  -- The handlers in progress are those of before, with the same routines.
  have running := (Flight.quiet_advance advance quiet manned.uncancelled).1
  exact manned.move extended (by rintro rfl; cases quiet) (by rintro rfl; cases quiet)
    (manned.working.trans running.symm) manned.blind

/-- Whoever begins to run is at work. -/
theorem start {id : Nat} {subscriber : Subscriber} {rest : List Subscriber}
    (picked : Flight.pick? id voyage.flight.submitted = some (subscriber, rest))
    (extended : voyage.extend? (.start id) = some later)
    (part : Routine.Blind held (parts subscriber)) :
    Manned held index
      { stage with
        scene.hub.voyages := stage.scene.hub.voyages.set index later
        working := stage.working ++ [(subscriber, parts subscriber)] } later := by
  obtain ⟨more, advance, _⟩ := Voyage.advance_notices extended
  -- The new handler comes last, in the crew as in the flight.
  refine manned.move extended (by simp) (by simp) ?_ fun entry there => ?_
  · rw [(Flight.start_advance advance picked).1, List.map_append, manned.working]
    rfl
  · rcases List.mem_append.mp there with before | now
    · exact manned.blind entry before
    · rw [List.mem_singleton.mp now]
      exact part

/-- Whoever ends is not at work any more. -/
theorem finish {id : Nat} {cause : Option Cause}
    (extended : voyage.extend? (.finish id cause) = some later) :
    Manned held index
      { stage with
        scene.hub.voyages := stage.scene.hub.voyages.set index later
        working := stage.working.eraseP (·.1.id == id) } later := by
  obtain ⟨more, advance, _⟩ := Voyage.advance_notices extended
  -- The flight takes the first of this identifier from its list, and the stage from its own.
  obtain ⟨_, _, picked, _, ended⟩ := Flight.finish_advance advance
  obtain ⟨_, _, equal⟩ := Option.map_eq_some_iff.mp picked
  obtain ⟨_, rfl⟩ := Prod.mk.inj equal
  refine manned.move extended (by simp) (by simp) ?_ fun entry there =>
    manned.blind entry (List.mem_of_mem_eraseP there)
  rw [ended, ← manned.working, List.eraseP_map]
  rfl

/-- A step of a routine leaves everybody at work. -/
theorem work {id : Nat} {subscriber : Subscriber} {change : Scene σ → Scene σ}
    {marks : List Mark} {next : Scene σ → Routine (Scene σ) Ending}
    (found : stage.working.find? (·.1.id == id) = some (subscriber, .step change marks next)) :
    Manned held index
      { scene := change stage.scene
        marks := stage.marks ++ marks
        working := stage.working.map fun entry =>
          (entry.1, if entry.1.id = id then next stage.scene else entry.2) } voyage := by
  -- A blind routine leaves the flights alone in its step, and what follows the step is blind.
  cases manned.blind _ (List.mem_of_find?_eq_some found) with
  | step calm same later =>
    exact {
      sailing := (calm stage.scene).symm ▸ manned.sailing
      fresh := manned.fresh
      up := manned.up
      wanted := manned.wanted
      working := by
        rw [List.map_map]
        exact manned.working
      blind := fun entry there => by
        obtain ⟨before, earlier, rfl⟩ := List.mem_map.mp there
        split
        · exact later stage.scene
        · exact manned.blind before earlier }

end Manned

end Stage

end EventBus
