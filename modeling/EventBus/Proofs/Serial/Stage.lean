import EventBus.Proofs.Serial.Mirrors
import EventBus.Proofs.Dispatch.Calls

/-!
A flight whose handlers act while they run. The parties of the flight and the handlers that it has
called take turns in any order, a move or a step of a routine at a time.
-/

namespace EventBus

/-- A move that neither begins nor ends the call of a handler, nor breaks off the flight. -/
def Move.isQuiet : Move → Bool
  | .start _ | .finish .. | .cancel | .abandon => false
  | _ => true

/-- A dispatch on its way: its scene, the marks that were left so far, and who is at work. -/
structure Stage (σ : Type) where
  scene : Scene σ
  marks : List Mark
  working : List (Subscriber × Routine (Scene σ) Ending)

/-- What may come next on a stage. -/
inductive Cue where
  /-- A handler that is at work takes a step. -/
  | work (id : Nat)
  /-- The flight makes a move. -/
  | move (move : Move)
  deriving DecidableEq, Repr

/-- The routines of the handlers that a flight calls. -/
abbrev Parts (σ : Type) := Subscriber → Routine (Scene σ) Ending

variable {σ : Type}

/-- The routines of the calls of a publication that is not inside another. -/
def Cast.parts (cast : Cast σ) (config : BusConfig) (event : Event) : Parts σ := fun subscriber =>
  .called 0 subscriber.handler event (cast.respond config 0 subscriber.handler event)

namespace Stage

/-- Who is at work after a move of the flight, if the move fits to what the handlers do. -/
def working? (parts : Parts σ) (stage : Stage σ) (flight : Flight) :
    Move → Option (List (Subscriber × Routine (Scene σ) Ending))
  | .start id =>
    (Flight.pick? id flight.submitted).map fun (subscriber, _) =>
      stage.working ++ [(subscriber, parts subscriber)]
  | .finish id cause =>
    -- A handler ends when it has come to the end of its routine, and as that says.
    match stage.working.find? (·.1.id == id) with
    | some (_, .done ending) =>
      if ending.cause = cause then some (stage.working.eraseP (·.1.id == id)) else none
    | _ => none
  -- The flight is not cancelled, and its runtime stays up.
  | .cancel | .abandon => none
  | _ => some stage.working

/-- The stage after a cue for the flight at an index, or nothing where the cue is impossible. -/
def step? (config : BusConfig) (index : Nat) (parts : Parts σ) (stage : Stage σ) :
    Cue → Option (Stage σ)
  | .work id =>
    match stage.working.find? (·.1.id == id) with
    | some (_, .step change marks next) => some
        { scene := change stage.scene
          marks := stage.marks ++ marks
          working := stage.working.map fun (subscriber, routine) =>
            (subscriber, if subscriber.id = id then next stage.scene else routine) }
    | _ => none
  | .move move => do
    let voyage ← stage.scene.hub.voyages[index]?
    let working ← stage.working? parts voyage.flight move
    let (_, hub) ← stage.scene.hub.step? config (.move index move)
    return { stage with scene := { stage.scene with hub }, working }

/-- The stage after a list of cues, if each is possible and the guard holds all the way. -/
def run? (config : BusConfig) (index : Nat) (parts : Parts σ) (guard : Stage σ → Bool)
    (stage : Stage σ) : List Cue → Option (Stage σ)
  | [] => if guard stage then some stage else none
  | cue :: rest =>
    if guard stage then
      (stage.step? config index parts cue).bind (run? config index parts guard · rest)
    else none

variable {config : BusConfig} {index : Nat} {parts : Parts σ} {stage next : Stage σ}

/-- A step of a stage, with the condition under which it is possible. -/
inductive Step (config : BusConfig) (index : Nat) (parts : Parts σ) (stage : Stage σ) :
    Stage σ → Prop
  | work {id : Nat} {subscriber : Subscriber} {change : Scene σ → Scene σ} {marks : List Mark}
    {next : Scene σ → Routine (Scene σ) Ending}
    (found : stage.working.find? (·.1.id == id) = some (subscriber, .step change marks next)) :
    Step config index parts stage
      { scene := change stage.scene
        marks := stage.marks ++ marks
        working := stage.working.map fun entry =>
          (entry.1, if entry.1.id = id then next stage.scene else entry.2) }
  | quiet {move : Move} {voyage later : Voyage} (quiet : move.isQuiet = true)
    (sailing : stage.scene.hub.voyages[index]? = some voyage)
    (extended : voyage.extend? move = some later) :
    Step config index parts stage
      { stage with
        scene.hub.voyages := stage.scene.hub.voyages.set index later }
  | start {id : Nat} {voyage later : Voyage} {subscriber : Subscriber} {rest : List Subscriber}
    (picked : Flight.pick? id voyage.flight.submitted = some (subscriber, rest))
    (sailing : stage.scene.hub.voyages[index]? = some voyage)
    (extended : voyage.extend? (.start id) = some later) :
    Step config index parts stage
      { stage with
        scene.hub.voyages := stage.scene.hub.voyages.set index later
        working := stage.working ++ [(subscriber, parts subscriber)] }
  | finish {id : Nat} {voyage later : Voyage} {subscriber : Subscriber} {ending : Ending}
    (found : stage.working.find? (·.1.id == id) = some (subscriber, .done ending))
    (sailing : stage.scene.hub.voyages[index]? = some voyage)
    (extended : voyage.extend? (.finish id ending.cause) = some later) :
    Step config index parts stage
      { stage with
        scene.hub.voyages := stage.scene.hub.voyages.set index later
        working := stage.working.eraseP (·.1.id == id) }

/-- A possible cue goes by one of the rules. -/
theorem step_of_step? {cue : Cue} (stepped : stage.step? config index parts cue = some next) :
    Step config index parts stage next := by
  -- A handler works on by itself; a move has to suit both the flight and the stage.
  cases cue with
  | work id =>
    simp only [step?] at stepped
    split at stepped
    · rename_i found
      cases stepped
      exact .work found
    · cases stepped
  | move move =>
    simp only [step?, bind, pure, Option.bind_eq_some_iff, Option.some.injEq] at stepped
    obtain ⟨voyage, sailing, working, fits, ⟨_, hub⟩, moved, rfl⟩ := stepped
    -- The hub makes the move if the voyage can be extended by it.
    rw [Hub.step?_move config sailing] at moved
    split at moved
    swap
    · cases moved
    obtain ⟨later, extended, same⟩ := Option.map_eq_some_iff.mp moved
    obtain ⟨rfl, rfl⟩ := Prod.mk.inj same
    -- What the stage asks for decides which rule it is.
    cases move with
    | start id =>
      simp only [working?, Option.map_eq_some_iff] at fits
      obtain ⟨⟨subscriber, rest⟩, picked, rfl⟩ := fits
      exact .start picked sailing extended
    | finish id cause =>
      simp only [working?] at fits
      split at fits
      · rename_i found
        -- The handler ends with the cause that its routine ended with.
        split at fits
        · rename_i same
          subst same
          cases fits
          exact .finish found sailing extended
        · cases fits
      · cases fits
    | cancel | abandon => cases fits
    | _ =>
      cases fits
      exact .quiet rfl sailing extended

/-- What holds at the start of a run and is kept by every step of it holds at its end. -/
theorem run?_induction {guard : Stage σ → Bool} {motive : Stage σ → Prop} {cues : List Cue}
    {first last : Stage σ} (start : motive first)
    (go : ∀ {stage next}, motive stage → guard stage = true → Step config index parts stage next →
      motive next)
    (ran : first.run? config index parts guard cues = some last) : motive last := by
  -- By induction on the cues; the guard holds at every stage on the way.
  induction cues generalizing first with
  | nil =>
    simp only [run?, Option.ite_none_right_eq_some, Option.some.injEq] at ran
    exact ran.2 ▸ start
  | cons cue rest ih =>
    simp only [run?, Option.ite_none_right_eq_some, Option.bind_eq_some_iff] at ran
    obtain ⟨guarded, next, stepped, ran⟩ := ran
    exact ih (go start guarded (step_of_step? stepped)) ran

/-- A move of the flight is possible if it fits to what the handlers do. -/
theorem step?_move {move : Move} {voyage later : Voyage}
    {working : List (Subscriber × Routine (Scene σ) Ending)} (genuine : move.isGenuine = true)
    (sailing : stage.scene.hub.voyages[index]? = some voyage)
    (fits : stage.working? parts voyage.flight move = some working)
    (extended : voyage.extend? move = some later) :
    stage.step? config index parts (.move move) = some { stage with
      scene.hub.voyages := stage.scene.hub.voyages.set index later, working } := by
  -- The four conditions of the step are the four hypotheses.
  simp only [step?, bind, pure, sailing, fits, Hub.step?_move config sailing, genuine, extended,
    if_true, Option.map_some, Option.bind_some]

/-- A run in two parts reaches a stage in between. -/
theorem run?_append {guard : Stage σ → Bool} (stage : Stage σ) (earlier later : List Cue) :
    stage.run? config index parts guard (earlier ++ later) =
      (stage.run? config index parts guard earlier).bind
        (·.run? config index parts guard later) := by
  induction earlier generalizing stage with
  | nil =>
    -- Where the guard does not hold, no run begins.
    by_cases guarded : guard stage = true
    · simp only [List.nil_append, run?, guarded, if_true, Option.bind_some]
    · cases later <;> simp [run?, guarded]
  | cons cue rest ih =>
    simp only [List.cons_append, run?, ih]
    split
    · rw [Option.bind_assoc]
    · rfl

end Stage

end EventBus
