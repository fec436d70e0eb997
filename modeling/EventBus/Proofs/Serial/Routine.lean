import EventBus.Proofs.Hub.Nesting

/-!
What is done step by step, so that others can act in between. A routine is a tree of steps, each of
which changes the world and goes on depending on how it has found it.
-/

namespace EventBus

/-- Something that is done in steps, each of which sees the world as it is before it. -/
inductive Routine (ω α : Type) where
  | done (answer : α)
  | step (change : ω → ω) (marks : List Mark) (next : ω → Routine ω α)

/-- What a routine has come to when it is carried out. -/
structure Upshot (ω α : Type) where
  answer : α
  marks : List Mark
  world : ω

namespace Routine

variable {ω α β : Type}

/-- One routine after another. -/
protected def bind (routine : Routine ω α) (next : α → Routine ω β) : Routine ω β :=
  match routine with
  | .done answer => next answer
  | .step change marks later => .step change marks fun world => (later world).bind next

instance : Monad (Routine ω) where
  pure := .done
  bind := .bind

/-- Carries out a routine with nobody acting in between. -/
def run : Routine ω α → ω → Upshot ω α
  | .done answer, world => ⟨answer, [], world⟩
  | .step change marks next, world =>
    let later := (next world).run (change world)
    ⟨later.answer, marks ++ later.marks, later.world⟩

/-- Does something in a single step that leaves no marks. -/
def act (task : StateM ω α) : Routine ω α :=
  .step (fun world => (task world).2) [] fun world => .done (task world).1

/-- Leaves a mark. -/
def mark (mark : Mark) : Routine ω Unit := .step id [mark] fun _ => .done ()

/-- An answer takes no step. -/
@[simp] theorem run_pure (answer : α) (world : ω) :
    (pure answer : Routine ω α).run world = ⟨answer, [], world⟩ := rfl

/-- A routine that follows another begins with what that one has left. -/
theorem run_bind (routine : Routine ω α) (next : α → Routine ω β) (world : ω) :
    (routine >>= next).run world =
      let first := routine.run world
      let second := (next first.answer).run first.world
      ⟨second.answer, first.marks ++ second.marks, second.world⟩ := by
  induction routine generalizing world with
  | done answer => rfl
  | step change marks later ih =>
    -- The first step is taken either way, and the marks are put together in another order.
    show (let rest := (later world >>= next).run (change world)
      (⟨rest.answer, marks ++ rest.marks, rest.world⟩ : Upshot ω β)) = _
    rw [ih world (change world)]
    simp only [run, List.append_assoc]

/-- The subscribers are called one after the other. -/
def takeTurns (call : Handler → Event → Routine ω (Option Cause)) (event : Event) :
    List Subscriber → Routine ω (List Turn)
  | [] => return []
  | subscriber :: rest => do
    let cause ← call subscriber.handler event
    let turns ← takeTurns call event rest
    return ⟨subscriber, cause⟩ :: turns

variable {call : Handler → Event → Routine ω (Option Cause)} {event : Event}

/-- The first subscriber takes its turn, and the others go on from what it leaves. -/
theorem run_takeTurns_cons (subscriber : Subscriber) (rest : List Subscriber) (world : ω) :
    (takeTurns call event (subscriber :: rest)).run world =
      let first := (call subscriber.handler event).run world
      let later := (takeTurns call event rest).run first.world
      ⟨⟨subscriber, first.answer⟩ :: later.answer, first.marks ++ later.marks, later.world⟩ := by
  -- A turn is a call whose answer is noted beside the subscriber, which leaves no mark of its own.
  simp only [takeTurns, run_bind, run_pure, List.append_nil]

end Routine

end EventBus
