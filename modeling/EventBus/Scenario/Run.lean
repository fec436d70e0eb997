/-!
A run either ends with an answer or is held at a gate, from where it goes on with whatever state it
finds once the gate has been opened.
-/

namespace EventBus

/-- A computation on a shared state that may be held at gates. -/
inductive Run (σ α : Type) where
  /-- The end, with an answer and the state left behind. -/
  | done (answer : α) (state : σ)
  /-- A halt in front of a gate, and what is done after it. -/
  | held (gate : String) (state : σ) (rest : σ → Run σ α)

namespace Run

variable {σ α β γ : Type}

/-- What follows a run is done when it has ended. -/
def andThen : Run σ α → (α → σ → Run σ β) → Run σ β
  | .done answer state, next => next answer state
  -- What follows is put behind the gate.
  | .held gate state rest, next => .held gate state fun later => (rest later).andThen next

/-- Ending with the same answer adds nothing to a run. -/
theorem andThen_done (run : Run σ α) : run.andThen .done = run := by
  induction run with
  | done answer state => rfl
  | held gate state rest ih =>
    -- The two sides differ at most behind the gate, for every state found there.
    simp only [andThen]
    exact congrArg _ (funext fun later => ih later)

/-- Of three runs in a row it does not matter which two are put together first. -/
theorem andThen_assoc (run : Run σ α) (second : α → σ → Run σ β) (third : β → σ → Run σ γ) :
    (run.andThen second).andThen third =
      run.andThen fun answer state => (second answer state).andThen third := by
  induction run with
  | done answer state => rfl
  | held gate state rest ih =>
    -- Both sides halt at the same gate, and go on alike by the hypothesis.
    simp only [andThen]
    exact congrArg _ (funext fun later => ih later)

/-- The end of a run for which all gates are open. -/
def finish : Run σ α → α × σ
  | .done answer state => (answer, state)
  | .held _ state rest => (rest state).finish

end Run

end EventBus
