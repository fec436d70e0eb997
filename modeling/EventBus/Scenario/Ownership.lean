import EventBus.Scenario.Observing

/-! A handler dies when the last reference to it goes, which may set off further steps. -/

namespace EventBus

namespace Exec

/-- Carries out the steps that the death of a handler sets off. -/
def lastSteps (key : String) : List Json → Exec Unit
  | [] => return ()
  | step :: rest => do
    let answer ← nested step
    note (Json.record [
      ("dropped", .string key), ("op", .string (step.textField "op")), ("r", answer)])
    lastSteps key rest

/-- A change of what is known of a handler. -/
def modifyHandler (handler : Handler) (change : HandlerState → HandlerState) : Exec Unit :=
  modify fun world => { world with handlerStates := world.handlerStates.modify handler.id change }

/-- A change of a handler that is a tracker. -/
def modifyTracker (handler : Handler) (change : Tracker → Tracker) : Exec Unit :=
  modifyHandler handler fun state => { state with body := state.body.modifyTracker change }

/-- The death of a handler that nobody owns any more; it happens once. -/
def reap (handler : Handler) : Exec Unit := do
  let world ← get
  match world.handlerState? handler with
  | none => return ()
  | some state =>
    if !state.gone && world.owners handler = 0 then
      -- It is marked first, since its last steps may look at it again.
      modifyHandler handler fun state => { state with gone := true }
      if state.body.isScripted then
        observe fun seen => { seen with drops := state.key :: seen.drops }
        lastSteps state.key state.onDrop

/-- Takes a reference to a handler. -/
def hold (handler : Handler) : Exec Unit :=
  modify fun world => { world with held := handler :: world.held }

/-- Gives up a reference that was taken. -/
def drop (handler : Handler) : Exec Unit := do
  modify fun world => world.release handler
  reap handler

/-- Calls a handler of the script, which outlives the call even if it lets go of itself. -/
def borrowing {α : Type} (handler : Handler) (use : Exec α) : Exec α := do
  modify fun world => { world with borrowed := handler :: world.borrowed }
  let answer ← use
  modify fun world => { world with borrowed := world.borrowed.eraseP (·.id == handler.id) }
  reap handler
  return answer

/-- Changes the world so that references to some handlers go, which are released one by one. -/
def releasing (handlers : List Handler) (change : World → World) : Exec Unit := do
  -- Holding them across the change keeps all alive until their turn comes.
  handlers.forM hold
  modify change
  handlers.forM drop

/-- Brings a handler into being; whoever asks for it holds the first reference. -/
def newHandler (name key : String) (body : Body) (onDrop : List Json) : Exec Handler := do
  let world ← get
  -- Its identity is its place in the list, which nothing is ever taken out of.
  let handler : Handler := ⟨world.handlerStates.length, name⟩
  let state : HandlerState := { handler, key, body, onDrop, calls := 0, gone := false }
  set { world with handlerStates := world.handlerStates ++ [state], held := handler :: world.held }
  return handler

end Exec

end EventBus
