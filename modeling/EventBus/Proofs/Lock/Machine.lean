import EventBus.Proofs.Lock.Stages
import Mathlib.Algebra.Ring.Nat

/-!
Threads that share a registry behind its lock, each step of any of them being a single instruction.
A thread that gives up the last reference to a handler does at once what the handler does as it
dies, and one that calls a handler does what the handler does; in both cases it may do anything.
-/

namespace EventBus.Locked

/-- Some way of putting handlers in order. -/
structure Shuffle where
  apply : List Handler → List Handler
  perm : ∀ handlers, (apply handlers).Perm handlers

/--
The result of an instruction, and what the thread sees after it.

The others hold the references `afar`. Waiting and calling are not the business of an instruction.
-/
def Instruction.run (afar : Handler → Nat) (order : Shuffle) (view : View) :
    (instruction : Instruction) → instruction.Result × View
  | .lock mode => ((), { view with holding := some mode })
  | .unlock => ((), { view with holding := none })
  | .look => (view.registry, view)
  | .store later => ((), view.store later)
  | .count handler => (view.owners afar handler, view)
  | .take handler =>
    let living := 0 < view.owners afar handler
    (living, if living then view.gain [handler] else view)
  | .release handler => ((), view.lose [handler])
  | .create handler =>
    let fresh := !view.born.contains handler
    (fresh, if fresh then { view.gain [handler] with born := handler :: view.born } else view)
  | .stash handler =>
    ((), { view.lose [handler] with
      elsewhere := fun other => view.elsewhere other + [handler].count other })
  | .fetch handler =>
    let found : Bool := 0 < view.elsewhere handler
    (found, if found then { view.gain [handler] with
      elsewhere := fun other => view.elsewhere other - [handler].count other } else view)
  | .may task => (task.allowed view.hand view.born, view)
  | .arrange handlers => (order.apply handlers, view)
  | .log record => ((), { view with records := view.records ++ [record] })
  | .call _ _ => (none, view)

/-- What a thread does while it waits for a handler that it has called, or that it has ended. -/
structure Frame where
  hand : Handler → Nat
  next : Option Cause → Procedure (Option Cause)

/-- A thread with what it is doing, and what it goes back to after that. -/
structure Thread where
  code : Procedure (Option Cause)
  hand : Handler → Nat
  holding : Option Mode
  outer : List Frame

/-- How many references to a handler a thread holds. -/
def Thread.holds (thread : Thread) (handler : Handler) : Nat :=
  thread.hand handler + (thread.outer.map (·.hand handler)).sum

/-- Threads with their registry, and the references that are left for any of them to find. -/
structure Machine where
  registry : Registry
  elsewhere : Handler → Nat
  /-- The handlers that have ever come into being. -/
  born : List Handler
  records : List LogRecord
  threads : List Thread

/-- Who makes the next step, and what happens in it that nobody can foresee. -/
structure Move where
  thread : Nat
  /-- What a handler does that is called, or that dies, in the step. -/
  script : Client
  order : Shuffle

namespace Machine

/-- A machine whose threads are about to run some clients. -/
def start (id : Nat) (clients : List Client) : Machine where
  registry := .new id
  elsewhere _ := 0
  born := []
  records := []
  threads := clients.map fun client => ⟨client.procedure, fun _ => 0, none, []⟩

variable (machine : Machine)

/-- The number of references to a handler. -/
def owners (handler : Handler) : Nat :=
  machine.registry.holds handler + machine.elsewhere handler +
    (machine.threads.map (·.holds handler)).sum

/-- What a thread sees of the machine. -/
def view (thread : Thread) : View :=
  ⟨machine.registry, thread.holding, thread.hand, machine.elsewhere, machine.born, machine.records⟩

/-- The references that a thread does not have in hand: those of others, and in its own frames. -/
def afar (index : Nat) (outer : List Frame) (handler : Handler) : Nat :=
  ((machine.threads.eraseIdx index).map (·.holds handler)).sum +
    (outer.map (·.hand handler)).sum

/-- The machine after a thread has come to see something and goes on with something. -/
def put (index : Nat) (view : View) (code : Procedure (Option Cause)) (outer : List Frame) :
    Machine where
  registry := view.registry
  elsewhere := view.elsewhere
  born := view.born
  records := view.records
  threads := machine.threads.set index ⟨code, view.hand, view.holding, outer⟩

/-- Whether a lock would be given at the moment: there is one writer, or only readers. -/
def admits : Mode → Bool
  | .shared => machine.threads.all fun thread => thread.holding != some .exclusive
  | .exclusive => machine.threads.all fun thread => thread.holding == none

/-- Whether an instruction has to wait; who holds the lock already waits for itself. -/
def waits (thread : Thread) : Instruction → Bool
  | .lock mode => thread.holding != none || !machine.admits mode
  | _ => false

/-- What an instruction results in once a handler has done something, if it makes a handler act. -/
def interrupt : (instruction : Instruction) → Option (Option Cause → instruction.Result)
  | .release handler => if machine.owners handler = 1 then some fun _ => () else none
  | .call _ _ => some id
  | _ => none

/-- The machine after a move, or nothing where the thread cannot move. -/
def step? (move : Move) : Option Machine :=
  match machine.threads[move.thread]? with
  | none => none
  | some thread =>
    match thread.code with
    | .done cause =>
      match thread.outer with
      | [] => none
      | frame :: outer =>
        -- What the handler leaves behind can be found by others.
        let view : View :=
          { machine.view thread with
            hand := frame.hand
            elsewhere := fun handler => machine.elsewhere handler + thread.hand handler }
        some (machine.put move.thread view (frame.next cause) outer)
    | .step instruction next =>
      if machine.waits thread instruction then none
      else
        let afar := machine.afar move.thread thread.outer
        let (result, view) := instruction.run afar move.order (machine.view thread)
        match machine.interrupt instruction with
        | none => some (machine.put move.thread view (next result) thread.outer)
        | some resume =>
          -- A handler begins with empty hands: what the thread holds is not its own.
          let frame : Frame := ⟨view.hand, fun cause => next (resume cause)⟩
          some (machine.put move.thread { view with hand := fun _ => 0 } move.script.procedure
            (frame :: thread.outer))

/-- The machine after some moves, if each of them can be made. -/
def run? (machine : Machine) : List Move → Option Machine
  | [] => some machine
  | move :: rest =>
    match machine.step? move with
    | none => none
    | some next => run? next rest

/-- The machines that can come about, whatever their threads do in whichever order. -/
def Reachable (machine : Machine) : Prop :=
  ∃ id clients moves, (start id clients).run? moves = some machine

/-- What a move is, depending on what the thread is about to do. -/
inductive Step (machine : Machine) (move : Move) : Machine → Prop
  /-- A handler has done what it had to do, and the thread goes back. -/
  | goBack {thread : Thread} {cause : Option Cause} {frame : Frame} {outer : List Frame}
    (found : machine.threads[move.thread]? = some thread) (done : thread.code = .done cause)
    (behind : thread.outer = frame :: outer) :
    Step machine move (machine.put move.thread
      { machine.view thread with
        hand := frame.hand
        elsewhere := fun handler => machine.elsewhere handler + thread.hand handler }
      (frame.next cause) outer)
  /-- An instruction is carried out. -/
  | proceed {thread : Thread} {instruction : Instruction}
    {next : instruction.Result → Procedure (Option Cause)} {result : instruction.Result}
    {after : View} (found : machine.threads[move.thread]? = some thread)
    (upcoming : thread.code = .step instruction next)
    (free : machine.waits thread instruction = false)
    (ran : instruction.run (machine.afar move.thread thread.outer) move.order
      (machine.view thread) = (result, after))
    (plain : machine.interrupt instruction = none) :
    Step machine move (machine.put move.thread after (next result) thread.outer)
  /-- A handler is called, or dies. -/
  | act {thread : Thread} {instruction : Instruction}
    {next : instruction.Result → Procedure (Option Cause)} {result : instruction.Result}
    {after : View} {resume : Option Cause → instruction.Result}
    (found : machine.threads[move.thread]? = some thread)
    (upcoming : thread.code = .step instruction next)
    (ran : instruction.run (machine.afar move.thread thread.outer) move.order
      (machine.view thread) = (result, after))
    (acts : machine.interrupt instruction = some resume) :
    Step machine move (machine.put move.thread { after with hand := fun _ => 0 }
      move.script.procedure (⟨after.hand, fun cause => next (resume cause)⟩ :: thread.outer))

variable {machine}

/-- A move is one of those that there are. -/
theorem step_of_step? {move : Move} {next : Machine} (stepped : machine.step? move = some next) :
    machine.Step move next := by
  -- The case split is that of the step: which thread, what is before it, and whether it waits.
  unfold step? at stepped
  split at stepped
  · cases stepped
  rename_i thread found
  split at stepped
  · rename_i cause done
    split at stepped
    · cases stepped
    · rename_i frame outer behind
      cases stepped
      exact .goBack found done behind
  · rename_i instruction rest upcoming
    split at stepped
    · cases stepped
    rename_i free
    split at stepped
    · rename_i plain
      cases stepped
      exact .proceed found upcoming (by simpa using free) rfl plain
    · rename_i resume acts
      cases stepped
      exact .act found upcoming rfl acts

end Machine

end EventBus.Locked
