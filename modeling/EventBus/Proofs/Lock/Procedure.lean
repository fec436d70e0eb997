import EventBus.Proofs.Hub.Operations
import EventBus.Proofs.Registry.Identity

/-!
What threads do at a registry behind a lock, instruction by instruction. A reference to a handler is
taken, passed on and given up one at a time, so that it is seen who holds the lock meanwhile.
-/

namespace EventBus.Locked

/-- How a registry is locked: for any number of readers, or for a single writer. -/
inductive Mode where
  | shared
  | exclusive
  deriving DecidableEq, Repr

/-- What is done operation by operation, each of which goes on from its result. -/
inductive Program {Op : Type} (Result : Op → Type) (α : Type) where
  | done (value : α)
  | step (op : Op) (next : Result op → Program Result α)

namespace Program

variable {Op : Type} {Result : Op → Type} {α β : Type}

/-- One program after another. -/
protected def bind (program : Program Result α) (next : α → Program Result β) :
    Program Result β :=
  match program with
  | .done value => next value
  | .step op later => .step op fun result => (later result).bind next

instance : Monad (Program Result) where
  pure := .done
  bind := .bind

instance : LawfulMonad (Program Result) := LawfulMonad.mk' _
  (fun program => by
    induction program with
    | done value => rfl
    | step op later ih => exact congrArg (Program.step op) (funext ih))
  (fun _ _ => rfl)
  (fun program _ _ => by
    induction program with
    | done value => rfl
    | step op later ih => exact congrArg (Program.step op) (funext ih))

end Program

/-- What a client does at a bus. -/
inductive Task where
  | request (request : Request)
  /-- Subscribes a handler with the client's own reference, which the registry keeps. -/
  | give (type : EventType) (handler : Handler)
  | publish (event : Event)
  /-- Sets a flight going, which holds its subscribers from then on. -/
  | launch (runtime : Bool) (event : Event)
  /-- Leaves a reference where any thread can find it. -/
  | stash (handler : Handler)
  /-- Takes a reference that was left somewhere, if there is one. -/
  | fetch (handler : Handler)

/-- What comes of a task. -/
abbrev Task.Result : Task → Type
  | .request _ => Answer
  | .give _ _ => Except BusError SubscriptionHandle
  | .publish _ => Except BusError DispatchResult
  | .launch _ _ => Except BusError Unit
  | .stash _ => Unit
  | .fetch _ => Bool

/-- Whether a client that holds some references can take on a task. -/
def Task.allowed (hand : Handler → Nat) (born : List Handler) : Task → Bool
  | .request asked => Hub.allows hand born asked
  | .give _ handler | .stash handler => 0 < hand handler
  | _ => true

/-- What a thread can do in one go. -/
inductive Instruction where
  | lock (mode : Mode)
  | unlock
  /-- Reads the registry. -/
  | look
  /--
  Changes the registry. The references that it holds from then on come from the thread, and those
  that it holds no longer go to the thread.
  -/
  | store (registry : Registry)
  /-- Counts the references to a handler. -/
  | count (handler : Handler)
  /-- Takes a reference to a handler, unless it is dead. -/
  | take (handler : Handler)
  /-- Gives up a reference; if it is the last one, the handler dies and says what happens then. -/
  | release (handler : Handler)
  /-- Brings a handler into being with a first reference, unless it has been there before. -/
  | create (handler : Handler)
  | stash (handler : Handler)
  | fetch (handler : Handler)
  /-- Whether the thread holds the references that a task needs. -/
  | may (task : Task)
  /-- Puts handlers in some order that nobody can foresee. -/
  | arrange (handlers : List Handler)
  | log (record : LogRecord)
  /-- Calls a handler. -/
  | call (handler : Handler) (event : Event)

/-- What an instruction results in. -/
abbrev Instruction.Result : Instruction → Type
  | .look => Registry
  | .count _ => Nat
  | .take _ | .create _ | .fetch _ | .may _ => Bool
  | .arrange _ => List Handler
  | .call _ _ => Option Cause
  | _ => Unit

/-- What a thread does, instruction by instruction. -/
abbrev Procedure := Program Instruction.Result

/-- A procedure of a single instruction. -/
def perform (instruction : Instruction) : Procedure instruction.Result := .step instruction .done

end EventBus.Locked
