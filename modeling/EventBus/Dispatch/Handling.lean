import EventBus.Event.Basic
import EventBus.Registry.Basic

/-! Handlers are called in any monad; what goes wrong in one stays with that one. -/

namespace EventBus

/-- A handler by its behaviour: it may fail or panic, and what it does is an effect of the monad. -/
structure EventHandler (m : Type → Type) where
  name : String
  handle : Event → m (Option Cause)

/-- The outcome of an invocation that ended by itself. -/
def Subscriber.outcome (subscriber : Subscriber) (cause : Option Cause) : Outcome :=
  .done (cause.map subscriber.failure)

variable {m : Type → Type} [Monad m]

/-- Calls the subscribers one after the other and gathers their outcomes. -/
def DispatchResult.gather (call : Handler → Event → m (Option Cause)) (event : Event)
    (result : DispatchResult) : List Subscriber → m DispatchResult
  | [] => pure result
  -- A failure is recorded and the next subscriber is called all the same.
  | subscriber :: rest => do
    let cause ← call subscriber.handler event
    gather call event (result.record (subscriber.outcome cause)) rest

end EventBus
