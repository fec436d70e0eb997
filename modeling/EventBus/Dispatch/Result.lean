import EventBus.Duration
import EventBus.Log

/-! The result of a dispatch counts every subscriber once and keeps the failures in order. -/

namespace EventBus

/-- Why a handler failed. -/
inductive Cause where
  | failed (message : String)
  | panicked (message : String)
  | timedOut (after : Duration)
  deriving DecidableEq, Repr

namespace Cause

/-- The name of the kind of a cause. -/
def kind : Cause → String
  | .failed _ => "Failed"
  | .panicked _ => "Panicked"
  | .timedOut _ => "TimedOut"

/-- The text of a cause; a handler's own error speaks for itself. -/
def message : Cause → String
  | .failed message => message
  | .panicked message => "handler panicked: " ++ message
  | .timedOut after => "handler timed out after " ++ after.text

end Cause

/-- The failure of one handler under one subscription. -/
structure Failure where
  subscription : Nat
  handler : String
  cause : Cause
  deriving DecidableEq, Repr

/-- How one invocation ended. -/
inductive Outcome where
  | done (failure : Option Failure)
  | skipped
  deriving DecidableEq, Repr

/-- The result of one dispatch. -/
structure DispatchResult where
  type : EventType
  invoked : Nat
  skipped : Nat
  failures : List Failure
  deriving DecidableEq, Repr

namespace DispatchResult

/-- The result of a dispatch that has invoked nobody yet. -/
def empty (type : EventType) : DispatchResult := ⟨type, 0, 0, []⟩

/-- A dispatch succeeds when nothing failed. -/
def isSuccess (result : DispatchResult) : Bool := result.failures.isEmpty

/-- The result with one more outcome; a failure counts as invoked. -/
def record (result : DispatchResult) : Outcome → DispatchResult
  -- Whoever was called counts as invoked, whether it failed or not.
  | .done none => { result with invoked := result.invoked + 1 }
  | .done (some failure) =>
    { result with invoked := result.invoked + 1, failures := result.failures ++ [failure] }
  | .skipped => { result with skipped := result.skipped + 1 }

/-- The failures in the order of their subscriptions. -/
def sorted (result : DispatchResult) : DispatchResult :=
  -- Subscription ids ascend in every snapshot, so this is the order of the snapshot.
  { result with
    failures := result.failures.mergeSort fun a b => a.subscription ≤ b.subscription }

/-- What the end of a dispatch writes to the log: a summary, then every failure. -/
def records (result : DispatchResult) : List LogRecord :=
  .dispatched result.type result.invoked result.skipped result.failures.length ::
    result.failures.map fun failure =>
      .handlerFailed result.type failure.handler failure.cause.message

end DispatchResult

/-- What the log says of a failure that nobody waits for. -/
def Failure.unobserved (type : EventType) (failure : Failure) : LogRecord :=
  .unobservedFailure type failure.subscription failure.handler failure.cause.message

end EventBus
