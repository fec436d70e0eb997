import EventBus.Proofs.Hub.Voyages
import EventBus.Proofs.Registry.Handlers

/-! Hubs at which handlers have been called directly, too, in the course of publications. -/

namespace EventBus

namespace Hub

/--
The hubs that can come about, in between two publications or in the middle of some.

A publication in the calling thread is made of the same incidents as everything else. Besides them
it notes its calls and writes to the log, which nothing depends on.
-/
inductive Attainable (config : BusConfig) : Hub → Prop
  | new (id : Nat) : Attainable config (Hub.new id)
  | step {hub next : Hub} {incident : Incident} {answer : Answer} (before : Attainable config hub)
    (happened : hub.step? config incident = some (answer, next)) : Attainable config next
  | noted {hub : Hub} (before : Attainable config hub) (calls : List (Handler × Event))
    (records : List LogRecord) : Attainable config { hub with calls, records }

/-- What comes about without publications in the calling thread comes about with them. -/
theorem Reachable.attainable {config : BusConfig} {hub : Hub} (reachable : Reachable config hub) :
    hub.Attainable config := by
  -- The induction is on how the hub came about, step by step.
  induction reachable with
  | new id => exact .new id
  | step before happened ih => exact ih.step happened

namespace Attainable

variable {config : BusConfig} {hub : Hub} (attainable : hub.Attainable config)

include attainable

/-- What sections keep holds of the registry of every hub that can come about. -/
theorem registry {property : Registry → Prop} (kept : Registry.Kept property)
    (new : ∀ id, property (.new id)) : property hub.registry := by
  -- Calls and records that are noted do not touch the registry.
  induction attainable with
  | new id => exact new id
  | step before happened ih => exact registry_step kept happened ih
  | noted before calls records ih => exact ih

/-- The registry is well-formed, and no handler is twice under one type. -/
theorem intact : hub.registry.WellFormed ∧ hub.registry.HandlersApart :=
  -- No section of the registry breaks either, from whichever hub it is called.
  attainable.registry Registry.kept_handlersApart fun id =>
    ⟨Registry.wellFormed_new id, Registry.handlersApart_new id⟩

/-- A client can make any request that is allowed. -/
theorem request {request : Request} (allowed : allows hub.outside hub.born request = true) :
    (serve (bus config fun _ _ => none) request hub).2.Attainable config := by
  -- An allowed request is an incident like any other.
  have happened : hub.step? config (.request request) =
      some (serve (bus config fun _ _ => none) request hub) := if_pos allowed
  exact attainable.step happened

/-- A client can give up a reference; if none is left, this changes nothing. -/
theorem giveUp (handler : Handler) : (hub.giveUp handler).Attainable config := by
  -- Giving up a reference is a request of its own, where there is one to give up.
  by_cases held : 0 < hub.outside handler
  · have allowed : allows hub.outside hub.born (.release handler) = true := by
      simpa [allows] using held
    exact attainable.request allowed
  · have same : hub.giveUp handler = hub := by
      have outside : (hub.giveUp handler).outside = hub.outside := by
        funext other
        simp only [Hub.giveUp]
        split
        · rename_i hit
          subst hit
          omega
        · rfl
      show { hub with outside := (hub.giveUp handler).outside } = hub
      rw [outside]
    rw [same]
    exact attainable

/-- Clients can give up references to many handlers. -/
theorem forM_drop (handlers : List Handler) :
    (handlers.forM (bus config fun _ _ => none).drop hub).2.Attainable config := by
  -- They are given up one by one.
  induction handlers generalizing hub with
  | nil => exact attainable
  | cons first rest ih => exact ih (attainable.giveUp first)

/-- What is written to the log makes no difference. -/
theorem forM_log (records : List LogRecord) :
    (records.forM (bus config fun _ _ => none).log hub).2.Attainable config := by
  -- Records only lengthen the log.
  rw [Hub.forM_log]
  exact attainable.noted hub.calls _

/-- Clients can give up a snapshot. -/
theorem dropSnapshot (subscribers : List Subscriber) :
    ((bus config fun _ _ => none).dropSnapshot subscribers hub).2.Attainable config := by
  -- A snapshot holds one reference for each of its subscribers.
  rw [Bus.dropSnapshot, forM_handler]
  exact attainable.forM_drop _

/-- Clients can take a snapshot. -/
theorem snapshot (type : EventType) :
    ((bus config fun _ _ => none).snapshot type hub).2.Attainable config :=
  @request config hub attainable (.snapshot type) rfl

end Attainable

end Hub

end EventBus
