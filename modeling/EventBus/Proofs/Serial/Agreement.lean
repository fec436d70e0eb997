import EventBus.Proofs.Hub.Agreement
import EventBus.Proofs.Hub.Isolation
import EventBus.Proofs.Serial.Lockstep
import EventBus.Proofs.Serial.Progress

/-! With a single slot, publishing with a flight does what publishing in the calling thread does. -/

namespace EventBus

variable {σ : Type}

namespace Stage

/-- The stage on which a flight has been set going, and nothing has been done yet. -/
def opening (config : BusConfig) (event : Event) (scene : Scene σ) : Stage σ where
  scene :=
    { scene with hub := ((Hub.bus config fun _ _ => none).publishAsync true event scene.hub).2 }
  marks := []
  working := []

/-- Every handler of a snapshot has an owner among the clients. -/
def keeps (subscribers : List Subscriber) (stage : Stage σ) : Bool :=
  subscribers.all fun subscriber => 0 < stage.scene.hub.outside subscriber.handler

end Stage

namespace Loop

/-- The result of the loop. -/
def result (loop : Loop σ) : DispatchResult :=
  .sum loop.event.type (loop.upshot.answer.map fun turn => turn.subscriber.outcome turn.cause)

section Publications

variable {config : BusConfig} {cast : Cast σ} {event : Event} {subscribers : List Subscriber}
  {scene : Scene σ}
  (taken : scene.hub.registry.snapshot scene.hub.alive event.type = .ok subscribers)

include taken

end Publications

end Loop

end EventBus
