import EventBus.Proofs.Dispatch.Calls
import EventBus.Proofs.Hub.Voyages
import EventBus.Proofs.Registry.Handlers

/-! Every flight calls each subscriber of its snapshot once, whatever else happens at its hub. -/

namespace EventBus

/-- No handler is twice in the snapshot of a flight. -/
theorem Hub.Reachable.handlers_nodup {config : BusConfig} {hub : Hub} {origin : Flight}
    (reachable : Hub.Reachable config hub) (begun : origin.BegunAt config hub) :
    (origin.queued.map Subscriber.handler).Nodup :=
  -- A snapshot has the handlers of one type, and a registry has each handler once in it.
  (reachable.registry Registry.kept_handlersApart fun id =>
    ⟨Registry.wellFormed_new id, Registry.handlersApart_new id⟩).2.snapshot begun.snapshot

end EventBus
