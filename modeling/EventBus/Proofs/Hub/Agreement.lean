import EventBus.Proofs.Dispatch.Settling
import EventBus.Proofs.Hub.Voyages

/-! Publishing with a flight comes to the result of publishing in the calling thread. -/

namespace EventBus

/--
The two ways of publishing an event agree.

At a closed bus both are refused. At any other, the flight settles to the result of the calls in
order, whatever each handler does and in whichever order the handlers end.
-/
theorem publishAsync_agrees {config : BusConfig} {hub : Hub}
    (reachable : Hub.Reachable config hub) (outcome : Handler → Event → Option Cause)
    (event : Event) :
    let live := hub.registry.live hub.alive event.type
    let called := (Hub.bus config outcome).publish event hub
    let flown := (Hub.bus config outcome).publishAsync true event hub
    (hub.registry.closed = true ∧ called.1 = .error .busClosed ∧ flown.1 = .error .busClosed) ∨
      ∃ result voyage, called.1 = .ok result ∧ flown.1 = .ok hub.voyages.length ∧
        flown.2.voyages = hub.voyages ++ [voyage] ∧ voyage.moves = [] ∧
        (voyage.origin.queued = live.map fun entry => ⟨entry.id, entry.handler⟩) ∧
        result.type = event.type ∧ result.invoked = live.length ∧ result.skipped = 0 ∧
        result.failures = live.filterMap (fun entry =>
          (outcome entry.handler event).map fun cause => ⟨entry.id, entry.handler.name, cause⟩) ∧
        live.Pairwise (·.id < ·.id) ∧ voyage.origin.SettlesTo outcome result := by
  intro live called flown
  have wellFormed := (reachable.sound config).wellFormed
  have ascending : live.Pairwise (·.id < ·.id) := wellFormed.live_ascending
  by_cases closed : hub.registry.closed = true
  · have refused : hub.registry.snapshot hub.alive event.type = .error .busClosed := if_pos closed
    refine Or.inl ⟨closed, ?_, ?_⟩
    · simp only [called, Hub.publish_eq, refused]
    · simp only [flown, Hub.publishAsync_eq, refused]
  have taken : hub.registry.snapshot hub.alive event.type = .ok (live.map Entry.subscriber) :=
    if_neg closed
  have order : (live.map Entry.subscriber).Pairwise (·.id < ·.id) :=
    wellFormed.snapshot_ascending taken
  have size : (live.map Entry.subscriber).length = live.length := List.length_map ..
  have parts := DispatchResult.sum_outcomes event.type (live.map Entry.subscriber)
    (fun subscriber => subscriber) fun subscriber => outcome subscriber.handler event
  -- The failures of the subscribers are those of the entries that they come from.
  rw [List.filterMap_map] at parts
  right
  -- Both ways take the same snapshot, and go on with it.
  simp only [called, flown, Hub.publish_eq, Hub.publishAsync_eq, taken]
  generalize listed : live.map Entry.subscriber = subscribers at order size parts
  -- Without subscribers there is nothing to wait for, and the flight is over from the beginning.
  cases subscribers with
  | nil =>
    refine ⟨_, _, rfl, rfl, rfl, rfl, listed.symm, ?_, ?_, ?_, ?_, ascending, ?_⟩
    · rw [parts]
    · rw [parts]
      exact size
    · rw [parts]
    · rw [parts]
      rfl
    · exact Flight.settlesTo_expected (Flight.fresh_grounded event) outcome
  | cons first rest =>
    refine ⟨_, _, rfl, rfl, rfl, rfl, listed.symm, ?_, ?_, ?_, ?_, ascending, ?_⟩
    · rw [parts]
    · rw [parts]
      exact size
    · rw [parts]
    · rw [parts]
      rfl
    · exact Flight.settlesTo_expected (Flight.fresh_new event order _ _) outcome

/-- A bus with two subscribers to one type. -/
def twoSubscribers : List Incident :=
  let mailer : Handler := ⟨1, "mailer"⟩
  let audit : Handler := ⟨2, "audit"⟩
  [.request (.create mailer), .request (.create audit), .request (.subscribe ⟨"order"⟩ mailer),
    .request (.subscribe ⟨"order"⟩ audit)]

/-- A flight to a failing handler and another settles to what publishing answers. -/
theorem twoSubscribers_agree :
    let event : Event := ⟨⟨0⟩, ⟨"order"⟩, .null, .epoch, none⟩
    let outcome := fun handler _ => if handler.id = 1 then some (Cause.panicked "full") else none
    let result : DispatchResult := ⟨⟨"order"⟩, 2, 0, [⟨1, "mailer", .panicked "full"⟩]⟩
    ∃ hub, Hub.Reachable {} hub ∧ ∃ voyage,
      ((Hub.bus {} outcome).publish event hub).1 = .ok result ∧
        ((Hub.bus {} outcome).publishAsync true event hub).2.voyages = hub.voyages ++ [voyage] ∧
        voyage.origin.queued = [⟨1, 1, "mailer"⟩, ⟨2, 2, "audit"⟩] ∧
        voyage.origin.SettlesTo outcome result := by
  intro event outcome result
  -- The hub comes of two subscriptions, and both handlers are alive.
  obtain ⟨hub, ran, opened, two⟩ : ∃ hub, (Hub.new 0).run? {} twoSubscribers = some hub ∧
      hub.registry.closed = false ∧ hub.registry.live hub.alive event.type =
        [⟨1, ⟨1, "mailer"⟩, false⟩, ⟨2, ⟨2, "audit"⟩, false⟩] :=
    ⟨_, rfl, rfl, rfl⟩
  have reachable := (Hub.Reachable.new 0).run? ran
  refine ⟨hub, reachable, ?_⟩
  rcases publishAsync_agrees reachable outcome event with ⟨closed, _⟩ |
    ⟨⟨type, invoked, skipped, failures⟩, voyage, called, _, begun, _, queued, typed, all, none,
      failed, _, settles⟩
  · simp [opened] at closed
  · -- Every part of the result follows from the two entries.
    rw [two] at queued all failed
    obtain rfl : type = ⟨"order"⟩ := typed
    obtain rfl : invoked = 2 := all
    obtain rfl : skipped = 0 := none
    obtain rfl : failures = [⟨1, "mailer", .panicked "full"⟩] := failed
    exact ⟨voyage, called, begun, queued, settles⟩

end EventBus
