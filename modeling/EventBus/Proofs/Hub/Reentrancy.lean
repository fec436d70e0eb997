import EventBus.Proofs.Hub.Agreement
import EventBus.Proofs.Hub.Nesting

/-!
A publication in the calling thread calls the handlers that were live when it began, whatever these
do to the bus meanwhile, and how one of them ends matters to no other.
-/

namespace EventBus

/-- The same behaviour with another end: all that it does before it ends stays as it is. -/
def Behaviour.altered (change : Option Cause → Option Cause) : Behaviour → Behaviour
  | .done cause => .done (change cause)
  | .act incident next => .act incident fun answer => (next answer).altered change
  | .publish event react next => .publish event react fun answer => (next answer).altered change

/-- The same reactions, but for how the calls of one handler end. -/
def Reactions.altered (culprit : Handler) (change : Option Cause → Option Cause)
    (react : Reactions) : Reactions := fun hub handler event =>
  if handler = culprit then (react hub handler event).altered change else react hub handler event

/-- The same turn, unless it is that of one handler, whose call ends in another way. -/
def Turn.altered (culprit : Handler) (change : Option Cause → Option Cause) (turn : Turn) : Turn :=
  if turn.subscriber.handler = culprit then { turn with cause := change turn.cause } else turn

/-- The same mark, unless it is the end of a call of one handler at some depth. -/
def Mark.altered (depth : Nat) (culprit : Handler) (change : Option Cause → Option Cause) :
    Mark → Mark
  | .began outer handler event => .began outer handler event
  | .ended outer handler cause =>
    .ended outer handler (if outer = depth ∧ handler = culprit then change cause else cause)

variable {config : BusConfig} {depth : Nat} {culprit : Handler}
  {change : Option Cause → Option Cause}

/-- What is deeper than a publication does not show how the calls of the publication end. -/
theorem Mark.altered_of_deeper {mark : Mark} (deeper : depth < mark.depth) :
    mark.altered depth culprit change = mark := by
  -- Only the ends of calls at the same depth are altered.
  cases mark with
  | began outer handler event => rfl
  | ended outer handler cause =>
    have differs : outer ≠ depth := Nat.ne_of_gt deeper
    simp [Mark.altered, differs]

/-- A behaviour that only ends in another way leaves the same marks and the same hub behind. -/
theorem Behaviour.enact_altered (behaviour : Behaviour) (hub : Hub) :
    (behaviour.altered change).enact config depth hub =
      { behaviour.enact config depth hub with
        answer := change (behaviour.enact config depth hub).answer } := by
  -- How it ends is the last thing about a behaviour.
  induction behaviour generalizing hub with
  | done cause => rfl
  | act incident next ih =>
    simp only [altered, enact, bind, ih]
  | publish event react next reacts ih =>
    simp only [altered, enact, bind, ih]

/-- A call of the handler in question ends in another way, and every other call is the same. -/
theorem Reactions.respond_altered (react : Reactions) (handler : Handler) (event : Event)
    (hub : Hub) :
    (react.altered culprit change).respond config depth handler event hub =
      { react.respond config depth handler event hub with
        answer :=
          if handler = culprit then change (react.respond config depth handler event hub).answer
          else (react.respond config depth handler event hub).answer } := by
  -- Whose call it is is decided before the handler does anything.
  by_cases same : handler = culprit
  · simp only [respond, altered, if_pos same, Behaviour.enact_altered]
  · simp only [respond, altered, if_neg same]

/-- The turns of a publication are the same, but for how the calls of one handler end. -/
theorem Activity.takeTurns_altered (react : Reactions) (event : Event)
    (subscribers : List Subscriber) (hub : Hub) :
    let turns :=
      takeTurns (bus config depth (react.respond config depth)).call event subscribers hub
    takeTurns (bus config depth ((react.altered culprit change).respond config depth)).call event
        subscribers hub =
      ⟨turns.answer.map (Turn.altered culprit change),
        turns.marks.map (Mark.altered depth culprit change), turns.hub⟩ := by
  -- The induction is on the subscribers; each turn leaves the same hub as before.
  induction subscribers generalizing hub with
  | nil => rfl
  | cons subscriber rest ih =>
    simp only [takeTurns_cons, call_eq, Reactions.respond_altered]
    have deeper := (react.inside config depth subscriber.handler event).deeper
      { hub with calls := hub.calls ++ [(subscriber.handler, event)] }
    generalize react.respond config depth subscriber.handler event _ = responded at deeper ⊢
    -- Marks from inside the call are left as they are, since they are deeper.
    have inner : responded.marks.map (Mark.altered depth culprit change) = responded.marks :=
      (List.map_congr_left fun mark there => Mark.altered_of_deeper (deeper mark there)).trans
        (List.map_id _)
    rw [ih]
    by_cases same : subscriber.handler = culprit
    · simp [Turn.altered, Mark.altered, inner, same]
    · simp [Turn.altered, Mark.altered, inner, same]

/--
A publication on an open bus calls exactly the handlers that were live for the type of its event
when it began, each once, with this event, in the order of their subscriptions.

The result counts them all as invoked and lists those that failed or panicked, in the same order and
each with its own subscription, name and error. All this holds whatever the handlers do while they
are called, and however deep the publication is inside others. If one handler ends its calls in
another way, no other call changes and no other entry.
-/
theorem publication_calls_live {hub : Hub} (attainable : hub.Attainable config)
    (opened : hub.registry.closed = false) (react : Reactions) (event : Event) :
    let done := Hub.publication config depth react event hub
    ∃ turns : List Turn,
      (turns.map Turn.subscriber =
        (hub.registry.live hub.alive event.type).map fun entry => ⟨entry.id, entry.handler⟩) ∧
      (turns.map fun turn => turn.subscriber.handler).Nodup ∧
      turns.Pairwise (·.subscriber.id < ·.subscriber.id) ∧
      done.marks.filter (·.depth = depth) = turns.flatMap (Turn.marks depth event) ∧
      (∀ mark ∈ done.marks, depth ≤ mark.depth) ∧
      done.answer = .ok ⟨event.type, turns.length, 0, turns.filterMap Turn.failure?⟩ ∧
      done.hub.Attainable config ∧
      ∀ culprit change,
        let other := Hub.publication config depth (react.altered culprit change) event hub
        other.marks = done.marks.map (Mark.altered depth culprit change) ∧
        other.answer = .ok ⟨event.type, turns.length, 0,
          (turns.map (Turn.altered culprit change)).filterMap Turn.failure?⟩ := by
  intro done
  let live := (hub.registry.live hub.alive event.type).map Entry.subscriber
  have taken : hub.registry.snapshot hub.alive event.type = .ok live := if_neg (by simp [opened])
  obtain ⟨wellFormed, apart⟩ := attainable.intact
  have inside := react.inside config depth
  -- The turns start from the hub at which the snapshot is held.
  let held := ((Hub.bus config fun _ _ => none).snapshot event.type hub).2
  let turns := Activity.takeTurns
    (Activity.bus config depth (react.respond config depth)).call event live held
  have subscribers : turns.answer.map Turn.subscriber = live :=
    Activity.takeTurns_subscribers event live held
  obtain ⟨own, deeper⟩ := Activity.takeTurns_marks inside event live held
  have counted : ∀ turns : List Turn,
      DispatchResult.sum event.type (turns.map fun turn => turn.subscriber.outcome turn.cause) =
        ⟨event.type, turns.length, 0, turns.filterMap Turn.failure?⟩ := fun turns =>
    DispatchResult.sum_outcomes event.type turns Turn.subscriber Turn.cause
  have published : done.marks = turns.marks ∧
      done.answer = .ok ⟨event.type, turns.answer.length, 0,
        turns.answer.filterMap Turn.failure?⟩ := by
    simp only [done, Hub.publication, Activity.publish_eq, taken, counted]
    exact ⟨rfl, rfl⟩
  refine ⟨turns.answer, subscribers, ?_, ?_, ?_, ?_, published.2,
    Activity.publish_attainable inside event attainable, ?_⟩
  · have handlers : (live.map Subscriber.handler).Nodup := apart.snapshot taken
    rwa [← subscribers, List.map_map] at handlers
  · have ascending : live.Pairwise (·.id < ·.id) := wellFormed.snapshot_ascending taken
    rwa [← subscribers, List.pairwise_map] at ascending
  · rw [published.1]
    exact own
  · rw [published.1]
    exact deeper
  · intro culprit change other
    have altered := @Activity.takeTurns_altered config depth culprit change react event live held
    have size : (turns.answer.map (Turn.altered culprit change)).length = turns.answer.length :=
      List.length_map ..
    rw [published.1, ← size]
    simp only [other, Hub.publication, Activity.publish_eq, taken, counted]
    refine ⟨congrArg Aftermath.marks altered, ?_⟩
    -- The result depends on nothing but the turns.
    exact congrArg (fun turns : List Turn => Except.ok (DispatchResult.mk event.type turns.length 0
      (turns.filterMap Turn.failure?))) (congrArg Aftermath.answer altered)

/--
The first of two handlers publishes again, ends the subscription of the second, drops the last
reference to it that a client has, closes the bus, and fails; the second panics.
-/
def meddling : Reactions := fun _ handler event =>
  if handler.id = 1 then
    .publish event (fun _ _ _ => .done none) fun _ =>
      .act (.request (.unsubscribe ⟨0, 2, ⟨"order"⟩⟩)) fun _ =>
        .act (.request (.release ⟨2, "audit"⟩)) fun _ =>
          .act (.request .close) fun _ => .done (some (.failed "full"))
  else .done (some (.panicked "closed"))

/--
The second handler is called all the same, at a bus that is closed by then, and each of the two has
an entry of its own in the result.
-/
theorem meddling_calls_both :
    let event : Event := ⟨⟨0⟩, ⟨"order"⟩, .null, .epoch, none⟩
    ∃ hub, hub.Attainable {} ∧ hub.registry.closed = false ∧
      ∃ turns : List Turn,
        turns = [⟨⟨1, 1, "mailer"⟩, some (.failed "full")⟩,
          ⟨⟨2, 2, "audit"⟩, some (.panicked "closed")⟩] ∧
        (Hub.publication {} 0 meddling event hub).marks.filter (·.depth = 0) =
          turns.flatMap (Turn.marks 0 event) ∧
        (Hub.publication {} 0 meddling event hub).answer = .ok ⟨⟨"order"⟩, 2, 0,
          [⟨1, "mailer", .failed "full"⟩, ⟨2, "audit", .panicked "closed"⟩]⟩ ∧
        (Hub.publication {} 0 meddling event hub).hub.registry.closed = true := by
  intro event
  -- The publication is evaluated at a hub with the two subscriptions.
  obtain ⟨hub, ran, opened, two, calls, closes⟩ :
      ∃ hub, (Hub.new 0).run? {} twoSubscribers = some hub ∧ hub.registry.closed = false ∧
        ((hub.registry.live hub.alive event.type).map fun entry => ⟨entry.id, entry.handler⟩) =
          ([⟨1, 1, "mailer"⟩, ⟨2, 2, "audit"⟩] : List Subscriber) ∧
        (Hub.publication {} 0 meddling event hub).marks.filter (·.depth = 0) =
          [.began 0 ⟨1, "mailer"⟩ event, .ended 0 ⟨1, "mailer"⟩ (some (.failed "full")),
            .began 0 ⟨2, "audit"⟩ event, .ended 0 ⟨2, "audit"⟩ (some (.panicked "closed"))] ∧
        (Hub.publication {} 0 meddling event hub).hub.registry.closed = true :=
    ⟨_, rfl, rfl, rfl, by decide +kernel, by decide +kernel⟩
  have attainable := ((Hub.Reachable.new 0).run? ran).attainable
  obtain ⟨turns, subscribers, _, _, own, _, answered, _⟩ :=
    @publication_calls_live {} 0 hub attainable opened meddling event
  -- The subscribers are known, and the marks tell how their calls have ended.
  obtain rfl : turns = [⟨⟨1, 1, "mailer"⟩, some (.failed "full")⟩,
      ⟨⟨2, 2, "audit"⟩, some (.panicked "closed")⟩] := by
    match turns, subscribers.trans two with
    | [⟨_, first⟩, ⟨_, second⟩], listed =>
      cases listed
      simpa [Turn.marks] using own.symm.trans calls
  exact ⟨hub, attainable, opened, _, rfl, own, answered, closes⟩

end EventBus
