import EventBus.Proofs.Hub.Activity

/-! What a publication does, call by call, when handlers act on the bus and publish in turn. -/

namespace EventBus

/-- The turn of a subscriber in a publication: how its call has ended. -/
structure Turn where
  subscriber : Subscriber
  cause : Option Cause
  deriving DecidableEq, Repr

namespace Turn

/-- The entry that a turn makes in the result, if it went wrong. -/
def failure? (turn : Turn) : Option Failure :=
  turn.cause.map fun cause => ⟨turn.subscriber.id, turn.subscriber.handler.name, cause⟩

/-- The marks of a turn itself. -/
def marks (depth : Nat) (event : Event) (turn : Turn) : List Mark :=
  [.began depth turn.subscriber.handler event, .ended depth turn.subscriber.handler turn.cause]

end Turn

namespace Activity

variable {config : BusConfig} {depth : Nat} {respond : Handler → Event → Activity (Option Cause)}

/-- Going through a list without leaving marks. -/
theorem forM_quietly {α : Type} (task : α → StateM Hub Unit) (items : List α) :
    (items.forM fun item => quietly (task item)) = quietly (items.forM task) := by
  -- Nothing in a row of tasks without marks leaves a mark.
  induction items with
  | nil => rfl
  | cons first rest ih =>
    show (do quietly (task first); rest.forM fun item => quietly (task item)) = _
    rw [ih]
    rfl

/-- Holding every subscriber of a snapshot leaves no marks. -/
theorem forM_hold (subscribers : List Subscriber) :
    (subscribers.forM fun subscriber => (bus config depth respond).hold subscriber.handler) =
      quietly (subscribers.forM fun subscriber =>
        (Hub.bus config fun _ _ => none).hold subscriber.handler) :=
  -- Taking a reference shows nothing, and no more does taking several.
  forM_quietly (fun subscriber : Subscriber =>
    (Hub.bus config fun _ _ => none).hold subscriber.handler) subscribers

/-- Looking at the registry leaves no marks. -/
theorem load_eq (hub : Hub) :
    (bus config depth respond).load hub = ⟨hub.registry, [], hub⟩ := rfl

/-- Looking at which handlers are alive leaves no marks. -/
theorem alive_eq (hub : Hub) : (bus config depth respond).alive hub = ⟨hub.alive, [], hub⟩ := rfl

/-- Taking a snapshot leaves no marks. -/
theorem snapshot_eq (type : EventType) (hub : Hub) :
    (bus config depth respond).snapshot type hub =
      ⟨hub.registry.snapshot hub.alive type, [],
        ((Hub.bus config fun _ _ => none).snapshot type hub).2⟩ := by
  -- All that a snapshot does is to hold handlers.
  rw [Hub.snapshot_eq]
  simp only [Bus.snapshot, bind, load_eq, alive_eq, List.nil_append]
  cases hub.registry.snapshot hub.alive type with
  | error error => rfl
  | ok subscribers =>
    simp only [forM_hold]
    show (⟨_, [], ((subscribers.forM fun subscriber =>
      (Hub.bus config fun _ _ => none).hold subscriber.handler) hub).2⟩ : Aftermath _) = _
    rw [Hub.forM_handler, Hub.forM_hold]
    rfl

/-- Writing to the log leaves no marks. -/
theorem forM_log (records : List LogRecord) :
    records.forM (bus config depth respond).log =
      quietly (records.forM (Hub.bus config fun _ _ => none).log) :=
  forM_quietly (Hub.bus config fun _ _ => none).log records

/-- Giving up a snapshot leaves no marks. -/
theorem dropSnapshot_eq (subscribers : List Subscriber) :
    (bus config depth respond).dropSnapshot subscribers =
      quietly ((Hub.bus config fun _ _ => none).dropSnapshot subscribers) :=
  -- Giving a reference back shows nothing, and no more does giving back several.
  forM_quietly (fun subscriber : Subscriber =>
    (Hub.bus config fun _ _ => none).drop subscriber.handler) subscribers

/-- The subscribers are called one by one, each at the hub that the call before it leaves. -/
def takeTurns (call : Handler → Event → Activity (Option Cause)) (event : Event) :
    List Subscriber → Activity (List Turn)
  | [] => return []
  | subscriber :: rest => do
    let cause ← call subscriber.handler event
    let turns ← takeTurns call event rest
    return ⟨subscriber, cause⟩ :: turns

/-- The hub at the end of a publication, when its result is logged and its snapshot given up. -/
def closing (config : BusConfig) (result : DispatchResult) (subscribers : List Subscriber) :
    StateM Hub Unit := do
  result.records.forM (Hub.bus config fun _ _ => none).log
  (Hub.bus config fun _ _ => none).dropSnapshot subscribers

/-- The end of a publication leads to a hub that can come about. -/
theorem closing_attainable {hub : Hub} (attainable : hub.Attainable config)
    (result : DispatchResult) (subscribers : List Subscriber) :
    (closing config result subscribers hub).2.Attainable config :=
  (attainable.forM_log result.records).dropSnapshot subscribers

variable {call : Handler → Event → Activity (Option Cause)} {event : Event}

/-- Gathering outcomes counts the turns, whatever the calls do to the hub. -/
theorem gather_eq (result : DispatchResult) (subscribers : List Subscriber) (hub : Hub) :
    DispatchResult.gather call event result subscribers hub =
      let turns := takeTurns call event subscribers hub
      ⟨(turns.answer.map fun turn => turn.subscriber.outcome turn.cause).foldl
        DispatchResult.record result, turns.marks, turns.hub⟩ := by
  -- The outcome of a turn is recorded when the turn is over, and the others follow.
  induction subscribers generalizing result hub with
  | nil => rfl
  | cons subscriber rest ih =>
    let first := call subscriber.handler event hub
    show (let done := DispatchResult.gather call event
            (result.record (subscriber.outcome first.answer)) rest first.hub
          (⟨done.answer, first.marks ++ done.marks, done.hub⟩ : Aftermath _)) = _
    rw [ih]
    simp only [takeTurns, bind, pure, List.append_nil]
    rfl

/-- A publication takes a snapshot, has the subscribers take their turns, and counts these. -/
theorem publish_eq (event : Event) (hub : Hub) :
    (bus config depth respond).publish event hub =
      let taken := ((Hub.bus config fun _ _ => none).snapshot event.type hub).2
      match hub.registry.snapshot hub.alive event.type with
      | .error error => ⟨.error error, [], taken⟩
      | .ok subscribers =>
        let turns := takeTurns (bus config depth respond).call event subscribers taken
        let result := DispatchResult.sum event.type
          (turns.answer.map fun turn => turn.subscriber.outcome turn.cause)
        ⟨.ok result, turns.marks, (closing config result subscribers turns.hub).2⟩ := by
  -- Only the turns leave marks; what comes before and after them is quiet.
  simp only [Bus.publish, bind, snapshot_eq]
  cases hub.registry.snapshot hub.alive event.type with
  | error error => rfl
  | ok subscribers =>
    simp only [gather_eq, forM_log, dropSnapshot_eq]
    simp only [quietly, pure, List.append_nil, List.nil_append]
    rfl

/-- The first subscriber takes its turn, and the others go on from what it leaves. -/
theorem takeTurns_cons (event : Event) (subscriber : Subscriber) (rest : List Subscriber)
    (hub : Hub) :
    takeTurns call event (subscriber :: rest) hub =
      let first := call subscriber.handler event hub
      let later := takeTurns call event rest first.hub
      ⟨⟨subscriber, first.answer⟩ :: later.answer, first.marks ++ later.marks, later.hub⟩ := by
  -- The marks of the first turn stand in front.
  simp only [takeTurns, bind, pure, List.append_nil]

/-- Each subscriber has one turn, in order. -/
theorem takeTurns_subscribers (event : Event) (subscribers : List Subscriber) (hub : Hub) :
    (takeTurns call event subscribers hub).answer.map Turn.subscriber = subscribers := by
  -- Every subscriber is called, however the calls before it have ended.
  induction subscribers generalizing hub with
  | nil => rfl
  | cons subscriber rest ih =>
    exact congrArg (subscriber :: ·) (ih (call subscriber.handler event hub).hub)

/-- What is done inside a call at some depth. -/
structure Inside (config : BusConfig) (depth : Nat) {α : Type} (activity : Activity α) :
    Prop where
  /-- Calls inside it are deeper. -/
  deeper : ∀ hub, ∀ mark ∈ (activity hub).marks, depth < mark.depth
  attainable : ∀ hub, hub.Attainable config → (activity hub).hub.Attainable config

/-- Two things in a row that are done inside a call are inside it together. -/
theorem Inside.bind {α β : Type} {activity : Activity α} {next : α → Activity β}
    (first : Inside config depth activity) (second : ∀ answer, Inside config depth (next answer)) :
    Inside config depth (activity >>= next) where
  -- A mark belongs to one of the two, and both are inside.
  deeper hub mark there := by
    rcases List.mem_append.mp there with before | after
    · exact first.deeper hub mark before
    · exact (second _).deeper _ mark after
  attainable hub attainable := (second _).attainable _ (first.attainable hub attainable)

/-- An incident is inside every call. -/
theorem attempt_inside (config : BusConfig) (depth : Nat) (incident : Incident) :
    Inside config depth (attempt config incident) where
  -- An incident leaves no mark, and it is a step if it happens at all.
  deeper hub mark there := by
    unfold attempt at there
    split at there <;> exact absurd there List.not_mem_nil
  attainable hub attainable := by
    unfold attempt
    split
    · rename_i answer later happened
      exact attainable.step happened
    · exact attainable

/-- A call begins, lets the handler respond, and ends. -/
theorem call_eq (handler : Handler) (event : Event) (hub : Hub) :
    (bus config depth respond).call handler event hub =
      let responded := respond handler event { hub with calls := hub.calls ++ [(handler, event)] }
      ⟨responded.answer,
        .began depth handler event :: (responded.marks ++ [.ended depth handler responded.answer]),
        responded.hub⟩ := by
  -- The call is marked when it begins and when it has ended.
  simp only [bus, bind, pure, mark, List.cons_append, List.nil_append]
  rfl

section Turns

variable (inside : ∀ handler event, Inside config depth (respond handler event))

include inside

/-- The marks at the depth of a publication are those of its turns, and all others are deeper. -/
theorem takeTurns_marks (event : Event) (subscribers : List Subscriber) (hub : Hub) :
    let turns := takeTurns (bus config depth respond).call event subscribers hub
    turns.marks.filter (·.depth = depth) = turns.answer.flatMap (Turn.marks depth event) ∧
      ∀ mark ∈ turns.marks, depth ≤ mark.depth := by
  -- Only the two marks of a turn itself have the depth of the publication.
  induction subscribers generalizing hub with
  | nil => exact ⟨rfl, fun mark there => absurd there List.not_mem_nil⟩
  | cons subscriber rest ih =>
    rw [takeTurns_cons, call_eq]
    have deeper := (inside subscriber.handler event).deeper
      { hub with calls := hub.calls ++ [(subscriber.handler, event)] }
    generalize respond subscriber.handler event _ = responded at deeper ⊢
    obtain ⟨own, below⟩ := ih responded.hub
    -- What the handler does while it is called is not seen at this depth.
    have hidden : responded.marks.filter (·.depth = depth) = [] :=
      List.filter_eq_nil_iff.mpr fun mark there => by
        have := deeper mark there
        simp only [decide_eq_true_eq]
        omega
    refine ⟨?_, ?_⟩
    · simp [hidden, own, Turn.marks]
    · intro mark there
      simp only [List.cons_append, List.append_assoc, List.nil_append, List.mem_cons,
        List.mem_append] at there
      rcases there with rfl | inner | rfl | later
      · exact Nat.le_refl depth
      · exact Nat.le_of_lt (deeper mark inner)
      · exact Nat.le_refl depth
      · exact below mark later

/-- Whatever the handlers do, what they leave behind can come about. -/
theorem takeTurns_attainable (event : Event) (subscribers : List Subscriber) {hub : Hub}
    (attainable : hub.Attainable config) :
    (takeTurns (bus config depth respond).call event subscribers hub).hub.Attainable config := by
  -- A response can come about from where its call starts.
  induction subscribers generalizing hub with
  | nil => exact attainable
  | cons subscriber rest ih =>
    refine ih ?_
    rw [call_eq]
    exact (inside _ _).attainable _ (attainable.noted _ hub.records)

/-- A publication leads to a hub that can come about. -/
theorem publish_attainable (event : Event) {hub : Hub} (attainable : hub.Attainable config) :
    ((bus config depth respond).publish event hub).hub.Attainable config := by
  -- The snapshot, the turns and the end each lead on.
  have taken := attainable.snapshot event.type
  rw [publish_eq]
  split
  · exact taken
  · rename_i subscribers _
    exact closing_attainable (takeTurns_attainable inside event subscribers taken) _ subscribers

/-- What a publication does is inside every call that is less deep. -/
theorem publish_inside (event : Event) {outer : Nat} (around : outer < depth) :
    Inside config outer ((bus config depth respond).publish event) where
  -- A refused publication leaves no mark, and the others none but those of its turns.
  deeper hub mark there := by
    rw [publish_eq] at there
    split at there
    · exact absurd there List.not_mem_nil
    · exact Nat.lt_of_lt_of_le around ((takeTurns_marks inside event _ _).2 mark there)
  attainable _ := publish_attainable inside event

end Turns

end Activity

/-- What a handler does is inside its call, however deep it publishes in turn. -/
theorem Behaviour.inside (config : BusConfig) (behaviour : Behaviour) (depth : Nat) :
    Activity.Inside config depth (behaviour.enact config depth) := by
  induction behaviour generalizing depth with
  | done cause => exact ⟨fun _ mark there => absurd there List.not_mem_nil, fun _ => id⟩
  | act incident next ih =>
    exact (Activity.attempt_inside config depth incident).bind fun answer => ih answer depth
  | publish event react next reacts ih =>
    -- The calls of a publication inside the call are one level deeper, and so is all in them.
    have respond : ∀ handler event, Activity.Inside config (depth + 1)
        (Reactions.respond config (depth + 1) react handler event) :=
      fun handler event =>
        ⟨fun hub => (reacts hub handler event (depth + 1)).deeper hub,
          fun hub => (reacts hub handler event (depth + 1)).attainable hub⟩
    exact (Activity.publish_inside respond event (Nat.lt_succ_self depth)).bind
      fun answer => ih answer depth

/-- How a handler responds is inside its call. -/
theorem Reactions.inside (config : BusConfig) (depth : Nat) (react : Reactions)
    (handler : Handler) (event : Event) :
    Activity.Inside config depth (react.respond config depth handler event) :=
  -- The conduct of a handler was shown to be inside whatever hub it is called at.
  ⟨fun hub => ((react hub handler event).inside config depth).deeper hub,
    fun hub => ((react hub handler event).inside config depth).attainable hub⟩

end EventBus
