import EventBus.Proofs.Hub.Tracking
import EventBus.Proofs.Serial.Conduct

/-!
Two scenes that a routine cannot tell apart. At the one its clients hold a snapshot, and at the
other a flight looks after the subscribers of that snapshot, of which it gives up one after the
other.
-/

namespace EventBus

namespace Hub

/--
Two hubs that differ in who holds a snapshot.

At the near hub the clients hold all of it. At the far hub a flight holds what is left of it.
-/
structure Mirrors (held : List Handler) (voyage : Voyage) (near far : Hub) : Prop where
  registry : near.registry = far.registry
  born : near.born = far.born
  outside : ∀ handler, near.outside handler = far.outside handler + held.count handler
  voyages : far.voyages = near.voyages ++ [voyage]
  /-- The flight looks after nobody outside the snapshot. -/
  aboard : ∀ subscriber ∈ voyage.flight.held, subscriber.handler ∈ held

/-- Every one of some handlers is held by clients. -/
def Keeps (held : List Handler) (hub : Hub) : Prop := ∀ handler ∈ held, 0 < hub.outside handler

namespace Mirrors

variable {held : List Handler} {voyage : Voyage} {near far : Hub}

section Hubs

variable (mirrors : near.Mirrors held voyage far)

include mirrors

/-- What is written to the logs makes no difference. -/
theorem noted (nearRecords farRecords : List LogRecord) :
    Mirrors held voyage { near with records := nearRecords } { far with records := farRecords } :=
  { mirrors with }

/-- The same change of both registries makes no difference. -/
theorem after {α : Type} (done : Section α) :
    (near.after done).Mirrors held voyage (far.after done) :=
  { mirrors with registry := rfl }

/-- Clients of both hubs can take the same references. -/
theorem taking (more : Handler → Nat) :
    Mirrors held voyage { near with outside := fun handler => near.outside handler + more handler }
      { far with outside := fun handler => far.outside handler + more handler } :=
  { mirrors with
    -- The counts differ by the flight's share, before as after.
    outside := fun handler => by
      have before := mirrors.outside handler
      show near.outside handler + more handler = far.outside handler + more handler + _
      omega }

/-- A client of both hubs can take a reference. -/
theorem take (handler : Handler) :
    (near.take handler).Mirrors held voyage (far.take handler) :=
  { mirrors with
    outside := fun other => by
      have before := mirrors.outside other
      -- The handler in question gains one at both hubs, and no other gains any.
      simp only [Hub.take]
      split
      · omega
      · exact before }

variable (keeps : far.Keeps held)

include keeps

/-- Whoever is held at the near hub is held at the far hub. -/
theorem outside_pos_iff (handler : Handler) :
    0 < near.outside handler ↔ 0 < far.outside handler := by
  have outside := mirrors.outside handler
  -- A handler of the snapshot has a client at the far hub too; of any other the counts agree.
  by_cases there : handler ∈ held
  · have kept := keeps handler there
    omega
  · have absent : held.count handler = 0 := List.count_eq_zero.mpr there
    omega

/-- A client of both hubs can give up a reference. -/
theorem giveUp (handler : Handler) :
    (near.giveUp handler).Mirrors held voyage (far.giveUp handler) :=
  { mirrors with
    outside := fun other => by
      have before := mirrors.outside other
      simp only [Hub.giveUp]
      split
      · rename_i hit
        -- A handler of the snapshot has a reference to give up, and all others are held alike.
        by_cases there : other ∈ held
        · have kept := keeps other there
          omega
        · have absent : held.count other = 0 := List.count_eq_zero.mpr there
          omega
      · exact before }

/-- The same handlers are alive at both hubs. -/
theorem alive_eq : near.alive = far.alive := by
  funext handler
  refine Bool.eq_iff_iff.mpr ?_
  have outside := mirrors.outside_pos_iff keeps handler
  by_cases there : handler ∈ held
  · -- Who is held by a client needs no flight to be alive.
    have kept := keeps handler there
    simp only [alive_iff_owned, kept, outside.mpr kept, true_or]
  · -- Who is not of the snapshot is not aboard, so the flight does not keep it alive.
    have grounded : ¬∃ subscriber ∈ voyage.flight.held, subscriber.handler = handler :=
      fun ⟨subscriber, aboard, same⟩ => there (same ▸ mirrors.aboard subscriber aboard)
    have aloft : 0 < near.aloft handler ↔ 0 < far.aloft handler := by
      rw [aloft_pos_iff, aloft_pos_iff, mirrors.voyages]
      simp only [List.mem_append, List.mem_singleton, or_and_right, exists_or, exists_eq_left,
        grounded, or_false]
    rw [alive_iff_owned, alive_iff_owned, outside, aloft, mirrors.registry]

/-- The same requests are allowed at both hubs. -/
theorem allows_eq (request : Request) :
    allows near.outside near.born request = allows far.outside far.born request := by
  have outside : ∀ handler, decide (0 < near.outside handler) = decide (0 < far.outside handler) :=
    fun handler => decide_eq_decide.mpr (mirrors.outside_pos_iff keeps handler)
  -- A request looks at who is held and who was created, and both hubs agree on these.
  cases request <;> simp only [allows, outside, mirrors.born]

variable (config : BusConfig) (outcome : Handler → Event → Option Cause)

/-- A weak subscription has the same answer at both hubs. -/
theorem subscribe (type : EventType) (handler : Handler) :
    let ours := (bus config outcome).subscribe type handler near
    let theirs := (bus config outcome).subscribe type handler far
    ours.1 = theirs.1 ∧ ours.2.Mirrors held voyage theirs.2 ∧ theirs.2.Keeps held := by
  simp only [subscribe_eq, mirrors.registry, mirrors.alive_eq keeps, true_and]
  -- Only one of the hubs may note that the handler has a single owner.
  constructor
  · split <;> split <;> exact (mirrors.noted _ _).after _
  · split <;> exact keeps

/-- Subscribing to several types has the same answer at both hubs. -/
theorem subscribeEach (types : List EventType) (handler : Handler) :
    let ours := (bus config outcome).subscribeEach handler types near
    let theirs := (bus config outcome).subscribeEach handler types far
    ours.1 = theirs.1 ∧ ours.2.Mirrors held voyage theirs.2 := by
  induction types generalizing near far with
  | nil => exact ⟨rfl, mirrors⟩
  | cons type rest ih =>
    obtain ⟨answer, later, kept⟩ := mirrors.subscribe keeps config outcome type handler
    simp only [subscribeEach_cons]
    generalize (bus config outcome).subscribe type handler near = ours at answer later
    generalize (bus config outcome).subscribe type handler far = theirs at answer later kept
    obtain ⟨answered, near⟩ := ours
    obtain ⟨_, far⟩ := theirs
    obtain rfl : answered = _ := answer
    -- The series ends in both hubs or goes on in both.
    cases answered with
    | error error => exact ⟨rfl, later⟩
    | ok handle =>
      obtain ⟨same, last⟩ := ih later kept
      exact ⟨congrArg (Except.map (handle :: ·)) same, last⟩

/-- A request has the same answer at both hubs, and makes no difference between them. -/
theorem serve (request : Request) :
    let ours := Hub.serve (bus config outcome) request near
    let theirs := Hub.serve (bus config outcome) request far
    ours.1 = theirs.1 ∧ ours.2.Mirrors held voyage theirs.2 := by
  -- Equal registries and the same living handlers make each section compute the same change.
  have alive := mirrors.alive_eq keeps
  cases request with
  | create handler => exact ⟨rfl, { mirrors.take handler with
      born := congrArg (handler :: ·) mirrors.born }⟩
  | clone handler => exact ⟨rfl, mirrors.take handler⟩
  | release handler => exact ⟨rfl, mirrors.giveUp keeps handler⟩
  | subscribe type handler =>
    obtain ⟨answer, later, _⟩ := mirrors.subscribe keeps config outcome type handler
    exact ⟨congrArg Answer.subscribed answer, later⟩
  | subscribeRetained type handler =>
    simp only [Hub.serve, bind, StateT.bind, subscribeRetained_eq, mirrors.registry, alive]
    exact ⟨rfl, mirrors.after _⟩
  | subscribeMany types handler =>
    simp only [Hub.serve, Bus.subscribeMany]
    -- A blank type is refused before anything is looked at.
    cases types.find? EventType.isBlank with
    | some blank => exact ⟨rfl, mirrors⟩
    | none =>
      obtain ⟨answer, later⟩ := mirrors.subscribeEach keeps config outcome types handler
      exact ⟨congrArg Answer.subscribedMany answer, later⟩
  | unsubscribe handle =>
    simp only [Hub.serve, bind, StateT.bind, unsubscribe_eq, mirrors.registry, alive]
    exact ⟨rfl, mirrors.after _⟩
  | snapshot type =>
    have same : near.registry.snapshot near.alive type = far.registry.snapshot far.alive type := by
      rw [mirrors.registry, alive]
    simp only [Hub.serve, bind, StateT.bind, snapshot_eq, same]
    cases far.registry.snapshot far.alive type with
    | error error => exact ⟨rfl, mirrors⟩
    | ok subscribers => exact ⟨rfl, mirrors.taking _⟩
  | size =>
    refine ⟨congrArg Answer.size ?_, mirrors⟩
    show near.registry.size near.alive = far.registry.size far.alive
    rw [mirrors.registry, alive]
  | isEmpty =>
    refine ⟨congrArg Answer.isEmpty ?_, mirrors⟩
    show (near.registry.size near.alive == 0) = (far.registry.size far.alive == 0)
    rw [mirrors.registry, alive]
  | types =>
    refine ⟨congrArg Answer.types ?_, mirrors⟩
    show near.registry.types near.alive = far.registry.types far.alive
    rw [mirrors.registry, alive]
  | prune =>
    simp only [Hub.serve, bind, StateT.bind, prune_eq, mirrors.registry, alive]
    exact ⟨rfl, mirrors.after _⟩
  | close =>
    simp only [Hub.serve, bind, StateT.bind, close_eq, mirrors.registry]
    refine ⟨rfl, ?_⟩
    show (ite _ _ _ : Hub).Mirrors held voyage (ite _ _ _)
    split <;> exact (mirrors.after _).noted _ _
  | isClosed =>
    exact ⟨congrArg (fun registry => Answer.closed (Registry.closed registry)) mirrors.registry,
      mirrors⟩

/-- What is asked of both hubs is answered alike, and makes no difference between them. -/
theorem attempt (request : Request) :
    let ours := Hub.attempt config request near
    let theirs := Hub.attempt config request far
    ours.1 = theirs.1 ∧ ours.2.Mirrors held voyage theirs.2 := by
  have served := mirrors.serve keeps config (fun _ _ => none) request
  -- The request is refused at both hubs or served at both.
  simp only [Hub.attempt, step?, mirrors.allows_eq keeps]
  by_cases allowed : allows far.outside far.born request = true
  · simp only [if_pos allowed]
    exact ⟨congrArg some served.1, served.2⟩
  · simp only [if_neg allowed, true_and]
    exact mirrors

end Hubs

end Mirrors

/-- No request touches a flight. -/
theorem attempt_calm (config : BusConfig) (request : Request) (hub : Hub) :
    (attempt config request hub).2.voyages = hub.voyages := by
  -- A request that is not allowed does nothing at all.
  simp only [attempt, step?]
  by_cases allowed : allows hub.outside hub.born request = true
  · simp only [if_pos allowed]
    exact (serve_keeps config (fun _ _ => none) hub
      fun change (_ : change ∈ request.changes) => Registry.kept_wellFormed.survives change).1
  · simp only [if_neg allowed]

end Hub

/-- Two scenes that differ in who holds a snapshot. -/
structure Scene.Mirrors {σ : Type} (held : List Handler) (voyage : Voyage) (near far : Scene σ) :
    Prop where
  hub : near.hub.Mirrors held voyage far.hub
  shared : near.shared = far.shared

namespace Routine

variable {σ α β : Type} {held : List Handler}

/--
A routine that is blind to who holds a snapshot, and leaves all flights alone.

As long as all handlers of the snapshot are held by clients at the far scene, its steps go on in the
same way at both scenes, and change them in the same way.
-/
inductive Blind (held : List Handler) : Routine (Scene σ) α → Prop
  | done (answer : α) : Blind held (.done answer)
  | step {change : Scene σ → Scene σ} {marks : List Mark} {next : Scene σ → Routine (Scene σ) α}
    (calm : ∀ scene, (change scene).hub.voyages = scene.hub.voyages)
    (same : ∀ {voyage near far}, near.Mirrors held voyage far → far.hub.Keeps held →
      next near = next far ∧ (change near).Mirrors held voyage (change far))
    (later : ∀ scene, Blind held (next scene)) : Blind held (.step change marks next)

/-- Two routines in a row that are blind are blind together. -/
theorem Blind.bind {routine : Routine (Scene σ) α} {next : α → Routine (Scene σ) β}
    (first : Blind held routine) (second : ∀ answer, Blind held (next answer)) :
    Blind held (routine >>= next) := by
  -- The first routine takes its steps, and at its end the second one is left.
  induction first with
  | done answer => exact second answer
  | step calm same later ih =>
    refine .step calm (fun mirrors keeps => ?_) ih
    obtain ⟨answer, changed⟩ := same mirrors keeps
    exact ⟨congrArg (Routine.bind · next) answer, changed⟩

/-- What is done at the hub is blind if it has the same answer at both hubs. -/
theorem Blind.atHub {task : StateM Hub α} (calm : ∀ hub, (task hub).2.voyages = hub.voyages)
    (same : ∀ {voyage near far}, near.Mirrors held voyage far → far.Keeps held →
      (task near).1 = (task far).1 ∧ (task near).2.Mirrors held voyage (task far).2) :
    Blind held (atHub task : Routine (Scene σ) α) := by
  -- One step, and it is the step of the hub.
  refine .step (fun scene => calm scene.hub) (fun mirrors keeps => ?_) fun _ => .done _
  obtain ⟨answer, changed⟩ := same mirrors.hub keeps
  exact ⟨congrArg Routine.done answer, changed, mirrors.shared⟩

/-- A mark is blind. -/
theorem Blind.mark (mark : Mark) : Blind held (Routine.mark mark : Routine (Scene σ) Unit) :=
  .step (fun _ => rfl) (fun mirrors _ => ⟨rfl, mirrors⟩) fun _ => .done _

/-- Going through a list is blind if every item is. -/
theorem Blind.forM {items : List α} {routine : α → Routine (Scene σ) Unit}
    (blind : ∀ item ∈ items, Blind held (routine item)) : Blind held (items.forM routine) := by
  -- The items are blind one after the other.
  induction items with
  | nil => exact .done ()
  | cons first rest ih =>
    exact (blind first List.mem_cons_self).bind fun _ =>
      ih fun item there => blind item (List.mem_cons_of_mem first there)

section Publications

variable {config : BusConfig} {depth : Nat} {respond : Handler → Event → Routine (Scene σ) Ending}

/-- Looking at which handlers are alive is blind, though counting their owners is not. -/
theorem Blind.alive : Blind held ((bus config depth respond).alive) :=
  -- The near hub holds a snapshot that the far one has in flight, and both keep its handlers alive.
  .step (fun _ => rfl)
    (fun mirrors keeps => ⟨congrArg Routine.done (mirrors.hub.alive_eq keeps), mirrors⟩)
    fun _ => .done _

/-- Taking a snapshot is blind. -/
theorem Blind.snapshot (type : EventType) :
    Blind held ((bus config depth respond).snapshot type) := by
  -- The registry read is the same, and so is who is alive, hence the same snapshot is taken.
  have load : Blind held (bus config depth respond).load :=
    .atHub (fun _ => rfl) fun mirrors _ => ⟨mirrors.registry, mirrors⟩
  refine load.bind fun registry => Blind.alive.bind fun alive => ?_
  cases registry.snapshot alive type with
  | error error => exact .done _
  | ok subscribers =>
    refine Blind.bind (.forM fun subscriber _ => ?_) fun _ => .done _
    exact .atHub (fun _ => rfl) fun mirrors _ => ⟨rfl, mirrors.take subscriber.handler⟩

/-- Giving up a snapshot is blind. -/
theorem Blind.dropSnapshot (subscribers : List Subscriber) :
    Blind held ((bus config depth respond).dropSnapshot subscribers) :=
  -- The references are given back at both hubs alike, one after the other.
  .forM fun subscriber _ =>
    .atHub (fun _ => rfl) fun mirrors keeps => ⟨rfl, mirrors.giveUp keeps subscriber.handler⟩

/-- Writing to the log is blind. -/
theorem Blind.log (records : List LogRecord) :
    Blind held (records.forM (bus config depth respond).log) :=
  .forM fun _ _ => .atHub (fun _ => rfl) fun mirrors _ => ⟨rfl, mirrors.noted _ _⟩

/-- A call is blind if the response to it is. -/
theorem Blind.called {handler : Handler} {event : Event} {routine : Routine (Scene σ) Ending}
    (blind : Blind held routine) : Blind held (called depth handler event routine) :=
  (Blind.mark _).bind fun _ => blind.bind fun _ => (Blind.mark _).bind fun _ => .done _

variable (blind : ∀ handler event, Blind held (respond handler event))

include blind

/-- Gathering outcomes is blind if all responses are. -/
theorem Blind.gather (event : Event) (result : DispatchResult) (subscribers : List Subscriber) :
    Blind held
      (DispatchResult.gather (bus config depth respond).call event result subscribers) := by
  -- A call is blind by assumption, and counting its outcome asks nothing of the hub.
  induction subscribers generalizing result with
  | nil => exact .done result
  | cons subscriber rest ih =>
    refine Blind.bind ?_ fun cause => ih _
    exact (blind subscriber.handler event).called.bind fun _ => .done _

/-- A publication is blind if all responses are. -/
theorem Blind.publish (event : Event) : Blind held ((bus config depth respond).publish event) := by
  -- A publication is its snapshot, its calls, its line in the log and the return of the snapshot.
  refine (Blind.snapshot event.type).bind fun answer => ?_
  split
  · exact .done _
  · rename_i subscribers
    exact (Blind.gather blind event _ subscribers).bind fun _ => (Blind.log _).bind fun _ =>
      (Blind.dropSnapshot subscribers).bind fun _ => .done _

end Publications

end Routine

/-- What a handler does is blind to who holds a snapshot that it was not given. -/
theorem Conduct.blind {σ : Type} {held : List Handler} (config : BusConfig) (depth : Nat)
    (conduct : Conduct σ) : Routine.Blind held (conduct.enact config depth) := by
  -- The conduct is followed act by act; what handlers do within a publication is one level deeper.
  induction conduct generalizing depth with
  | done ending => exact .done ending
  | update change next ih =>
    refine .step (fun _ => rfl) (fun mirrors _ => ?_) fun scene => ih scene.shared depth
    exact ⟨by rw [mirrors.shared], mirrors.hub, congrArg change mirrors.shared⟩
  | ask request next ih =>
    refine Routine.Blind.bind ?_ fun answer => ih answer depth
    exact .atHub (Hub.attempt_calm config request) fun mirrors keeps =>
      mirrors.attempt keeps config request
  | publish event react next reacts ih =>
    refine Routine.Blind.bind ?_ fun answer => ih answer depth
    exact .publish (fun handler event => reacts handler event (depth + 1)) event

end EventBus
