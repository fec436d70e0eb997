import EventBus.Proofs.Dispatch.Accounting
import EventBus.Proofs.Hub.Operations
import EventBus.Proofs.Registry.Changes

/-! Whatever happens at a hub, its registry is well-formed and its flights began over snapshots. -/

namespace EventBus

namespace Registry

/-- A snapshot is in the order of the subscriptions. -/
theorem WellFormed.snapshot_ascending {registry : Registry} (wellFormed : registry.WellFormed)
    {alive : Handler → Bool} {type : EventType} {subscribers : List Subscriber}
    (taken : registry.snapshot alive type = .ok subscribers) :
    subscribers.Pairwise (·.id < ·.id) := by
  -- A snapshot maps the living entries, whose numbers ascend.
  obtain ⟨_, rfl⟩ := of_snapshot taken
  exact List.pairwise_map.mpr wellFormed.live_ascending

end Registry

/-- A flight that was set going when its event was published at a hub. -/
structure Flight.BegunAt (config : BusConfig) (hub : Hub) (origin : Flight) : Prop where
  published : ∃ runtime,
    ((Hub.bus config fun _ _ => none).publishAsync runtime origin.event hub).2.voyages =
      hub.voyages ++ [.new origin]
  /-- Its snapshot has the live subscribers of the event's type. -/
  snapshot : hub.registry.snapshot hub.alive origin.event.type = .ok origin.queued
  opening : origin = .new origin.event origin.queued config.concurrency config.timeout ∨
    origin = .grounded origin.event

namespace Flight.BegunAt

variable {config : BusConfig} {hub : Hub} {origin : Flight} (begun : origin.BegunAt config hub)

include begun

/-- A flight that begins at a hub with a well-formed registry has its snapshot in order. -/
theorem fresh (wellFormed : hub.registry.WellFormed) : origin.Fresh := by
  -- Either way of beginning a flight takes the snapshot as it is, or leaves it empty.
  have ascending := wellFormed.snapshot_ascending begun.snapshot
  rcases begun.opening with flown | grounded
  · rw [flown]
    exact fresh_new _ ascending _ _
  · rw [grounded]
    exact fresh_grounded _

/-- A flight has as many slots as its bus says, or one if that is none or nobody is called. -/
theorem slots_le : origin.slots ≤ max 1 config.concurrency := by
  -- A grounded flight has a single slot, and any other those of its bus.
  rcases begun.opening with flown | grounded
  · rw [flown]
    exact Nat.le_refl _
  · rw [grounded]
    exact Nat.le_max_left _ _

/-- A flight that has a deadline has that of its bus. -/
theorem timed {after : Duration} (timed : origin.timeout = some after) :
    config.timeout = some after := by
  -- A grounded flight has no deadline at all.
  rcases begun.opening with flown | grounded
  · rw [flown] at timed
    exact timed
  · rw [grounded] at timed
    cases timed

end Flight.BegunAt

namespace Voyage

/-- A move takes a voyage from one flight to the next. -/
theorem extend?_eq_some {voyage later : Voyage} {move : Move}
    (extended : voyage.extend? move = some later) :
    later.origin = voyage.origin ∧ later.moves = voyage.moves ++ [move] := by
  -- The flight is replaced by where the move leads to, and the move is added to the list.
  unfold extend? at extended
  split at extended
  · cases extended
  · cases extended
    exact ⟨rfl, rfl⟩

/-- What extends a voyage is a move of its flight. -/
theorem advance_of_extend? {voyage later : Voyage} {move : Move}
    (extended : voyage.extend? move = some later) :
    ∃ more, voyage.flight.Advance move later.flight more := by
  -- A step of the flight is one of its rules.
  unfold extend? at extended
  split at extended
  · cases extended
  · rename_i next more moved
    cases extended
    exact ⟨more, Flight.advance_of_step? moved⟩

/-- A voyage can be extended by the moves that its flight can make. -/
theorem extend?_isSome (voyage : Voyage) (move : Move) :
    (voyage.extend? move).isSome = (voyage.flight.step? move).isSome := by
  -- A voyage only keeps account of what its flight does.
  unfold extend?
  split
  · rename_i stuck
    simp [stuck]
  · rename_i moved
    simp [moved]

/-- What holds of the flight of a voyage from the beginning, and of its moves. -/
structure Sound (config : BusConfig) (voyage : Voyage) : Prop where
  fresh : voyage.origin.Fresh
  timed : ∀ after, voyage.origin.timeout = some after → config.timeout = some after
  genuine : ∀ move ∈ voyage.moves, move.isGenuine = true

end Voyage

/-- What a request may do to the registry. -/
def Request.changes : Request → List Change
  | .subscribe type handler => [.subscribe type handler false]
  | .subscribeRetained type handler => [.subscribe type handler true]
  | .subscribeMany several handler => several.map fun type => .subscribe type handler false
  | .unsubscribe handle => [.unsubscribe handle]
  | .prune => [.prune]
  | .close => [.close]
  | _ => []

/-- What an incident may do to the registry; publications and flights leave it alone. -/
def Incident.changes : Incident → List Change
  | .request asked => asked.changes
  | _ => []

/-- Whether an incident is a move of the flight at an index. -/
def Incident.isMoveOf (index : Nat) : Incident → Bool
  | .move other _ => other == index
  | _ => false

namespace Hub

variable (config : BusConfig) (outcome : Handler → Event → Option Cause)

/-- What holds of a hub at all times. -/
structure Sound (config : BusConfig) (hub : Hub) : Prop where
  wellFormed : hub.registry.WellFormed
  voyages : ∀ voyage ∈ hub.voyages, voyage.Sound config

section Requests

variable {property : Registry → Prop} (hub : Hub)

/-- Subscribing leaves the flights alone and keeps what survives the subscription. -/
theorem subscribe_keeps {type : EventType} {handler : Handler}
    (survives : Registry.Survives property (.subscribe type handler false)) :
    let next := ((bus config outcome).subscribe type handler hub).2
    next.voyages = hub.voyages ∧ (property hub.registry → property next.registry) := by
  -- The notes that a subscription leaves are in the log alone.
  rw [subscribe_eq]
  exact ⟨by split <;> rfl, survives hub.registry hub.alive⟩

/-- Subscribing to several types leaves the flights alone and keeps what survives each of them. -/
theorem subscribeEach_keeps {types : List EventType} {handler : Handler}
    (survives : ∀ type ∈ types, Registry.Survives property (.subscribe type handler false)) :
    let next := ((bus config outcome).subscribeEach handler types hub).2
    next.voyages = hub.voyages ∧ (property hub.registry → property next.registry) := by
  induction types generalizing hub with
  | nil => exact ⟨rfl, id⟩
  | cons type rest ih =>
    have first := subscribe_keeps config outcome hub (survives type List.mem_cons_self)
    rw [subscribeEach_cons]
    generalize (bus config outcome).subscribe type handler hub = done at first
    obtain ⟨answer, next⟩ := done
    -- The series ends with a refusal or goes on from what the first subscription has left.
    cases answer with
    | error error => exact first
    | ok handle =>
      obtain ⟨same, keeps⟩ := ih next fun other there =>
        survives other (List.mem_cons_of_mem type there)
      exact ⟨same.trans first.1, fun held => keeps (first.2 held)⟩

/-- A request leaves the flights alone and keeps what survives the changes that it asks for. -/
theorem serve_keeps {request : Request}
    (survives : ∀ change ∈ request.changes, Registry.Survives property change) :
    let next := (serve (bus config outcome) request hub).2
    next.voyages = hub.voyages ∧ (property hub.registry → property next.registry) := by
  -- Each request is a section of the registry, several in a row, or none at all.
  cases request with
  | subscribe type handler =>
    exact subscribe_keeps config outcome hub (survives _ List.mem_cons_self)
  | subscribeRetained type handler =>
    simp only [serve, bind, StateT.bind, subscribeRetained_eq]
    exact ⟨rfl, survives _ List.mem_cons_self hub.registry hub.alive⟩
  | subscribeMany types handler =>
    simp only [serve, Bus.subscribeMany]
    cases types.find? EventType.isBlank with
    | some blank => exact ⟨rfl, id⟩
    | none =>
      exact subscribeEach_keeps config outcome hub fun type there =>
        survives _ (List.mem_map_of_mem there)
  | unsubscribe handle =>
    simp only [serve, bind, StateT.bind, unsubscribe_eq]
    exact ⟨rfl, survives _ List.mem_cons_self hub.registry hub.alive⟩
  | snapshot type =>
    simp only [serve, bind, StateT.bind, snapshot_eq]
    cases hub.registry.snapshot hub.alive type <;> exact ⟨rfl, id⟩
  | prune =>
    simp only [serve, bind, StateT.bind, prune_eq]
    exact ⟨rfl, survives _ List.mem_cons_self hub.registry hub.alive⟩
  | close =>
    simp only [serve, bind, StateT.bind, close_eq]
    split <;> exact ⟨rfl, survives _ List.mem_cons_self hub.registry hub.alive⟩
  -- The others do not write to the registry.
  | _ => exact ⟨rfl, id⟩

end Requests

/-- A publication leaves the registry alone, and begins a flight exactly if it is not refused. -/
theorem publishAsync_keeps (hub : Hub) (runtime : Bool) (event : Event) :
    let done := (bus config fun _ _ => none).publishAsync runtime event hub
    done.2.registry = hub.registry ∧
      (((∃ error, done.1 = .error error) ∧ done.2.voyages = hub.voyages) ∨
        ∃ origin : Flight, done.1 = .ok hub.voyages.length ∧
          done.2.voyages = hub.voyages ++ [.new origin] ∧ origin.BegunAt config hub) := by
  intro done
  -- A flight begins if the snapshot is given and there is a runtime wherever somebody is called.
  have flown := publishAsync_eq config (fun _ _ => none) hub runtime event
  cases taken : hub.registry.snapshot hub.alive event.type with
  | error error =>
    simp only [taken] at flown
    have refused : done = (.error error, hub) := flown
    exact refused ▸ ⟨rfl, Or.inl ⟨⟨error, rfl⟩, rfl⟩⟩
  | ok subscribers =>
    simp only [taken] at flown
    -- Only a flight to somebody needs a runtime.
    cases subscribers with
    | nil =>
      have begun : done.2.voyages = hub.voyages ++ [.new (.grounded event)] :=
        congrArg (fun done => done.2.voyages) flown
      exact ⟨congrArg (fun done => done.2.registry) flown,
        Or.inr ⟨_, congrArg Prod.fst flown, begun, ⟨runtime, begun⟩, taken, Or.inr rfl⟩⟩
    | cons first rest =>
      cases runtime with
      | false =>
        have refused : done = (.error .noRuntime, hub) := flown
        exact refused ▸ ⟨rfl, Or.inl ⟨⟨_, rfl⟩, rfl⟩⟩
      | true =>
        have begun : done.2.voyages = hub.voyages ++
            [.new (.new event (first :: rest) config.concurrency config.timeout)] :=
          congrArg (fun done => done.2.voyages) flown
        exact ⟨congrArg (fun done => done.2.registry) flown,
          Or.inr ⟨_, congrArg Prod.fst flown, begun, ⟨true, begun⟩, taken, Or.inl rfl⟩⟩

section Steps

variable {config} {hub next : Hub} {incident : Incident} {answer : Answer}

/-- Whatever happens at a hub keeps of its registry what survives the changes that come with it. -/
theorem registry_survives {property : Registry → Prop}
    (survives : ∀ change ∈ incident.changes, Registry.Survives property change)
    (happened : hub.step? config incident = some (answer, next))
    (held : property hub.registry) : property next.registry := by
  -- A request is made of sections, and all else leaves the registry alone.
  cases incident with
  | request request =>
    simp only [step?] at happened
    split at happened
    · have keeps := (serve_keeps config (fun _ _ => none) hub survives).2
      rw [congrArg Prod.snd (Option.some.inj happened)] at keeps
      exact keeps held
    · cases happened
  | publishAsync runtime event =>
    have same := (publishAsync_keeps config hub runtime event).1
    have later : ((bus config fun _ _ => none).publishAsync runtime event hub).2 = next :=
      congrArg Prod.snd (Option.some.inj happened)
    rw [later] at same
    exact same ▸ held
  | move index move =>
    simp only [step?, bind, pure] at happened
    split at happened
    · simp only [Option.bind_eq_some_iff, Option.some.injEq, Prod.mk.injEq] at happened
      obtain ⟨_, _, _, _, _, rfl⟩ := happened
      exact held
    · cases happened

/-- Whatever happens at a hub keeps of its registry what sections keep. -/
theorem registry_step {property : Registry → Prop} (kept : Registry.Kept property)
    (happened : hub.step? config incident = some (answer, next))
    (held : property hub.registry) : property next.registry :=
  registry_survives (fun change _ => kept.survives change) happened held

/-- What an incident does to the voyages of a hub. -/
inductive Course (config : BusConfig) (hub : Hub) :
    Incident → Answer → List Voyage → Prop
  /-- They stay as they are. -/
  | calm {incident : Incident} {answer : Answer} (still : ∀ index, incident.isMoveOf index = false)
    (refused : ∀ index, answer ≠ .launched (.ok index)) :
    Course config hub incident answer hub.voyages
  /-- One begins, and is the last. -/
  | begun {runtime : Bool} {event : Event} {origin : Flight} (begun : origin.BegunAt config hub) :
    Course config hub (.publishAsync runtime event) (.launched (.ok hub.voyages.length))
      (hub.voyages ++ [.new origin])
  /-- One is a move further on. -/
  | moved {index : Nat} {move : Move} {earlier later : Voyage} (genuine : move.isGenuine = true)
    (sailing : hub.voyages[index]? = some earlier) (extended : earlier.extend? move = some later) :
    Course config hub (.move index move) .done (hub.voyages.set index later)

/-- Whatever happens at a hub has one of these effects on its voyages. -/
theorem course (happened : hub.step? config incident = some (answer, next)) :
    Course config hub incident answer next.voyages := by
  -- A request sets nothing going, a publication may, and a move extends one voyage.
  cases incident with
  | request request =>
    simp only [step?, Option.ite_none_right_eq_some, Option.some.injEq] at happened
    have same := (serve_keeps config (fun _ _ => none) hub
      fun change (_ : change ∈ request.changes) => Registry.kept_wellFormed.survives change).1
    rw [happened.2] at same
    rw [same]
    refine .calm (fun _ => rfl) fun index launched => ?_
    -- No request is answered as a publication is.
    have answered := congrArg Prod.fst happened.2
    rw [launched] at answered
    cases request <;> cases answered
  | publishAsync runtime event =>
    have keeps := (publishAsync_keeps config hub runtime event).2
    have answered : .launched ((bus config fun _ _ => none).publishAsync runtime event hub).1 =
        answer := congrArg Prod.fst (Option.some.inj happened)
    have later : ((bus config fun _ _ => none).publishAsync runtime event hub).2 = next :=
      congrArg Prod.snd (Option.some.inj happened)
    rw [later] at keeps
    rcases keeps with ⟨⟨error, refused⟩, same⟩ | ⟨origin, accepted, added, begun⟩
    · rw [same]
      refine .calm (fun _ => rfl) fun index launched => ?_
      cases refused.symm.trans (Answer.launched.inj (answered.trans launched))
    · rw [added, ← answered, accepted]
      exact .begun begun
  | move index move =>
    simp only [step?, bind, pure] at happened
    split at happened
    · rename_i genuine
      simp only [Option.bind_eq_some_iff, Option.some.injEq, Prod.mk.injEq] at happened
      obtain ⟨earlier, found, later, extended, rfl, rfl⟩ := happened
      exact .moved genuine found extended
    · cases happened

/-- A voyage was under way before, begins, or is one move further on. -/
theorem voyages_step (happened : hub.step? config incident = some (answer, next))
    {voyage : Voyage} (sailing : voyage ∈ next.voyages) :
    voyage ∈ hub.voyages ∨
      (∃ origin : Flight, voyage = .new origin ∧ origin.BegunAt config hub) ∨
      ∃ earlier ∈ hub.voyages, ∃ move, move.isGenuine = true ∧
        earlier.extend? move = some voyage := by
  -- Where the voyage comes from is read off the effect of the incident.
  have course := course happened
  generalize next.voyages = voyages at course sailing
  cases course with
  | calm still refused => exact Or.inl sailing
  | begun begun =>
    refine (List.mem_append.mp sailing).imp_right fun new => Or.inl ⟨_, ?_, begun⟩
    exact List.mem_singleton.mp new
  | @moved index move earlier later genuine found extended =>
    rcases List.mem_or_eq_of_mem_set sailing with old | rfl
    · exact Or.inl old
    · exact Or.inr (Or.inr ⟨earlier, List.mem_of_getElem? found, move, genuine, extended⟩)

/-- Where the voyage at an index comes from after an incident. -/
inductive Course.Origin (config : BusConfig) (hub : Hub) (index : Nat) (voyage : Voyage) :
    Incident → Answer → Prop
  | calm {incident : Incident} {answer : Answer} (before : hub.voyages[index]? = some voyage) :
    Origin config hub index voyage incident answer
  | begun {runtime : Bool} {event : Event} {origin : Flight} (last : index = hub.voyages.length)
    (new : voyage = .new origin) (begun : origin.BegunAt config hub) :
    Origin config hub index voyage (.publishAsync runtime event) (.launched (.ok index))
  | moved {move : Move} {earlier : Voyage} {answer : Answer}
    (before : hub.voyages[index]? = some earlier)
    (extended : earlier.extend? move = some voyage) :
    Origin config hub index voyage (.move index move) answer

/-- A voyage was there before, is the last one, or is at the index that has made a move. -/
theorem Course.origin {voyages : List Voyage} (course : Course config hub incident answer voyages)
    {index : Nat} {voyage : Voyage} (sailing : voyages[index]? = some voyage) :
    Origin config hub index voyage incident answer := by
  -- The index tells whether the voyage is an old one, the new one or the one that moved.
  cases course with
  | calm still refused => exact .calm sailing
  | @begun runtime event origin begun =>
    rw [List.getElem?_append] at sailing
    split at sailing
    · exact .calm sailing
    · -- Behind all others there is just the one that begins.
      obtain ⟨inside, new⟩ := List.getElem?_eq_some_iff.mp sailing
      obtain rfl : index = hub.voyages.length := by
        simp only [List.length_singleton] at inside
        omega
      simp only [List.getElem_singleton] at new
      exact .begun rfl new.symm begun
  | @moved target move earlier later genuine found extended =>
    rw [List.getElem?_set] at sailing
    split at sailing
    · rename_i hit
      subst hit
      split at sailing
      · obtain rfl := Option.some.inj sailing
        exact .moved found extended
      · cases sailing
    · exact .calm sailing

/-- No voyage is ever taken away. -/
theorem Course.length_le {voyages : List Voyage}
    (course : Course config hub incident answer voyages) :
    hub.voyages.length ≤ voyages.length := by
  -- Voyages are added or replaced.
  cases course with
  | calm still refused => exact Nat.le_refl _
  | begun begun => simp
  | moved genuine found extended => simp

section Voyages

variable {index : Nat} {voyage : Voyage}

/-- What a flight can do and what comes of it is up to its own voyage. -/
theorem step?_move (config : BusConfig) (sailing : hub.voyages[index]? = some voyage)
    (move : Move) :
    hub.step? config (.move index move) =
      if move.isGenuine then
        (voyage.extend? move).map fun later =>
          (.done, { hub with voyages := hub.voyages.set index later })
      else none := by
  -- A flight looks at nothing of the hub, and the hub takes the voyage back in its place.
  simp only [step?, bind, pure, sailing, Option.bind_some]
  split
  · cases voyage.extend? move <;> rfl
  · rfl

/-- What is not a move of a flight leaves its voyage as it is. -/
theorem voyage_step (sailing : hub.voyages[index]? = some voyage)
    (other : incident.isMoveOf index = false)
    (happened : hub.step? config incident = some (answer, next)) :
    next.voyages[index]? = some voyage := by
  -- The index is inside, so neither what is appended nor what is set elsewhere is at it.
  have inside : index < hub.voyages.length := (List.getElem?_eq_some_iff.mp sailing).1
  have course := course happened
  generalize next.voyages = voyages at course ⊢
  cases course with
  | calm still refused => exact sailing
  | begun begun =>
    rw [List.getElem?_append_left inside]
    exact sailing
  | @moved target move earlier later genuine found extended =>
    have differs : target ≠ index := by simpa [Incident.isMoveOf] using other
    rw [List.getElem?_set_ne differs]
    exact sailing

end Voyages

/-- Whatever happens at a sound hub leaves it sound. -/
theorem Sound.step (sound : hub.Sound config)
    (happened : hub.step? config incident = some (answer, next)) : next.Sound config := by
  -- The three ways in which a voyage can be there carry the three parts of soundness.
  refine ⟨registry_step Registry.kept_wellFormed happened sound.wellFormed,
    fun voyage sailing => ?_⟩
  rcases voyages_step happened sailing with old | ⟨origin, rfl, begun⟩ |
    ⟨earlier, old, move, genuine, extended⟩
  · exact sound.voyages voyage old
  · exact ⟨begun.fresh sound.wellFormed, fun _ => begun.timed, by simp [Voyage.new]⟩
  · obtain ⟨origin, moves⟩ := Voyage.extend?_eq_some extended
    have before := sound.voyages earlier old
    refine ⟨origin ▸ before.fresh, fun after timed => before.timed after (origin ▸ timed), ?_⟩
    rw [moves]
    intro made there
    rcases List.mem_append.mp there with earlier | now
    · exact before.genuine made earlier
    · rw [List.mem_singleton.mp now]
      exact genuine

end Steps

/-- An event is published to one subscriber, and its flight makes some moves. -/
def soleDispatch (moves : List Move) : List Incident :=
  let handler : Handler := ⟨1, "audit"⟩
  let event : Event := ⟨⟨0⟩, ⟨"order"⟩, .null, .epoch, none⟩
  [.request (.create handler), .request (.subscribe ⟨"order"⟩ handler), .publishAsync true event]
    ++ moves.map (.move 0)

/-- An event is published to two subscribers, and its flight makes some moves. -/
def pairDispatch (moves : List Move) : List Incident :=
  let mailer : Handler := ⟨1, "mailer"⟩
  let audit : Handler := ⟨2, "audit"⟩
  let event : Event := ⟨⟨0⟩, ⟨"order"⟩, .null, .epoch, none⟩
  [.request (.create mailer), .request (.create audit), .request (.subscribe ⟨"order"⟩ mailer),
    .request (.subscribe ⟨"order"⟩ audit), .publishAsync true event] ++ moves.map (.move 0)

/-- Every hub that can come about is sound. -/
theorem Reachable.sound {hub : Hub} (reachable : Reachable config hub) : hub.Sound config := by
  -- The induction is on how the hub came about.
  induction reachable with
  | new id => exact ⟨Registry.wellFormed_new id, by simp [Hub.new]⟩
  | step before happened ih => exact ih.step happened

variable {config}

/-- What sections keep holds of the registry of every hub that can come about. -/
theorem Reachable.registry {property : Registry → Prop} (kept : Registry.Kept property)
    (new : ∀ id, property (.new id)) {hub : Hub} (reachable : Reachable config hub) :
    property hub.registry := by
  -- The induction is on how the hub came about, with one section after the other.
  induction reachable with
  | new id => exact new id
  | step before happened ih => exact registry_step kept happened ih

/-- Every flight was set going at a hub that could come about. -/
theorem Reachable.begun {hub : Hub} (reachable : Reachable config hub) {voyage : Voyage}
    (sailing : voyage ∈ hub.voyages) :
    ∃ before, Reachable config before ∧ voyage.origin.BegunAt config before := by
  -- The induction is on how the hub came about, back to the incident that began the flight.
  induction reachable generalizing voyage with
  | new id => simp [Hub.new] at sailing
  | @step hub next _ _ before happened ih =>
    rcases voyages_step happened sailing with old | ⟨origin, rfl, begun⟩ |
      ⟨earlier, old, move, _, extended⟩
    · exact ih old
    · exact ⟨hub, before, begun⟩
    · -- A move leaves the beginning of its voyage as it was.
      rw [(Voyage.extend?_eq_some extended).1]
      exact ih old

end Hub

end EventBus
