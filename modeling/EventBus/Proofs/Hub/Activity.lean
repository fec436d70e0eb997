import EventBus.Proofs.Hub.Attainable

/-!
Handlers that act on their bus while they are called. What a handler does is a tree that branches
with the answers it gets, and each call leaves marks that say how deep inside others it was made.
-/

namespace EventBus

/-- What one sees of the calls of handlers; the depth counts the publications around it. -/
inductive Mark where
  | began (depth : Nat) (handler : Handler) (event : Event)
  | ended (depth : Nat) (handler : Handler) (cause : Option Cause)
  deriving DecidableEq, Repr

/-- How deep inside other publications a mark was made. -/
def Mark.depth : Mark → Nat
  | .began depth _ _ => depth
  | .ended depth _ _ => depth

@[simp] theorem Mark.depth_began (depth : Nat) (handler : Handler) (event : Event) :
    (Mark.began depth handler event).depth = depth := rfl

@[simp] theorem Mark.depth_ended (depth : Nat) (handler : Handler) (cause : Option Cause) :
    (Mark.ended depth handler cause).depth = depth := rfl

/--
What a handler does in one call; it always comes to an end.

An incident may be anything that can happen at the hub, so clients on other threads can act in
between. A publication says how the handlers react that it calls, at the hub that each finds.
-/
inductive Behaviour where
  | done (cause : Option Cause)
  | act (incident : Incident) (next : Option Answer → Behaviour)
  | publish (event : Event) (react : Hub → Handler → Event → Behaviour)
    (next : Except BusError DispatchResult → Behaviour)

/-- How every handler reacts to an event, at the hub that it finds when it is called. -/
abbrev Reactions := Hub → Handler → Event → Behaviour

/-- What an activity leaves behind. -/
structure Aftermath (α : Type) where
  answer : α
  marks : List Mark
  hub : Hub

/-- Something that is done at a hub. -/
def Activity (α : Type) : Type := Hub → Aftermath α

namespace Activity

instance : Monad Activity where
  pure answer := fun hub => ⟨answer, [], hub⟩
  bind activity next := fun hub =>
    let first := activity hub
    let second := next first.answer first.hub
    ⟨second.answer, first.marks ++ second.marks, second.hub⟩

/-- Marks are only ever put behind others. -/
instance : LawfulMonad Activity :=
  .mk' Activity
    (fun activity => funext fun hub =>
      congrArg (Aftermath.mk (activity hub).answer · (activity hub).hub) (List.append_nil _))
    (fun _ _ => rfl)
    (fun _ _ _ => funext fun _ => congrArg (Aftermath.mk _ · _) (List.append_assoc ..))

/-- Does something at the hub that leaves no marks. -/
def quietly {α : Type} (task : StateM Hub α) : Activity α := fun hub =>
  ⟨(task hub).1, [], (task hub).2⟩

/-- Leaves a mark. -/
def mark (mark : Mark) : Activity Unit := fun hub => ⟨(), [mark], hub⟩

/-- Lets something happen at the hub, if it can happen. -/
def attempt (config : BusConfig) (incident : Incident) : Activity (Option Answer) := fun hub =>
  match hub.step? config incident with
  | some (answer, later) => ⟨some answer, [], later⟩
  | none => ⟨none, [], hub⟩

variable (config : BusConfig) (depth : Nat)

/-- The bus of a hub for publications at a depth, whose handlers respond with activities. -/
def bus (respond : Handler → Event → Activity (Option Cause)) : Bus Activity :=
  let quiet := Hub.bus config fun _ _ => none
  { config
    load := quietly quiet.load
    store := fun registry => quietly (quiet.store registry)
    owners := quietly quiet.owners
    hold := fun handler => quietly (quiet.hold handler)
    drop := fun handler => quietly (quiet.drop handler)
    log := fun record => quietly (quiet.log record)
    call := fun handler event => do
      let _ ← quietly (quiet.call handler event)
      mark (.began depth handler event)
      let cause ← respond handler event
      mark (.ended depth handler cause)
      return cause
    spawn := fun flight => quietly (quiet.spawn flight) }

end Activity

/-- Carries out what a handler does that was called by a publication at some depth. -/
def Behaviour.enact (config : BusConfig) : Nat → Behaviour → Activity (Option Cause)
  | _, .done cause => pure cause
  | depth, .act incident next => do
    let answer ← Activity.attempt config incident
    enact config depth (next answer)
  | depth, .publish event react next => do
    -- The handlers that are called in turn look at the hub as they find it.
    let respond := fun handler event hub => enact config (depth + 1) (react hub handler event) hub
    let answer ← (Activity.bus config (depth + 1) respond).publish event
    enact config depth (next answer)

/-- How handlers respond to the calls of a publication at some depth. -/
def Reactions.respond (config : BusConfig) (depth : Nat) (react : Reactions) (handler : Handler)
    (event : Event) : Activity (Option Cause) :=
  fun hub => (react hub handler event).enact config depth hub

/-- Publishes an event at some depth inside other publications. -/
def Hub.publication (config : BusConfig) (depth : Nat) (react : Reactions) (event : Event) :
    Activity (Except BusError DispatchResult) :=
  (Activity.bus config depth (react.respond config depth)).publish event

end EventBus
