import EventBus.Proofs.Dispatch.Calls
import EventBus.Proofs.Hub.Log
import EventBus.Proofs.Lock.Procedure
import EventBus.Proofs.Serial.Conduct

/-!
Handlers and clients as scripts on one bus. Each step of a script is one of its own, whether its
player acts for a client, inside a publication or in a thread of a flight, so that others can act in
between at any point, even where a lock would keep them away. What a handler does as it dies is part
of the script that lets go of it. Scripts write to the log, but nothing that they do depends on it.
-/

namespace EventBus

/-- What the holder of a token does with it. -/
inductive Wish where
  | cancel
  | join
  | drop
  deriving DecidableEq, Repr

/-- The move of a flight that fulfils a wish. -/
def Wish.move : Wish → Move
  | .cancel => .cancel
  | .join => .join
  | .drop => .drop

/-- A move that the parties of a flight make, and not the holder of its token or a handler. -/
def Move.isOwn : Move → Bool
  | .finish .. | .cancel | .join | .drop => false
  | _ => true

/-- Whether a handler comes into being under the name that it has. -/
def Request.honours (name : Nat → String) : Request → Bool
  | .create handler => handler.name == name handler.id
  | _ => true

namespace Scene

variable {σ α : Type} (config : BusConfig) (scene : Scene σ)

/-- The scene with more records in front of its log. -/
def following (past : List LogRecord) : Scene σ := { scene with hub := scene.hub.following past }

/-- The scene without its log. -/
def unlogged : Scene σ := { scene with hub := scene.hub.unlogged }

/-- What a task at the hub answers, and the scene after it. -/
def atHub (task : StateM Hub α) : α × Scene σ :=
  ((task scene.hub).1, { scene with hub := (task scene.hub).2 })

/-- What is noticed of a move of a flight, and the scene after it. -/
def move? (index : Nat) (move : Move) : Option (List Notice × Scene σ) := do
  let voyage ← scene.hub.voyages[index]?
  let (_, notices) ← voyage.flight.step? move
  let (_, hub) ← scene.hub.step? config (.move index move)
  return (notices, { scene with hub })

end Scene

namespace Scripted

/-- What a script does to the bus or to the shared state in one go. -/
inductive Effect (σ : Type) where
  | load
  | store (registry : Registry)
  | owners
  | hold (handler : Handler)
  | drop (handler : Handler)
  | log (record : LogRecord)
  | spawn (flight : Flight)
  /-- Gets to know the handler with an identity, which says its name. -/
  | meet (id : Nat)
  /-- Makes a request of the bus; nothing happens if it is not allowed. -/
  | ask (request : Request)
  /-- Does something with the token of a flight, once that is possible. -/
  | token (index : Nat) (wish : Wish)
  /-- Changes the shared state, once that is possible, and answers with what it was before. -/
  | update (change : σ → Option σ)

variable {σ : Type}

/-- What an effect answers. -/
abbrev Effect.Result : Effect σ → Type
  | .load => Registry
  | .owners => Handler → Nat
  | .spawn _ => Nat
  | .meet _ => Handler
  | .ask _ => Option Answer
  | .token _ _ => List Notice
  | .update _ => σ
  | _ => Unit

/-- A step of a script. -/
inductive Action (σ : Type) where
  | act (effect : Effect σ)
  /-- Calls a handler, whose script is played before this one goes on. -/
  | call (handler : Handler) (event : Event)

/-- What an action answers. -/
abbrev Action.Result : Action σ → Type
  | .act effect => effect.Result
  | .call _ _ => Option Cause

/-- What a handler does in one call, or what a client does. -/
abbrev Script (σ : Type) := Locked.Program (Action.Result (σ := σ))

namespace Script

/-- The script of a single effect. -/
def act (effect : Effect σ) : Script σ effect.Result := .step (.act effect) .done

/-- The script that writes a record to the log. -/
def log (record : LogRecord) : Script σ Unit := act (.log record)

/-- The bus of scripts, on which every operation of a bus is a script. -/
def bus (config : BusConfig) : Bus (Script σ) where
  config
  load := act .load
  store registry := act (.store registry)
  owners := act .owners
  hold handler := act (.hold handler)
  drop handler := act (.drop handler)
  log := log
  call handler event := .step (.call handler event) .done
  spawn flight := act (.spawn flight)

end Script

/-- The handlers by their identities, each with its name and its script. -/
abbrev Company (σ : Type) := Nat → EventHandler (Script σ)

/-- What each handler says that it is called. -/
def Company.name (company : Company σ) (id : Nat) : String := (company id).name

/-- The script of a handler for an event. -/
def Company.script (company : Company σ) (handler : Handler) (event : Event) :
    Script σ (Option Cause) :=
  (company handler.id).handle event

/-- What an effect answers at a scene, and the scene after it, once it is possible. -/
def Effect.perform? (config : BusConfig) (name : Nat → String) (scene : Scene σ) :
    (effect : Effect σ) → Option (effect.Result × Scene σ)
  | .load => some (scene.atHub (Hub.bus config fun _ _ => none).load)
  | .store registry => some (scene.atHub ((Hub.bus config fun _ _ => none).store registry))
  | .owners => some (scene.atHub (Hub.bus config fun _ _ => none).owners)
  | .hold handler => some (scene.atHub ((Hub.bus config fun _ _ => none).hold handler))
  | .drop handler => some (scene.atHub ((Hub.bus config fun _ _ => none).drop handler))
  | .log record => some (scene.atHub ((Hub.bus config fun _ _ => none).log record))
  | .spawn flight => some (scene.atHub ((Hub.bus config fun _ _ => none).spawn flight))
  | .meet id => some (⟨id, name id⟩, scene)
  | .ask request =>
    -- The operations of the registry that a request stands for are not interrupted.
    some (if request.honours name then scene.atHub (Hub.attempt config request) else (none, scene))
  | .token index wish => scene.move? config index wish.move
  | .update change => (change scene.shared).map fun shared => (scene.shared, { scene with shared })

/-- Whom a player acts for. -/
inductive Role where
  | client
  /-- The flight at an index has called a subscriber. -/
  | invoked (index : Nat) (subscriber : Subscriber)
  /-- The call of the flight is over. -/
  | retired
  deriving DecidableEq, Repr

/-- What is known of a player: each effect with its answer, each call and how it ended. -/
inductive Note (σ : Type) where
  | did (effect : Effect σ) (result : effect.Result)
  | began (handler : Handler) (event : Event)
  | ended (handler : Handler) (cause : Option Cause)

/-- Somebody who plays a script. -/
structure Player (σ : Type) where
  role : Role
  script : Script σ (Option Cause)
  /-- The handlers that are being called, innermost first, and how the scripts around them go on. -/
  outer : List (Handler × (Option Cause → Script σ (Option Cause)))
  history : List (Note σ)

namespace Player

/-- A player who is about to play the script of a client. -/
def client (script : Script σ (Option Cause)) : Player σ := ⟨.client, script, [], []⟩

/-- A player whom a flight has called to play the script of a subscriber. -/
def invoked (company : Company σ) (index : Nat) (event : Event) (subscriber : Subscriber) :
    Player σ where
  role := .invoked index subscriber
  script := company.script subscriber.handler event
  outer := []
  history := [.began subscriber.handler event]

/-- The scene and the player after the next step of a script, once that is possible. -/
def step? (config : BusConfig) (company : Company σ) (scene : Scene σ) (player : Player σ) :
    Option (Scene σ × Player σ) :=
  match player.script with
  | .step (.act effect) next => do
    let (result, later) ← effect.perform? config company.name scene
    return (later, { player with
      script := next result
      history := player.history ++ [.did effect result] })
  | .step (.call handler event) next =>
    some (scene, { player with
      script := company.script handler event
      outer := (handler, next) :: player.outer
      history := player.history ++ [.began handler event] })
  | .done cause =>
    match player.outer, player.role with
    | (handler, next) :: outer, _ =>
      some (scene, { player with
        script := next cause
        outer
        history := player.history ++ [.ended handler cause] })
    | [], .invoked index subscriber =>
      -- A flight that was abandoned meanwhile does not take notice of the end.
      let finished := scene.move? config index (.finish subscriber.id cause)
      some ((finished.map Prod.snd).getD scene, { player with
        role := .retired
        history := player.history ++ [.ended subscriber.handler cause] })
    | [], _ => none

end Player

/-- What may come next. -/
inductive Cue where
  /-- A player takes a step. -/
  | play (index : Nat)
  /-- The parties of a flight make a move. -/
  | move (index : Nat) (move : Move)
  deriving DecidableEq, Repr

/-- A bus with all who are at work on it. -/
structure Troupe (σ : Type) where
  scene : Scene σ
  players : List (Player σ)

namespace Troupe

/-- A troupe of clients who have not done anything yet. -/
def opening (scene : Scene σ) (clients : List (Script σ (Option Cause))) : Troupe σ :=
  ⟨scene, clients.map Player.client⟩

/-- The troupe after a cue, or nothing where the cue is impossible. -/
def step? (config : BusConfig) (company : Company σ) (troupe : Troupe σ) :
    Cue → Option (Troupe σ)
  | .play index => do
    let player ← troupe.players[index]?
    let (scene, later) ← player.step? config company troupe.scene
    return ⟨scene, troupe.players.set index later⟩
  | .move index move =>
    if move.isOwn then do
      let voyage ← troupe.scene.hub.voyages[index]?
      let (notices, scene) ← troupe.scene.move? config index move
      -- Whoever is called by the move has a thread of its own from now on.
      return ⟨scene, troupe.players ++
        (calls notices).map (Player.invoked company index voyage.flight.event)⟩
    else none

/-- The troupe after a list of cues, if each of them is possible. -/
def run? (config : BusConfig) (company : Company σ) (troupe : Troupe σ) :
    List Cue → Option (Troupe σ)
  | [] => some troupe
  | cue :: rest => (troupe.step? config company cue).bind (run? config company · rest)

/-- A run goes on where another has led to. -/
theorem run?_append (config : BusConfig) (company : Company σ) (troupe : Troupe σ)
    (first second : List Cue) :
    troupe.run? config company (first ++ second) =
      (troupe.run? config company first).bind (run? config company · second) := by
  -- The induction is on the first cues, and a cue that is impossible ends both sides.
  induction first generalizing troupe with
  | nil => rfl
  | cons cue rest ih =>
    simp only [List.cons_append, run?]
    cases troupe.step? config company cue with
    | none => rfl
    | some next => exact ih next

end Troupe

end Scripted

/-! What happens at a scene with another log. -/

namespace Scene

variable {σ α : Type} (config : BusConfig) (scene : Scene σ) (past : List LogRecord)

/-- A log can be put aside and put back. -/
theorem unlogged_following : scene.unlogged.following scene.hub.records = scene :=
  congrArg (Scene.mk · scene.shared) scene.hub.unlogged_following

/-- A task that does not look at the log can be carried out behind any log. -/
theorem atHub_following {task : StateM Hub α} (blind : Hub.LogBlind task) :
    (scene.following past).atHub task =
      ((scene.atHub task).1, (scene.atHub task).2.following past) := by
  -- The log is passed on untouched, so it makes no difference when it is put in place.
  simp only [atHub, following, blind scene.hub past]

/-- A flight makes its moves behind any log. -/
theorem move?_following (index : Nat) (move : Move) :
    (scene.following past).move? config index move =
      (scene.move? config index move).map fun (notices, later) =>
        (notices, later.following past) := by
  -- The move is looked up among the voyages, which the log is no part of.
  simp only [move?, following, Hub.step?_following, bind, pure]
  show (scene.hub.voyages[index]?.bind _) = _
  cases scene.hub.voyages[index]? with
  | none => rfl
  | some voyage =>
    simp only [Option.bind_some]
    cases voyage.flight.step? move with
    | none => rfl
    | some moved => cases scene.hub.step? config (.move index move) <;> rfl

end Scene

/-- A request is attempted behind any log. -/
theorem Hub.LogBlind.attempt (config : BusConfig) (request : Request) :
    LogBlind (attempt config request) := fun hub past => by
  -- Whether a request is possible has nothing to do with the log.
  simp only [Hub.attempt, step?_following]
  cases hub.step? config (.request request) <;> rfl

namespace Scripted

variable {σ : Type} (config : BusConfig) (scene : Scene σ) (past : List LogRecord)

/-- No effect looks at the log. -/
theorem Effect.perform?_following (name : Nat → String) (effect : Effect σ) :
    effect.perform? config name (scene.following past) =
      (effect.perform? config name scene).map fun (result, later) =>
        (result, later.following past) := by
  -- Every effect but these three is a task of the hub, and those do not look at the log.
  cases effect with
  | load => exact congrArg some (scene.atHub_following past .load)
  | store registry => exact congrArg some (scene.atHub_following past (.store registry))
  | owners => exact congrArg some (scene.atHub_following past .owners)
  | hold handler => exact congrArg some (scene.atHub_following past (.hold handler))
  | drop handler => exact congrArg some (scene.atHub_following past (.drop handler))
  | log record => exact congrArg some (scene.atHub_following past (.log record))
  | spawn flight => exact congrArg some (scene.atHub_following past (.spawn flight))
  | meet id => rfl
  | ask request =>
    simp only [perform?, scene.atHub_following past (.attempt config request)]
    split <;> rfl
  | token index wish => exact scene.move?_following config past index wish.move
  | update change =>
    show (change scene.shared).map _ = ((change scene.shared).map _).map _
    cases change scene.shared <;> rfl

/-- No player looks at the log. -/
theorem Player.step?_following (company : Company σ) (player : Player σ) :
    player.step? config company (scene.following past) =
      (player.step? config company scene).map fun (later, next) =>
        (later.following past, next) := by
  -- A player acts on the scene through an effect or through the end of its call.
  obtain ⟨role, script, outer, history⟩ := player
  match script with
  | .step (.act effect) next =>
    simp only [step?, effect.perform?_following, bind, pure]
    cases effect.perform? config company.name scene <;> rfl
  | .step (.call handler event) next => rfl
  | .done cause =>
    match outer, role with
    | (handler, next) :: rest, _ => rfl
    | [], .invoked index subscriber =>
      simp only [step?, scene.move?_following]
      cases scene.move? config index (.finish subscriber.id cause) <;> rfl
    | [], .client => rfl
    | [], .retired => rfl

end Scripted

end EventBus
