import EventBus.Scenario.Run
import EventBus.Scenario.World

/-!
Steps are tasks on the world. A task knows on which thread it runs and how to carry out a step that
is nested in a handler; on the thread of the script it is never held at a gate.
-/

namespace EventBus

/-- Where code runs. -/
inductive Thread where
  | script
  | pool
  deriving DecidableEq

/-- Where a task runs, and whether asynchronous dispatch is possible there. -/
structure Place where
  thread : Thread
  runtime : Bool

/-- What surrounds a task. -/
structure Surroundings where
  place : Place
  /-- Carries out a step inside a handler. -/
  nested : Place → Json → World → Run World Json

/-- A computation on the world. -/
def Exec (α : Type) : Type := Surroundings → World → Run World α

namespace Exec

instance : Monad Exec where
  pure answer := fun _ world => .done answer world
  bind task next := fun around world =>
    (task around world).andThen fun answer later => next answer around later

instance : LawfulMonad Exec := LawfulMonad.mk' Exec
  (fun task => funext fun around => funext fun world => (task around world).andThen_done)
  (fun _ _ => rfl)
  (fun task second third => funext fun around => funext fun world =>
    (task around world).andThen_assoc
      (fun answer later => second answer around later)
      (fun answer later => third answer around later))

instance : MonadStateOf World Exec where
  get := fun _ world => .done world world
  set world := fun _ _ => .done () world
  modifyGet change := fun _ world =>
    let (answer, later) := change world
    .done answer later

/-- Where the task runs. -/
def place : Exec Place := fun around world => .done around.place world

/-- Carries out a step of the script inside a handler. -/
def nested (step : Json) : Exec Json := fun around => around.nested around.place step

/-- Is held in front of a gate. -/
def waitAt (gate : String) : Exec Unit :=
  fun _ world => .held gate world fun later => .done () later

end Exec

/-- Why a step of a script cannot be carried out as it stands; then nothing has been called. -/
inductive Misstep where
  | absent (field name : String)
  | unknownOp (op : String)
  | unknownKind
  | unknownHandlerKind (kind : String)
  | unfitData
  | notTracker
  | notReporter
  | notLogged
  | noDebug
  | notDebuggable (what : String)
  | topOnly
  | waitLost
  | notJson

namespace Misstep

/-- The text of a misstep. -/
def message : Misstep → String
  | .absent field name => "no such " ++ field ++ ": " ++ name
  | .unknownOp op => "bad op: " ++ op
  | .unknownKind => "bad kind"
  | .unknownHandlerKind kind => "bad handler kind: " ++ kind
  | .unfitData => "bad data"
  | .notTracker => "not a tracker"
  | .notReporter => "not a reporter"
  | .notLogged => "not a logged handler"
  | .noDebug => "this handler kind has no Debug"
  | .notDebuggable what => "cannot debug " ++ what
  | .topOnly => "only a top-level step can do this"
  | .waitLost => "the wait was lost"
  | .notJson => "not JSON"

end Misstep

/-- Why a step has no result. -/
inductive Fault where
  | misstep (misstep : Misstep)
  | refused (error : BusError)

namespace Fault

/-- An error as an answer shows it. -/
def errorJson (kind message : String) : Json :=
  Json.record [("error", .string kind), ("message", .string message)]

/-- A fault as an answer shows it. -/
def json : Fault → Json
  | .misstep cause => errorJson "Protocol" cause.message
  | .refused error => errorJson error.kind error.message

end Fault

/-- A task that may come to nothing. -/
abbrev Attempt := ExceptT Fault Exec

namespace Attempt

variable {α : Type}

/-- Gives up because of a misstep. -/
def misstep (cause : Misstep) : Attempt α := throw (.misstep cause)

/-- What a task answers, which cannot come to nothing. -/
def ask (task : Exec α) : Attempt α := ExceptT.lift task

/-- The answer of a bus, or its refusal. -/
def accepted : Except BusError α → Attempt α
  | .ok answer => pure answer
  | .error error => throw (.refused error)

/-- The thing that a field of a step names. -/
def named (names : World → Names α) (step : Json) (field : String) : Attempt α := do
  -- A step without the field names the empty name.
  let name := step.textField field
  match (names (← get)).get? name with
  | some thing => return thing
  | none => misstep (.absent field name)

/-- What an attempt shows as its result. -/
def shown (attempt : Attempt Json) : Exec Json := do
  -- A fault is an answer like any other, and the script goes on.
  match ← attempt.run with
  | .ok answer => return answer
  | .error fault => return fault.json

end Attempt

end EventBus
