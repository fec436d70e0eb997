import EventBus.Event.Codec
import EventBus.Scenario.Buses

/-! Steps make the events and the handlers that they need, or name ones that have been made. -/

namespace EventBus

namespace Attempt

variable {α : Type}

/-- The payload kind that a step names. -/
def kindOf (step : Json) : Attempt PayloadKind :=
  match PayloadKind.ofName? (step.textField "kind") with
  | some kind => return kind
  | none => misstep .unknownKind

/-- The value of a kind that a field of a step stands for. -/
def dataOf (kind : PayloadKind) (json : Json) : Attempt kind.Carrier :=
  match (Payload.decode json : Except DecodeError kind.Carrier) with
  | .ok value => return value
  | .error _ => misstep .unfitData

/-- A new event, which gets a label: its name or its number. -/
def newEvent (step : Json) (name : Option String) (make : Stamp → Except BusError Event) :
    Attempt Event := do
  -- An event that cannot be made uses up no number.
  let stamp ← Exec.stamp
  let event ← accepted (make stamp)
  Exec.number event.id name
  return match step.textField? "source" with
    | some source => event.withSource source
    | none => event

/-- The event that a step names, spells out or asks for; a new one may get a name as its label. -/
def eventOf (step : Json) (name : Option String) : Attempt Event := do
  -- A name comes before a text, and a text before the parts of a new event.
  if (step.get? "event").isSome then named World.events step "event"
  else if let some json := step.get? "json" then
    match Event.decode json with
    | .error error => throw (.refused (.serialization error.message))
    | .ok event =>
      -- The script knows the id, so the event is shown by it.
      Exec.setLabel event.id event.id.text
      return event
  else
    let type : EventType := ⟨step.textField "type"⟩
    let payload := step.getD "payload"
    if (step.get? "kind").isSome then
      let kind ← kindOf step
      let data ← dataOf kind payload
      newEvent step name fun stamp => (Event.ofData stamp type data).mapError .serialization
    else newEvent step name fun stamp => .ok (Event.new stamp type payload)

/-- The style of a logged handler. -/
def styleOf (spec : Json) : LineStyle :=
  { label := (spec.textField? "prefix").getD "Event"
    level := ((spec.textField? "level").bind Level.ofName?).getD .info }

/-- Makes the handler that a specification asks for; the caller holds it. -/
def makeHandler (spec : Json) (key : String) : Attempt Handler := do
  -- Ready-made subscribers have names of their own, and scripted ones may choose theirs.
  let acts := (spec.getD "acts").items.map Act.read
  let name := (spec.textField? "name").getD key
  let make (name : String) (body : Body) : Attempt Handler :=
    Exec.newHandler name key body (spec.getD "on_drop").items
  let reporter : Reporter := ⟨spec.textField? "source"⟩
  match (spec.textField? "kind").getD "probe" with
  | "probe" => make name (.scripted false acts)
  -- A handler that does not say what it is called goes by the full name of its type.
  | "unnamed" => make ((← get).home ++ "::Unnamed") (.scripted false acts)
  | "fn" => make name (.scripted true acts)
  | "logged" => make name (.logged (styleOf spec) (.scripted false acts))
  | "logged_reporter" => make Reporter.name (.logged (styleOf spec) (.reporter reporter))
  | "reporter" => make Reporter.name (.reporter reporter)
  | "tracker" =>
    let maxLen := (spec.natField? "max_len").getD Tracker.defaultMaxLen
    make Tracker.name (.tracker (Tracker.new maxLen (spec.textField? "source")))
  | kind => misstep (.unknownHandlerKind kind)

/-- Makes the closure that a step asks for; the caller holds it. -/
def makeClosure (step : Json) : Attempt Handler := do
  let key := (step.textField? "key").getD "fn"
  makeHandler (step.set "kind" (.string "fn")) key

/-- Uses a handler that is held for as long as that takes, whatever comes of it. -/
def usingHeld (handler : Handler) (use : Handler → Attempt α) : Attempt α :=
  ExceptT.mk do
    let outcome ← (use handler).run
    Exec.drop handler
    return outcome

/-- Uses the handler that a step names, or one that is made for the step alone. -/
def usingHandler (step : Json) (use : Handler → Attempt α) : Attempt α := do
  -- One that is made for the step dies at its end, unless somebody has become its owner.
  match step.get? "temp" with
  | some spec => usingHeld (← makeHandler spec (spec.textField "key")) use
  | none => use (← named World.handlerNames step "handler")

/-- What is known of the handler that a step names. -/
def handlerStateOf (step : Json) : Attempt HandlerState := do
  let handler ← named World.handlerNames step "handler"
  match (← get).handlerState? handler with
  | some state => return state
  | none => misstep (.absent "handler" handler.name)

/-- Keeps a thing under the name that a step gives it, if it gives one. -/
def keepAs (step : Json) (keep : String → World → World) : Attempt Unit := do
  match step.textField? "as" with
  | some name => modify (keep name)
  | none => return ()

/-- Keeps a handle, if the step gives it a name, and shows it. -/
def keptHandle (step : Json) (handle : SubscriptionHandle) : Attempt Json := do
  keepAs step fun name world => { world with handles := world.handles.put name handle }
  return Show.handle handle

end Attempt

end EventBus
