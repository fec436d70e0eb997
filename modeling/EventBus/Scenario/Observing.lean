import EventBus.Scenario.Exec

/-!
What happens is observed as JSON entries. Events appear under labels, since their ids are random:
the label of an event is its name, its number, or its id where the script has given one.
-/

namespace EventBus

namespace Exec

/-- A change of the observations. -/
def observe (change : Observation → Observation) : Exec Unit :=
  modify fun world => { world with observed := change world.observed }

/-- Notes an entry in the log of the thread that the task runs on. -/
def note (entry : Json) : Exec Unit := do
  match (← place).thread with
  | .script => observe fun seen => { seen with log := entry :: seen.log }
  | .pool => observe fun seen => { seen with asyncLog := entry :: seen.asyncLog }

/-- The label of an event; an event without one gets the next number. -/
def label (id : EventId) : Exec String := do
  let world ← get
  match world.labels.lookup id with
  | some label => return label
  | none =>
    -- Such an event was made inside a call, and nobody has seen it before.
    let label := "#" ++ toString (world.numbered + 1)
    set { world with numbered := world.numbered + 1, labels := (id, label) :: world.labels }
    return label

/-- Gives a new event a label: a name if there is one, or else its number. -/
def number (id : EventId) (name : Option String) : Exec Unit :=
  modify fun world =>
    let label := name.getD ("#" ++ toString (world.numbered + 1))
    { world with numbered := world.numbered + 1, labels := (id, label) :: world.labels }

/-- Gives an event a label without numbering it. -/
def setLabel (id : EventId) (label : String) : Exec Unit :=
  modify fun world => { world with labels := (id, label) :: world.labels }

/-- What tells the next event from the others. -/
def stamp : Exec Stamp :=
  modifyGet fun world =>
    (⟨EventId.random world.nextSeed, .epoch⟩, { world with nextSeed := world.nextSeed + 1 })

/-- The fields under which an event is shown. -/
def eventFields (event : Event) : Exec (List (String × Json)) := do
  return [
    ("e", .string (← label event.id)), ("type", .string event.type.name),
    ("payload", event.payload), ("source", Json.ofText? event.source)]

/-- An event as an answer shows it. -/
def eventJson (event : Event) : Exec Json := return Json.record (← eventFields event)

/-- The record of a reporter with the label of the event in the place of its id. -/
def recordJson (reporter : Reporter) (event : Event) : Exec Json := do
  return (reporter.record event).set "event_id" (.string (← label event.id))

/-- Whether log records of a level are observed. -/
def observes (level : Level) : Exec Bool := do
  return (← get).threshold.any level.reaches

/-- Notes a log record that is urgent enough. -/
def trace (record : LogRecord) : Exec Unit := do
  if ← observes record.level then
    -- All fields are shown as texts.
    let fields := record.fields.map fun (key, value) => (key, Json.string value)
    let entry := Json.record [
      ("level", .string record.level.name.toUpper), ("message", .string record.message),
      ("fields", Json.record fields)]
    match (← place).thread with
    | .script => observe fun seen => { seen with trace := entry :: seen.trace }
    | .pool => observe fun seen => { seen with asyncTrace := entry :: seen.asyncTrace }

end Exec

namespace Show

/-- A handle as an answer shows it. -/
def handle (handle : SubscriptionHandle) : Json :=
  Json.record [("id", Json.ofNat handle.id), ("type", .string handle.type.name)]

/-- The fields under which a failure is shown. -/
def failureFields (failure : Failure) : List (String × Json) := [
  ("id", Json.ofNat failure.subscription), ("handler", .string failure.handler),
  ("kind", .string failure.cause.kind), ("error", .string failure.cause.message)]

/-- The result of a dispatch as an answer shows it. -/
def result (result : DispatchResult) : Json :=
  Json.record [
    ("type", .string result.type.name), ("invoked", Json.ofNat result.invoked),
    ("skipped", Json.ofNat result.skipped), ("success", .bool result.isSuccess),
    ("failures", .array (result.failures.map fun failure => Json.record (failureFields failure)))]

/-- A snapshot as an answer shows it. -/
def snapshot (subscribers : List Subscriber) : Json :=
  .array <| subscribers.map fun subscriber =>
    Json.record [("id", Json.ofNat subscriber.id), ("name", .string subscriber.handler.name)]

/-- The number of live subscriptions and their types as an answer shows them. -/
def size (size : Nat) (types : List EventType) : Json :=
  Json.record [
    ("len", Json.ofNat size), ("empty", .bool (size == 0)),
    ("types", Json.ofTexts (types.map EventType.name))]

/-- A token as an answer shows it. -/
def token (flight : Flight) : Json :=
  Json.record [("type", .string flight.event.type.name), ("cancelled", .bool flight.cancelled)]

end Show

end EventBus
