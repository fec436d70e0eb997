import EventBus.Scenario.Steps.Flights

/-! Steps that deal with publications and publishers. -/

namespace EventBus

namespace Steps

open Attempt

/-- A typed value as an answer shows it; one that cannot be written is only mentioned. -/
def valueJson {α : Type} [Payload α] (value : α) : Json :=
  match Payload.encode value with
  | .ok json => json
  | .error _ => .string "(refused)"

/-- Makes a publication. -/
def makePublication (step : Json) : Attempt Json := do
  let kind ← kindOf step
  let publication : Publication kind.Carrier := ⟨⟨step.textField "type"⟩⟩
  keepAs step fun name world =>
    { world with publications := world.publications.put name ⟨kind, publication⟩ }
  return Json.record [("type", .string publication.type.name)]

/-- The publication that a step names. -/
def publicationOf (step : Json) : Attempt HeldPublication := named World.publications step "pub"

/-- Makes an event of a publication. -/
def makePublicationEvent (step : Json) : Attempt Json := do
  let ⟨kind, publication⟩ ← publicationOf step
  let data ← dataOf kind (step.getD "data")
  -- The source of such an event is never given.
  let event ← newEvent .null (step.textField? "as") fun stamp => publication.event stamp data
  keepAs step fun name world => { world with events := world.events.put name event }
  Exec.eventJson event

/-- Checks that an event belongs to a publication. -/
def checkPublication (step : Json) : Attempt Json := do
  let ⟨_, publication⟩ ← publicationOf step
  let event ← eventOf step none
  accepted (publication.check event)
  return .null

/-- Reads the typed payload of an event of a publication. -/
def decodePublication (step : Json) : Attempt Json := do
  let ⟨_, publication⟩ ← publicationOf step
  let event ← eventOf step none
  return Json.record [("ok", valueJson (← accepted (publication.decode event)))]

/-- Makes a publisher. -/
def makePublisher (step : Json) : Attempt Json := do
  let bus ← Exec.busIdOf step
  keepAs step fun name world => { world with publishers := world.publishers.put name ⟨bus, {}⟩ }
  return .null

/-- The publisher that a step names. -/
def publisherOf (step : Json) : Attempt HeldPublisher := named World.publishers step "publisher"

/-- The types that a publisher has declared as an answer shows them. -/
def publicationsJson (publisher : Publisher) : Json :=
  Json.ofTexts (publisher.publications.map EventType.name)

/-- Declares a publication. -/
def declare (step : Json) : Attempt Json := do
  let held ← publisherOf step
  let ⟨_, publication⟩ ← publicationOf step
  let publisher := held.publisher.declare publication
  modify fun world =>
    { world with
      publishers := world.publishers.put (step.textField "publisher") { held with publisher } }
  return publicationsJson publisher

/-- Shows the declared types. -/
def showPublications (step : Json) : Attempt Json := do
  return publicationsJson (← publisherOf step).publisher

/-- Whether a type has been declared. -/
def declares (step : Json) : Attempt Json := do
  return .bool ((← publisherOf step).publisher.declares ⟨step.textField "type"⟩)

/-- Subscribes a handler to a declared publication. -/
def subscribeByPublisher (step : Json) : Attempt Json := do
  let held ← publisherOf step
  let ⟨_, publication⟩ ← publicationOf step
  usingHandler step fun handler => do
    let bus ← Exec.busAt held.bus
    keptHandle step (← accepted (← ask (held.publisher.subscribe bus publication handler)))

/-- Publishes a typed value; its event is numbered when somebody first sees it. -/
def trigger (step : Json) : Attempt Json := do
  let held ← publisherOf step
  let ⟨kind, publication⟩ ← publicationOf step
  let data ← dataOf kind (step.getD "data")
  -- The script does not see the event, so it gets no number here.
  let bus ← Exec.busAt held.bus
  let stamp ← Exec.stamp
  let answer ← ask (held.publisher.trigger bus publication stamp data)
  return Show.result (← accepted answer)

/-- Publishes an event through a publisher. -/
def publishByPublisher (step : Json) : Attempt Json := do
  let held ← publisherOf step
  let event ← eventOf step none
  let bus ← Exec.busAt held.bus
  return Show.result (← accepted (← ask (held.publisher.publish bus event)))

/-- Publishes an event through a publisher, asynchronously. -/
def publishAsyncByPublisher (step : Json) : Attempt Json := do
  let held ← publisherOf step
  let event ← eventOf step none
  let bus ← Exec.busAt held.bus
  let runtime := (← Exec.place).runtime
  keepToken step (← accepted (← ask (held.publisher.publishAsync bus runtime event)))

end Steps

end EventBus
