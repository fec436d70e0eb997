import EventBus.Scenario.Arguments

/-! Steps that deal with subscription groups. -/

namespace EventBus

namespace Steps

open Attempt

/-- A group that nobody names any more ends the subscriptions of its members. -/
def dropGroup (held : HeldGroup) : Exec Unit := do
  held.group.drop (← Exec.busAt held.bus)

/-- Makes a group under a name, whose former bearer is dropped. -/
def makeGroup (step : Json) : Attempt Json := do
  let name := step.textField "as"
  let bus ← Exec.busIdOf step
  -- The new group has the name already when the old one is dropped.
  let former := (← get).groups.get? name
  modify fun world => { world with groups := world.groups.put name ⟨bus, {}⟩ }
  former.forM fun held => dropGroup held
  return .null

/-- Drops a group, if there is one of that name. -/
def endGroup (step : Json) : Attempt Json := do
  let name := step.textField "group"
  let former := (← get).groups.get? name
  modify fun world => { world with groups := world.groups.remove name }
  former.forM fun held => dropGroup held
  return .bool former.isSome

/-- The group that a step names. -/
def groupOf (step : Json) : Attempt HeldGroup := named World.groups step "group"

/-- The group of a step after a change. -/
def keepGroup (step : Json) (held : HeldGroup) (group : SubscriptionGroup) : Attempt Unit :=
  modify fun world =>
    { world with groups := world.groups.put (step.textField "group") { held with group } }

/-- Adds a handler to a group. -/
def addMember (step : Json) (held : HeldGroup) (handler : Handler) : Attempt Json := do
  let bus ← Exec.busAt held.bus
  let (group, answer) ←
    ask (held.group.subscribe bus ⟨step.textField "type"⟩ handler)
  -- The group is kept whatever the bus has answered.
  keepGroup step held group
  keptHandle step (← accepted answer)

/-- Adds a handler to a group. -/
def subscribeInGroup (step : Json) : Attempt Json := do
  let held ← groupOf step
  usingHandler step (addMember step held)

/-- Adds a closure to a group. -/
def subscribeFnInGroup (step : Json) : Attempt Json := do
  let held ← groupOf step
  usingHeld (← makeClosure step) (addMember step held)

/-- Takes a member out of a group. -/
def removeMember (step : Json) : Attempt Json := do
  let held ← groupOf step
  let bus ← Exec.busAt held.bus
  let (group, answer) ←
    ask (held.group.remove bus ⟨step.textField "type"⟩ (step.textField "name"))
  keepGroup step held group
  return .bool (← accepted answer)

/-- Clears a group and counts the subscriptions that were still there. -/
def clearGroup (step : Json) : Attempt Json := do
  let held ← groupOf step
  let bus ← Exec.busAt held.bus
  let (group, removed) ← ask (held.group.clear bus)
  keepGroup step held group
  return Json.ofNat removed

/-- Whether a group has a member for a type and a name. -/
def groupContains (step : Json) : Attempt Json := do
  let held ← groupOf step
  return .bool (held.group.contains ⟨step.textField "type"⟩ (step.textField "name"))

/-- Shows a group. -/
def showGroup (step : Json) : Attempt Json := do
  let held ← groupOf step
  return Json.record [
    ("len", Json.ofNat held.group.members.length), ("empty", .bool held.group.members.isEmpty),
    ("handles", .array (held.group.handles.map Show.handle))]

end Steps

end EventBus
