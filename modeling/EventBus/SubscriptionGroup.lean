import EventBus.Bus

/-! A group manages subscriptions of one bus, each under its type and its handler's name. -/

namespace EventBus

/-- One subscription of a group. -/
structure Member where
  name : String
  handle : SubscriptionHandle
  deriving DecidableEq, Repr

namespace Member

/-- Whether a member stands for a type and a name. -/
def standsFor (member : Member) (type : EventType) (name : String) : Bool :=
  member.handle.type == type && member.name == name

end Member

/-- The members of a group in the order of their joining. -/
structure SubscriptionGroup where
  members : List Member := []
  deriving DecidableEq, Repr

namespace SubscriptionGroup

variable (group : SubscriptionGroup)

/-- The member for a type and a name. -/
def find? (type : EventType) (name : String) : Option Member :=
  group.members.find? (·.standsFor type name)

/-- Whether there is a member for a type and a name. -/
def contains (type : EventType) (name : String) : Bool := (group.find? type name).isSome

/-- The handles of the members. -/
def handles : List SubscriptionHandle := group.members.map Member.handle

/-- The group as a diagnostic shows it. -/
def debug : String :=
  BusError.debugFields "SubscriptionGroup" [("subscriptions", toString group.members.length)]

variable {m : Type → Type} [Monad m]

/-- Adds a member, whose handler the bus keeps alive; a member that is there already is kept. -/
def subscribe (bus : Bus m) (type : EventType) (handler : Handler) :
    m (SubscriptionGroup × Except BusError SubscriptionHandle) := do
  match group.find? type handler.name with
  -- The bus is not asked whether the subscription of a member still exists.
  | some member => return (group, .ok member.handle)
  | none =>
    match ← bus.subscribeRetained type handler with
    | .error error => return (group, .error error)
    | .ok handle => return (⟨group.members ++ [⟨handler.name, handle⟩]⟩, .ok handle)

/-- Takes a member out of the group and ends its subscription. -/
def remove (bus : Bus m) (type : EventType) (name : String) :
    m (SubscriptionGroup × Except BusError Bool) := do
  match group.find? type name with
  | none => return (group, .ok false)
  | some member =>
    -- The member is gone even if the bus refuses to end its subscription.
    let left : SubscriptionGroup := ⟨group.members.eraseP (·.standsFor type name)⟩
    return (left, ← bus.unsubscribe member.handle)

/-- Ends subscriptions and counts those that were there. -/
def endAll (bus : Bus m) : List SubscriptionHandle → m Nat
  | [] => return 0
  | handle :: rest => do
    -- A closed bus has ended the subscription already, so it does not count.
    let ended ← bus.unsubscribe handle
    let others ← endAll bus rest
    return others + match ended with
      | .ok true => 1
      | _ => 0

/-- Ends the subscriptions of all members and counts those that were still there. -/
def clear (bus : Bus m) : m (SubscriptionGroup × Nat) := do
  let removed ← endAll bus group.handles
  bus.log (.groupCleared group.members.length removed)
  return ({}, removed)

/-- What dropping a group does: members that are left are cleared. -/
def drop (bus : Bus m) : m Unit := do
  if !group.members.isEmpty then
    let _ ← group.clear bus

end SubscriptionGroup

end EventBus
