import EventBus.Proofs.Hub.Attainable
import EventBus.Proofs.Registry.Handles
import EventBus.SubscriptionGroup

/-!
An assembly is a hub together with the groups that were made for its bus. It remembers who was given
which handle and who ended which subscription.
-/

namespace EventBus

/-- Who asks for subscriptions and ends them: the direct clients of a bus, or one of its groups. -/
inductive Party where
  | clients
  | group (index : Nat)
  deriving DecidableEq, Repr

/-- How a handler comes to a group. -/
inductive Joining where
  /-- A client passes on a handler that it holds. -/
  | shared
  /-- A handler is made from a closure, and nobody but the group's bus holds it in the end. -/
  | closure
  deriving DecidableEq, Repr

/-- How subscriptions are taken out of a group. -/
inductive Removal where
  | member (type : EventType) (name : String)
  | clear
  /-- The group itself is dropped. -/
  | drop
  deriving DecidableEq, Repr

/--
What happens in an assembly.

A clear that others interrupt comes to taking out one member after another, since nobody else can
look at the group meanwhile.
-/
inductive Deed where
  /-- A client or a flight acts at the hub. -/
  | occur (incident : Incident)
  /-- A group without members is made. -/
  | found
  | join (index : Nat) (joining : Joining) (type : EventType) (handler : Handler)
  | remove (index : Nat) (removal : Removal)

/-- How a deed is answered. -/
inductive Reply where
  | answered (answer : Answer)
  | founded
  | joined (answer : Except BusError SubscriptionHandle)
  | removed (answer : Except BusError Bool)
  | cleared (count : Nat)
  | dropped

/-- The handles that a client is given with an answer. -/
def Answer.handles : Answer → List SubscriptionHandle
  | .subscribed (.ok handle) => [handle]
  | .subscribedMany (.ok handles) => handles
  | _ => []

/-- The handles that are given with a reply. -/
def Reply.handles : Reply → List SubscriptionHandle
  | .answered answer => answer.handles
  | .joined (.ok handle) => [handle]
  | _ => []

/-- The handle that a change puts to use. -/
def Change.handle? : Change → Option SubscriptionHandle
  | .unsubscribe handle => some handle
  | _ => none

namespace Joining

variable (group : SubscriptionGroup) (type : EventType) (handler : Handler)

/-- A handler is passed on only if somebody holds it, and made only if there is none like it. -/
def allows (hub : Hub) : Joining → Bool
  | shared => 0 < hub.outside handler
  | closure => !hub.born.contains handler

/-- How a handler joins a group. -/
def enact (bus : Bus (StateM Hub)) :
    Joining → StateM Hub (SubscriptionGroup × Except BusError SubscriptionHandle)
  | shared => group.subscribe bus type handler
  | closure => do
    -- The handler is made even if there is a member of its name, and let go of in any case.
    let _ ← Hub.serve bus (.create handler)
    let joined ← group.subscribe bus type handler
    bus.drop handler
    return joined

end Joining

namespace Removal

variable (group : SubscriptionGroup)

/-- The handles of the members that are taken out. -/
def taken : Removal → List SubscriptionHandle
  | member type name => (group.find? type name).toList.map Member.handle
  | clear | drop => group.handles

/-- What is left of the group. -/
def left : Removal → Option SubscriptionGroup
  | member type name => some ⟨group.members.eraseP (·.standsFor type name)⟩
  | clear => some {}
  | drop => none

/-- How members are taken out of a group. -/
def enact (bus : Bus (StateM Hub)) : Removal → StateM Hub (Reply × Option SubscriptionGroup)
  | member type name => do
    let (left, answer) ← group.remove bus type name
    return (.removed answer, some left)
  | clear => do
    let (left, count) ← group.clear bus
    return (.cleared count, some left)
  | drop => do
    group.drop bus
    return (.dropped, none)

end Removal

/-- A hub with the groups of its bus. -/
structure Assembly where
  hub : Hub
  /-- Every group that was ever made, as long as it has not been dropped. -/
  groups : List (Option SubscriptionGroup)
  /-- Who was given which handle. -/
  asked : List (Party × SubscriptionHandle)
  /-- Who ended which subscription, by an unsubscription that found it. -/
  ended : List (Party × SubscriptionHandle)

/-- Who does a deed. -/
def Deed.party : Deed → Party
  | .occur _ | .found => .clients
  | .join index .. | .remove index _ => .group index

namespace Assembly

/-- An assembly in which nothing has happened yet. -/
def new (id : Nat) : Assembly := ⟨.new id, [], [], []⟩

/-- The group at an index. -/
def group? (assembly : Assembly) (index : Nat) : Option SubscriptionGroup :=
  assembly.groups[index]?.join

end Assembly

namespace Deed

/-- What a deed may do to the registry. -/
def changes (assembly : Assembly) : Deed → List Change
  | .occur incident => incident.changes
  | .found => []
  | .join _ _ type handler => [.subscribe type handler true]
  | .remove index removal =>
    match assembly.group? index with
    | some group => (removal.taken group).map .unsubscribe
    | none => []

/-- The handles that a deed puts to use in order to end subscriptions. -/
def uses (assembly : Assembly) (deed : Deed) : List SubscriptionHandle :=
  (deed.changes assembly).filterMap Change.handle?

end Deed

namespace Assembly

variable (config : BusConfig) (assembly : Assembly)

/-- What a deed does to the hub and the groups, and how it is answered, if it can be done. -/
def effect? : Deed → Option (Reply × Hub × List (Option SubscriptionGroup))
  | .occur incident => do
    let (answer, hub) ← assembly.hub.step? config incident
    return (.answered answer, hub, assembly.groups)
  | .found => some (.founded, assembly.hub, assembly.groups ++ [some {}])
  | .join index joining type handler => do
    let group ← assembly.group? index
    if joining.allows handler assembly.hub then
      let bus := Hub.bus config fun _ _ => none
      let ((later, answer), hub) := joining.enact group type handler bus assembly.hub
      return (.joined answer, hub, assembly.groups.set index (some later))
    else none
  | .remove index removal => do
    let group ← assembly.group? index
    let bus := Hub.bus config fun _ _ => none
    let ((reply, left), hub) := removal.enact group bus assembly.hub
    return (reply, hub, assembly.groups.set index left)

/-- The assembly after a deed and the reply to it, or nothing where it cannot be done. -/
def step? (deed : Deed) : Option (Reply × Assembly) := do
  let (reply, hub, groups) ← assembly.effect? config deed
  -- A subscription is ended only by an unsubscription that still finds it.
  let found := (deed.uses assembly).filter fun handle =>
    (assembly.hub.registry.find? handle).isSome
  return (reply, {
    hub, groups
    asked := assembly.asked ++ reply.handles.map (deed.party, ·)
    ended := assembly.ended ++ found.map (deed.party, ·) })

/--
The assemblies that can come about, whatever is done in whichever order.

A publication in the calling thread is made of a snapshot that a client takes and gives up, and of
what its handlers do. Besides that it notes its calls and writes to the log.
-/
inductive Reachable (config : BusConfig) : Assembly → Prop
  | new (id : Nat) : Reachable config (Assembly.new id)
  | step {assembly later : Assembly} {deed : Deed} {reply : Reply}
    (before : Reachable config assembly)
    (happened : assembly.step? config deed = some (reply, later)) : Reachable config later
  | noted {assembly : Assembly} (before : Reachable config assembly)
    (calls : List (Handler × Event)) (records : List LogRecord) :
    Reachable config { assembly with hub := { assembly.hub with calls, records } }

/-- The assembly after a list of deeds, if each of them can be done. -/
def run? (config : BusConfig) (assembly : Assembly) : List Deed → Option Assembly
  | [] => some assembly
  | deed :: rest =>
    match assembly.step? config deed with
    | none => none
    | some (_, later) => run? config later rest

variable {config} {assembly}

/-- What holds through every deed holds through a list of them. -/
theorem run_keeps {motive : Assembly → Prop}
    (step : ∀ {assembly later : Assembly} {deed : Deed} {reply : Reply}, motive assembly →
      assembly.step? config deed = some (reply, later) → motive later)
    {deeds : List Deed} {last : Assembly} (ran : assembly.run? config deeds = some last)
    (held : motive assembly) : motive last := by
  -- The first deed leads to an assembly in which the others are done.
  induction deeds generalizing assembly with
  | nil =>
    cases ran
    exact held
  | cons deed rest ih =>
    unfold Assembly.run? at ran
    split at ran
    · cases ran
    · rename_i reply later happened
      exact ih ran (step held happened)

/-- What can be done in an assembly that can come about leads to another one. -/
theorem Reachable.run? {deeds : List Deed} {last : Assembly}
    (reachable : assembly.Reachable config)
    (ran : assembly.run? config deeds = some last) : last.Reachable config :=
  run_keeps Reachable.step ran reachable

end Assembly

end EventBus
