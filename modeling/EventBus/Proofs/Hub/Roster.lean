import EventBus.Proofs.Hub.Basic
import EventBus.Proofs.Registry.Sections

/-!
A roster is what a registry means: one list of subscriptions in the order of their making, from
which a subscription disappears at the very moment its handler loses its last owner.
-/

namespace EventBus

/-- The subscriptions of one bus that exist at a moment, and the references that clients hold. -/
structure Roster where
  id : Nat
  closed : Bool
  /-- How many subscriptions have been made. -/
  made : Nat
  subscriptions : List Subscription
  /-- How many references to each handler the clients hold. -/
  outside : Handler → Nat
  /-- The handlers that have ever come into being. -/
  born : List Handler

namespace Roster

/-- A roster without subscriptions. -/
def new (id : Nat) : Roster := ⟨id, false, 0, [], fun _ => 0, []⟩

/-- Whether a client or a retained subscription holds a handler. -/
def owned (roster : Roster) (handler : Handler) : Bool :=
  decide (0 < roster.outside handler) ||
    roster.subscriptions.any fun subscription =>
      subscription.entry.retained && subscription.entry.handler == handler

/-- The roster without the subscriptions whose handlers have lost their last owner. -/
def settle (roster : Roster) : Roster :=
  { roster with
    subscriptions := roster.subscriptions.filter fun subscription =>
      roster.owned subscription.entry.handler }

/-- The roster after a client has taken a reference. -/
def take (roster : Roster) (handler : Handler) : Roster :=
  { roster with
    outside := fun other =>
      if other = handler then roster.outside other + 1 else roster.outside other }

/-- The roster after a client has given up a reference. -/
def giveUp (roster : Roster) (handler : Handler) : Roster :=
  -- The only place besides the end of a subscription where an owner goes.
  settle { roster with
    outside := fun other =>
      if other = handler then roster.outside other - 1 else roster.outside other }

/-- Whether there is nothing but white space in the name of a type. -/
def isBlank (type : EventType) : Bool := type.name.toList.all isBlankChar

/-- Subscribes a handler once to each type; asking again can only make the subscription retained. -/
def subscribe (roster : Roster) (type : EventType) (handler : Handler) (retain : Bool) :
    Except BusError SubscriptionHandle × Roster :=
  if isBlank type then (.error .blankType, roster)
  else if roster.closed then (.error .busClosed, roster)
  else
    let same := fun subscription : Subscription =>
      subscription.type = type && subscription.entry.handler = handler
    match roster.subscriptions.find? same with
    | some existing =>
      let id := existing.entry.id
      (.ok ⟨roster.id, id, type⟩,
        { roster with
          subscriptions := roster.subscriptions.map (Subscription.upgrade id retain) })
    | none =>
      let id := roster.made + 1
      (.ok ⟨roster.id, id, type⟩,
        { roster with
          made := id, subscriptions := roster.subscriptions ++ [⟨type, id, handler, retain⟩] })

/-- Subscribes a handler to types one by one, up to the first that is refused. -/
def subscribeEach (handler : Handler) :
    Roster → List EventType → Except BusError (List SubscriptionHandle) × Roster
  | roster, [] => (.ok [], roster)
  | roster, type :: rest =>
    match roster.subscribe type handler false with
    | (.error error, later) => (.error error, later)
    | (.ok handle, later) =>
      let (answer, last) := subscribeEach handler later rest
      (answer.map (handle :: ·), last)

/-- Subscribes a handler to several types, or to none of them if one is blank. -/
def subscribeMany (roster : Roster) (types : List EventType) (handler : Handler) :
    Except BusError (List SubscriptionHandle) × Roster :=
  match types.find? isBlank with
  | some blank => (.error (.blankTypeAmong blank), roster)
  | none => roster.subscribeEach handler types

/-- Whether a subscription is the one that a handle was given out for. -/
def isMeant (handle : SubscriptionHandle) (subscription : Subscription) : Bool :=
  subscription.type = handle.type && subscription.entry.id = handle.id

/-- Ends a subscription and says whether it existed. -/
def unsubscribe (roster : Roster) (handle : SubscriptionHandle) : Except BusError Bool × Roster :=
  if roster.closed then (.error .busClosed, roster)
  else if handle.registry ≠ roster.id then (.ok false, roster)
  else
    (.ok (roster.subscriptions.any (isMeant handle)),
      settle { roster with
        subscriptions := roster.subscriptions.filter fun subscription =>
          !isMeant handle subscription })

/-- The subscribers of a type, in the order of their subscriptions. -/
def snapshot (roster : Roster) (type : EventType) : Except BusError (List Subscriber) :=
  if roster.closed then .error .busClosed
  else
    .ok ((roster.subscriptions.filter (·.type = type)).map fun subscription =>
      ⟨subscription.entry.id, subscription.entry.handler⟩)

/-- The types with a subscription, each of them once and in ascending order. -/
def types (roster : Roster) : List EventType :=
  (roster.subscriptions.map Subscription.type).dedup.mergeSort fun a b => a.name ≤ b.name

/-- How a request is answered and what it changes. -/
def serve (roster : Roster) : Request → Answer × Roster
  | .create handler => (.done, { roster.take handler with born := handler :: roster.born })
  | .clone handler => (.done, roster.take handler)
  | .release handler => (.done, roster.giveUp handler)
  | .subscribe type handler =>
    let (answer, later) := roster.subscribe type handler false
    (.subscribed answer, later)
  | .subscribeRetained type handler =>
    let (answer, later) := roster.subscribe type handler true
    (.subscribed answer, later)
  | .subscribeMany types handler =>
    let (answer, later) := roster.subscribeMany types handler
    (.subscribedMany answer, later)
  | .unsubscribe handle =>
    let (answer, later) := roster.unsubscribe handle
    (.unsubscribed answer, later)
  | .snapshot type =>
    match roster.snapshot type with
    | .error error => (.snapshot (.error error), roster)
    | .ok subscribers =>
      (.snapshot (.ok subscribers),
        { roster with
          outside := fun handler =>
            roster.outside handler + (subscribers.map Subscriber.handler).count handler })
  | .size => (.size roster.subscriptions.length, roster)
  | .isEmpty => (.isEmpty roster.subscriptions.isEmpty, roster)
  | .types => (.types roster.types, roster)
  -- There is never anything to prune.
  | .prune => (.pruned 0, roster)
  | .close => (.closed !roster.closed, { roster with closed := true, subscriptions := [] })
  | .isClosed => (.closed roster.closed, roster)

/-- Clients can only pass on handlers that they hold, and no handler comes into being twice. -/
def allows (roster : Roster) : Request → Bool
  | .create handler => !roster.born.contains handler
  | .clone handler | .release handler | .subscribe _ handler | .subscribeRetained _ handler
  | .subscribeMany _ handler => 0 < roster.outside handler
  | _ => true

/-- The answer to a request and the roster after it, if clients can ask this. -/
def step? (roster : Roster) (request : Request) : Option (Answer × Roster) :=
  if roster.allows request then some (roster.serve request) else none

end Roster

namespace Hub

/-- The dead subscriptions that are still stored, since their types have not been changed since. -/
def remnants (hub : Hub) : List Subscription :=
  hub.registry.subscriptions.filter fun subscription => !hub.alive subscription.entry.handler

/--
What a hub has to answer to a request where a roster gives an answer.

The end of a subscription finds a dead one as well, if its handle is one of this registry's and it
is still stored, and pruning counts the dead ones that are stored. Nothing else depends on them.
-/
def due (hub : Hub) : Request → Answer → Answer
  | .unsubscribe handle, .unsubscribed (.ok existed) =>
    .unsubscribed (.ok (existed ||
      (handle.registry == hub.registry.id && hub.remnants.any (Roster.isMeant handle))))
  | .prune, _ => .pruned hub.remnants.length
  | _, answer => answer

/-- Whether a hub may give the first answer to a request where a roster gives the second. -/
def Agrees (hub : Hub) (request : Request) (answer meant : Answer) : Prop :=
  answer = hub.due request meant ∧
    -- The order of names is strict, so no type is repeated.
    ∀ types, answer = .types types → types.Pairwise fun a b => a.name < b.name

/-- Whether a hub answers a list of requests, one after the other, as a roster does. -/
def Refines (config : BusConfig) : Hub → Roster → List Request → Prop
  | _, _, [] => True
  | hub, roster, request :: rest =>
    match hub.step? config (.request request), roster.step? request with
    | some (answer, next), some (meant, later) =>
      hub.Agrees request answer meant ∧ Refines config next later rest
    -- What clients cannot ask is refused by both.
    | none, none => True
    | _, _ => False

end Hub

end EventBus
