import EventBus.Dispatch.Handling

/-!
A tracker keeps the latest events, and lets clients wait for the next event of a type. Every wait
has an inbox of its own, which loses its oldest event when it overflows.
-/

namespace EventBus

/-- A wait that has begun and is not over. -/
structure Waiter where
  id : Nat
  type : EventType
  inbox : List Event
  deriving DecidableEq, Repr

/-- A subscriber that remembers events. -/
structure Tracker where
  source : Option String
  /-- How many events are kept. -/
  maxLen : Nat
  log : List Event
  waiters : List Waiter
  maxLen_pos : 1 ≤ maxLen
  deriving DecidableEq, Repr

namespace Tracker

/-- How many events a tracker keeps if nothing else is said. -/
def defaultMaxLen : Nat := 50

/-- A tracker that has seen nothing; it keeps one event at least. -/
def new (maxLen : Nat) (source : Option String) : Tracker where
  source
  maxLen := max maxLen 1
  log := []
  waiters := []
  maxLen_pos := Nat.le_max_right maxLen 1

/-- How many events an inbox holds. -/
def capacity (tracker : Tracker) : Nat := (max tracker.maxLen 16).nextPowerOfTwo

/-- The log with one more event; a full log gives up its oldest one. -/
def append (tracker : Tracker) (event : Event) : Tracker :=
  -- The log never exceeds its length, so equality is enough of a test.
  let kept := if tracker.log.length = tracker.maxLen then tracker.log.drop 1 else tracker.log
  { tracker with log := kept ++ [event] }

/-- An inbox with one more event. -/
def Waiter.receive (capacity : Nat) (waiter : Waiter) (event : Event) : Waiter :=
  -- The latest events stay, as many as there is room for.
  let inbox := waiter.inbox ++ [event]
  { waiter with inbox := inbox.drop (inbox.length - capacity) }

/-- An event goes to the inbox of every wait. -/
def broadcast (tracker : Tracker) (event : Event) : Tracker :=
  { tracker with waiters := tracker.waiters.map (Waiter.receive tracker.capacity · event) }

/-- The tracker without its events; waits go on. -/
def clear (tracker : Tracker) : Tracker := { tracker with log := [] }

/-- Begins a wait under a number of its own. -/
def await (tracker : Tracker) (id : Nat) (type : EventType) : Tracker :=
  { tracker with waiters := tracker.waiters ++ [⟨id, type, []⟩] }

/-- Ends a wait. -/
def forget (tracker : Tracker) (id : Nat) : Tracker :=
  { tracker with waiters := tracker.waiters.filter (·.id ≠ id) }

/-- A wait looks through its inbox: it ends at the first event of its type and passes the others. -/
def poll (tracker : Tracker) (id : Nat) : Option Event × Tracker :=
  match tracker.waiters.find? (·.id == id) with
  | none => (none, tracker)
  | some waiter =>
    match waiter.inbox.find? (·.type == waiter.type) with
    | some event => (some event, tracker.forget id)
    -- Events of other types have been seen and are not looked at again.
    | none =>
      let emptied := tracker.waiters.map fun other =>
        if other.id = id then { other with inbox := [] } else other
      (none, { tracker with waiters := emptied })

/-- The number of waits that are not over. -/
def waiting (tracker : Tracker) : Nat := tracker.waiters.length

/-- The name of every tracker. -/
def name : String := "tracker"

/-- The tracker as a handler, given a way to change it: first the log, then the inboxes. -/
def handler {m : Type → Type} [Monad m] (modify : (Tracker → Tracker) → m Unit) :
    EventHandler m where
  name := name
  handle event := do
    modify (·.append event)
    modify (·.broadcast event)
    return none

end Tracker

end EventBus
