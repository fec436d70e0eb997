import EventBus.Scenario.Steps.Waits
import Mathlib.Data.List.Induction

/-!
A tracker in use. Any number of threads call it with events, and each call changes it step by step,
while clients wait for events, look at their waits, give them up and clear the log.
-/

namespace EventBus

namespace Tracker

/-- The changes that a call of the handler makes to a tracker, one after the other. -/
def changes (event : Event) : List (Tracker → Tracker) :=
  -- The handler cannot see the tracker, and leaves its changes in a list as well.
  let noting : EventHandler (StateM (List (Tracker → Tracker))) :=
    Tracker.handler fun change => modify (· ++ [change])
  ((noting.handle event).run []).2

/-- A call appends the event to the log and sends it to the waits after that. -/
theorem changes_eq (event : Event) :
    changes event = [(·.append event), (·.broadcast event)] := rfl

/-- What a look at a wait comes to: its end, or nothing as long as it goes on. -/
def look (tracker : Tracker) (id : Nat) (due : Bool) : Option (Option Event) × Tracker :=
  -- An event that has arrived counts even if the time is over.
  match tracker.poll id with
  | (some event, later) => (some (some event), later)
  | (none, later) => if due then (some none, later.forget id) else (none, later)

/-- The tracker when a wait has passed over all that is in its inbox. -/
def passOver (tracker : Tracker) (id : Nat) : Tracker :=
  { tracker with waiters := tracker.waiters.map fun other =>
      if other.id = id then { other with inbox := [] } else other }

variable {tracker : Tracker} {id : Nat} {due : Bool} {waiter : Waiter} {event : Event}

/-- A wait ends with the first event of its type in its inbox. -/
theorem look_found (present : tracker.waiters.find? (·.id == id) = some waiter)
    (found : waiter.inbox.find? (·.type == waiter.type) = some event) :
    tracker.look id due = (some (some event), tracker.forget id) := by
  -- The two steps of a look are a search of the inbox and, where it fails, the clock.
  simp only [look, poll, present, found]

/-- A wait whose time is over ends with nothing if there is no event of its type. -/
theorem look_elapsed (present : tracker.waiters.find? (·.id == id) = some waiter)
    (nothing : waiter.inbox.find? (·.type == waiter.type) = none) :
    tracker.look id true = (some none, tracker.forget id) := by
  simp only [look, poll, present, nothing, if_pos, forget]
  congr 2
  -- Its inbox is emptied before the wait goes, which makes no difference to the others.
  induction tracker.waiters with
  | nil => rfl
  | cons other rest ih =>
    by_cases same : other.id = id
    · simpa [same] using ih
    · simpa [same] using ih

/-- A wait whose time is not over goes on if there is no event of its type. -/
theorem look_pending (present : tracker.waiters.find? (·.id == id) = some waiter)
    (nothing : waiter.inbox.find? (·.type == waiter.type) = none) :
    tracker.look id false = (none, tracker.passOver id) := by
  -- The wait stays with an empty inbox, as it has looked at everything in it.
  simp only [look, poll, present, nothing, passOver, Bool.false_eq_true, if_false]

end Tracker

/-- A wait of a script ends as a look at it comes to an end. -/
theorem Steps.waitEnd?_eq {world : World} {wait : Wait} {tracker : Tracker}
    (waiting : wait.state = .waiting)
    (tracked : (world.handlerState? wait.tracker).map HandlerState.body = some (.tracker tracker)) :
    Steps.waitEnd? world wait =
      let (ended, later) := tracker.look wait.id (wait.due ≤ world.now)
      ended.map (·, later) := by
  -- The script takes the answer of the search before it looks at the clock, as a look does.
  simp only [waitEnd?, waiting, tracked, Tracker.look]
  cases tracker.poll wait.id with
  | mk found later =>
    cases found with
    | some event => rfl
    | none =>
      by_cases late : wait.due ≤ world.now <;> simp [late]

namespace Watch

/-- A call of the handler with an event, and how many changes it has made. -/
structure Call where
  event : Event
  made : Nat
  deriving DecidableEq, Repr

/-- What a wait is for, and the moment when its time is over. -/
structure Wait where
  type : EventType
  due : Nat
  deriving DecidableEq, Repr

/-- An event that is sent to the waits: by which call, and when. -/
structure Arrival where
  call : Nat
  event : Event
  time : Nat
  deriving DecidableEq, Repr

/-- What happens at a tracker. -/
inductive Happening where
  /-- A wait begins. -/
  | began (id : Nat)
  /-- A call appends its event to the log. -/
  | appended (call : Nat) (event : Event)
  /-- A call sends its event to the waits. -/
  | sent (arrival : Arrival)
  /-- A wait finds no event of its type and goes on. -/
  | looked (id : Nat)
  /-- A wait ends with an event, or with nothing when its time is over. -/
  | ended (id : Nat) (answer : Option Event) (time : Nat)
  /-- A wait is given up. -/
  | abandoned (id : Nat)
  /-- The log is cleared. -/
  | cleared
  deriving DecidableEq, Repr

/-- What somebody does with a tracker. -/
inductive Move where
  /-- A thread calls the handler. -/
  | handle (event : Event)
  /-- A call makes its next change. -/
  | act (call : Nat)
  | await (type : EventType) (timeout : Nat)
  | poll (id : Nat)
  | abandon (id : Nat)
  | clear
  | pass (time : Nat)
  deriving DecidableEq, Repr

end Watch

/-- A tracker in use. -/
structure Watch where
  tracker : Tracker
  now : Nat
  /-- Every call that has begun, in the place of its number. -/
  calls : List Watch.Call
  /-- Every wait that has begun, in the place of its id. -/
  waits : List Watch.Wait
  /-- What has happened so far, the latest first. -/
  history : List Watch.Happening
  deriving DecidableEq, Repr

namespace Watch

/-- A tracker that nobody has used. -/
def start (maxLen : Nat) (source : Option String) : Watch where
  tracker := .new maxLen source
  now := 0
  calls := []
  waits := []
  history := []

/-- What happens with the next change of a call: the first one is to the log. -/
def Call.happening (call : Call) (number now : Nat) : Happening :=
  if call.made = 0 then .appended number call.event else .sent ⟨number, call.event, now⟩

/-- The tracker in use after a move, or nothing where the move is impossible. -/
def step? (watch : Watch) : Move → Option Watch
  | .handle event => some { watch with calls := watch.calls ++ [⟨event, 0⟩] }
  | .act number => do
    -- Other calls and the clients may act between the changes of a call.
    let call ← watch.calls[number]?
    let change ← (Tracker.changes call.event)[call.made]?
    some { watch with
      tracker := change watch.tracker
      calls := watch.calls.set number { call with made := call.made + 1 }
      history := call.happening number watch.now :: watch.history }
  | .await type timeout =>
    let id := watch.waits.length
    some { watch with
      tracker := watch.tracker.await id type
      waits := watch.waits ++ [⟨type, watch.now + timeout⟩]
      history := .began id :: watch.history }
  | .poll id => do
    -- A wait that is over is not looked at again.
    let _ ← watch.tracker.waiters.find? (·.id == id)
    let wait ← watch.waits[id]?
    let (ended, tracker) := watch.tracker.look id (wait.due ≤ watch.now)
    let happening := match ended with
      | some answer => .ended id answer watch.now
      | none => .looked id
    some { watch with tracker, history := happening :: watch.history }
  | .abandon id => do
    let _ ← watch.tracker.waiters.find? (·.id == id)
    some { watch with
      tracker := watch.tracker.forget id
      history := .abandoned id :: watch.history }
  | .clear =>
    some { watch with tracker := watch.tracker.clear, history := .cleared :: watch.history }
  | .pass time => some { watch with now := watch.now + time }

/-- The tracker in use after a list of moves, if each of them is possible. -/
def replay? (watch : Watch) (moves : List Move) : Option Watch := moves.foldlM step? watch

/-- A move with what it does, by the ways in which it can go. -/
inductive Step (watch : Watch) : Move → Watch → Prop
  | handle (event : Event) :
    Step watch (.handle event) { watch with calls := watch.calls ++ [⟨event, 0⟩] }
  | append {number : Nat} {event : Event} (called : watch.calls[number]? = some ⟨event, 0⟩) :
    Step watch (.act number) { watch with
      tracker := watch.tracker.append event
      calls := watch.calls.set number ⟨event, 1⟩
      history := .appended number event :: watch.history }
  | send {number : Nat} {event : Event} (called : watch.calls[number]? = some ⟨event, 1⟩) :
    Step watch (.act number) { watch with
      tracker := watch.tracker.broadcast event
      calls := watch.calls.set number ⟨event, 2⟩
      history := .sent ⟨number, event, watch.now⟩ :: watch.history }
  | await (type : EventType) (timeout : Nat) :
    Step watch (.await type timeout) { watch with
      tracker := watch.tracker.await watch.waits.length type
      waits := watch.waits ++ [⟨type, watch.now + timeout⟩]
      history := .began watch.waits.length :: watch.history }
  | answer {id : Nat} {waiter : Waiter} {wait : Wait} {event : Event}
    (present : watch.tracker.waiters.find? (·.id == id) = some waiter)
    (begun : watch.waits[id]? = some wait)
    (found : waiter.inbox.find? (·.type == waiter.type) = some event) :
    Step watch (.poll id) { watch with
      tracker := watch.tracker.forget id
      history := .ended id (some event) watch.now :: watch.history }
  | elapse {id : Nat} {waiter : Waiter} {wait : Wait}
    (present : watch.tracker.waiters.find? (·.id == id) = some waiter)
    (begun : watch.waits[id]? = some wait)
    (nothing : waiter.inbox.find? (·.type == waiter.type) = none) (late : wait.due ≤ watch.now) :
    Step watch (.poll id) { watch with
      tracker := watch.tracker.forget id
      history := .ended id none watch.now :: watch.history }
  | look {id : Nat} {waiter : Waiter} {wait : Wait}
    (present : watch.tracker.waiters.find? (·.id == id) = some waiter)
    (begun : watch.waits[id]? = some wait)
    (nothing : waiter.inbox.find? (·.type == waiter.type) = none) (early : watch.now < wait.due) :
    Step watch (.poll id) { watch with
      tracker := watch.tracker.passOver id
      history := .looked id :: watch.history }
  | abandon {id : Nat} {waiter : Waiter}
    (present : watch.tracker.waiters.find? (·.id == id) = some waiter) :
    Step watch (.abandon id) { watch with
      tracker := watch.tracker.forget id
      history := .abandoned id :: watch.history }
  | clear :
    Step watch .clear { watch with
      tracker := watch.tracker.clear, history := .cleared :: watch.history }
  | pass (time : Nat) : Step watch (.pass time) { watch with now := watch.now + time }

variable {watch later : Watch} {move : Move}

/-- A move that is possible goes in one of the ways. -/
theorem step_of_step? (happened : watch.step? move = some later) : watch.Step move later := by
  -- Each move is taken apart down to what it has found.
  cases move with
  | handle event =>
    cases happened
    exact .handle event
  | act number =>
    obtain ⟨⟨event, made⟩, called, happened⟩ := Option.bind_eq_some_iff.mp happened
    obtain ⟨change, next, happened⟩ := Option.bind_eq_some_iff.mp happened
    rw [Tracker.changes_eq] at next
    match made, next with
    -- A call makes its two changes in order: it appends and then sends.
    | 0, rfl =>
      cases happened
      exact .append called
    | 1, rfl =>
      cases happened
      exact .send called
  | await type timeout =>
    cases happened
    exact .await type timeout
  | poll id =>
    obtain ⟨waiter, present, happened⟩ := Option.bind_eq_some_iff.mp happened
    obtain ⟨wait, begun, happened⟩ := Option.bind_eq_some_iff.mp happened
    cases searched : waiter.inbox.find? (·.type == waiter.type) with
    | some event =>
      rw [Tracker.look_found present searched] at happened
      cases happened
      exact .answer present begun searched
    | none =>
      by_cases late : wait.due ≤ watch.now
      · rw [decide_eq_true late, Tracker.look_elapsed present searched] at happened
        cases happened
        exact .elapse present begun searched late
      · rw [decide_eq_false late, Tracker.look_pending present searched] at happened
        cases happened
        exact .look present begun searched (Nat.lt_of_not_le late)
  | abandon id =>
    obtain ⟨waiter, present, happened⟩ := Option.bind_eq_some_iff.mp happened
    cases happened
    exact .abandon present
  | clear =>
    cases happened
    exact .clear
  | pass time =>
    cases happened
    exact .pass time

/-- Each of the ways is one in which a move can go. -/
theorem step?_of_step (step : watch.Step move later) : watch.step? move = some later := by
  -- What each way asks for is what the step computes.
  cases step with
  | handle | await | clear | pass => rfl
  | append called => simp [step?, called, Tracker.changes_eq, Call.happening]
  | send called => simp [step?, called, Tracker.changes_eq, Call.happening]
  | answer present begun found => simp [step?, present, begun, Tracker.look_found present found]
  | elapse present begun nothing late =>
    simp [step?, present, begun, late, Tracker.look_elapsed present nothing]
  | look present begun nothing early =>
    simp [step?, present, begun, Nat.not_le_of_lt early, Tracker.look_pending present nothing]
  | abandon present => simp [step?, present]

/-- What the use of a tracker can lead to. -/
inductive Leads (watch : Watch) : Watch → Prop
  | refl : Leads watch watch
  | step {between later : Watch} {move : Move} (before : Leads watch between)
    (happened : between.step? move = some later) : Leads watch later

/-- What every move keeps stays however a tracker is used. -/
theorem Leads.keeps {holds : Watch → Prop} (used : watch.Leads later)
    (kept : ∀ before after move, holds before → before.step? move = some after → holds after)
    (first : holds watch) : holds later := by
  -- By induction on the moves made.
  induction used with
  | refl => exact first
  | step _ happened ih => exact kept _ _ _ ih happened

/-- Moves lead to where they end. -/
theorem leads_of_replay? {moves : List Move} (ran : watch.replay? moves = some later) :
    watch.Leads later := by
  -- The last move is taken off, so that the earlier ones lead to where it begins.
  induction moves using List.reverseRecOn generalizing later with
  | nil =>
    cases ran
    exact .refl
  | append_singleton moves move ih =>
    rw [replay?, List.foldlM_append] at ran
    obtain ⟨between, ran, last⟩ := Option.bind_eq_some_iff.mp ran
    rw [List.foldlM_cons] at last
    obtain ⟨final, happened, same⟩ := Option.bind_eq_some_iff.mp last
    cases same
    exact .step (ih ran) happened

/-- Time goes on, and what has begun and happened before is not forgotten. -/
structure Grows (watch later : Watch) : Prop where
  maxLen : later.tracker.maxLen = watch.tracker.maxLen
  now : watch.now ≤ later.now
  waits : watch.waits <+: later.waits
  /-- What is sent in between is sent in time. -/
  history : ∃ new, later.history = new ++ watch.history ∧
    ∀ arrival, .sent arrival ∈ new → watch.now ≤ arrival.time

/-- What goes on twice goes on. -/
theorem Grows.trans {between : Watch} (first : watch.Grows between) (last : between.Grows later) :
    watch.Grows later := by
  obtain ⟨new, history, timely⟩ := first.history
  obtain ⟨newer, final, punctual⟩ := last.history
  refine ⟨last.maxLen.trans first.maxLen, Nat.le_trans first.now last.now,
    first.waits.trans last.waits, newer ++ new, by rw [final, history, List.append_assoc],
    fun arrival there => ?_⟩
  -- What was sent in the later part was sent after the first had ended.
  rcases List.mem_append.mp there with late | early
  · exact Nat.le_trans first.now (punctual arrival late)
  · exact timely arrival early

/-- A move adds to the history one happening at most. -/
theorem Step.grows (step : watch.Step move later) : watch.Grows later := by
  -- Only time and new calls leave no trace, and a trace is one entry.
  cases step with
  | handle event => exact ⟨rfl, Nat.le.refl, List.prefix_rfl, [], rfl, by simp⟩
  | pass time => exact ⟨rfl, Nat.le_add_right _ _, List.prefix_rfl, [], rfl, by simp⟩
  | await type timeout =>
    exact ⟨rfl, Nat.le.refl, List.prefix_append _ _, [_], rfl, by simp⟩
  | append | send | answer | elapse | look | abandon | clear =>
    exact ⟨rfl, Nat.le.refl, List.prefix_rfl, [_], rfl, by simp⟩

/-- However a tracker is used, nothing is forgotten. -/
theorem Leads.grows (used : watch.Leads later) : watch.Grows later :=
  -- Every move adds to what is there and removes nothing.
  used.keeps (fun _ _ _ grown happened => grown.trans (step_of_step? happened).grows)
    ⟨rfl, Nat.le.refl, List.prefix_rfl, [], rfl, by simp⟩

/-- Whatever has happened at a tracker has happened in a move. -/
theorem Leads.happened (used : watch.Leads later) (fresh : watch.history = [])
    {happening : Happening} {past : List Happening} (there : happening :: past <:+ later.history) :
    ∃ before after move, watch.Leads before ∧ before.step? move = some after ∧
      before.history = past ∧ after.history = happening :: past ∧ after.Leads later := by
  induction used with
  | refl =>
    rw [fresh, List.suffix_nil] at there
    cases there
  | @step between later move begun happened ih =>
    have history : later.history = between.history ∨
        ∃ latest, later.history = latest :: between.history := by
      cases step_of_step? happened <;> simp
    -- What happened last is what the last move did, if it did anything at all.
    rcases history with same | ⟨latest, grown⟩
    · rw [same] at there
      obtain ⟨before, after, move, reached, moved, history, grown, leads⟩ := ih there
      exact ⟨before, after, move, reached, moved, history, grown, leads.step happened⟩
    · rw [grown, List.suffix_cons_iff] at there
      rcases there with now | earlier
      · obtain ⟨rfl, rfl⟩ := List.cons.inj now
        exact ⟨between, later, move, begun, happened, rfl, grown, .refl⟩
      · obtain ⟨before, after, move, reached, moved, history, grown, leads⟩ := ih earlier
        exact ⟨before, after, move, reached, moved, history, grown, leads.step happened⟩

/-- Every earlier history is that of a tracker on the way. -/
theorem Leads.earlier (used : watch.Leads later) (fresh : watch.history = [])
    {past : List Happening} (there : past <:+ later.history) :
    ∃ before, watch.Leads before ∧ before.history = past := by
  obtain ⟨new, history⟩ := there
  -- Either nothing is missing, or the next happening tells of the move that followed.
  rcases List.eq_nil_or_concat new with rfl | ⟨rest, happening, rfl⟩
  · exact ⟨later, used, history.symm⟩
  · have there : happening :: past <:+ later.history :=
      ⟨rest, by simp [← history]⟩
    obtain ⟨before, _, _, reached, _, same, _⟩ := used.happened fresh there
    exact ⟨before, reached, same⟩

end Watch

end EventBus
