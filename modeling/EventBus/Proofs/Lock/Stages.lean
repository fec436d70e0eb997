import EventBus.Proofs.Lock.Duties
import EventBus.Proofs.Registry.Identity

/-!
How far a thread has come with a task. It ends handlers only once the task has its answer and its
change of the registry is there for all to see, so what a dying handler does changes neither.
-/

namespace EventBus.Locked

namespace Task

/-- What is to be seen of a task's change from then on, whatever happens to the registry later. -/
def Shows : (task : Task) → task.Result → Registry → Prop
  | .request (.unsubscribe handle), answer, registry =>
    answer = .unsubscribed (.ok true) → registry.Vanished handle.id
  | .request .close, _, registry => registry.closed = true ∧ registry.lists = []
  | _, _, _ => True

/-- A task has its answer, and its change of the registry lies in the past. -/
structure Complete (task : Task) (answer : task.Result) (registry : Registry) : Prop where
  /-- Its section, if it has one, was carried out as a whole and came to this answer. -/
  carriedOut : ∀ section?, task.section? = some section? → ∃ before seen, before.Intact ∧
    answer = (section? before seen).answer ∧ (section? before seen).registry.Evolves registry
  reports : task.Reports answer registry
  /-- What has been ended is gone, and what has been closed is closed and empty. -/
  shows : task.Shows answer registry

/-- What has been carried out is there to be seen. -/
theorem Complete.of_carriedOut {task : Task} {answer : task.Result} {registry : Registry}
    (carriedOut : ∀ section?, task.section? = some section? → ∃ before seen, before.Intact ∧
      answer = (section? before seen).answer ∧ (section? before seen).registry.Evolves registry)
    (reports : task.Reports answer registry) : task.Complete answer registry where
  carriedOut
  reports
  shows := by
    -- Only two kinds of tasks show anything in the registry.
    unfold Shows
    split
    · -- An id that has vanished does not come back, whatever the later changes are.
      rename_i registry handle answer
      rintro rfl
      obtain ⟨before, seen, intact, answered, evolves⟩ := carriedOut _ rfl
      have yes : (before.unsubscribe seen handle).answer = .ok true :=
        (Answer.unsubscribed.inj answered).symm
      exact (Registry.kept_vanished handle.id).evolves evolves (intact.1.vanished_unsubscribe yes)
    · -- Nor does a closed registry ever hold anything again.
      rename_i registry answer
      obtain ⟨before, seen, intact, _, evolves⟩ := carriedOut _ rfl
      have wellFormed : before.close.registry.WellFormed := intact.1.change seen .close
      obtain ⟨wellFormed, succeeds⟩ := (Registry.kept_succeeds before.close.registry).evolves
        evolves ⟨wellFormed, .refl _⟩
      have closed := succeeds.closed_of before.closed_close
      exact ⟨closed, wellFormed.emptied closed⟩
    · trivial

/-- A task that has just been served is complete. -/
theorem Complete.of_served {company : Company} {view later : View} {task : Task}
    {remainder : Remainder task.Result} (served : Served company view task remainder later) :
    task.Complete remainder.answer later.registry :=
  .of_carriedOut (fun section? whole => by
    -- What the section left is the registry that there is now.
    obtain ⟨before, seen, intact, _, answered, left⟩ := served.carriedOut section? whole
    exact ⟨before, seen, intact, answered, left ▸ .refl⟩) served.reports

/-- A task that is complete remains so as the registry evolves. -/
theorem Complete.evolves {task : Task} {answer : task.Result} {earlier later : Registry}
    (complete : task.Complete answer earlier) (evolves : earlier.Evolves later) :
    task.Complete answer later :=
  .of_carriedOut (fun section? known => by
    -- What the section left has evolved to the registry that there is now.
    obtain ⟨before, seen, intact, answered, evolved⟩ := complete.carriedOut section? known
    exact ⟨before, seen, intact, answered, evolved.trans evolves⟩)
    (complete.reports.evolves evolves)

/-- What holds of a thread whose task has its answer, but has still something to give up. -/
structure Answered (task : Task) (remainder : Remainder task.Result) (view : View) : Prop where
  intact : view.registry.Intact
  free : view.holding = none
  held : ∀ handler, remainder.released.count handler ≤ view.hand handler
  complete : task.Complete remainder.answer view.registry

/-- What holds of a thread that has done a task, unless it could not take it on. -/
def Attempted (task : Task) (outcome : Option (Remainder task.Result)) (view : View) : Prop :=
  view.holding = none ∧ ∀ remainder, outcome = some remainder → task.Answered remainder view

/-- While others act, a task is done without an end of a handler. -/
theorem safe_attempted {task : Task} {view : View} (intact : view.registry.Intact)
    (free : view.holding = none) :
    Safe (.active true) task.attempt view task.Attempted := by
  -- Behind the attempt there is nothing but what has been served.
  refine (safe_attempt intact free fun _ => rfl).mono fun outcome later attempted => ?_
  obtain ⟨unlocked, _, served⟩ := attempted
  refine ⟨unlocked, fun remainder known => ?_⟩
  have served := served remainder known
  exact ⟨Registry.kept_handlersApart.evolves served.evolves intact, unlocked, served.held,
    .of_served served⟩

end Task

namespace Client

variable {task : Task}

/-- What a client does once a task has its answer. -/
def settling (next : task.Result → Client) (remainder : Remainder task.Result) :
    Procedure (Option Cause) := do
  remainder.settle
  procedure (next remainder.answer)

/-- What a client does after an attempt at a task. -/
def resume (next : task.Result → Client) :
    Option (Remainder task.Result) → Procedure (Option Cause)
  | none => return none
  | some remainder => settling next remainder

/-- A client attempts its task first. -/
theorem procedure_step (next : task.Result → Client) :
    procedure (.step task next) = task.attempt >>= resume next := by
  -- Both sides attempt the task and go on with its outcome.
  rw [procedure]
  congr 1

end Client

/-- How far a thread has come, as far as it knows. -/
inductive Stage (known : View) (code : Procedure (Option Cause)) : Prop where
  /-- It has done one task and is about to do the next. -/
  | between (client : Client) (same : code = client.procedure) (intact : known.registry.Intact)
    (free : known.holding = none)
  /-- It is in the midst of a task and ends no handler. -/
  | amidst {task : Task} (next : task.Result → Client)
    (rest : Procedure (Option (Remainder task.Result))) (same : code = rest >>= Client.resume next)
    (safe : Safe (.active true) rest known task.Attempted)
  /-- It has the answer of its task, and gives up what that has left. -/
  | settling {task : Task} (next : task.Result → Client) (remainder : Remainder task.Result)
    (same : code = Client.settling next remainder) (answered : task.Answered remainder known)

namespace Stage

variable {known : View}

/-- What a thread is about to do, depending on how far it has come. -/
inductive Next (known : View) :
    (instruction : Instruction) → (instruction.Result → Procedure (Option Cause)) → Prop
  | amidst {task : Task} (next : task.Result → Client) {instruction : Instruction}
    (rest : instruction.Result → Procedure (Option (Remainder task.Result)))
    (safe : Safe (.active true) (.step instruction rest) known task.Attempted) :
    Next known instruction fun result => rest result >>= Client.resume next
  | release {task : Task} (next : task.Result → Client) (answer : task.Result) (handler : Handler)
    (released : List Handler) (records : List LogRecord)
    (answered : task.Answered { answer, released := handler :: released, records } known) :
    Next known (.release handler) fun _ => Client.settling next { answer, released, records }
  | log {task : Task} (next : task.Result → Client) (answer : task.Result) (record : LogRecord)
    (records : List LogRecord)
    (answered : task.Answered { answer, records := record :: records } known) :
    Next known (.log record) fun _ => Client.settling next { answer, records }

section Upcoming

variable {instruction : Instruction} {next : instruction.Result → Procedure (Option Cause)}

/-- A thread that takes on a task is in the midst of it at once. -/
theorem next_of_between {client : Client} (intact : known.registry.Intact)
    (free : known.holding = none) (same : .step instruction next = client.procedure) :
    Next known instruction next := by
  cases client with
  | done cause => cases same
  | step task after =>
    -- The first thing is always to look whether the task can be taken on.
    have safe : Safe (.active true) task.attempt known task.Attempted :=
      Task.safe_attempted intact free
    obtain ⟨later, first⟩ : ∃ later, task.attempt = .step (.may task) later := ⟨_, rfl⟩
    rw [Client.procedure_step, first] at same
    rw [first] at safe
    cases same
    exact .amidst after later safe

/-- A thread that has its answer gives up what is left, then writes its records, then goes on. -/
theorem next_of_settling {task : Task} {after : task.Result → Client}
    {remainder : Remainder task.Result} (answered : task.Answered remainder known)
    (same : .step instruction next = Client.settling after remainder) :
    Next known instruction next := by
  obtain ⟨answer, released, records⟩ := remainder
  -- What comes next is a reference, a record or the next task of the client.
  match released, records, same with
  | handler :: released, records, same =>
    cases same
    exact .release after answer handler released records answered
  | [], record :: records, same =>
    cases same
    exact .log after answer record records answered
  | [], [], same => exact next_of_between answered.intact answered.free same

/-- A thread that is not over is about to do one of the things that there are. -/
theorem upcoming (stage : Stage known (.step instruction next)) : Next known instruction next := by
  -- The stage tells what comes next, unless the procedure of the task is at its end.
  cases stage with
  | between client same intact free => exact next_of_between intact free same
  | settling after remainder same answered => exact next_of_settling answered same
  | amidst after rest same safe =>
    match rest, same, safe with
    | .done none, same, _ => cases same
    | .done (some remainder), same, safe => exact next_of_settling (safe.2 remainder rfl) same
    | .step first later, same, safe =>
      cases same
      exact .amidst after later safe

end Upcoming

/-- A thread may carry out what it is about to do, and comes one step further. -/
theorem permits {instruction : Instruction}
    {next : instruction.Result → Procedure (Option Cause)}
    (stage : Stage known (.step instruction next)) :
    instruction.Permits (.active false) known fun result later => Stage later (next result) := by
  -- What is permitted depends on the stage, and each leads to a later one.
  cases stage.upcoming with
  | amidst after rest safe =>
    have permits : instruction.Permits (.active true) known fun result later =>
      Safe (.active true) (rest result) later _ := safe
    exact permits.unbound.mono fun result later safe => .amidst after (rest result) rfl safe
  | release after answer handler released records answered =>
    have held (other : Handler) := answered.held other
    have listed : 0 < (handler :: released).count handler :=
      List.count_pos_iff.mpr List.mem_cons_self
    refine ⟨Nat.lt_of_lt_of_le listed (held handler), ?_,
      .settling after _ rfl ⟨answered.intact, answered.free, fun other => ?_, answered.complete⟩⟩
    · -- Without the lock any reference may be the last one.
      rintro (locked | ⟨⟨⟩⟩)
      exact absurd answered.free locked
    · have held := held other
      rw [List.count_cons, ← List.count_singleton] at held
      show released.count other ≤ known.hand other - [handler].count other
      omega
  | log after answer record records answered =>
    exact .settling after _ rfl
      ⟨answered.intact, answered.free, answered.held, answered.complete⟩

/-- A thread that is over does not hold the lock. -/
theorem free {cause : Option Cause} (stage : Stage known (.done cause)) :
    known.holding = none := by
  -- None of the stages ends under the lock.
  cases stage with
  | between client same intact free => exact free
  | settling after remainder same answered => exact answered.free
  | amidst after rest same safe =>
    cases rest with
    | done outcome => exact safe.1
    | step first later => cases same

/-- Who gives up a reference that may be the last one has the answer of its task. -/
theorem settles {handler : Handler} {next : Unit → Procedure (Option Cause)}
    (stage : Stage known (.step (.release handler) next)) (single : known.hand handler ≤ 1) :
    ∃ (task : Task) (after : task.Result → Client) (remainder : Remainder task.Result)
      (released : List Handler), remainder.released = handler :: released ∧
      next = (fun _ => Client.settling after { remainder with released }) ∧
      task.Answered remainder known := by
  cases stage.upcoming with
  | amidst after rest safe =>
    -- In the midst of a task there would be another reference in hand.
    have spare : 1 < known.hand handler := safe.2.1 (.inr rfl)
    omega
  | release after answer _ released records answered =>
    exact ⟨_, after, _, released, rfl, rfl, answered⟩

end Stage

end EventBus.Locked
