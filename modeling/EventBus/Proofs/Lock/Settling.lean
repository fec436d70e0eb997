import EventBus.Proofs.Lock.Progress

/-!
What comes behind a task: the handlers that it has given up die one after the other, and what each
of them does takes place above what is still to be done. The client goes on with the same answer.
-/

namespace EventBus.Locked

/--
A thread gives up what a task has left, or does what a handler does that has died thereby.

Whatever it does in between, it will go back to the rest, and from there to its client.
-/
inductive Thread.Settles {task : Task} (after : task.Result → Client) (answer : task.Result)
    (outer : List Frame) (thread : Thread) : Prop where
  | between (released : List Handler) (records : List LogRecord)
    (rest : thread.code = Client.settling after { answer, released, records })
    (level : thread.outer = outer)
  | within (released : List Handler) (records : List LogRecord) (above : List Frame) (frame : Frame)
    (back : ∀ cause, frame.next cause = Client.settling after { answer, released, records })
    (level : thread.outer = above ++ frame :: outer)

/-- A thread is back at its client, which has the answer of its task. -/
structure Thread.Returns {task : Task} (after : task.Result → Client) (answer : task.Result)
    (outer : List Frame) (thread : Thread) : Prop where
  rest : thread.code = Client.procedure (after answer)
  level : thread.outer = outer

namespace Machine

variable {machine next : Machine} {move : Move} {index : Nat} {thread : Thread} {task : Task}
  {after : task.Result → Client} {answer : task.Result} {outer : List Frame}

/-- The moves of others leave a thread where it is. -/
theorem Step.other (stepped : machine.Step move next) (differs : index ≠ move.thread) :
    next.threads[index]? = machine.threads[index]? := by
  -- A move puts only its own thread.
  cases stepped <;> exact put_other differs _ _ _

/-- A thread goes on with what follows, at once or once a handler has acted. -/
theorem Step.goes {instruction : Instruction}
    {rest : instruction.Result → Procedure (Option Cause)} (stepped : machine.Step move next)
    (found : machine.threads[move.thread]? = some thread)
    (upcoming : thread.code = .step instruction rest) :
    ∃ now, next.threads[move.thread]? = some now ∧
      ((∃ result, now.code = rest result ∧ now.outer = thread.outer) ∨
        ∃ (frame : Frame) (resume : Option Cause → instruction.Result),
          (∀ cause, frame.next cause = rest (resume cause)) ∧
          now.outer = frame :: thread.outer) := by
  -- A thread with an instruction before it does not go back, and what it does leads on.
  cases stepped with
  | goBack there done behind =>
    cases found.symm.trans there
    cases upcoming.symm.trans done
  | proceed there upcoming' free ran plain =>
    cases found.symm.trans there
    cases upcoming.symm.trans upcoming'
    exact ⟨_, put_self found _ _ _, .inl ⟨_, rfl, rfl⟩⟩
  | act there upcoming' ran acts =>
    cases found.symm.trans there
    cases upcoming.symm.trans upcoming'
    exact ⟨_, put_self found _ _ _, .inr ⟨_, _, fun _ => rfl, rfl⟩⟩

/-- A thread between two releases has nothing left to give up, or takes the next thing up. -/
theorem Step.settles_between (stepped : machine.Step move next)
    (found : machine.threads[move.thread]? = some thread) {released : List Handler}
    {records : List LogRecord}
    (rest : thread.code = Client.settling after { answer, released, records })
    (level : thread.outer = outer) :
    thread.Returns after answer outer ∨
      ∃ now, next.threads[move.thread]? = some now ∧ now.Settles after answer outer := by
  -- Either way what follows does not depend on what comes of the instruction.
  have goesOn {instruction : Instruction} {released : List Handler} {records : List LogRecord}
      (upcoming : thread.code = .step instruction fun _ =>
        Client.settling after { answer, released, records }) :
      ∃ now, next.threads[move.thread]? = some now ∧ now.Settles after answer outer := by
    obtain ⟨now, there, ⟨_, code, same⟩ | ⟨frame, _, back, above⟩⟩ := stepped.goes found upcoming
    · exact ⟨now, there, .between released records code (same.trans level)⟩
    · exact ⟨now, there, .within released records [] frame back (level ▸ above)⟩
  -- The references come first, and the records after them.
  match released, records with
  | [], [] => exact .inl ⟨rest, level⟩
  | [], record :: records =>
    have upcoming : thread.code = .step (.log record) fun _ =>
      Client.settling after { answer, released := [], records } := rest
    exact .inr (goesOn upcoming)
  | handler :: released, records =>
    have upcoming : thread.code = .step (.release handler) fun _ =>
      Client.settling after { answer, released, records } := rest
    exact .inr (goesOn upcoming)

/-- A thread in which a handler acts that has died leaves what is below as it is. -/
theorem Step.settles_within (stepped : machine.Step move next)
    (found : machine.threads[move.thread]? = some thread) {released : List Handler}
    {records : List LogRecord} {above : List Frame} {frame : Frame}
    (back : ∀ cause, frame.next cause = Client.settling after { answer, released, records })
    (level : thread.outer = above ++ frame :: outer) :
    ∃ now, next.threads[move.thread]? = some now ∧ now.Settles after answer outer := by
  -- The thread is in the acts of the handler, or comes back from the last of them.
  cases stepped with
  | goBack there done behind =>
    cases found.symm.trans there
    refine ⟨_, put_self found _ _ _, ?_⟩
    cases above with
    | nil =>
      -- The handler is done, and the next reference is to be given up.
      obtain ⟨rfl, rfl⟩ := List.cons.inj (behind.symm.trans level)
      exact .between released records (back _) rfl
    | cons first above =>
      obtain ⟨rfl, rfl⟩ := List.cons.inj (behind.symm.trans level)
      exact .within released records above frame back rfl
  | proceed there upcoming free ran plain =>
    cases found.symm.trans there
    exact ⟨_, put_self found _ _ _, .within released records above frame back level⟩
  | act there upcoming ran acts =>
    cases found.symm.trans there
    exact ⟨_, put_self found _ _ _,
      .within released records (_ :: above) frame back (congrArg _ level)⟩

/-- A thread that settles a task is back at its client, or settles the task still. -/
theorem Step.settles (stepped : machine.Step move next)
    (found : machine.threads[index]? = some thread) (settles : thread.Settles after answer outer) :
    thread.Returns after answer outer ∨
      ∃ now, next.threads[index]? = some now ∧ now.Settles after answer outer := by
  -- Only the thread's own moves change how far it has settled.
  by_cases own : index = move.thread
  · subst own
    cases settles with
    | between released records rest level => exact stepped.settles_between found rest level
    | within released records above frame back level =>
      exact .inr (stepped.settles_within found back level)
  · exact .inr ⟨thread, (stepped.other own).trans found, settles⟩

/-- Whatever happens, a thread that settles a task does so until it is back at its client. -/
theorem run?_settles {moves : List Move} {last : Machine} (ran : machine.run? moves = some last)
    (found : machine.threads[index]? = some thread) (settles : thread.Settles after answer outer) :
    (∃ now, last.threads[index]? = some now ∧ now.Settles after answer outer) ∨
      ∃ first second middle now, moves = first ++ second ∧ machine.run? first = some middle ∧
        middle.threads[index]? = some now ∧ now.Returns after answer outer := by
  -- The induction is on the moves, up to the one with which the thread is back.
  induction moves generalizing machine thread with
  | nil =>
    cases ran
    exact .inl ⟨thread, found, settles⟩
  | cons move rest ih =>
    unfold run? at ran
    split at ran
    · cases ran
    rename_i next stepped
    rcases (step_of_step? stepped).settles found settles with returns | ⟨now, there, settles⟩
    · exact .inr ⟨[], move :: rest, machine, thread, rfl, rfl, found, returns⟩
    · rcases ih ran there settles with still | ⟨first, second, middle, now, rfl, began, back⟩
      · exact .inl still
      · refine .inr ⟨move :: first, second, middle, now, rfl, ?_, back⟩
        rw [run?, stepped]
        exact began

end Machine

end EventBus.Locked
