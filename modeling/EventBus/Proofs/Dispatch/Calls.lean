import EventBus.Proofs.Dispatch.Abandonment
import Mathlib.Data.List.Perm.Subperm

/-!
Who is called in the course of a flight: those whose handlers are running, and those who have an
outcome that is not a skip. Nobody is called twice, and no more are in progress than slots.
-/

namespace EventBus

/-- The subscriber whose handler is called with a notice. -/
def Notice.called? : Notice → Option Subscriber
  | .called subscriber => some subscriber
  | _ => none

/-- The subscribers whose handlers were called, in order. -/
def calls (notices : List Notice) : List Subscriber := notices.filterMap Notice.called?

/-- The subscribers whose outcomes come from their handlers. -/
def invokedOf (outcomes : List (Subscriber × Outcome)) : List Subscriber :=
  (outcomes.filter (·.2 ≠ .skipped)).map Prod.fst

/-- The subscribers that were passed over. -/
def skippedOf (outcomes : List (Subscriber × Outcome)) : List Subscriber :=
  (outcomes.filter (·.2 = .skipped)).map Prod.fst

/-- What is noticed in two parts of a run is noticed one after the other. -/
@[simp] theorem calls_append (earlier later : List Notice) :
    calls (earlier ++ later) = calls earlier ++ calls later :=
  List.filterMap_append

/-- Whoever has an outcome was invoked or passed over. -/
theorem map_fst_perm_invokedOf (outcomes : List (Subscriber × Outcome)) :
    (outcomes.map Prod.fst).Perm (invokedOf outcomes ++ skippedOf outcomes) := by
  have parts := (List.filter_append_perm (fun fate : Subscriber × Outcome =>
    decide (fate.2 ≠ .skipped)) outcomes).symm.map Prod.fst
  rw [List.map_append] at parts
  -- What does not fit the one condition fits the other.
  refine parts.trans (List.Perm.of_eq (congrArg (invokedOf outcomes ++ ·) ?_))
  exact congrArg (List.map Prod.fst) (List.filter_congr fun fate _ => by simp)

/-- Somebody was invoked exactly if it has an outcome that is not a skip. -/
theorem mem_invokedOf {outcomes : List (Subscriber × Outcome)} {subscriber : Subscriber} :
    subscriber ∈ invokedOf outcomes ↔
      ∃ outcome, (subscriber, outcome) ∈ outcomes ∧ outcome ≠ .skipped := by
  -- Those who are left once the skips are taken out were invoked.
  simp [invokedOf]

/-- Somebody was passed over exactly if its outcome is a skip. -/
theorem mem_skippedOf {outcomes : List (Subscriber × Outcome)} {subscriber : Subscriber} :
    subscriber ∈ skippedOf outcomes ↔ (subscriber, .skipped) ∈ outcomes := by
  -- The skips are what is filtered.
  simp [skippedOf]

namespace Flight

section Moves

variable {flight next : Flight} {move : Move} {more : List Notice}

/-- A late outcome is not a call. -/
@[simp] theorem calls_lateFailure (outcome : Outcome) : calls (lateFailure outcome) = [] := by
  -- A late outcome is at most a failure to be reported.
  match outcome with
  | .done none => rfl
  | .done (some failure) => rfl
  | .skipped => rfl

/-- A handler that is called runs from then on, until its outcome is there. -/
theorem running_advance (advance : flight.Advance move next more) (up : move ≠ .abandon) :
    (calls more ++ flight.running).Perm (next.running ++ invokedOf (flight.produced move)) := by
  -- Handlers begin to run and end in two kinds of moves only.
  cases advance with
  | @start _ subscriber _ picked =>
    simp only [calls, List.filterMap_cons, Notice.called?, List.filterMap_nil, produced, invokedOf,
      List.filter_nil, List.map_nil, List.append_nil]
    exact List.perm_append_comm
  | @finish _ cause subscriber rest picked =>
    obtain ⟨found, _, moved⟩ := perm_of_pick? picked
    have ended : subscriber.outcome cause ≠ .skipped := by simp [Subscriber.outcome]
    simp only [calls, List.filterMap_nil, List.nil_append, produced, found, Option.toList_some,
      List.map_cons, List.map_nil, invokedOf, List.filter_cons, ended, ne_eq, not_false_eq_true,
      decide_true, if_true, List.filter_nil]
    exact moved.trans (List.perm_append_singleton subscriber rest).symm
  | skip launched room queued cancelled =>
    simp [calls, produced, queued, cancelled, invokedOf]
  | submit launched room queued wanted => simp [calls, produced, wanted, invokedOf]
  | sendLate found departed => simp [produced, invokedOf]
  | abandon => exact absurd rfl up
  | _ => simp [calls, List.filterMap_cons, produced, invokedOf, Notice.called?, count]

/-- Whoever was called runs or has an outcome, and stays among these. -/
theorem calls_advance (advance : flight.Advance move next more) (up : move ≠ .abandon)
    (ledger : Ledger) :
    (calls more ++ (flight.running ++ invokedOf (ledger.outcomes flight))).Perm
      (next.running ++ invokedOf ((ledger.after flight move).outcomes next)) := by
  have ended : (invokedOf ((ledger.after flight move).outcomes next)).Perm
      (invokedOf (flight.produced move) ++ invokedOf (ledger.outcomes flight)) := by
    have moved := ((outcomes_advance advance up ledger).filter (·.2 ≠ .skipped)).map Prod.fst
    rwa [List.filter_append, List.map_append] at moved
  -- What is produced has left those who run.
  calc calls more ++ (flight.running ++ invokedOf (ledger.outcomes flight))
      |>.Perm (next.running ++ invokedOf (flight.produced move) ++
        invokedOf (ledger.outcomes flight)) := by
        rw [← List.append_assoc]
        exact (running_advance advance up).append_right _
    _ |>.Perm (next.running ++ invokedOf ((ledger.after flight move).outcomes next)) := by
        rw [List.append_assoc]
        exact ended.symm.append_left _

/-- The event and the slots of a flight are given once and for all. -/
theorem given_advance (advance : flight.Advance move next more) :
    next.event = flight.event ∧ next.slots = flight.slots := by
  -- No move touches either of them.
  cases advance <;> exact ⟨rfl, rfl⟩

/-- Nobody is submitted without a slot, and a slot is not given back before its outcome is sent. -/
theorem busy_advance (advance : flight.Advance move next more)
    (bounded : flight.busy ≤ flight.slots) : next.busy ≤ next.slots := by
  rw [(given_advance advance).2]
  -- The number in progress grows by submitting alone, for which there has to be room.
  cases advance with
  | skip _ room _ _ | submit _ room _ _ =>
    simp only [busy, List.length_append, List.length_singleton] at room ⊢
    omega
  | start picked | finish picked =>
    have moved := (perm_of_pick? picked).2.2.length_eq
    simp only [busy, moved, List.length_cons, List.length_append, List.length_nil] at bounded ⊢
    omega
  | send found _ | sendLate found _ =>
    have moved := (perm_eraseP_of_find? found).length_eq
    simp only [busy, moved, List.length_cons] at bounded ⊢
    omega
  | abandon => simp [busy, abandoned]
  | _ => exact bounded

end Moves

section Runs

variable {origin flight : Flight} {moves : List Move} {notices : List Notice}

/-- In every run, the event and the slots are those of the beginning. -/
theorem given_eq (ran : origin.replay? moves = some (flight, notices)) :
    flight.event = origin.event ∧ flight.slots = origin.slots := by
  -- Nothing that a move does changes them, so nothing in a run does.
  refine replay?_induction (motive := fun _ _ flight =>
    flight.event = origin.event ∧ flight.slots = origin.slots) ⟨rfl, rfl⟩ ?_ ran
  intro moves notices flight move next more _ before advance
  obtain ⟨event, slots⟩ := given_advance advance
  exact ⟨event.trans before.1, slots.trans before.2⟩

/-- In every run, no more invocations are in progress than there are slots. -/
theorem busy_le_slots (fresh : origin.Fresh)
    (ran : origin.replay? moves = some (flight, notices)) : flight.busy ≤ origin.slots := by
  -- A move that starts an invocation first looks for a free slot.
  refine (given_eq ran).2 ▸ replay?_induction (motive := fun _ _ flight =>
    flight.busy ≤ flight.slots) ?_ ?_ ran
  · simp [busy, fresh.submitted, fresh.running, fresh.ended]
  · intro moves notices flight move next more _ before advance
    exact busy_advance advance before

/-- In every run, those who were called run or have an outcome that is not a skip. -/
theorem calls_perm (fresh : origin.Fresh) (ran : origin.replay? moves = some (flight, notices))
    (up : .abandon ∉ moves) :
    (calls notices).Perm
      (flight.running ++ invokedOf ((origin.ledger {} moves).outcomes flight)) := by
  refine ledger_induction (motive := fun moves notices flight ledger => .abandon ∉ moves →
    (calls notices).Perm (flight.running ++ invokedOf (ledger.outcomes flight))) ?_ ?_ ran up
  · intro _
    simp [calls, invokedOf, Ledger.outcomes, fresh.running, fresh.ended, fresh.channel]
  · intro moves notices flight ledger move next more _ before advance up
    rw [List.mem_append, List.mem_singleton, not_or] at up
    -- The calls of the last move come in addition to those before it.
    rw [calls_append]
    exact (List.perm_append_comm.trans ((before up.1).append_left _)).trans
      (calls_advance advance (Ne.symm up.2) ledger)

/-- In every run, each subscriber waits for its call, was called once, or was passed over. -/
theorem called_perm (fresh : origin.Fresh) (ran : origin.replay? moves = some (flight, notices))
    (up : .abandon ∉ moves) :
    (flight.queued ++ flight.submitted ++ calls notices
      ++ skippedOf ((origin.ledger {} moves).outcomes flight)).Perm origin.queued := by
  have ended := map_fst_perm_invokedOf ((origin.ledger {} moves).outcomes flight)
  have called := calls_perm fresh ran up
  -- Those who were called are those who run and those who were invoked.
  calc flight.queued ++ flight.submitted ++ calls notices
        ++ skippedOf ((origin.ledger {} moves).outcomes flight)
      |>.Perm (flight.queued ++ flight.submitted ++ (flight.running ++
          invokedOf ((origin.ledger {} moves).outcomes flight)) ++
            skippedOf ((origin.ledger {} moves).outcomes flight)) :=
        (called.append_left _).append_right _
    _ |>.Perm (flight.unended ++ ((origin.ledger {} moves).outcomes flight).map Prod.fst) := by
        simp only [unended, List.append_assoc]
        exact ((((ended.symm.append_left _).append_left _).append_left _))
    _ |>.Perm origin.queued := everybody_perm fresh ran up

/-- Everybody who is called is called while the flight is served. -/
theorem Served.calls_eq {served : List Move} {between : Flight} {earlier : List Notice}
    (serving : Served origin flight moves notices served between earlier)
    (ran : origin.replay? moves = some (flight, notices)) : calls notices = calls earlier := by
  obtain ⟨later, rfl, final⟩ := serving.split ran
  -- The end of a flight is not a call.
  have silent : calls later = [] := List.filterMap_eq_nil_iff.mpr fun notice there => by
    have last := final notice there
    cases notice <;> simp_all [Notice.isFinal, Notice.called?]
  rw [calls_append, silent, List.append_nil]

/-- In every run, those who were called are distinct subscribers of the snapshot. -/
theorem calls_subperm (fresh : origin.Fresh)
    (ran : origin.replay? moves = some (flight, notices)) :
    (calls notices).Subperm origin.queued := by
  -- After the flight was abandoned nobody is called any more.
  obtain ⟨served, between, earlier, serving⟩ := exists_served fresh ran
  rw [serving.calls_eq ran]
  have everybody := called_perm fresh serving.ran serving.up
  refine List.Subperm.trans ?_ everybody.subperm
  exact ((List.sublist_append_right _ _).trans (List.sublist_append_left _ _)).subperm

/-- When the fan-out has ended, everybody was called or passed over. -/
theorem called_perm_of_ended (fresh : origin.Fresh)
    (ran : origin.replay? moves = some (flight, notices)) (up : .abandon ∉ moves)
    (ended : flight.fanOutEnded = true) :
    (calls notices ++ skippedOf ((origin.ledger {} moves).outcomes flight)).Perm
      origin.queued := by
  -- Nobody is queued, submitted or running any more.
  have everybody := called_perm fresh ran up
  obtain ⟨unended, _⟩ := unended_of_fanOutEnded ended
  obtain ⟨queued, submitted, _⟩ : flight.queued = [] ∧ flight.submitted = [] ∧
      flight.running = [] := by simpa [Flight.unended] using unended
  rwa [queued, submitted, List.nil_append, List.nil_append] at everybody

end Runs

end Flight

end EventBus
