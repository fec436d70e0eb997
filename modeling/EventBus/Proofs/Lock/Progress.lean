import EventBus.Proofs.Lock.Discipline

/-!
No thread waits for ever. Who waits for the lock does not hold it, and who holds it can go on alone
until it gives the lock up, whatever the other threads are about to do.
-/

namespace EventBus.Locked

/-- A move of a thread in which nothing is left open. -/
def Move.plain (thread : Nat) : Move := ⟨thread, .done none, ⟨id, fun _ => .refl _⟩⟩

namespace Machine

variable {machine : Machine} {index : Nat} {thread : Thread}

/-- A run goes on from where it has come to. -/
theorem run?_append {middle : Machine} {moves : List Move}
    (first : machine.run? moves = some middle) (more : List Move) :
    machine.run? (moves ++ more) = middle.run? more := by
  -- The induction is on the first moves.
  induction moves generalizing machine with
  | nil =>
    cases first
    rfl
  | cons move rest ih =>
    rw [List.cons_append, run?]
    unfold run? at first
    split at first
    · cases first
    · exact ih first

/-- An instruction that need not wait and lets no handler act is carried out. -/
theorem step?_proceed {move : Move} (found : machine.threads[move.thread]? = some thread)
    {instruction : Instruction} {next : instruction.Result → Procedure (Option Cause)}
    (upcoming : thread.code = .step instruction next)
    (free : machine.waits thread instruction = false) {result : instruction.Result} {after : View}
    (ran : instruction.run (machine.afar move.thread thread.outer) move.order
      (machine.view thread) = (result, after))
    (plain : machine.interrupt instruction = none) :
    machine.step? move = some (machine.put move.thread after (next result) thread.outer) := by
  -- Each question that the step asks has been answered.
  unfold step?
  rw [found]
  dsimp only
  rw [upcoming]
  dsimp only
  rw [free, ran, plain]
  rfl

/-- What a thread is about to do takes place unless it has to wait. -/
theorem isSome_step? {move : Move} (found : machine.threads[move.thread]? = some thread)
    {instruction : Instruction} {next : instruction.Result → Procedure (Option Cause)}
    (upcoming : thread.code = .step instruction next)
    (free : machine.waits thread instruction = false) : (machine.step? move).isSome = true := by
  -- Past the wait, the step is taken whether somebody acts or not.
  unfold step?
  rw [found]
  dsimp only
  rw [upcoming]
  dsimp only
  rw [free]
  cases machine.interrupt instruction <;> rfl

/-- Where nobody holds the lock, nobody has to wait for it. -/
theorem waits_eq_false (resting : ∀ another ∈ machine.threads, another.holding = none)
    (free : thread.holding = none) (instruction : Instruction) :
    machine.waits thread instruction = false := by
  -- Only taking the lock can make anybody wait.
  cases instruction with
  | lock mode =>
    have admits : machine.admits mode = true := by
      cases mode <;>
        exact List.all_eq_true.mpr fun another listed => by simp [resting another listed]
    simp [waits, free, admits]
  | _ => rfl

/-- No thread comes or goes. -/
theorem Step.length_eq {move : Move} {next : Machine} (stepped : machine.Step move next) :
    next.threads.length = machine.threads.length := by
  -- A step puts one thread in its own place.
  cases stepped <;> exact List.length_set

namespace Disciplined

/-- Who waits for the lock does not hold it. -/
theorem free_of_lock (disciplined : machine.Disciplined)
    (found : machine.threads[index]? = some thread) {mode : Mode}
    {next : Unit → Procedure (Option Cause)} (upcoming : thread.code = .step (.lock mode) next) :
    thread.holding = none := by
  -- A stage permits taking the lock only to who does not have it.
  obtain ⟨known, follows, stage⟩ := disciplined.stage found upcoming
  exact follows.holding.symm.trans stage.permits.1

/-- Who holds the lock goes on alone until it gives the lock up. -/
theorem unlocks (disciplined : machine.Disciplined)
    (found : machine.threads[index]? = some thread) (locked : thread.holding ≠ none) :
    ∃ moves later after, (∀ move ∈ moves, move.thread = index) ∧
      machine.run? moves = some later ∧ later.threads[index]? = some after ∧
      after.holding = none ∧
      ∀ other, other ≠ index → later.threads[other]? = machine.threads[other]? := by
  -- The induction is on what the thread has before it, which is never without the unlocking.
  obtain ⟨code, hand, holding, outer⟩ := thread
  induction code generalizing machine hand holding with
  | done cause =>
    obtain ⟨known, follows, stage⟩ := disciplined.running found
    exact absurd (follows.holding.symm.trans stage.free) locked
  | step instruction next ih =>
    obtain ⟨known, follows, stage⟩ := disciplined.running found
    have free :
        machine.waits ⟨.step instruction next, hand, holding, outer⟩ instruction = false := by
      cases instruction with
      | lock mode => exact absurd (disciplined.free_of_lock found rfl) locked
      | _ => rfl
    let move := Move.plain index
    let current : Thread := ⟨.step instruction next, hand, holding, outer⟩
    cases ran : instruction.run (machine.afar index outer) move.order (machine.view current) with
    | mk result after =>
    -- Under the lock nobody else can act, so the thread goes on with its own instruction.
    have plain : machine.interrupt instruction = none :=
      Option.eq_none_iff_forall_ne_some.mpr fun resume acts =>
        locked (interrupted stage.permits follows.tracks (owners_view found) ran acts).2.1
    have made : machine.step? move = some (machine.put index after (next result) outer) :=
      have here : machine.threads[move.thread]? = some current := found
      step?_proceed here rfl free ran plain
    have later := disciplined.step (step_of_step? made)
    have here := put_self found after (next result) outer
    -- Either this was the unlocking, or there is less before the thread than there was.
    by_cases unlocked : after.holding = none
    · refine ⟨[move], _, _, by simp [move, Move.plain], ?_, here, unlocked, fun other differs =>
        put_other differs after (next result) outer⟩
      rw [run?, made]
      rfl
    · obtain ⟨moves, last, thread, own, ran, there, free, others⟩ :=
        ih result later _ _ here unlocked
      refine ⟨move :: moves, last, thread, ?_, ?_, there, free, fun other differs =>
        (others other differs).trans (put_other differs after (next result) outer)⟩
      · intro made listed
        rcases List.mem_cons.mp listed with rfl | listed
        · rfl
        · exact own made listed
      · rw [run?, made]
        exact ran

/-- Whoever waits can be let in, though none but the others move until then. -/
theorem let_in (disciplined : machine.Disciplined)
    (found : machine.threads[index]? = some thread) (free : thread.holding = none) :
    ∃ moves later, (∀ move ∈ moves, move.thread ≠ index) ∧ machine.run? moves = some later ∧
      later.threads[index]? = some thread ∧ ∀ mode, later.waits thread (.lock mode) = false := by
  -- The threads give the lock up one after the other.
  have passed (count : Nat) : ∃ moves later, (∀ move ∈ moves, move.thread ≠ index) ∧
      machine.run? moves = some later ∧ later.threads[index]? = some thread ∧
      ∀ other another, other < count → later.threads[other]? = some another →
        another.holding = none := by
    induction count with
    | zero => exact ⟨[], machine, by simp, rfl, found, by simp⟩
    | succ count ih =>
      obtain ⟨moves, later, apart, ran, same, idle⟩ := ih
      by_cases locked : ∃ next, later.threads[count]? = some next ∧ next.holding ≠ none
      · obtain ⟨next, there, locked⟩ := locked
        -- The thread that waits is none of those, for it holds no lock.
        have differs : index ≠ count := by
          rintro rfl
          rw [same] at there
          exact locked (Option.some.inj there ▸ free)
        obtain ⟨more, last, after, own, went, here, unlocked, others⟩ :=
          (run?_induction Disciplined.step ran disciplined).unlocks there locked
        refine ⟨moves ++ more, last, ?_, (run?_append ran more).trans went,
          (others index differs).trans same, ?_⟩
        · intro move listed
          rcases List.mem_append.mp listed with listed | listed
          · exact apart move listed
          · exact own move listed ▸ Ne.symm differs
        · intro other another below reached
          by_cases same : other = count
          · subst same
            rw [here] at reached
            exact Option.some.inj reached ▸ unlocked
          · rw [others other same] at reached
            exact idle other another (by omega) reached
      · refine ⟨moves, later, apart, ran, same, fun other another below there => ?_⟩
        by_cases last : other = count
        · subst last
          by_contra held
          exact locked ⟨another, there, held⟩
        · exact idle other another (by omega) there
  -- Once all threads have been passed, none of them holds the lock.
  obtain ⟨moves, later, apart, ran, same, idle⟩ := passed (machine.threads.length)
  refine ⟨moves, later, apart, ran, same,
    fun mode => waits_eq_false (fun another listed => ?_) free _⟩
  have count : later.threads.length = machine.threads.length :=
    run?_induction (fun same stepped => stepped.length_eq.trans same) ran rfl
  obtain ⟨other, inside, rfl⟩ := List.getElem_of_mem listed
  exact idle other _ (count ▸ inside) (List.getElem?_eq_getElem inside)

end Disciplined

end Machine

end EventBus.Locked
