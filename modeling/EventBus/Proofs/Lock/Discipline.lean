import EventBus.Proofs.Lock.Machine

/-!
What a thread demands of its surroundings is met by the machine, so a machine whose threads are safe
stays one. References are only lost where one is given up, and the last one only without the lock.
-/

namespace EventBus.Locked

/-- What a thread knows of what it sees: its own hand, and the registry as long as it is locked. -/
structure View.Follows (known actual : View) : Prop where
  hand : known.hand = actual.hand
  holding : known.holding = actual.holding
  evolves : known.registry.Evolves actual.registry
  current : known.holding ≠ none → known.registry = actual.registry

/-- A view that is known, among some company, of what a thread sees. -/
def Company.Tracks (afar : Handler → Nat) : Company → View → View → Prop
  | .idle others, known, actual => others = afar ∧ known = actual
  | .active _, known, actual => known.Follows actual

variable {company : Company} {afar : Handler → Nat} {known actual : View}

/-- In a crowd, what a thread knows is tracked. -/
theorem View.Follows.tracks {sparing : Bool} (follows : known.Follows actual) :
    (Company.active sparing).Tracks afar known actual := follows

namespace Company.Tracks

/-- The hand is known. -/
theorem hand (tracks : company.Tracks afar known actual) : known.hand = actual.hand := by
  -- Alone, a thread sees what there is; in company it still knows what is its own.
  cases company with
  | idle others => exact congrArg View.hand tracks.2
  | active sparing => exact View.Follows.hand tracks

/-- Whether the thread holds the lock is known. -/
theorem holding (tracks : company.Tracks afar known actual) :
    known.holding = actual.holding := by
  -- Holding the lock is the thread's own business as well.
  cases company with
  | idle others => exact congrArg View.holding tracks.2
  | active sparing => exact View.Follows.holding tracks

/-- Under the lock the registry is known. -/
theorem registry (tracks : company.Tracks afar known actual) (locked : known.holding ≠ none) :
    known.registry = actual.registry := by
  -- Nobody changes the registry while the thread holds the lock.
  cases company with
  | idle others => exact congrArg View.registry tracks.2
  | active sparing => exact View.Follows.current tracks locked

/-- What there is may be counted. -/
theorem counts (tracks : company.Tracks afar known actual) (handler : Handler) :
    company.Counts known handler (actual.owners afar handler) := by
  cases company with
  | idle others =>
    obtain ⟨rfl, rfl⟩ := tracks
    rfl
  | active sparing =>
    -- There are at least the references in hand and, under the lock, those of the registry.
    simp only [Counts, View.owners, ← hand tracks]
    refine ⟨by omega, fun locked => ?_⟩
    rw [registry tracks locked]
    omega

/-- The registry that there is may be found. -/
theorem finds (tracks : company.Tracks afar known actual) (intact : actual.registry.Intact) :
    company.Finds known actual.registry := by
  -- In company anything that the registry has evolved to may be found.
  cases company with
  | idle others =>
    obtain ⟨rfl, rfl⟩ := tracks
    rfl
  | active sparing => exact ⟨intact, View.Follows.evolves tracks⟩

/-- What leaves the registry alone, and takes no lock, is tracked if it is known what it does. -/
theorem aside (tracks : company.Tracks afar known actual) {later after : View}
    (same : company.loud = false → known = actual → later = after)
    (hand : known.hand = actual.hand → later.hand = after.hand)
    (holding : known.holding = actual.holding → later.holding = after.holding)
    (unseen : later.registry = known.registry) (untouched : after.registry = actual.registry)
    (locked : later.holding ≠ none → known.holding ≠ none) :
    company.Tracks afar later after := by
  -- With others around, hand and lock are the thread's own, and the registry evolves without it.
  cases company with
  | idle others => exact ⟨tracks.1, same rfl tracks.2⟩
  | active sparing =>
    have follows : known.Follows actual := tracks
    refine ⟨hand follows.hand, holding follows.holding, ?_, fun kept => ?_⟩
    · rw [unseen, untouched]
      exact follows.evolves
    · rw [unseen, untouched]
      exact follows.current (locked kept)

/-- A thread that is let in knows the registry. -/
theorem locked (tracks : company.Tracks afar known actual) (mode : Mode) :
    company.Tracks afar { known with registry := actual.registry, holding := some mode }
      { actual with holding := some mode } := by
  have same := hand tracks
  cases company with
  | idle others =>
    obtain ⟨rfl, rfl⟩ := tracks
    exact ⟨rfl, rfl⟩
  | active sparing =>
    -- Whatever the others did before, they do nothing to the registry from now on.
    exact ⟨same, rfl, .refl, fun _ => rfl⟩

/-- A thread that leaves knows that it does not hold the lock. -/
theorem unlocked (tracks : company.Tracks afar known actual) :
    company.Tracks afar { known with holding := none } { actual with holding := none } := by
  -- What is known of the registry no longer has to be up to date.
  refine tracks.aside (fun _ same => ?_) id (fun _ => rfl) rfl rfl (absurd rfl)
  rw [same]

/-- Under the lock a change of the registry is tracked, with the references that it moves. -/
theorem store (tracks : company.Tracks afar known actual) (held : known.holding ≠ none)
    (later : Registry) : company.Tracks afar (known.store later) (actual.store later) := by
  -- The references that the registry gave or took are known, since it was known itself.
  have same := registry tracks held
  have kept := holding tracks
  cases company with
  | idle others =>
    obtain ⟨rfl, rfl⟩ := tracks
    exact ⟨rfl, rfl⟩
  | active sparing =>
    refine ⟨?_, kept, .refl, fun _ => rfl⟩
    simp only [View.store, hand tracks, same]

/-- A reference that is gained is tracked. -/
theorem gain (tracks : company.Tracks afar known actual) (handlers : List Handler) :
    company.Tracks afar (known.gain handlers) (actual.gain handlers) := by
  -- Only the hand changes, and it changes by the same number.
  refine tracks.aside (fun _ same => by rw [same]) (fun same => ?_) id rfl rfl id
  simp only [View.gain, same]

/-- A reference that is given up is tracked. -/
theorem lose (tracks : company.Tracks afar known actual) (handlers : List Handler) :
    company.Tracks afar (known.lose handlers) (actual.lose handlers) := by
  -- Only the hand changes, and it changes by the same number.
  refine tracks.aside (fun _ same => by rw [same]) (fun same => ?_) id rfl rfl id
  simp only [View.lose, same]

/-- A handler that comes into being is tracked with its first reference. -/
theorem create (tracks : company.Tracks afar known actual) (handler : Handler) :
    company.Tracks afar { known.gain [handler] with born := handler :: known.born }
      { actual.gain [handler] with born := handler :: actual.born } := by
  -- In a crowd nobody keeps track of who was there before.
  refine (tracks.gain [handler]).aside (fun still same => ?_) id id rfl rfl id
  cases company with
  | idle others =>
    obtain ⟨rfl, rfl⟩ := tracks
    rfl
  | active sparing => cases still

/-- In a crowd, what a thread does to the references that lie about need not be tracked. -/
theorem elsewhere (tracks : company.Tracks afar known actual) (loud : company.loud = true)
    (count : Handler → Nat) : company.Tracks afar known { actual with elsewhere := count } := by
  -- Among others at rest nothing may be left to them or taken from them.
  refine tracks.aside (fun still _ => ?_) id id rfl rfl id
  exact absurd (loud.symm.trans still) (by decide)

/-- What is written to the log is tracked. -/
theorem log (tracks : company.Tracks afar known actual) (record : LogRecord) :
    company.Tracks afar { known with records := known.records ++ [record] }
      { actual with records := actual.records ++ [record] } := by
  -- The log tells nothing of references or of the lock.
  refine tracks.aside (fun _ same => ?_) id id rfl rfl id
  rw [same]

/-- What happens or does not happen is tracked if it is known which of the two. -/
theorem ite {happens : Prop} [Decidable happens] {later after : View}
    (changed : company.Tracks afar later after) (same : company.Tracks afar known actual) :
    company.Tracks afar (if happens then later else known)
      (if happens then after else actual) := by
  -- The two sides go the same way.
  split
  · exact changed
  · exact same

/-- Whether a handler has been there before may turn out as it is. -/
theorem fresh (tracks : company.Tracks afar known actual) (handler : Handler) :
    company.Fresh known handler (!actual.born.contains handler) := by
  -- In company nothing is known of who has been there.
  cases company with
  | idle others =>
    obtain ⟨rfl, rfl⟩ := tracks
    rfl
  | active sparing => trivial

/-- Whether a task can be taken on may turn out as it is. -/
theorem allows (tracks : company.Tracks afar known actual) (task : Task) :
    company.Allows known task (task.allowed actual.hand actual.born) := by
  -- In company the task is judged by the hand alone, for others may bring handlers into being.
  cases company with
  | idle others =>
    obtain ⟨rfl, rfl⟩ := tracks
    rfl
  | active sparing => exact ⟨actual.born, by rw [hand tracks]⟩

end Company.Tracks

/-- An instruction that is permitted leads to where its thread may go on. -/
theorem Instruction.Permits.run {instruction : Instruction}
    {next : instruction.Result → View → Prop} (permits : instruction.Permits company known next)
    (tracks : company.Tracks afar known actual) (intact : actual.registry.Intact)
    (order : Shuffle) {result : instruction.Result} {after : View}
    (ran : instruction.run afar order actual = (result, after)) :
    ∃ later, next result later ∧ company.Tracks afar later after := by
  -- The result is one of those that the demand foresees, and what is known changes with the view.
  cases instruction with
  | lock mode =>
    cases ran
    exact ⟨_, permits.2 actual.registry (tracks.finds intact), tracks.locked mode⟩
  | unlock =>
    cases ran
    exact ⟨_, permits.2, tracks.unlocked⟩
  | look =>
    -- Only under the lock is what is known of the registry what there is to be read.
    cases ran
    have same := tracks.registry permits.1
    exact ⟨known, same ▸ permits.2, tracks⟩
  | store later =>
    cases ran
    have held : known.holding ≠ none := by
      rw [permits.1]
      exact Option.some_ne_none _
    exact ⟨_, permits.2.2.2, tracks.store held later⟩
  | count handler =>
    cases ran
    exact ⟨known, permits _ (tracks.counts handler), tracks⟩
  | take handler =>
    cases ran
    exact ⟨_, permits _ (tracks.counts handler), (tracks.gain [handler]).ite tracks⟩
  | release handler =>
    cases ran
    exact ⟨_, permits.2.2, tracks.lose [handler]⟩
  | create handler =>
    cases ran
    exact ⟨_, permits _ (tracks.fresh handler), (tracks.create handler).ite tracks⟩
  | stash handler =>
    cases ran
    exact ⟨_, permits.2.2, (tracks.lose [handler]).elsewhere permits.1 _⟩
  | fetch handler =>
    cases ran
    exact ⟨_, permits.2 _, ((tracks.gain [handler]).elsewhere permits.1 _).ite tracks⟩
  | may task =>
    cases ran
    exact ⟨known, permits.2 _ (tracks.allows task), tracks⟩
  | arrange handlers =>
    cases ran
    exact ⟨known, permits _ (order.perm handlers), tracks⟩
  | log record =>
    cases ran
    exact ⟨_, permits, tracks.log record⟩
  | call handler event =>
    -- The handler is run apart; here the call has ended without an error.
    cases ran
    exact ⟨known, permits.2.2.2 none, tracks⟩

/-- With more references in hand there are no fewer of them. -/
theorem View.owners_le_gain (view : View) (afar : Handler → Nat) (handlers : List Handler)
    (handler : Handler) : view.owners afar handler ≤ (view.gain handlers).owners afar handler := by
  -- What is counted of others and of the registry stays the same.
  simp only [owners, gain]
  omega

/-- How many references an instruction gives up. -/
def Instruction.gives : Instruction → Handler → Nat
  | .release handler, other => [handler].count other
  | _, _ => 0

/-- What gives up a reference is its release, and that gives up a single one. -/
theorem Instruction.eq_release_of_gives {instruction : Instruction} {handler : Handler}
    (gives : 0 < instruction.gives handler) :
    instruction = .release handler ∧ instruction.gives handler = 1 := by
  -- All other instructions give nothing up.
  cases instruction with
  | release released =>
    obtain rfl : released = handler := by
      have listed := List.count_pos_iff.mp gives
      exact (List.mem_singleton.mp listed).symm
    exact ⟨rfl, by simp [Instruction.gives]⟩
  | _ => cases gives

/-- No reference is lost but where one is given up. -/
theorem Instruction.Permits.owners {instruction : Instruction}
    {next : instruction.Result → View → Prop} (permits : instruction.Permits company known next)
    (tracks : company.Tracks afar known actual) (order : Shuffle) {result : instruction.Result}
    {after : View} (ran : instruction.run afar order actual = (result, after)) (handler : Handler) :
    actual.owners afar handler ≤ after.owners afar handler + instruction.gives handler := by
  -- Instructions that touch references either add one, move one or give one up.
  cases instruction with
  | store later =>
    cases ran
    have covered := permits.2.2.1 handler
    rw [tracks.hand, tracks.registry (by rw [permits.1]; exact Option.some_ne_none _)] at covered
    simp only [View.owners, View.store]
    omega
  | take taken =>
    cases ran
    show _ ≤ View.owners (if _ then _ else _) afar handler + 0
    split
    · exact actual.owners_le_gain afar [taken] handler
    · exact Nat.le_refl _
  | release released =>
    cases ran
    simp only [View.owners, View.lose, gives]
    omega
  | create created =>
    cases ran
    show _ ≤ View.owners (if _ then _ else _) afar handler + 0
    split
    · exact actual.owners_le_gain afar [created] handler
    · exact Nat.le_refl _
  | stash stashed =>
    cases ran
    simp only [View.owners, View.lose]
    omega
  | fetch fetched =>
    cases ran
    show _ ≤ View.owners (if _ then _ else _) afar handler + 0
    split
    · simp only [View.owners, View.gain]
      omega
    · exact Nat.le_refl _
  | _ =>
    cases ran
    exact Nat.le_refl _

/-- The registry is only changed by a writer, and only as a section changes it. -/
theorem Instruction.Permits.registry {instruction : Instruction}
    {next : instruction.Result → View → Prop} (permits : instruction.Permits company known next)
    (tracks : company.Tracks afar known actual) (order : Shuffle) {result : instruction.Result}
    {after : View} (ran : instruction.run afar order actual = (result, after)) :
    after.registry = actual.registry ∨
      (actual.holding = some .exclusive ∧ actual.registry.Evolves after.registry) := by
  -- Only storing writes to the registry, and it asks for the lock of a writer.
  cases instruction with
  | store later =>
    cases ran
    have held : known.holding = some .exclusive := permits.1
    have same := tracks.registry (by rw [held]; exact Option.some_ne_none _)
    refine .inr ⟨tracks.holding.symm.trans held, .single ?_⟩
    rw [← same]
    exact permits.2.1
  | take handler => cases ran; exact .inl (apply_ite View.registry _ _ _ |>.trans (ite_self _))
  | create handler => cases ran; exact .inl (apply_ite View.registry _ _ _ |>.trans (ite_self _))
  | fetch handler => cases ran; exact .inl (apply_ite View.registry _ _ _ |>.trans (ite_self _))
  | _ => cases ran; exact .inl rfl

/-- How a thread holds the lock after an instruction. -/
def Instruction.holding (held : Option Mode) : Instruction → Option Mode
  | .lock mode => some mode
  | .unlock => none
  | _ => held

/-- A thread holds the lock as its instructions make it. -/
theorem Instruction.run_holding {instruction : Instruction} {order : Shuffle}
    {result : instruction.Result} {after : View}
    (ran : instruction.run afar order actual = (result, after)) :
    after.holding = instruction.holding actual.holding := by
  -- Three instructions depend on an answer, and hold the lock in either case.
  cases instruction with
  | take handler => cases ran; exact (apply_ite View.holding _ _ _).trans (ite_self _)
  | create handler => cases ran; exact (apply_ite View.holding _ _ _).trans (ite_self _)
  | fetch handler => cases ran; exact (apply_ite View.holding _ _ _).trans (ite_self _)
  | _ => cases ran; rfl

/-- A thread that goes back to a frame can go on from there, whatever the handler has done. -/
def Frame.Sound (registry : Registry) (frame : Frame) : Prop :=
  ∃ known : View, known.holding = none ∧ known.hand = frame.hand ∧
    known.registry.Evolves registry ∧ ∀ cause, Stage known (frame.next cause)

/-- A frame remains one to go back to as the registry evolves. -/
theorem Frame.Sound.evolves {frame : Frame} {earlier later : Registry} (sound : frame.Sound earlier)
    (evolves : earlier.Evolves later) : frame.Sound later := by
  -- The frame knew a registry that the present one has evolved from.
  obtain ⟨known, free, hand, before, goesOn⟩ := sound
  exact ⟨known, free, hand, before.trans evolves, goesOn⟩

/-- What holds of a machine whose threads keep to the rules of the lock. -/
structure Machine.Disciplined (machine : Machine) : Prop where
  intact : machine.registry.Intact
  /-- A writer is alone with the lock. -/
  alone : ∀ {index other : Nat} {writer thread : Thread}, other ≠ index →
    machine.threads[index]? = some writer → machine.threads[other]? = some thread →
    writer.holding = some .exclusive → thread.holding = none
  /-- Every thread may carry out what it has before it. -/
  running : ∀ {index : Nat} {thread : Thread}, machine.threads[index]? = some thread →
    ∃ known : View, known.Follows (machine.view thread) ∧ Stage known thread.code
  /-- Every thread may go back to what it has put off. -/
  waiting : ∀ {index : Nat} {thread : Thread}, machine.threads[index]? = some thread →
    ∀ frame ∈ thread.outer, frame.Sound machine.registry

namespace Machine

variable {machine : Machine} {index : Nat} {thread : Thread}

/-- A thread has come as far as what it is about to do. -/
theorem Disciplined.stage {code : Procedure (Option Cause)} (disciplined : machine.Disciplined)
    (found : machine.threads[index]? = some thread) (upcoming : thread.code = code) :
    ∃ known : View, known.Follows (machine.view thread) ∧ Stage known code :=
  upcoming ▸ disciplined.running found

/-- The references of a thread and of all others. -/
theorem holds_add_others (found : machine.threads[index]? = some thread) (handler : Handler) :
    thread.holds handler + ((machine.threads.eraseIdx index).map (·.holds handler)).sum =
      (machine.threads.map (·.holds handler)).sum := by
  -- Taking the thread out of the list leaves the references of the others.
  obtain ⟨inside, rfl⟩ := List.getElem?_eq_some_iff.mp found
  exact ((List.getElem_cons_eraseIdx_perm inside).map (·.holds handler)).sum_nat

/-- A thread counts all the references that there are. -/
theorem owners_view (found : machine.threads[index]? = some thread) :
    (machine.view thread).owners (machine.afar index thread.outer) = machine.owners := by
  -- The hand of the thread is counted first, then those of the others.
  funext handler
  rw [Machine.owners, ← holds_add_others found handler]
  simp only [View.owners, view, afar, Thread.holds]
  omega

/-- All the references that there are once a thread has come to see something. -/
theorem owners_put (found : machine.threads[index]? = some thread) (view : View)
    (code : Procedure (Option Cause)) (outer : List Frame) :
    (machine.put index view code outer).owners = view.owners (machine.afar index outer) := by
  funext handler
  -- The thread stands at its index again, and the others have not moved.
  let next := machine.put index view code outer
  have here : next.threads[index]? = some ⟨code, view.hand, view.holding, outer⟩ :=
    List.getElem?_set_self (List.getElem?_eq_some_iff.mp found).1
  have others : next.threads.eraseIdx index = machine.threads.eraseIdx index :=
    List.eraseIdx_set_eq
  show next.owners handler = _
  rw [Machine.owners, ← holds_add_others here handler, others]
  simp only [View.owners, afar, Thread.holds, next, put]
  omega

/-- A thread that goes on is where it has been put. -/
theorem put_self (found : machine.threads[index]? = some thread) (view : View)
    (code : Procedure (Option Cause)) (outer : List Frame) :
    (machine.put index view code outer).threads[index]? =
      some ⟨code, view.hand, view.holding, outer⟩ :=
  List.getElem?_set_self (List.getElem?_eq_some_iff.mp found).1

/-- All other threads stay as they are. -/
theorem put_other {other : Nat} (differs : other ≠ index) (view : View)
    (code : Procedure (Option Cause)) (outer : List Frame) :
    (machine.put index view code outer).threads[other]? = machine.threads[other]? :=
  List.getElem?_set_ne (Ne.symm differs)

/-- A machine remains disciplined where one of its threads goes on as it may. -/
theorem Disciplined.put (disciplined : machine.Disciplined)
    (found : machine.threads[index]? = some thread) {view known : View}
    {code : Procedure (Option Cause)} {outer : List Frame}
    (changed : view.registry = machine.registry ∨
      (thread.holding = some .exclusive ∧ machine.registry.Evolves view.registry))
    (lone : ∀ {other : Nat} {another : Thread}, other ≠ index →
      machine.threads[other]? = some another →
      (view.holding = some .exclusive → another.holding = none) ∧
        (another.holding = some .exclusive → view.holding = none))
    (follows : known.Follows view) (stage : Stage known code)
    (waiting : ∀ frame ∈ outer, frame.Sound view.registry) :
    (machine.put index view code outer).Disciplined := by
  -- What the thread does to the registry is nothing or a section.
  have evolves : machine.registry.Evolves view.registry := by
    rcases changed with same | ⟨_, evolves⟩
    · rw [same]
    · exact evolves
  -- Every thread of the machine is the one that goes on, or is as it was.
  have threads {other : Nat} {another : Thread}
      (there : (machine.put index view code outer).threads[other]? = some another) :
      (other = index ∧ another = ⟨code, view.hand, view.holding, outer⟩) ∨
        (other ≠ index ∧ machine.threads[other]? = some another) := by
    by_cases same : other = index
    · subst same
      rw [put_self found] at there
      exact .inl ⟨rfl, (Option.some.inj there).symm⟩
    · rw [put_other same] at there
      exact .inr ⟨same, there⟩
  refine ⟨Registry.kept_handlersApart.evolves evolves disciplined.intact, ?_, ?_, ?_⟩
  · -- Two threads of which one writes: the one that goes on is one of them, or neither is.
    intro first second writer another differs here there writes
    rcases threads here with ⟨rfl, rfl⟩ | ⟨apart, before⟩ <;>
      rcases threads there with ⟨rfl, rfl⟩ | ⟨apart', before'⟩
    · exact absurd rfl differs
    · exact (lone apart' before').1 writes
    · exact (lone apart before).2 writes
    · exact disciplined.alone differs before before' writes
  · intro other another there
    rcases threads there with ⟨rfl, rfl⟩ | ⟨apart, there⟩
    · exact ⟨known, ⟨follows.hand, follows.holding, follows.evolves, follows.current⟩, stage⟩
    · obtain ⟨known, follows, stage⟩ := disciplined.running there
      refine ⟨known, ⟨follows.hand, follows.holding, follows.evolves.trans evolves, fun held => ?_⟩,
        stage⟩
      rcases changed with same | ⟨writes, _⟩
      · exact (follows.current held).trans same.symm
      · -- While the registry is changed, nobody else holds the lock.
        have idle := disciplined.alone apart found there writes
        exact absurd (follows.holding.trans idle) held
  · -- The frames of all threads wait for a registry that this one has evolved to.
    intro other another there frame listed
    rcases threads there with ⟨rfl, rfl⟩ | ⟨apart, there⟩
    · exact waiting frame listed
    · exact (disciplined.waiting there frame listed).evolves evolves

/--
A handler acts only in a thread that does not hold the lock.

A last reference under the lock would not be the only one in hand, as the rules of the lock demand.
-/
theorem interrupted {instruction : Instruction} {next : instruction.Result → View → Prop}
    {company : Company} {known actual : View} {afar : Handler → Nat}
    (permits : instruction.Permits company known next) (tracks : company.Tracks afar known actual)
    (counted : actual.owners afar = machine.owners) {order : Shuffle}
    {result : instruction.Result} {after : View}
    (ran : instruction.run afar order actual = (result, after))
    {resume : Option Cause → instruction.Result}
    (acts : machine.interrupt instruction = some resume) :
    company.loud = true ∧ actual.holding = none ∧ after = { actual with hand := after.hand } ∧
      ∃ later : View, later.holding = none ∧ later.hand = after.hand ∧
        later.registry = known.registry ∧ ∀ cause, next (resume cause) later := by
  -- Only a last release and a call let others act, and neither happens under the lock.
  cases instruction with
  | release handler =>
    cases ran
    simp only [interrupt] at acts
    split at acts
    · rename_i last
      obtain rfl := Option.some.inj acts
      obtain ⟨held, spare, goesOn⟩ := permits
      have hand : known.hand handler ≤ machine.owners handler := by
        rw [← counted, tracks.hand]
        simp only [View.owners]
        omega
      have unwatched : ¬ (known.holding ≠ none ∨ company.sparing = true) := fun watched => by
        have spare := spare watched
        omega
      have free : known.holding = none := by
        by_contra locked
        exact unwatched (.inl locked)
      refine ⟨?_, tracks.holding.symm.trans free, rfl, known.lose [handler], free, ?_, rfl,
        fun _ => goesOn⟩
      · cases company with
        | idle afar => exact absurd (.inr rfl) unwatched
        | active sparing => rfl
      · simp only [View.lose, tracks.hand]
    · cases acts
  | call handler event =>
    cases ran
    obtain rfl := Option.some.inj acts
    exact ⟨permits.1, tracks.holding.symm.trans permits.2.1, rfl, known, permits.2.1, tracks.hand,
      rfl, permits.2.2.2⟩
  | _ => cases acts

/-- The lock is given to a writer where nobody else has it, and to nobody while a writer has it. -/
theorem admitted {mode : Mode} (admits : machine.admits mode = true) {other : Nat}
    {another : Thread} (there : machine.threads[other]? = some another) :
    (mode = .exclusive → another.holding = none) ∧ another.holding ≠ some .exclusive := by
  have listed : another ∈ machine.threads := List.mem_of_getElem? there
  -- Admission looks at all threads there are.
  cases mode with
  | shared =>
    have allowed := List.all_eq_true.mp admits another listed
    exact ⟨nofun, by simpa using allowed⟩
  | exclusive =>
    have allowed := List.all_eq_true.mp admits another listed
    have free : another.holding = none := by simpa using allowed
    exact ⟨fun _ => free, by simp [free]⟩

/-- However a thread holds the lock after an instruction, nobody else is disturbed. -/
theorem Disciplined.lone (disciplined : machine.Disciplined)
    (found : machine.threads[index]? = some thread) {instruction : Instruction}
    (free : machine.waits thread instruction = false) {other : Nat} {another : Thread}
    (differs : other ≠ index) (there : machine.threads[other]? = some another) :
    (instruction.holding thread.holding = some .exclusive → another.holding = none) ∧
      (another.holding = some .exclusive → instruction.holding thread.holding = none) := by
  have kept : (thread.holding = some .exclusive → another.holding = none) ∧
      (another.holding = some .exclusive → thread.holding = none) :=
    ⟨disciplined.alone differs found there, disciplined.alone (Ne.symm differs) there found⟩
  -- Only taking and giving up the lock changes how it is held.
  cases instruction with
  | lock mode =>
    have admits : machine.admits mode = true := by
      simp only [waits, Bool.or_eq_false_iff, Bool.not_eq_false'] at free
      exact free.2
    obtain ⟨single, unwritten⟩ := admitted admits there
    exact ⟨fun writes => single (Option.some.inj writes), fun writes => absurd writes unwritten⟩
  | unlock => exact ⟨nofun, fun _ => rfl⟩
  | _ => exact kept

/-- A machine remains disciplined, whatever is done next. -/
theorem Disciplined.step {move : Move} {next : Machine} (disciplined : machine.Disciplined)
    (stepped : machine.Step move next) : next.Disciplined := by
  cases stepped with
  | @goBack thread cause frame outer found done behind =>
    obtain ⟨known, follows, stage⟩ := disciplined.stage found done
    have waiting := disciplined.waiting found
    have free : thread.holding = none := follows.holding.symm.trans stage.free
    -- The frame was put off without the lock, and the handler ends without it.
    obtain ⟨back, idle, hand, evolves, goesOn⟩ :=
      waiting frame (behind ▸ List.mem_cons_self)
    refine disciplined.put found (.inl rfl) (fun _ _ => ⟨?_, fun _ => free⟩)
      ⟨hand, idle.trans free.symm, evolves, absurd idle⟩ (goesOn cause)
      fun frame listed => waiting frame (behind ▸ List.mem_cons_of_mem _ listed)
    intro writes
    exact absurd (free.symm.trans writes) nofun
  | @proceed thread instruction rest result after found upcoming free ran plain =>
    obtain ⟨known, follows, stage⟩ := disciplined.stage found upcoming
    obtain ⟨later, goesOn, reached⟩ := stage.permits.run follows.tracks disciplined.intact
      move.order ran
    have changed := stage.permits.registry follows.tracks move.order ran
    have held := Instruction.run_holding ran
    -- All other threads go on from a registry that has evolved.
    have evolves : machine.registry.Evolves after.registry := by
      rcases changed with same | ⟨_, evolves⟩
      · rw [same]
        exact .refl
      · exact evolves
    refine disciplined.put found changed (fun differs there => ?_) reached goesOn
      fun frame listed => (disciplined.waiting found frame listed).evolves evolves
    rw [held]
    exact disciplined.lone found free differs there
  | @act thread instruction rest result after resume found upcoming ran acts =>
    obtain ⟨known, follows, stage⟩ := disciplined.stage found upcoming
    obtain ⟨_, free, same, later, idle, hand, registry, goesOn⟩ :=
      interrupted stage.permits follows.tracks (owners_view found) ran acts
    have unchanged : after.registry = machine.registry := congrArg View.registry same
    have unlocked : after.holding = none := (congrArg View.holding same).trans free
    -- The handler has nothing in hand and sees the registry as it is.
    let begun : View := { after with hand := fun _ => 0 }
    have intact : begun.registry.Intact := unchanged ▸ disciplined.intact
    refine disciplined.put found (.inl unchanged) (fun _ _ => ⟨?_, fun _ => unlocked⟩)
      ⟨rfl, rfl, .refl, fun _ => rfl⟩ (.between move.script rfl intact unlocked)
      fun frame listed => ?_
    · intro writes
      exact absurd (unlocked.symm.trans writes) nofun
    · rcases List.mem_cons.mp listed with rfl | listed
      · refine ⟨later, idle, hand, ?_, goesOn⟩
        rw [registry]
        exact unchanged ▸ follows.evolves
      · exact (disciplined.waiting found frame listed).evolves (unchanged ▸ .refl)

/-- A machine that is about to start is disciplined. -/
theorem disciplined_start (id : Nat) (clients : List Client) :
    (start id clients).Disciplined := by
  -- At the start the registry is new and all threads are between tasks, holding nothing.
  have intact : (Registry.new id).Intact :=
    ⟨Registry.wellFormed_new id, Registry.handlersApart_new id⟩
  have threads {index : Nat} {thread : Thread}
      (found : (start id clients).threads[index]? = some thread) :
      ∃ client : Client, thread = ⟨client.procedure, fun _ => 0, none, []⟩ := by
    obtain ⟨client, _, rfl⟩ := List.mem_map.mp (List.mem_of_getElem? found)
    exact ⟨client, rfl⟩
  refine ⟨intact, fun _ _ there _ => ?_, fun {_ thread} found => ?_, fun found frame listed => ?_⟩
  · obtain ⟨client, rfl⟩ := threads there
    rfl
  · obtain ⟨client, rfl⟩ := threads found
    exact ⟨(start id clients).view _, ⟨rfl, rfl, .refl, fun _ => rfl⟩,
      .between client rfl intact rfl⟩
  · obtain ⟨client, rfl⟩ := threads found
    cases listed

/-- Whatever keeps every step keeps a run. -/
theorem run?_induction {property : Machine → Prop}
    (step : ∀ {machine next : Machine} {move : Move}, property machine → machine.Step move next →
      property next)
    {machine last : Machine} {moves : List Move} (ran : machine.run? moves = some last)
    (held : property machine) : property last := by
  -- The induction is on the moves, from the first machine on.
  induction moves generalizing machine with
  | nil =>
    cases ran
    exact held
  | cons move rest ih =>
    unfold run? at ran
    split at ran
    · cases ran
    · rename_i next stepped
      exact ih ran (step held (step_of_step? stepped))

/-- Every machine that can come about is disciplined. -/
theorem Reachable.disciplined (reachable : machine.Reachable) : machine.Disciplined := by
  -- What is true at the start is kept by every move.
  obtain ⟨id, clients, moves, ran⟩ := reachable
  exact run?_induction Disciplined.step ran (disciplined_start id clients)

end Machine

end EventBus.Locked
