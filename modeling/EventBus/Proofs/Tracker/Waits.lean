import EventBus.Proofs.Tracker.History
import Mathlib.Data.List.Nodup

/-!
A wait ends with the first event of its type that is sent after it began, whatever else is sent
before, as long as its inbox has room for everything that it has not looked at.
-/

namespace EventBus.Watch

section Passing

variable {happening : Happening} {past : List Happening} {id : Nat} {type : EventType}

/-- What a wait has looked at of what has been sent to it are events of other types. -/
def PassesOver (id : Nat) (type : EventType) (history : List Happening) : Prop :=
  ∃ passed, arrivals id history = passed ++ unseen id history ∧
    ∀ arrival ∈ passed, arrival.event.type ≠ type

/-- A wait that begins has passed over nothing. -/
theorem PassesOver.began : PassesOver id type (.began id :: past) :=
  ⟨[], by simp [arrivals, sent, unseen], by simp⟩

/-- A wait passes over what it looks at, and over nothing else. -/
theorem PassesOver.cons (passes : PassesOver id type past) (notBegun : happening ≠ .began id)
    (looks : happening = .looked id → ∀ arrival ∈ unseen id past, arrival.event.type ≠ type) :
    PassesOver id type (happening :: past) := by
  obtain ⟨passed, arrived, others⟩ := passes
  have arrived : arrivals id (happening :: past) =
      passed ++ (unseen id past ++ sent [happening]) := by
    rw [← List.singleton_append, arrivals_append (by simpa using notBegun.symm), arrived,
      List.append_assoc]
  -- What it looks at joins what it has passed over, and anything else leaves that as it was.
  by_cases looked : happening = .looked id
  · subst looked
    refine ⟨passed ++ unseen id past, by simp [arrived, sent, unseen], fun arrival there => ?_⟩
    rcases List.mem_append.mp there with before | now
    · exact others arrival before
    · exact looks rfl arrival now
  · refine ⟨passed, ?_, others⟩
    rw [arrived]
    cases happening with
    | began other =>
      have differs : other ≠ id := fun same => notBegun (congrArg _ same)
      simp [sent, unseen, differs]
    | looked other =>
      have differs : other ≠ id := fun same => looked (congrArg _ same)
      simp [sent, unseen, differs]
    | _ => simp [sent, unseen]

/-- The first event of its type is among those that a wait has not looked at. -/
theorem PassesOver.firstMatch_eq (passes : PassesOver id type past) :
    firstMatch id type past = (unseen id past).find? (·.event.type == type) := by
  -- Nothing of the type is among the arrivals that it has passed over.
  obtain ⟨passed, arrived, others⟩ := passes
  have nothing : passed.find? (·.event.type == type) = none :=
    List.find?_eq_none.mpr fun arrival there => by simpa using others arrival there
  rw [firstMatch, arrived, List.find?_append, nothing, Option.none_or]

end Passing

variable {maxLen : Nat} {source : Option String} {watch : Watch} {id : Nat} {wait : Wait}

/-- As long as there is room, the inbox of a wait has all that the wait has not looked at. -/
theorem Sound.waiter_of_isOpen (sound : watch.Sound) (opened : isOpen id watch.history = true)
    (begun : watch.waits[id]? = some wait)
    (keepsUp : KeepsUp watch.tracker.capacity id watch.history) :
    ∃ waiter, watch.tracker.waiters.find? (·.id == id) = some waiter ∧
      waiter.type = wait.type ∧ waiter.inbox = (unseen id watch.history).map Arrival.event := by
  obtain ⟨waiter, there, rfl, present⟩ := sound.find?_of_isOpen opened
  obtain ⟨typed, inbox⟩ := sound.inbox waiter there
  rw [begun, Option.map_some, Option.some_inj] at typed
  -- The inbox has lost nothing, since there was room for all of it.
  have room : ((unseen waiter.id watch.history).map Arrival.event).length ≤
      watch.tracker.capacity := by
    rw [List.length_map]
    exact keepsUp _ ((List.mem_tails _ _).mpr List.suffix_rfl) opened
  exact ⟨waiter, present, typed.symm, by rw [inbox, rtake_of_length_le room]⟩

/-- A wait that keeps up never passes over an event of its type. -/
theorem passesOver (used : (start maxLen source).Leads watch)
    (begun : watch.waits[id]? = some wait)
    (keepsUp : KeepsUp watch.tracker.capacity id watch.history) :
    PassesOver id wait.type watch.history := by
  -- A wait that keeps up now has always kept up, so that the run can be taken move by move.
  induction used with
  | refl => cases begun
  | @step between later move used happened ih =>
    have before : between.history <:+ later.history →
        KeepsUp later.tracker.capacity id between.history := keepsUp.earlier
    -- Only a beginning and a look matter, and a look is kept out by what it has found.
    cases step_of_step? happened with
    | handle | pass => exact ih begun keepsUp
    | append | send | answer | elapse | abandon | clear =>
      exact (ih begun (before (List.suffix_cons _ _))).cons nofun nofun
    | await type timeout =>
      by_cases new : id = between.waits.length
      · subst new
        exact .began
      · -- The other waits are where they were.
        have inside : id < between.waits.length + 1 := by
          simpa using (List.getElem?_eq_some_iff.mp begun).1
        have older : between.waits[id]? = some wait := by
          rw [← begun, List.getElem?_append_left (by omega)]
        exact (ih older (before (List.suffix_cons _ _))).cons (by simpa using Ne.symm new) nofun
    | @look other waiter _ present _ nothing early =>
      have before := before (List.suffix_cons _ _)
      refine (ih begun before).cons nofun fun same arrival there => ?_
      obtain rfl := Happening.looked.inj same
      -- It has looked at its whole inbox, which holds all that it has not seen, and found nothing.
      have sound := (Sound.start maxLen source).leads used
      obtain ⟨_, found, typed, inbox⟩ :=
        sound.waiter_of_isOpen (sound.isOpen_of_find? present).2.2 begun before
      obtain rfl := Option.some.inj (present.symm.trans found)
      rw [inbox, typed, List.find?_eq_none] at nothing
      simpa using nothing _ (List.mem_map_of_mem there)

/-- What a look at a wait comes to. -/
def verdict (id : Nat) (wait : Wait) (history : List Happening) (now : Nat) : Happening :=
  match firstMatch id wait.type history with
  | some arrival => .ended id (some arrival.event) now
  | none => if wait.due ≤ now then .ended id none now else .looked id

/-- A look at a wait that keeps up is always possible and comes to the verdict. -/
theorem step?_poll (used : (start maxLen source).Leads watch)
    (opened : isOpen id watch.history = true) (begun : watch.waits[id]? = some wait)
    (keepsUp : KeepsUp watch.tracker.capacity id watch.history) :
    ∃ next, watch.step? (.poll id) = some next ∧
      next.history = verdict id wait watch.history watch.now :: watch.history := by
  have sound := (Sound.start maxLen source).leads used
  obtain ⟨waiter, present, typed, inbox⟩ := sound.waiter_of_isOpen opened begun keepsUp
  -- Searching the inbox finds what a search of all that was sent would find.
  have searched : waiter.inbox.find? (·.type == waiter.type) =
      (firstMatch id wait.type watch.history).map Arrival.event := by
    rw [(passesOver used begun keepsUp).firstMatch_eq, inbox, typed, List.find?_map]
    rfl
  cases matched : firstMatch id wait.type watch.history with
  | some arrival =>
    rw [matched] at searched
    exact ⟨_, step?_of_step (.answer present begun searched), by simp [verdict, matched]⟩
  | none =>
    rw [matched] at searched
    -- Nothing has come yet, so the clock decides.
    by_cases late : wait.due ≤ watch.now
    · exact ⟨_, step?_of_step (.elapse present begun searched late), by
        simp [verdict, matched, late]⟩
    · exact ⟨_, step?_of_step (.look present begun searched (Nat.lt_of_not_le late)), by
        simp [verdict, matched, late]⟩

/-- A wait that had begun earlier is the same. -/
theorem Grows.begun {later : Watch} (grows : watch.Grows later)
    (before : id < watch.waits.length) (begun : later.waits[id]? = some wait) :
    watch.waits[id]? = some wait := by
  -- Waits are only added at the end.
  obtain ⟨new, waits⟩ := grows.waits
  rw [← begun, ← waits, List.getElem?_append_left before]

/-- A wait that keeps up kept up earlier. -/
theorem Grows.keepsUp {later : Watch} (grows : watch.Grows later)
    (keepsUp : KeepsUp later.tracker.capacity id later.history) :
    KeepsUp watch.tracker.capacity id watch.history := by
  obtain ⟨new, history, _⟩ := grows.history
  -- A larger history lags no less than a smaller one.
  rw [Tracker.capacity, grows.maxLen] at keepsUp
  exact keepsUp.earlier ⟨new, history.symm⟩

/-- A wait that has ended was open, and ended with what a look at it came to. -/
theorem verdict_of_ended (used : (start maxLen source).Leads watch)
    (begun : watch.waits[id]? = some wait)
    (keepsUp : KeepsUp watch.tracker.capacity id watch.history) {answer : Option Event}
    {time : Nat} {past : List Happening} (ended : .ended id answer time :: past <:+ watch.history) :
    isOpen id past = true ∧ verdict id wait past time = .ended id answer time ∧
      ∃ after : Watch, after.Grows watch ∧ after.now = time ∧
        after.history = .ended id answer time :: past := by
  obtain ⟨before, after, move, reached, happened, rfl, history, leads⟩ := used.happened rfl ended
  have sound := (Sound.start maxLen source).leads reached
  -- Nothing but a look ends a wait.
  have looked : move = .poll id ∧ isOpen id before.history = true ∧ before.now = time ∧
      after.now = time := by
    cases step_of_step? happened with
    | answer present | elapse present =>
      cases history
      exact ⟨rfl, (sound.isOpen_of_find? present).2.2, rfl, rfl⟩
    | _ => simp at history
  obtain ⟨rfl, opened, same, rfl⟩ := looked
  have grows := (step_of_step? happened).grows.trans leads.grows
  obtain ⟨next, moved, verdict⟩ := step?_poll reached opened
    (grows.begun (sound.begun opened) begun) (grows.keepsUp keepsUp)
  obtain rfl := Option.some.inj (happened.symm.trans moved)
  rw [same] at verdict
  exact ⟨opened, (List.cons.inj (verdict.symm.trans history)).1, after, leads.grows, rfl, history⟩

/-- A wait that ends with an event ends with the first of its type. -/
theorem firstMatch_of_verdict {history : List Happening} {now time : Nat} {event : Event}
    (comes : verdict id wait history now = .ended id (some event) time) :
    ∃ arrival, arrival.event = event ∧ firstMatch id wait.type history = some arrival := by
  -- Only the first case of a verdict is an answer with an event.
  rw [verdict] at comes
  split at comes
  · rename_i arrival found
    cases comes
    exact ⟨arrival, rfl, found⟩
  · split at comes <;> cases comes

/-- A wait that ends with nothing has found nothing by the end of its time. -/
theorem due_of_verdict {history : List Happening} {now time : Nat}
    (comes : verdict id wait history now = .ended id none time) :
    wait.due ≤ time ∧ firstMatch id wait.type history = none := by
  -- Nothing was found and the time was over, since otherwise the wait would have gone on.
  rw [verdict] at comes
  split at comes
  · cases comes
  · rename_i nothing
    split at comes
    · rename_i late
      cases comes
      exact ⟨late, nothing⟩
    · cases comes

/-- No event of its type is sent in time to a wait that ends with nothing. -/
theorem due_le_of_elapsed (used : (start maxLen source).Leads watch)
    (begun : watch.waits[id]? = some wait)
    (keepsUp : KeepsUp watch.tracker.capacity id watch.history) {time : Nat}
    {past : List Happening} (ended : .ended id none time :: past <:+ watch.history)
    {arrival : Arrival} (there : arrival ∈ arrivals id watch.history)
    (typed : arrival.event.type = wait.type) : wait.due ≤ arrival.time := by
  obtain ⟨opened, comes, after, grows, rfl, history⟩ := verdict_of_ended used begun keepsUp ended
  obtain ⟨late, nothing⟩ := due_of_verdict comes
  obtain ⟨new, final, timely⟩ := grows.history
  rw [history, List.append_cons] at final
  have once := final ▸ ((Sound.start maxLen source).leads used).begunOnce
  rw [final, arrivals_append (began_once once (isOpen_iff.mp opened).1)] at there
  -- Whatever was sent before the end was of another type.
  rcases List.mem_append.mp there with before | later
  · exact absurd (beq_iff_eq.mpr typed) (List.find?_eq_none.mp nothing arrival before)
  · rw [sent_append] at later
    exact Nat.le_trans late (timely arrival (mem_sent_iff.mp later))

/-- An event that is sent is the first of its type if there was none. -/
theorem firstMatch_of_sent {past : List Happening} {type : EventType} {arrival : Arrival}
    (nothing : firstMatch id type past = none) (typed : arrival.event.type = type) :
    firstMatch id type (.sent arrival :: past) = some arrival := by
  -- The event comes behind those that were no match.
  rw [firstMatch, ← List.singleton_append, arrivals_append (by simp), List.find?_append,
    ← firstMatch, nothing]
  simp [sent, typed]

/-- A wait that is open when something is sent ends after that. -/
theorem ended_behind {history past old : List Happening} {arrival : Arrival}
    {answer : Option Event} {time : Nat} (sending : .sent arrival :: past <:+ history)
    (opened : isOpen id past = true) (ended : .ended id answer time :: old <:+ history) :
    .sent arrival :: past <:+ old := by
  -- The two moments are in one history, so one is earlier.
  rcases List.suffix_or_suffix_of_suffix sending ended with earlier | later
  · exact (List.suffix_cons_iff.mp earlier).resolve_left nofun
  · -- An open wait has not ended.
    have inside := (List.suffix_cons_iff.mp later).resolve_left nofun
    have gone : isOver id past = true :=
      List.any_eq_true.mpr ⟨_, inside.subset List.mem_cons_self, beq_self_eq_true id⟩
    rw [(isOpen_iff.mp opened).2] at gone
    cases gone

/-- A wait ends with the first event of its type, and with nothing only after its time. -/
structure FindsFirst (watch : Watch) (id : Nat) (wait : Wait) : Prop where
  /-- A wait ends once. -/
  ends : ∀ answer time past, .ended id answer time :: past <:+ watch.history →
    isOpen id past = true
  resolves : ∀ event time past, .ended id (some event) time :: past <:+ watch.history →
    ∃ arrival, arrival.event = event ∧ firstMatch id wait.type past = some arrival ∧
      firstMatch id wait.type watch.history = some arrival
  elapses : ∀ time past, .ended id none time :: past <:+ watch.history →
    wait.due ≤ time ∧ firstMatch id wait.type past = none ∧
      ∀ arrival ∈ arrivals id watch.history, arrival.event.type = wait.type →
        wait.due ≤ arrival.time
  /-- As long as a wait is open, a look at it is possible and comes to the verdict. -/
  polled : isOpen id watch.history = true → ∃ next, watch.step? (.poll id) = some next ∧
    next.history = verdict id wait watch.history watch.now :: watch.history
  /-- Every wait that is open when the first event of its type is sent ends with it. -/
  shared : ∀ arrival past, .sent arrival :: past <:+ watch.history → isOpen id past = true →
    firstMatch id wait.type past = none → arrival.event.type = wait.type →
      firstMatch id wait.type watch.history = some arrival ∧
      ∀ answer time, .ended id answer time ∈ watch.history → answer = some arrival.event

/-- A wait that keeps up finds the first event of its type. -/
theorem findsFirst (used : (start maxLen source).Leads watch)
    (begun : watch.waits[id]? = some wait)
    (keepsUp : KeepsUp watch.tracker.capacity id watch.history) : watch.FindsFirst id wait := by
  have sound := (Sound.start maxLen source).leads used
  -- The five clauses are those of `FindsFirst`, each from the verdict at the moment in question.
  refine ⟨fun answer time past ended => ?_, fun event time past ended => ?_,
    fun time past ended => ?_, fun opened => step?_poll used opened begun keepsUp,
    fun arrival past sending opened nothing typed => ?_⟩
  · exact (verdict_of_ended used begun keepsUp ended).1
  · obtain ⟨opened, comes, _⟩ := verdict_of_ended used begun keepsUp ended
    obtain ⟨arrival, same, found⟩ := firstMatch_of_verdict comes
    exact ⟨arrival, same, found, firstMatch_later sound.begunOnce
      ((List.suffix_cons _ _).trans ended) (isOpen_iff.mp opened).1 found⟩
  · obtain ⟨_, comes, _⟩ := verdict_of_ended used begun keepsUp ended
    obtain ⟨late, nothing⟩ := due_of_verdict comes
    exact ⟨late, nothing, fun arrival there typed =>
      due_le_of_elapsed used begun keepsUp ended there typed⟩
  · have now := firstMatch_of_sent nothing typed
    have started := List.mem_cons_of_mem (.sent arrival) (isOpen_iff.mp opened).1
    refine ⟨firstMatch_later sound.begunOnce sending started now, fun answer time there => ?_⟩
    obtain ⟨new, old, history⟩ := List.append_of_mem there
    have ended : .ended id answer time :: old <:+ watch.history := ⟨new, history.symm⟩
    have once : (Watch.begun old).Nodup :=
      nodup_begun_of_suffix ((List.suffix_cons _ _).trans ended) sound.begunOnce
    -- By then the event was the first of its type, and a look comes to nothing else.
    obtain ⟨_, comes, _⟩ := verdict_of_ended used begun keepsUp ended
    rw [verdict, firstMatch_later once (ended_behind sending opened ended) started now] at comes
    cases comes
    rfl

/-- The tracker in use with another log, as if nobody had ever cleared it. -/
def uncleared (watch : Watch) (log : List Event) : Watch :=
  { watch with
    tracker := { watch.tracker with log }
    history := watch.history.filter (· ≠ .cleared) }

/-- Whatever the log is, a move goes as it would. -/
theorem Step.uncleared {later : Watch} {move : Move} (step : watch.Step move later)
    (notClear : move ≠ .clear) (log : List Event) :
    ∃ kept, (watch.uncleared log).Step move (later.uncleared kept) := by
  -- No step but clearing reads the log, and appending is the only other one that writes it.
  cases step with
  | handle event => exact ⟨log, .handle event⟩
  | @append number event called =>
    exact ⟨(Tracker.append { watch.tracker with log } event).log, .append called⟩
  | send called => exact ⟨log, .send called⟩
  | await type timeout => exact ⟨log, .await type timeout⟩
  | answer present begun found => exact ⟨log, .answer present begun found⟩
  | elapse present begun nothing late => exact ⟨log, .elapse present begun nothing late⟩
  | look present begun nothing early => exact ⟨log, .look present begun nothing early⟩
  | abandon present => exact ⟨log, .abandon present⟩
  | clear => exact absurd rfl notClear
  | pass time => exact ⟨log, .pass time⟩

/-- Without its clears, a list of moves leads to the same but for the log. -/
theorem replay?_uncleared {later : Watch} {moves : List Move}
    (ran : watch.replay? moves = some later) (log : List Event) :
    ∃ kept, (watch.uncleared log).replay? (moves.filter (· ≠ .clear)) =
      some (later.uncleared kept) := by
  induction moves generalizing watch log with
  | nil =>
    cases ran
    exact ⟨log, rfl⟩
  | cons move moves ih =>
    obtain ⟨between, happened, ran⟩ := Option.bind_eq_some_iff.mp ran
    by_cases clears : move = .clear
    · subst clears
      cases happened
      -- Clearing the log changes nothing but the log.
      exact ih ran log
    · obtain ⟨kept, step⟩ := (step_of_step? happened).uncleared clears log
      obtain ⟨last, rest⟩ := ih ran kept
      refine ⟨last, ?_⟩
      rw [List.filter_cons_of_pos (by simpa using clears), replay?, List.foldlM_cons,
        step?_of_step step]
      exact rest

/-- However a tracker is used, its waits find the first events of their types. -/
theorem waits_find_first {moves : List Move}
    (ran : (start maxLen source).replay? moves = some watch) :
    watch.tracker.waiting = (List.range watch.waits.length).countP (isOpen · watch.history) ∧
    (∃ log, (start maxLen source).replay? (moves.filter (· ≠ .clear)) =
      some (watch.uncleared log)) ∧
    ∀ id wait, watch.waits[id]? = some wait →
      KeepsUp watch.tracker.capacity id watch.history → watch.FindsFirst id wait := by
  have used := leads_of_replay? ran
  have sound := (Sound.start maxLen source).leads used
  -- The waiters of the tracker are the waits that are open.
  refine ⟨?_, replay?_uncleared ran [], fun id wait => findsFirst used⟩
  rw [Tracker.waiting, List.countP_eq_length_filter, ← sound.waiting, List.length_map]

/-- Four waits overlap, two of them for orders; one event is an order, and the other is not. -/
def overlappingWaits (other order : Event) : List Move :=
  [.await order.type 10, .handle other, .act 0, .act 0, .poll 0, .await order.type 0,
    .await other.type 5, .pass 3, .clear, .handle order, .act 1, .act 1, .poll 1, .poll 0, .pass 5,
    .poll 2, .await order.type 5]

/-- The waits for orders end with the order, one after its time, and the other ends with nothing. -/
theorem overlappingWaits_find :
    ∃ other order : Event, ∃ watch : Watch,
      (start 1 none).replay? (overlappingWaits other order) = some watch ∧
      watch.tracker.waiting = 1 ∧
      (∃ log, (start 1 none).replay? ((overlappingWaits other order).filter (· ≠ .clear)) =
        some (watch.uncleared log)) ∧
      .ended 0 (some order) 3 ∈ watch.history ∧ watch.FindsFirst 0 ⟨order.type, 10⟩ ∧
      .ended 1 (some order) 3 ∈ watch.history ∧ watch.FindsFirst 1 ⟨order.type, 0⟩ ∧
      .ended 2 none 8 ∈ watch.history ∧ watch.FindsFirst 2 ⟨other.type, 5⟩ ∧
      isOpen 3 watch.history = true ∧ watch.FindsFirst 3 ⟨order.type, 13⟩ := by
  let other : Event := ⟨⟨0⟩, ⟨"invoice"⟩, .null, .epoch, none⟩
  let order : Event := ⟨⟨1⟩, ⟨"order"⟩, .null, .epoch, none⟩
  -- Two waits for orders overlap with one for invoices and one that is still open at the end.
  have seen : ((start 1 none).replay? (overlappingWaits other order)).map
      (fun watch => (watch.tracker.maxLen, watch.waits, watch.history)) =
        some (1, [⟨order.type, 10⟩, ⟨order.type, 0⟩, ⟨other.type, 5⟩, ⟨order.type, 13⟩],
          [.began 3, .ended 2 none 8, .ended 0 (some order) 3, .ended 1 (some order) 3,
            .sent ⟨1, order, 3⟩, .appended 1 order, .cleared, .began 2, .began 1, .looked 0,
            .sent ⟨0, other, 0⟩, .appended 0 other, .began 0]) := by decide +kernel
  obtain ⟨watch, ran, seen⟩ := Option.map_eq_some_iff.mp seen
  obtain ⟨maxLen, waits, history⟩ : _ ∧ _ ∧ _ := by simpa only [Prod.mk.injEq] using seen
  have capacity : watch.tracker.capacity = 16 := Tracker.capacity_of_short (by omega)
  obtain ⟨waiting, uncleared, finds⟩ := waits_find_first ran
  -- Each wait is told apart by its own entry in the history.
  rw [waits, capacity, history] at finds
  refine ⟨other, order, watch, ran, ?_, uncleared, ?_⟩
  · rw [waiting, waits, history]
    decide +kernel
  · rw [history]
    exact ⟨by decide, finds 0 _ rfl (by decide +kernel), by decide,
      finds 1 _ rfl (by decide +kernel), by decide, finds 2 _ rfl (by decide +kernel), by decide,
      finds 3 _ rfl (by decide +kernel)⟩

end EventBus.Watch
