import EventBus.Proofs.Dispatch.Advance
import Mathlib.Data.List.Nodup

/-!
A ledger follows the outcomes of a flight beyond the places where the flight itself keeps them, so
that every subscriber of the snapshot is in exactly one place at all times.
-/

namespace EventBus

/-- Where the outcomes of a flight have gone that are on their way no more. -/
structure Ledger where
  /-- The collector has counted them. -/
  taken : List (Subscriber × Outcome) := []
  /-- The collector has counted these subscribers as timed out. -/
  missing : List (Subscriber × Outcome) := []
  /-- They went with the channel when the collector left. -/
  lost : List (Subscriber × Outcome) := []
  /-- They were sent after the collector had left. -/
  late : List (Subscriber × Outcome) := []
  deriving DecidableEq, Repr

/-- What the collector says of the subscribers that are still missing after the deadline. -/
def Flight.overdue (flight : Flight) : List (Subscriber × Outcome) :=
  match flight.timeout with
  | none => []
  | some after => flight.pending.map fun subscriber =>
    (subscriber, .done (some (subscriber.failure (.timedOut after))))

namespace Ledger

/-- The ledger after a move of a flight. -/
def after (ledger : Ledger) (flight : Flight) : Move → Ledger
  | .receive | .drain => { ledger with taken := ledger.taken ++ flight.channel.take 1 }
  | .timeOut => { ledger with missing := ledger.missing ++ flight.overdue }
  | .depart => { ledger with lost := ledger.lost ++ flight.channel }
  | .send id =>
    if flight.collector = .departed then
      { ledger with late := ledger.late ++ (flight.ended.find? (·.1.id == id)).toList }
    else ledger
  | _ => ledger

/-- What the collector has counted, for better or worse. -/
def fates (ledger : Ledger) : List (Subscriber × Outcome) := ledger.taken ++ ledger.missing

/-- All outcomes that there are, wherever they have got to. -/
def outcomes (ledger : Ledger) (flight : Flight) : List (Subscriber × Outcome) :=
  flight.ended ++ flight.channel ++ ledger.taken ++ ledger.lost ++ ledger.late

end Ledger

namespace Flight

/-- The ledger of a run, in continuation of one that is given. -/
def ledger (flight : Flight) (ledger : Ledger) : List Move → Ledger
  | [] => ledger
  | move :: rest =>
    match flight.step? move with
    | none => ledger
    | some (next, _) => next.ledger (ledger.after flight move) rest

/-- The ledger of a run with a last move. -/
theorem ledger_concat {origin flight next : Flight} {moves : List Move} {move : Move}
    {notices more : List Notice} (ran : origin.replay? moves = some (flight, notices))
    (moved : flight.step? move = some (next, more)) (opening : Ledger) :
    origin.ledger opening (moves ++ [move]) = (origin.ledger opening moves).after flight move := by
  -- The ledger starts from any other, so that the induction can go through the first moves.
  induction moves generalizing origin opening notices with
  | nil =>
    cases ran
    simp only [List.nil_append, ledger, moved]
  | cons first rest ih =>
    obtain ⟨between, before, later, begun, went, rfl⟩ := replay?_cons_iff.mp ran
    simp only [List.cons_append, ledger, begun]
    exact ih went _

/-- What holds at the start of a run and is kept by every move of it holds at its end. -/
theorem ledger_induction {origin : Flight}
    {motive : List Move → List Notice → Flight → Ledger → Prop} (start : motive [] [] origin {})
    (go : ∀ {moves notices flight ledger move next more},
      origin.replay? moves = some (flight, notices) → motive moves notices flight ledger →
        flight.Advance move next more →
          motive (moves ++ [move]) (notices ++ more) next (ledger.after flight move))
    {moves : List Move} {notices : List Notice} {flight : Flight}
    (ran : origin.replay? moves = some (flight, notices)) :
    motive moves notices flight (origin.ledger {} moves) := by
  -- As for runs without a ledger, what is proved speaks of everything up to the last move.
  induction moves using List.reverseRecOn generalizing notices flight with
  | nil =>
    cases ran
    exact start
  | append_singleton moves move ih =>
    obtain ⟨between, before, more, earlier, moved, rfl⟩ := replay?_concat_iff.mp ran
    rw [ledger_concat earlier moved]
    exact go earlier (ih earlier) (advance_of_step? moved)

/-- The subscribers that have no outcome yet. -/
def unended (flight : Flight) : List Subscriber :=
  flight.queued ++ flight.submitted ++ flight.running

/-- The outcomes that a move of a flight brings about. -/
def produced (flight : Flight) : Move → List (Subscriber × Outcome)
  | .submit => if flight.cancelled then (flight.queued.take 1).map (·, .skipped) else []
  | .finish id cause =>
    (flight.running.find? (·.id == id)).toList.map fun subscriber =>
      (subscriber, subscriber.outcome cause)
  | _ => []

/-- Taking out the first element with a property moves it to the front. -/
theorem perm_eraseP_of_find? {α : Type} {property : α → Bool} {items : List α} {found : α}
    (first : items.find? property = some found) :
    items.Perm (found :: items.eraseP property) := by
  induction items with
  | nil => cases first
  | cons item rest ih =>
    -- The list is searched from the front, and so is the element taken out.
    by_cases hit : property item = true
    · rw [List.find?_cons_of_pos hit] at first
      cases first
      rw [List.eraseP_cons_of_pos hit]
    · rw [List.find?_cons_of_neg hit] at first
      rw [List.eraseP_cons_of_neg hit]
      exact ((ih first).cons item).trans (List.Perm.swap ..)

/-- The subscriber that is picked has the id, and the others stay. -/
theorem perm_of_pick? {id : Nat} {subscribers rest : List Subscriber} {subscriber : Subscriber}
    (picked : pick? id subscribers = some (subscriber, rest)) :
    subscribers.find? (·.id == id) = some subscriber ∧ subscriber.id = id ∧
      subscribers.Perm (subscriber :: rest) := by
  -- Picking is searching for the id and leaving the rest in order.
  simp only [pick?, Option.map_eq_some_iff, Prod.mk.injEq] at picked
  obtain ⟨found, first, rfl, rfl⟩ := picked
  exact ⟨first, by simpa using List.find?_some first, perm_eraseP_of_find? first⟩

/-- Outcomes move from place to place, and none goes but with the whole flight. -/
theorem outcomes_advance {flight next : Flight} {move : Move} {notices : List Notice}
    (advance : flight.Advance move next notices) (up : move ≠ .abandon) (ledger : Ledger) :
    ((ledger.after flight move).outcomes next).Perm
      (flight.produced move ++ ledger.outcomes flight) := by
  simp only [Ledger.outcomes, Ledger.after, produced]
  -- Only a skip and the end of a handler bring about an outcome; all else passes one on.
  cases advance with
  | skip launched room queued cancelled =>
    simp only [queued, cancelled, if_true, List.take_succ_cons, List.take_zero, List.map_cons,
      List.map_nil]
    grind
  | submit launched room queued wanted =>
    simp only [wanted]
    grind
  | finish picked =>
    obtain ⟨found, _, _⟩ := perm_of_pick? picked
    simp only [found, Option.toList_some, List.map_cons, List.map_nil]
    grind
  | send found present =>
    -- From the fan-out it goes into the channel.
    have moved := perm_eraseP_of_find? found
    simp only [present, if_false]
    grind
  | sendLate found departed =>
    -- Without a channel it is entered as late, and so it is not forgotten either.
    have moved := perm_eraseP_of_find? found
    simp only [departed, if_true, found]
    grind
  | receive collecting first =>
    simp only [count, first]
    grind
  | drain draining first =>
    simp only [count, first]
    grind
  | departComplete => grind
  | departTimedOut => grind
  | abandon => exact absurd rfl up
  | _ => exact List.Perm.refl _

/-- A subscriber goes from one party to the next until it has its outcome. -/
theorem unended_advance {flight next : Flight} {move : Move} {notices : List Notice}
    (advance : flight.Advance move next notices) (up : move ≠ .abandon) :
    flight.unended.Perm ((flight.produced move).map Prod.fst ++ next.unended) := by
  simp only [unended, produced]
  -- A subscriber that leaves the queue without a handler gets its outcome in the same move.
  cases advance with
  | skip launched room queued cancelled =>
    simp [queued, cancelled]
  | submit launched room queued wanted =>
    simp only [queued, wanted]
    grind
  | start picked =>
    obtain ⟨_, _, moved⟩ := perm_of_pick? picked
    grind
  | finish picked =>
    obtain ⟨found, _, moved⟩ := perm_of_pick? picked
    simp only [found, Option.toList_some, List.map_cons, List.map_nil]
    grind
  | abandon => exact absurd rfl up
  | _ => exact List.Perm.refl _

/-- Everybody of whom a flight and its ledger know. -/
def everybody (flight : Flight) (ledger : Ledger) : List Subscriber :=
  flight.unended ++ (ledger.outcomes flight).map Prod.fst

/-- No move adds a subscriber or loses one. -/
theorem everybody_advance {flight next : Flight} {move : Move} {notices : List Notice}
    (advance : flight.Advance move next notices) (up : move ≠ .abandon) (ledger : Ledger) :
    (next.everybody (ledger.after flight move)).Perm (flight.everybody ledger) := by
  have ended := (outcomes_advance advance up ledger).map Prod.fst
  have moved := unended_advance advance up
  rw [List.map_append] at ended
  simp only [everybody]
  -- What is produced leaves the one side and joins the other.
  calc next.unended ++ ((ledger.after flight move).outcomes next).map Prod.fst
      |>.Perm (next.unended ++ ((flight.produced move).map Prod.fst ++
        (ledger.outcomes flight).map Prod.fst)) := ended.append_left _
    _ |>.Perm ((flight.produced move).map Prod.fst ++ next.unended ++
        (ledger.outcomes flight).map Prod.fst) := by
        rw [List.append_assoc]
        exact List.perm_append_comm_assoc _ _ _
    _ |>.Perm (flight.unended ++ (ledger.outcomes flight).map Prod.fst) :=
        moved.symm.append_right _

/-- A flight as a bus sets it going: on its way to a snapshot, or over at once without one. -/
structure Fresh (origin : Flight) : Prop where
  ascending : origin.queued.Pairwise (·.id < ·.id)
  submitted : origin.submitted = []
  running : origin.running = []
  ended : origin.ended = []
  channel : origin.channel = []
  pending : origin.pending = []
  tally : origin.tally = .empty origin.event.type
  cancelled : origin.cancelled = false
  watched : origin.watched = true
  opening : (origin.launched = false ∧ origin.collector = .collecting ∧
      origin.verdict = .undecided) ∨
    (origin.launched = true ∧ origin.collector = .departed ∧
      origin.verdict = .delivered (.empty origin.event.type) ∧ origin.queued = [])

/-- A flight over an ascending snapshot has just been set going. -/
theorem fresh_new (event : Event) {subscribers : List Subscriber}
    (ascending : subscribers.Pairwise (·.id < ·.id)) (concurrency : Nat)
    (timeout : Option Duration) : (new event subscribers concurrency timeout).Fresh where
  -- All is still in the queue, and the collector waits for it.
  ascending := ascending
  submitted := rfl
  running := rfl
  ended := rfl
  channel := rfl
  pending := rfl
  tally := rfl
  cancelled := rfl
  watched := rfl
  opening := Or.inl ⟨rfl, rfl, rfl⟩

/-- A flight without subscribers is over at once. -/
theorem fresh_grounded (event : Event) : (grounded event).Fresh where
  -- There is nobody to wait for, so the collector has departed from the start.
  ascending := List.Pairwise.nil
  submitted := rfl
  running := rfl
  ended := rfl
  channel := rfl
  pending := rfl
  tally := rfl
  cancelled := rfl
  watched := rfl
  opening := Or.inr ⟨rfl, rfl, rfl, rfl⟩

/-- The collector of a flight to somebody waits for outcomes in the beginning. -/
theorem Fresh.collecting {origin : Flight} (fresh : origin.Fresh) {subscriber : Subscriber}
    (queued : subscriber ∈ origin.queued) : origin.collector = .collecting := by
  -- A flight to nobody is the only one that begins in another way.
  rcases fresh.opening with ⟨_, collecting, _⟩ | ⟨_, _, _, nobody⟩
  · exact collecting
  · exact absurd (nobody ▸ queued) List.not_mem_nil

/-- No id is twice in a snapshot. -/
theorem Fresh.ids_nodup {origin : Flight} (fresh : origin.Fresh) :
    (origin.queued.map Subscriber.id).Nodup :=
  List.pairwise_map.mpr (fresh.ascending.imp Nat.ne_of_lt)

/-- No subscriber is twice in a snapshot. -/
theorem Fresh.nodup {origin : Flight} (fresh : origin.Fresh) : origin.queued.Nodup :=
  fresh.ids_nodup.of_map

/-- Two subscribers of a snapshot with one id are one subscriber. -/
theorem Fresh.eq_of_id {origin : Flight} (fresh : origin.Fresh) {first second : Subscriber}
    (here : first ∈ origin.queued) (there : second ∈ origin.queued)
    (same : first.id = second.id) : first = second :=
  List.inj_on_of_nodup_map fresh.ids_nodup here there same

/-- In every run, each subscriber of the snapshot is in exactly one place. -/
theorem everybody_perm {origin : Flight} (fresh : origin.Fresh) {moves : List Move}
    {notices : List Notice} {flight : Flight}
    (ran : origin.replay? moves = some (flight, notices)) (up : .abandon ∉ moves) :
    (flight.everybody (origin.ledger {} moves)).Perm origin.queued := by
  -- Each move takes a subscriber from one place to the next.
  refine ledger_induction (motive := fun moves _ flight ledger =>
    .abandon ∉ moves → (flight.everybody ledger).Perm origin.queued) ?_ ?_ ran up
  · -- In the beginning everybody is in the queue.
    intro _
    simp [everybody, unended, Ledger.outcomes, fresh.submitted, fresh.running, fresh.ended,
      fresh.channel]
  · intro moves _ flight ledger move next _ _ before advance up
    rw [List.mem_append, List.mem_singleton, not_or] at up
    exact (everybody_advance advance (Ne.symm up.2) ledger).trans (before up.1)

/-- An outcome is a skip after a cancellation or the end of a handler. -/
theorem mem_produced {flight : Flight} {move : Move} {subscriber : Subscriber}
    {outcome : Outcome} (there : (subscriber, outcome) ∈ flight.produced move) :
    (outcome = .skipped ∧ flight.cancelled = true) ∨
      ∃ cause, move = .finish subscriber.id cause ∧ outcome = subscriber.outcome cause := by
  cases move with
  | submit =>
    simp only [produced] at there
    split at there
    · rename_i cancelled
      obtain ⟨_, _, equal⟩ := List.mem_map.mp there
      cases equal
      exact Or.inl ⟨rfl, cancelled⟩
    · simp at there
  | finish id cause =>
    simp only [produced, List.mem_map, Option.mem_toList, Prod.mk.injEq] at there
    obtain ⟨ended, found, rfl, rfl⟩ := there
    -- The one that was found has the id that was looked for.
    have same : ended.id = id := by simpa using List.find?_some found
    exact Or.inr ⟨cause, by rw [same], rfl⟩
  | _ => simp [produced] at there

/-- A flight is only cancelled by the holder of its token. -/
theorem cancelled_advance {flight next : Flight} {move : Move} {notices : List Notice}
    (advance : flight.Advance move next notices) (cancelled : next.cancelled = true) :
    flight.cancelled = true ∨ move = .cancel := by
  -- No other move raises the flag.
  cases advance with
  | cancel => exact Or.inr rfl
  | _ => exact Or.inl cancelled

/-- Nobody cancels a flight whose run has no cancellation. -/
theorem cancel_mem {origin : Flight} (fresh : origin.Fresh) {moves : List Move}
    {notices : List Notice} {flight : Flight}
    (ran : origin.replay? moves = some (flight, notices)) (cancelled : flight.cancelled = true) :
    .cancel ∈ moves := by
  -- The flag is not raised in the beginning, and one move alone can raise it.
  refine replay?_induction (motive := fun moves _ flight =>
    flight.cancelled = true → .cancel ∈ moves) ?_ ?_ ran cancelled
  · -- A flight is set going without having been cancelled.
    intro cancelled
    simp [fresh.cancelled] at cancelled
  · intro moves _ flight move next _ _ before advance cancelled
    rcases cancelled_advance advance cancelled with already | now
    · exact List.mem_append_left _ (before already)
    · exact List.mem_append_right _ (List.mem_singleton.mpr now.symm)

/-- In every run, an outcome is there because of a cancellation or of the end of its handler. -/
theorem outcome_reason {origin : Flight} (fresh : origin.Fresh) {moves : List Move}
    {notices : List Notice} {flight : Flight}
    (ran : origin.replay? moves = some (flight, notices)) (up : .abandon ∉ moves)
    {subscriber : Subscriber} {outcome : Outcome}
    (there : (subscriber, outcome) ∈ (origin.ledger {} moves).outcomes flight) :
    (outcome = .skipped ∧ .cancel ∈ moves) ∨
      ∃ cause, .finish subscriber.id cause ∈ moves ∧ outcome = subscriber.outcome cause := by
  -- An outcome stays the same wherever it is carried, so the move that made it is the reason.
  refine ledger_induction (motive := fun moves _ flight ledger =>
    .abandon ∉ moves → (subscriber, outcome) ∈ ledger.outcomes flight →
      (outcome = .skipped ∧ .cancel ∈ moves) ∨
        ∃ cause, .finish subscriber.id cause ∈ moves ∧ outcome = subscriber.outcome cause)
    ?_ ?_ ran up there
  · intro _ there
    simp [Ledger.outcomes, fresh.ended, fresh.channel] at there
  · intro moves _ flight ledger move next _ earlier before advance up there
    rw [List.mem_append, List.mem_singleton, not_or] at up
    have origins := (outcomes_advance advance (Ne.symm up.2) ledger).mem_iff.mp there
    rcases List.mem_append.mp origins with new | old
    · rcases mem_produced new with ⟨rfl, cancelled⟩ | ⟨cause, rfl, rfl⟩
      · exact Or.inl ⟨rfl, List.mem_append_left _ (cancel_mem fresh earlier cancelled)⟩
      · exact Or.inr ⟨cause, List.mem_append_right _ List.mem_cons_self, rfl⟩
    · -- What was there before was there for a reason already.
      refine (before up.1 old).imp ?_ ?_
      · exact fun ⟨skipped, cancel⟩ => ⟨skipped, List.mem_append_left _ cancel⟩
      · exact fun ⟨cause, finish, same⟩ => ⟨cause, List.mem_append_left _ finish, same⟩

/-- In every run, the end of a handler is an outcome from then on. -/
theorem outcome_of_finish {origin : Flight} {moves : List Move} {notices : List Notice}
    {flight : Flight} (ran : origin.replay? moves = some (flight, notices))
    (up : .abandon ∉ moves) {id : Nat} {cause : Option Cause} (ended : .finish id cause ∈ moves) :
    ∃ subscriber, subscriber.id = id ∧
      (subscriber, subscriber.outcome cause) ∈ (origin.ledger {} moves).outcomes flight := by
  -- What the move made is an outcome, and outcomes are only carried on.
  refine ledger_induction (motive := fun moves _ flight ledger =>
    .abandon ∉ moves → .finish id cause ∈ moves → ∃ subscriber, subscriber.id = id ∧
      (subscriber, subscriber.outcome cause) ∈ ledger.outcomes flight) ?_ ?_ ran up ended
  · intro _ ended
    cases ended
  · intro moves _ flight ledger move next _ _ before advance up ended
    rw [List.mem_append, List.mem_singleton, not_or] at up
    -- No move makes an outcome disappear.
    have kept := (outcomes_advance advance (Ne.symm up.2) ledger).symm
    rcases List.mem_append.mp ended with earlier | now
    · obtain ⟨subscriber, same, there⟩ := before up.1 earlier
      exact ⟨subscriber, same, kept.mem_iff.mp (List.mem_append_right _ there)⟩
    · obtain rfl := List.mem_singleton.mp now
      cases advance with
      | finish picked =>
        obtain ⟨found, same, _⟩ := perm_of_pick? picked
        refine ⟨_, same, kept.mem_iff.mp (List.mem_append_left _ ?_)⟩
        simp [produced, found]

end Flight

end EventBus
