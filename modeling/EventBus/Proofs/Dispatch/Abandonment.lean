import EventBus.Proofs.Dispatch.Lateness

/-! A flight that was abandoned does nothing more, and only the holder of its token still acts. -/

namespace EventBus

/-- The notices with which the holder of a token learns of the end of its flight. -/
def Notice.isFinal : Notice → Bool
  | .answered _ | .aborted => true
  | _ => false

namespace Flight

/-- Nothing is left of a flight but its token and perhaps its result. -/
structure Dead (flight : Flight) : Prop where
  launched : flight.launched = true
  queued : flight.queued = []
  submitted : flight.submitted = []
  running : flight.running = []
  ended : flight.ended = []
  collector : flight.collector = .departed
  decided : flight.verdict ≠ .undecided
  silent : ∀ left, flight.verdict ≠ .reporting left

/-- An abandoned flight is dead. -/
theorem dead_abandoned (flight : Flight) : flight.abandoned.Dead where
  -- With the process all that is under way is gone, and nobody is left to tell a result to.
  launched := rfl
  queued := rfl
  submitted := rfl
  running := rfl
  ended := rfl
  collector := rfl
  decided := by cases verdict : flight.verdict <;> simp [abandoned, verdict]
  silent left := by cases verdict : flight.verdict <;> simp [abandoned, verdict]

/-- The moves that the holder of a token makes, and the end of all others. -/
def idle : List Move := [.cancel, .join, .drop, .abandon]

/-- A dead flight stays dead, keeps its tally, and tells of nothing but its result. -/
theorem Dead.advance {flight next : Flight} {move : Move} {more : List Notice}
    (dead : flight.Dead) (advance : flight.Advance move next more) :
    next.Dead ∧ move ∈ idle ∧ sink more = [] ∧ next.tally = flight.tally ∧
      ∀ result, next.verdict = .delivered result → flight.verdict = .delivered result := by
  -- Every move of a party finds nothing to work on.
  cases advance with
  | launch still _ => simp [dead.launched] at still
  | skip _ _ queued _ | submit _ _ queued _ => simp [dead.queued] at queued
  | start picked => simp [pick?, dead.submitted] at picked
  | finish picked => simp [pick?, dead.running] at picked
  | send found _ | sendLate found _ => simp [dead.ended] at found
  | receive collecting _ | expire _ collecting _ | departComplete collecting _ _ =>
    simp [dead.collector] at collecting
  | drain draining _ | timeOut draining _ _ => simp [dead.collector] at draining
  | departTimedOut departing => simp [dead.collector] at departing
  | conclude _ undecided _ | concludeUnwatched _ undecided _ => exact absurd undecided dead.decided
  | report reporting => exact absurd reporting (dead.silent _)
  | cancel watched =>
    exact ⟨{ dead with }, by simp [idle], rfl, rfl, fun _ delivered => delivered⟩
  | join watched delivered =>
    exact ⟨{ dead with decided := by simp, silent := by simp }, by simp [idle], rfl, rfl,
      fun _ delivered => by simp at delivered⟩
  | joinLost watched lost =>
    exact ⟨{ dead with }, by simp [idle], rfl, rfl, fun _ delivered => delivered⟩
  | drop watched =>
    have decided := dead.decided
    have silent := dead.silent
    refine ⟨{ dead with decided := ?_, silent := ?_ }, by simp [idle], rfl, rfl, ?_⟩
    · cases verdict : flight.verdict <;> simp_all
    · cases verdict : flight.verdict <;> simp_all
    · cases verdict : flight.verdict <;> simp_all
  | abandon =>
    refine ⟨dead_abandoned flight, by simp [idle], rfl, rfl, ?_⟩
    cases verdict : flight.verdict <;> simp [abandoned, verdict]

/-- What a run of a dead flight can do. -/
theorem Dead.replay {origin flight : Flight} {moves : List Move} {notices : List Notice}
    (dead : origin.Dead) (ran : origin.replay? moves = some (flight, notices)) :
    flight.Dead ∧ (∀ move ∈ moves, move ∈ idle) ∧ sink notices = [] ∧
      flight.tally = origin.tally ∧
      (∀ result, flight.verdict = .delivered result → origin.verdict = .delivered result) ∧
      ∀ result, .answered result ∈ notices → origin.verdict = .delivered result := by
  -- A dead flight stays dead, so each move of the run is made by a dead flight.
  refine replay?_induction (motive := fun moves notices flight =>
    flight.Dead ∧ (∀ move ∈ moves, move ∈ idle) ∧ sink notices = [] ∧
      flight.tally = origin.tally ∧
      (∀ result, flight.verdict = .delivered result → origin.verdict = .delivered result) ∧
      ∀ result, .answered result ∈ notices → origin.verdict = .delivered result) ?_ ?_ ran
  · exact ⟨dead, by simp, rfl, rfl, fun _ delivered => delivered, by simp⟩
  · intro moves notices flight move next more _ before advance
    obtain ⟨dead, idle, silent, tally, delivered, answered⟩ := before
    -- One more move finds the flight as dead as it was.
    obtain ⟨still, now, quiet, same, kept⟩ := dead.advance advance
    refine ⟨still, ?_, ?_, same.trans tally, fun result there => delivered result
      (kept result there), fun result there => ?_⟩
    · intro made there
      rcases List.mem_append.mp there with earlier | new
      · exact idle made earlier
      · exact List.mem_singleton.mp new ▸ now
    · rw [sink, List.filterMap_append]
      exact List.append_eq_nil_iff.mpr ⟨silent, quiet⟩
    · rcases List.mem_append.mp there with earlier | new
      · exact answered result earlier
      · exact delivered result (answered_advance advance new)

/-- A flight that was abandoned in a run is dead at its end. -/
theorem dead_of_abandon {origin flight : Flight} {moves : List Move} {notices : List Notice}
    (ran : origin.replay? moves = some (flight, notices)) (abandoned : .abandon ∈ moves) :
    flight.Dead := by
  -- A flight is dead after the move that abandons it, and no later move brings it back.
  obtain ⟨before, after, rfl⟩ := List.append_of_mem abandoned
  obtain ⟨between, _, _, _, went, _⟩ := replay?_append_iff.mp ran
  obtain ⟨_, _, _, stopped, rest, _⟩ := replay?_cons_iff.mp went
  cases stopped
  exact ((dead_abandoned between).replay rest).1

/-- What the holder of a token notices by its own moves is the end of its flight. -/
theorem isFinal_of_idle {origin flight : Flight} {moves : List Move} {notices : List Notice}
    (ran : origin.replay? moves = some (flight, notices))
    (idling : ∀ move ∈ moves, move ∈ idle) : ∀ notice ∈ notices, notice.isFinal = true := by
  refine replay?_induction (motive := fun moves notices _ =>
    (∀ move ∈ moves, move ∈ idle) → ∀ notice ∈ notices, notice.isFinal = true)
    (fun _ => by simp) ?_ ran idling
  intro moves notices flight move next more _ before advance idling notice there
  rcases List.mem_append.mp there with earlier | now
  · exact before (fun made there => idling made (List.mem_append_left _ there)) notice earlier
  · have last := idling move (by simp)
    -- Only a join is noticed, and it is answered.
    cases advance with
    | sendLate found departed => simp [idle] at last
    | join watched delivered | joinLost watched lost =>
      obtain rfl := List.mem_singleton.mp now
      rfl
    | start picked | conclude | concludeUnwatched | report reporting => simp [idle] at last
    | _ => cases now

/-- The holder of a token does nothing to the outcomes. -/
theorem ledger_append_idle {origin flight : Flight} {served unserved : List Move}
    {notices : List Notice} (ran : origin.replay? (served ++ unserved) = some (flight, notices))
    (idling : ∀ move ∈ unserved, move ∈ idle) :
    origin.ledger {} (served ++ unserved) = origin.ledger {} served := by
  -- None of these moves takes anything out of the hands of a party.
  induction unserved using List.reverseRecOn generalizing flight notices with
  | nil => rw [List.append_nil]
  | append_singleton unserved move ih =>
    rw [← List.append_assoc] at ran ⊢
    obtain ⟨between, _, _, earlier, moved, _⟩ := replay?_concat_iff.mp ran
    rw [ledger_concat earlier moved,
      ih earlier fun made there => idling made (List.mem_append_left _ there)]
    have last := idling move (by simp)
    simp only [idle, List.mem_cons, List.not_mem_nil, or_false] at last
    rcases last with rfl | rfl | rfl | rfl <;> rfl

/-- The part of a run in which the flight was still served, and what follows from it. -/
structure Served (origin flight : Flight) (moves : List Move) (notices : List Notice)
    (served : List Move) (between : Flight) (earlier : List Notice) : Prop where
  ran : origin.replay? served = some (between, earlier)
  up : .abandon ∉ served
  /-- All that is done from then on is done by the token's holder. -/
  rest : ∃ unserved, moves = served ++ unserved ∧ ∀ move ∈ unserved, move ∈ idle
  silent : sink notices = sink earlier
  /-- A result that was handed over was complete already. -/
  complete : ∀ result, .answered result ∈ notices →
    between.collector = .departed ∧ between.tally = result
  still : .abandon ∉ moves → between = flight

/-- In every run there is a part in which the flight was served. -/
theorem exists_served {origin flight : Flight} (fresh : origin.Fresh) {moves : List Move}
    {notices : List Notice} (ran : origin.replay? moves = some (flight, notices)) :
    ∃ served between earlier, Served origin flight moves notices served between earlier := by
  by_cases up : .abandon ∉ moves
  · exact ⟨moves, flight, notices, ran, up, ⟨[], by simp, by simp⟩, rfl,
      (told fresh ran).answered, fun _ => rfl⟩
  -- The run is cut before the first move that abandons the flight.
  obtain ⟨served, unserved, rfl, serving⟩ :=
    List.eq_append_cons_of_mem (Classical.not_not.mp up)
  obtain ⟨between, earlier, later, before, after, rfl⟩ := replay?_append_iff.mp ran
  obtain ⟨next, first, rest, abandoned, went, rfl⟩ := replay?_cons_iff.mp after
  cases abandoned
  obtain ⟨_, idling, silent, _, _, handed⟩ := (dead_abandoned between).replay went
  have told := told fresh before
  refine ⟨served, between, earlier, before, serving, ⟨.abandon :: unserved, rfl, ?_⟩, ?_, ?_,
    fun up => absurd (by simp) up⟩
  · intro move there
    rcases List.mem_cons.mp there with rfl | there
    · simp [idle]
    · exact idling move there
  · rw [sink, sink, List.filterMap_append]
    exact (congrArg _ silent).trans (List.append_nil _)
  · intro result answered
    rcases List.mem_append.mp answered with there | there
    · exact told.answered result there
    · have delivered := handed result there
      refine told.delivered result ?_
      -- A flight without a result loses it for good, so the result was there before.
      cases verdict : between.verdict <;> simp_all [Flight.abandoned]

namespace Served

variable {origin flight between : Flight} {moves served : List Move}
  {notices earlier : List Notice}

/-- The parties of a flight have made all their moves while it was served. -/
theorem mem_iff (serving : Served origin flight moves notices served between earlier)
    {move : Move} (active : move ∉ idle) : move ∈ moves ↔ move ∈ served := by
  -- What comes behind the moves of the parties consists of moves of the holder.
  obtain ⟨unserved, rfl, idling⟩ := serving.rest
  rw [List.mem_append, or_iff_left]
  exact fun there => active (idling move there)

/-- What was sent was sent while the flight was served. -/
theorem sentWhen_iff (serving : Served origin flight moves notices served between earlier)
    (property : List Move → Prop) (id : Nat) :
    SentWhen property moves id ↔ SentWhen property served id := by
  -- Only the fan-out sends, and it is one of the parties.
  obtain ⟨unserved, rfl, idling⟩ := serving.rest
  exact sentWhen_append_iff fun sent => by simpa [idle] using idling _ sent

/-- What is noticed from then on is the end of the flight. -/
theorem split (serving : Served origin flight moves notices served between earlier)
    (ran : origin.replay? moves = some (flight, notices)) :
    ∃ later, notices = earlier ++ later ∧ ∀ notice ∈ later, notice.isFinal = true := by
  -- The holder of the token is told of nothing but the end.
  obtain ⟨unserved, rfl, idling⟩ := serving.rest
  obtain ⟨_, _, later, before, after, rfl⟩ := replay?_append_iff.mp ran
  cases serving.ran.symm.trans before
  exact ⟨later, rfl, isFinal_of_idle after idling⟩

/-- The outcomes are where they were when the flight was served. -/
theorem ledger_eq (serving : Served origin flight moves notices served between earlier)
    (ran : origin.replay? moves = some (flight, notices)) :
    origin.ledger {} moves = origin.ledger {} served := by
  -- The moves of the holder leave all outcomes where they are.
  obtain ⟨unserved, rfl, idling⟩ := serving.rest
  exact ledger_append_idle ran idling

end Served

/-- The token goes with the last notice that its holder gets. -/
theorem final_advance {flight next : Flight} {move : Move} {more : List Notice}
    (advance : flight.Advance move next more) :
    more.countP Notice.isFinal + next.watched.toNat ≤ flight.watched.toNat := by
  -- A join takes the token along, and a drop takes it without a word.
  cases advance with
  | @sendLate _ _ outcome found departed =>
    have quiet : (lateFailure outcome).countP Notice.isFinal = 0 := by
      refine List.countP_eq_zero.mpr fun notice there => ?_
      obtain ⟨failure, _, rfl⟩ := mem_lateFailure there
      simp [Notice.isFinal]
    simp [quiet]
  | join watched _ | joinLost watched _ | drop watched => simp [Notice.isFinal, watched]
  | _ => simp [Notice.isFinal, abandoned, count]

/-- In every run, the holder of the token learns of the end of the flight once at most. -/
theorem final_replay {origin flight : Flight} {moves : List Move} {notices : List Notice}
    (ran : origin.replay? moves = some (flight, notices)) :
    notices.countP Notice.isFinal + flight.watched.toNat ≤ origin.watched.toNat := by
  -- The token is what the notices of an end are paid with.
  refine replay?_induction (motive := fun _ notices flight =>
    notices.countP Notice.isFinal + flight.watched.toNat ≤ origin.watched.toNat) ?_ ?_ ran
  · simp
  · intro moves notices flight move next more _ before advance
    have now := final_advance advance
    rw [List.countP_append]
    omega

/-- A token that is answered with the loss of the flight is not answered with a result. -/
theorem not_answered_of_aborted {origin flight : Flight} {moves : List Move}
    {notices : List Notice} (ran : origin.replay? moves = some (flight, notices))
    (aborted : .aborted ∈ notices) (result : DispatchResult) : .answered result ∉ notices := by
  intro answered
  have once := final_replay ran
  obtain ⟨before, after, rfl⟩ := List.append_of_mem aborted
  -- Such a notice would be a second one.
  have other : 0 < before.countP Notice.isFinal + after.countP Notice.isFinal := by
    rw [← List.countP_append]
    refine List.countP_pos_iff.mpr ⟨.answered result, ?_, rfl⟩
    simpa using answered
  have watched := Bool.toNat_le origin.watched
  simp only [List.countP_append, List.countP_cons, Notice.isFinal, if_true] at once
  omega

end Flight

end EventBus
