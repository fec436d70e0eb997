import EventBus.Proofs.Dispatch.Calls
import EventBus.Proofs.Dispatch.Settling
import EventBus.Proofs.Hub.Nesting
import EventBus.Proofs.Hub.Tracking

/-!
A snapshot isolates its dispatch. Once it is taken, no operation on the bus changes who is called,
nor the result that comes of the calls.
-/

namespace EventBus

namespace Hub

variable {config : BusConfig} {hub next : Hub} {index : Nat} {voyage : Voyage}

/--
A flight comes to the same from the same voyage, whatever else happens around it.

The other hub is one at which nothing but the moves of this flight happens.
-/
theorem run?_alone {incidents : List Incident} {other last : Hub}
    (sailing : hub.voyages[index]? = some voyage) (there : other.voyages[index]? = some voyage)
    (ran : hub.run? config incidents = some last) :
    ∃ later, last.voyages[index]? = some later ∧ later.origin = voyage.origin ∧
      other.run? config (incidents.filter (·.isMoveOf index)) =
        some { other with voyages := other.voyages.set index later } := by
  -- The induction is on the incidents; the other hub only goes along with moves of this flight.
  induction incidents generalizing hub other voyage with
  | nil =>
    cases ran
    obtain ⟨inside, rfl⟩ := List.getElem?_eq_some_iff.mp there
    refine ⟨_, sailing, rfl, ?_⟩
    rw [List.set_getElem_self]
    rfl
  | cons incident rest ih =>
    unfold run? at ran
    split at ran
    · cases ran
    rename_i answer between happened
    by_cases own : incident.isMoveOf index = true
    · -- Both flights make the move, and come to the same voyage.
      obtain ⟨move, rfl⟩ : ∃ move, incident = .move index move := by
        cases incident with
        | move target move =>
          obtain rfl : target = index := by simpa [Incident.isMoveOf] using own
          exact ⟨move, rfl⟩
        | _ => cases own
      have stepped := happened
      rw [step?_move config sailing] at happened
      split at happened
      swap
      · cases happened
      rename_i genuine
      obtain ⟨next, extended, same⟩ := Option.map_eq_some_iff.mp happened
      obtain ⟨rfl, rfl⟩ := Prod.mk.inj same
      have moved : other.step? config (.move index move) =
          some (.done, { other with voyages := other.voyages.set index next }) := by
        rw [step?_move config there, if_pos genuine, extended]
        rfl
      have inside := (List.getElem?_eq_some_iff.mp sailing).1
      have otherInside := (List.getElem?_eq_some_iff.mp there).1
      let after : Hub := { other with voyages := other.voyages.set index next }
      have otherSailing : after.voyages[index]? = some next := List.getElem?_set_self otherInside
      obtain ⟨later, arrived, origin, alone⟩ := ih (List.getElem?_set_self inside) otherSailing ran
      refine ⟨later, arrived, origin.trans (Voyage.extend?_eq_some extended).1, ?_⟩
      rw [List.filter_cons_of_pos own, run?, moved]
      simpa [after] using alone
    · have foreign : incident.isMoveOf index = false := by simpa using own
      rw [List.filter_cons_of_neg own]
      exact ih (voyage_step sailing foreign happened) there ran

namespace Attainable

/-- What can happen at a hub that can come about leads to another one. -/
theorem run? {incidents : List Incident} {last : Hub} (attainable : hub.Attainable config)
    (ran : hub.run? config incidents = some last) : last.Attainable config :=
  run_keeps Attainable.step ran attainable

/-- Every hub that can come about is sound. -/
theorem sound (attainable : hub.Attainable config) : hub.Sound config := by
  -- Notes on calls and on the log change no flight and no registry.
  induction attainable with
  | new id => exact ⟨Registry.wellFormed_new id, by simp [Hub.new]⟩
  | step before happened ih => exact ih.step happened
  | noted before calls records ih => exact ⟨ih.wellFormed, ih.voyages⟩

/-- Every flight was set going at a hub that could come about. -/
theorem begun (attainable : hub.Attainable config) {voyage : Voyage}
    (sailing : voyage ∈ hub.voyages) :
    ∃ before : Hub, before.Attainable config ∧ voyage.origin.BegunAt config before := by
  -- The flight began with this incident, or at an earlier hub.
  induction attainable generalizing voyage with
  | new id => simp [Hub.new] at sailing
  | @step hub next _ _ before happened ih =>
    rcases voyages_step happened sailing with old | ⟨origin, rfl, begun⟩ |
      ⟨earlier, old, move, _, extended⟩
    · exact ih old
    · exact ⟨hub, before, begun⟩
    · -- A move leaves the beginning of its voyage as it was.
      rw [(Voyage.extend?_eq_some extended).1]
      exact ih old
  | noted before calls records ih => exact ih sailing

end Attainable

/-- A flight keeps the handlers alive that it has yet to call or to see the end of. -/
theorem alive_of_held (sailing : hub.voyages[index]? = some voyage) {subscriber : Subscriber}
    (held : subscriber ∈ voyage.flight.held) : hub.alive subscriber.handler = true :=
  -- A handler aboard a flight has an owner in the flight.
  alive_iff_owned.mpr (Or.inr (Or.inl (aloft_pos_iff.mpr
    ⟨voyage, List.mem_of_getElem? sailing, subscriber, held, rfl⟩)))

end Hub

/-- Reactions of handlers that end as they are said to, and leave the bus alone. -/
def Reactions.idle (outcome : Handler → Event → Option Cause) : Reactions :=
  fun _ handler event => .done (outcome handler event)

namespace Activity

variable (config : BusConfig) (depth : Nat)

/-- Idle handlers take the turns that they are said to take. -/
theorem takeTurns_idle (outcome : Handler → Event → Option Cause) (event : Event)
    (subscribers : List Subscriber) (hub : Hub) :
    let turns := takeTurns (bus config depth ((Reactions.idle outcome).respond config depth)).call
      event subscribers hub
    turns.answer = subscribers.map (fun subscriber =>
        ⟨subscriber, outcome subscriber.handler event⟩) ∧
      turns.marks = turns.answer.flatMap (Turn.marks depth event) := by
  -- A handler that does nothing leaves the hub as it is but for the note that it was called.
  induction subscribers generalizing hub with
  | nil => exact ⟨rfl, rfl⟩
  | cons subscriber rest ih =>
    rw [takeTurns_cons, call_eq]
    obtain ⟨answer, marks⟩ := ih { hub with calls := hub.calls ++ [(subscriber.handler, event)] }
    let turn : Turn := ⟨subscriber, outcome subscriber.handler event⟩
    exact ⟨congrArg (turn :: ·) answer, congrArg (turn.marks depth event ++ ·) marks⟩

/-- A publication gives every subscriber of its snapshot a turn, and adds up how these end. -/
theorem publication_turns {hub : Hub} {event : Event} {live : List Subscriber}
    (taken : hub.registry.snapshot hub.alive event.type = .ok live) (react : Reactions) :
    let done := Hub.publication config depth react event hub
    ∃ turns : List Turn, turns.map Turn.subscriber = live ∧
      done.marks.filter (·.depth = depth) = turns.flatMap (Turn.marks depth event) ∧
      done.answer = .ok (.sum event.type
        (turns.map fun turn => turn.subscriber.outcome turn.cause)) := by
  -- The turns do not depend on what is counted afterwards.
  intro done
  let held := ((Hub.bus config fun _ _ => none).snapshot event.type hub).2
  let turns := takeTurns (bus config depth (react.respond config depth)).call event live held
  refine ⟨turns.answer, takeTurns_subscribers event live held, ?_, ?_⟩
  · simp only [done, Hub.publication, publish_eq, taken]
    exact (takeTurns_marks (react.inside config depth) event live held).1
  · simp only [done, Hub.publication, publish_eq, taken]
    rfl

/-- A publication to idle handlers leaves the marks of their turns, and no others. -/
theorem publication_idle {hub : Hub} {event : Event} {live : List Subscriber}
    (taken : hub.registry.snapshot hub.alive event.type = .ok live)
    (outcome : Handler → Event → Option Cause) :
    let turns : List Turn := live.map fun subscriber =>
      ⟨subscriber, outcome subscriber.handler event⟩
    let done := Hub.publication config depth (.idle outcome) event hub
    done.marks = turns.flatMap (Turn.marks depth event) ∧
      done.answer = .ok (.sum event.type
        (turns.map fun turn => turn.subscriber.outcome turn.cause)) := by
  -- The turns of idle handlers are known beforehand.
  intro turns done
  let held := ((Hub.bus config fun _ _ => none).snapshot event.type hub).2
  obtain ⟨answer, marks⟩ :=
    takeTurns_idle config depth outcome event live held
  rw [answer] at marks
  refine ⟨?_, ?_⟩
  · simp only [done, Hub.publication, publish_eq, taken]
    exact marks
  · simp only [done, Hub.publication, publish_eq, taken]
    exact congrArg (fun turns : List Turn => Except.ok (DispatchResult.sum event.type
      (turns.map fun turn => turn.subscriber.outcome turn.cause))) answer

end Activity

/-- How the calls at some depth have ended, going by the marks that they have left. -/
def EndsAs (depth : Nat) (event : Event) (marks : List Mark)
    (outcome : Handler → Event → Option Cause) : Prop :=
  ∀ handler cause, .ended depth handler cause ∈ marks → outcome handler event = cause

/-- Turns that leave such marks end in the same way. -/
theorem EndsAs.turn {depth : Nat} {event : Event} {marks : List Mark} {turns : List Turn}
    {outcome : Handler → Event → Option Cause} (ends : EndsAs depth event marks outcome)
    (own : marks.filter (·.depth = depth) = turns.flatMap (Turn.marks depth event)) {turn : Turn}
    (taken : turn ∈ turns) : outcome turn.subscriber.handler event = turn.cause := by
  -- How a turn has ended is marked at its depth.
  have there : .ended depth turn.subscriber.handler turn.cause ∈
      turns.flatMap (Turn.marks depth event) :=
    List.mem_flatMap.mpr ⟨turn, taken, by simp [Turn.marks]⟩
  rw [← own] at there
  exact ends _ _ (List.mem_of_mem_filter there)

/-- There is a way in which calls have ended, as no handler is called twice. -/
theorem exists_endsAs {depth : Nat} {event : Event} {marks : List Mark} {turns : List Turn}
    (own : marks.filter (·.depth = depth) = turns.flatMap (Turn.marks depth event))
    (once : (turns.map fun turn => turn.subscriber.handler).Nodup) :
    ∃ outcome, EndsAs depth event marks outcome := by
  -- The first turn of a handler is the only one, so it can be asked how that ended.
  refine ⟨fun handler _ => (turns.find? (·.subscriber.handler == handler)).bind Turn.cause,
    fun handler cause there => ?_⟩
  have seen : .ended depth handler cause ∈ marks.filter (·.depth = depth) :=
    List.mem_filter.mpr ⟨there, by simp⟩
  rw [own] at seen
  obtain ⟨turn, taken, made⟩ := List.mem_flatMap.mp seen
  obtain ⟨rfl, rfl⟩ : handler = turn.subscriber.handler ∧ cause = turn.cause := by
    simpa [Turn.marks] using made
  cases found : turns.find? (·.subscriber.handler == turn.subscriber.handler) with
  | none => exact absurd (List.find?_eq_none.mp found turn taken) (by simp)
  | some first =>
    have same : first.subscriber.handler = turn.subscriber.handler := by
      simpa using List.find?_some found
    obtain rfl : first = turn :=
      List.inj_on_of_nodup_map once (List.mem_of_find?_eq_some found) taken same
    exact congrArg (Option.bind · Turn.cause) found

/-- A handler that ends as it is said to ends genuinely, if it is not said to be late. -/
theorem Flight.genuine_of_undisturbed {origin flight : Flight} (fresh : origin.Fresh)
    {outcome : Handler → Event → Option Cause} {moves : List Move} {notices : List Notice}
    (honest : ∀ handler event after, outcome handler event ≠ some (.timedOut after))
    (ran : origin.replay? moves = some (flight, notices))
    (undisturbed : ∀ move ∈ moves, origin.Undisturbed outcome move) {move : Move}
    (left : origin.Undisturbed outcome move) (possible : (flight.step? move).isSome = true) :
    move.isGenuine = true := by
  -- Only the end of a handler could be other than genuine, and how that ends is settled.
  obtain ⟨⟨next, more⟩, moved⟩ := Option.isSome_iff_exists.mp possible
  cases advance_of_step? moved with
  | @finish id cause subscriber rest picked =>
    obtain ⟨_, same, found⟩ := perm_of_pick? picked
    have running : subscriber ∈ flight.running := found.mem_iff.mpr List.mem_cons_self
    have queued : subscriber ∈ origin.queued := by
      refine (everybody_perm fresh ran (up_of_undisturbed undisturbed)).mem_iff.mp ?_
      simp [everybody, unended, running]
    obtain rfl : cause = outcome subscriber.handler origin.event := left subscriber queued same
    unfold Move.isGenuine
    split
    · rename_i after late
      exact absurd (Move.finish.inj late).2 (honest _ _ after)
    · rfl
  | _ => rfl

/--
What is left of a flight when everything else that happens around it is left out.

The flight makes the same moves, from the same beginning, and comes to the same end.
-/
structure Hub.Isolates (config : BusConfig) (hub last : Hub) (index : Nat) (voyage later : Voyage)
    (incidents : List Incident) : Prop where
  arrived : last.voyages[index]? = some later
  origin : later.origin = voyage.origin
  /-- Alone, it is called for and answered just as it is among all other incidents. -/
  alone : hub.run? config (incidents.filter (·.isMoveOf index)) =
    some { hub with voyages := hub.voyages.set index later }
  /-- Whether it can make a move depends on nothing but itself. -/
  free : ∀ move, (last.step? config (.move index move)).isSome =
    (move.isGenuine && (later.flight.step? move).isSome)
  /-- Nobody that it has yet to call, or to see the end of, can die. -/
  held : ∀ subscriber ∈ later.flight.held, last.alive subscriber.handler = true
  /-- Its token resolves to the result of its full snapshot, if it is left to itself. -/
  resolves : ∀ outcome : Handler → Event → Option Cause,
    (∀ handler event after, outcome handler event ≠ some (.timedOut after)) →
    (∀ move ∈ later.moves, later.origin.Undisturbed outcome move) →
      (∀ result, .answered result ∈ later.notices → result = later.origin.expected outcome) ∧
      (.answered (later.origin.expected outcome) ∉ later.notices →
        ∃ move, later.origin.Undisturbed outcome move ∧
          (last.step? config (.move index move)).isSome = true) ∧
      later.moves.length ≤ 5 * later.origin.queued.length + 4

/-- Everything else that happens around a flight can be left out. -/
theorem Hub.Attainable.isolates {config : BusConfig} {hub last : Hub}
    (attainable : hub.Attainable config) {index : Nat} {voyage : Voyage}
    (sailing : hub.voyages[index]? = some voyage) {incidents : List Incident}
    (ran : hub.run? config incidents = some last) :
    ∃ later, hub.Isolates config last index voyage later incidents := by
  -- The flight does by itself what it did among others, and it settles by itself.
  obtain ⟨later, arrived, origin, alone⟩ := Hub.run?_alone sailing sailing ran
  have free : ∀ move, (last.step? config (.move index move)).isSome =
      (move.isGenuine && (later.flight.step? move).isSome) := by
    intro move
    rw [Hub.step?_move config arrived, ← Voyage.extend?_isSome]
    cases move.isGenuine with
    | false => rfl
    | true => simp
  have fresh := ((attainable.run? ran).sound.voyages later (List.mem_of_getElem? arrived)).fresh
  refine ⟨later, arrived, origin, alone, free, fun _ => Hub.alive_of_held arrived, ?_⟩
  intro outcome honest undisturbed
  have settles := Flight.settlesTo_expected fresh outcome
  refine ⟨settles.answers later.replayed undisturbed, fun unanswered => ?_,
    settles.bounded later.replayed undisturbed⟩
  obtain ⟨move, left, possible⟩ := settles.progress later.replayed undisturbed unanswered
  have genuine :=
    Flight.genuine_of_undisturbed fresh honest later.replayed undisturbed left possible
  refine ⟨move, left, ?_⟩
  rw [free, genuine, possible]
  rfl

/--
Snapshots isolate dispatches.

A flight comes to the same when everything else that happens once it has begun is left out: it calls
the same handlers and has the same result. It can always go on, and keeps its handlers alive until
then. A publication in the calling thread calls the live subscribers of its type and answers as if
no handler had touched the bus, as long as every call ends in the same way.
-/
theorem snapshot_isolates_dispatch {config : BusConfig} {hub : Hub}
    (attainable : hub.Attainable config) :
    (∀ index voyage, hub.voyages[index]? = some voyage →
      (∃ before : Hub, before.Attainable config ∧ voyage.origin.BegunAt config before) ∧
      ∀ incidents last, hub.run? config incidents = some last →
        ∃ later, hub.Isolates config last index voyage later incidents) ∧
    (hub.registry.closed = false → ∀ depth react event,
      let done := Hub.publication config depth react event hub
      (∃ outcome, EndsAs depth event done.marks outcome) ∧
      ∀ outcome, EndsAs depth event done.marks outcome →
        let alone := Hub.publication config depth (.idle outcome) event hub
        alone.marks = ((hub.registry.live hub.alive event.type).map Entry.subscriber).flatMap
            (fun subscriber =>
              Turn.marks depth event ⟨subscriber, outcome subscriber.handler event⟩) ∧
          done.marks.filter (·.depth = depth) = alone.marks ∧ done.answer = alone.answer) := by
  -- A flight and a publication are isolated for the same reason: both work on a snapshot.
  refine ⟨fun index voyage sailing => ⟨?_, fun incidents last => attainable.isolates sailing⟩,
    fun opened depth react event => ?_⟩
  · exact attainable.begun (List.mem_of_getElem? sailing)
  let live := (hub.registry.live hub.alive event.type).map Entry.subscriber
  have taken : hub.registry.snapshot hub.alive event.type = .ok live := if_neg (by simp [opened])
  obtain ⟨turns, subscribers, own, answered⟩ :=
    Activity.publication_turns config depth taken react
  refine ⟨?_, fun outcome ends => ?_⟩
  · have handlers : (live.map Subscriber.handler).Nodup := attainable.intact.2.snapshot taken
    rw [← subscribers, List.map_map] at handlers
    exact exists_endsAs own handlers
  · obtain ⟨marks, answer⟩ :=
      Activity.publication_idle config depth taken outcome
    -- Each of the turns ends as it would if the handler were idle.
    have same : turns = live.map fun subscriber =>
        ⟨subscriber, outcome subscriber.handler event⟩ := by
      rw [← subscribers, List.map_map]
      refine ((List.map_congr_left fun turn there => ?_).trans (List.map_id _)).symm
      simp only [Function.comp_apply, ends.turn own there, id]
    refine ⟨?_, ?_, ?_⟩
    · rw [marks, List.flatMap_map]
    · rw [own, marks, same]
    · rw [answered, answer, same]

/-- Subscriptions end, handlers lose their owners, and the bus closes, while a flight goes on. -/
def besiegedFlight : List Incident :=
  [.move 0 .launch, .request (.unsubscribe ⟨0, 1, ⟨"order"⟩⟩), .request (.release ⟨1, "mailer"⟩),
    .request (.release ⟨2, "audit"⟩), .request .prune, .move 0 .submit, .request .close,
    .move 0 (.start 1), .move 0 .submit, .move 0 (.start 2)]

/-- Both handlers are called all the same, and are alive as long as they run. -/
theorem besiegedFlight_isolated :
    ∃ hub last voyage later, Hub.Attainable {} hub ∧ hub.voyages[0]? = some voyage ∧
      hub.run? {} besiegedFlight = some last ∧ last.registry.closed = true ∧
      last.alive ⟨2, "audit"⟩ = true ∧
      calls later.notices = [⟨1, 1, "mailer"⟩, ⟨2, 2, "audit"⟩] ∧
      hub.Isolates {} last 0 voyage later besiegedFlight := by
  -- All that is needed of the run is evaluated at once.
  have seen : ((Hub.new 0).run? {} (Hub.pairDispatch [])).bind (fun hub =>
      (hub.run? {} besiegedFlight).bind fun last => last.voyages[0]?.map fun later =>
        (hub.voyages.length, last.registry.closed, last.alive ⟨2, "audit"⟩,
          calls later.notices)) =
      some (1, true, true, [⟨1, 1, "mailer"⟩, ⟨2, 2, "audit"⟩]) := by decide +kernel
  obtain ⟨hub, began, seen⟩ := Option.bind_eq_some_iff.mp seen
  obtain ⟨last, ran, seen⟩ := Option.bind_eq_some_iff.mp seen
  obtain ⟨later, arrived, seen⟩ := Option.map_eq_some_iff.mp seen
  simp only [Prod.mk.injEq] at seen
  obtain ⟨sole, closed, alive, called⟩ := seen
  have attainable := ((Hub.Reachable.new 0).run? began).attainable
  have sailing : hub.voyages[0]? = some hub.voyages[0] := List.getElem?_eq_getElem (by omega)
  obtain ⟨_, isolated⟩ :=
    ((snapshot_isolates_dispatch attainable).1 0 _ sailing).2 besiegedFlight last ran
  obtain rfl := Option.some.inj (arrived.symm.trans isolated.arrived)
  exact ⟨hub, last, _, later, attainable, sailing, ran, closed, alive, called, isolated⟩

end EventBus
