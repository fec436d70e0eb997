import EventBus.Proofs.Tracker.Log
import EventBus.Proofs.Tracker.Waits

/-!
The order of the log and the order in which waits are served. A call appends its event first and
sends it later, so another call can overtake it in between: the two orders agree for a wait unless
a call was under way when the wait began, or when the event of its answer was appended.
-/

namespace EventBus.Watch

/-- The first event of a type that has been appended since a wait began, with its call. -/
def firstLogged (id : Nat) (type : EventType) (history : List Happening) : Option (Nat × Event) :=
  (appended (since (.began id) history)).find? (·.2.type == type)

/-- Whether a call has appended its event and not sent it. -/
def underWay (call : Nat) (history : List Happening) : Bool :=
  (appended history).any (·.1 == call) && !(sent history).any (·.call == call)

/-- A call is under way if it has appended its event and not sent it. -/
theorem underWay_iff {call : Nat} {history : List Happening} :
    underWay call history = true ↔
      (∃ event, (call, event) ∈ appended history) ∧
      ∀ arrival ∈ sent history, arrival.call ≠ call := by
  -- Both sides are tests of the lists.
  simp [underWay]

/-- Every wait begins once, and every call appends once and sends once after that. -/
structure Orderly (history : List Happening) : Prop where
  begunOnce : (begun history).Nodup
  appendedOnce : ((appended history).map Prod.fst).Nodup
  sentOnce : ((sent history).map Arrival.call).Nodup
  appendedFirst : ∀ arrival past, .sent arrival :: past <:+ history →
    (arrival.call, arrival.event) ∈ appended past

namespace Orderly

variable {history past : List Happening} {id : Nat} {type : EventType} {arrival : Arrival}

/-- However a tracker is used, its calls do one thing after the other. -/
theorem of_leads {maxLen : Nat} {source : Option String} {watch : Watch}
    (used : (start maxLen source).Leads watch) : Orderly watch.history := by
  -- All clauses but the last hold of the calls and waits; the last is read off the sending move.
  have recorded := (Recorded.start maxLen source).leads used
  refine ⟨((Sound.start maxLen source).leads used).begunOnce, recorded.appendedOnce,
    recorded.sentOnce, fun arrival past there => ?_⟩
  obtain ⟨before, after, move, reached, happened, rfl, history, _⟩ := used.happened rfl there
  cases step_of_step? happened with
  | send called =>
    cases history
    have recorded := (Recorded.start maxLen source).leads reached
    exact (recorded.appended _ _).mpr ⟨1, Nat.le.refl, called⟩
  | _ => simp at history

/-- What is orderly has always been so. -/
theorem earlier (orderly : Orderly history) (there : past <:+ history) : Orderly past := by
  obtain ⟨new, rfl⟩ := there
  obtain ⟨begunOnce, appendedOnce, sentOnce, appendedFirst⟩ := orderly
  -- Each list of an earlier moment is the front of the later one.
  rw [begun_append] at begunOnce
  rw [appended_append, List.map_append] at appendedOnce
  rw [sent_append, List.map_append] at sentOnce
  exact ⟨begunOnce.of_append_left, appendedOnce.of_append_left, sentOnce.of_append_left,
    fun arrival older earlier =>
      appendedFirst arrival older (earlier.trans (List.suffix_append _ _))⟩

/-- What has been sent has been appended. -/
theorem appended_of_sent (orderly : Orderly history) (gone : arrival ∈ sent history) :
    (arrival.call, arrival.event) ∈ appended history := by
  -- At the moment of sending it had been appended, and the history keeps that.
  obtain ⟨new, older, rfl⟩ := List.append_of_mem (mem_sent_iff.mp gone)
  have there := List.suffix_append new (.sent arrival :: older)
  exact appended_subset there.subset (orderly.appendedFirst arrival older there)

/-- A call has one event. -/
theorem event_eq (orderly : Orderly history) {call : Nat} {event other : Event}
    (logged : (call, event) ∈ appended history) (again : (call, other) ∈ appended history) :
    event = other :=
  (Prod.mk.inj (List.inj_on_of_nodup_map orderly.appendedOnce logged again rfl)).2

/-- What a call has appended before it does not append again. -/
theorem not_mem_appended (orderly : Orderly (past ++ history)) {call : Nat} {event other : Event}
    (logged : (call, event) ∈ appended history) : (call, other) ∉ appended past := fun again => by
  -- The call would be listed twice.
  have once := orderly.appendedOnce
  rw [appended_append, List.map_append, List.nodup_append] at once
  exact once.2.2 call (List.mem_map_of_mem logged) call (List.mem_map_of_mem again) rfl

/-- A call that appends its event had not appended before. -/
theorem not_mem_older {call : Nat} {event : Event}
    (orderly : Orderly (.appended call event :: past)) (other : Event) :
    (call, other) ∉ appended past := fun logged => by
  -- The entry is the new part of a history of two.
  have again : Orderly ([.appended call event] ++ past) := orderly
  exact again.not_mem_appended logged List.mem_cons_self

/-- A call that sends its event has been under way. -/
theorem underWay_of_sent (orderly : Orderly (.sent arrival :: past)) :
    underWay arrival.call past = true := by
  -- Sending is done once, so nothing was sent by this call before.
  have once := orderly.sentOnce
  rw [sent, List.map_append, List.nodup_append] at once
  exact underWay_iff.mpr ⟨⟨_, orderly.appendedFirst arrival past List.suffix_rfl⟩,
    fun other there same => once.2.2 _ (List.mem_map_of_mem there) _ List.mem_cons_self same⟩

end Orderly

section Wait

variable {past older outset : List Happening} {id : Nat} {type : EventType} {arrival : Arrival}

/-- The first event that has been sent of a type was sent at some moment, and none before. -/
theorem sent_of_firstMatch (begun : .began id ∈ past)
    (found : firstMatch id type past = some arrival) :
    arrival.event.type = type ∧ ∃ before, .sent arrival :: before <:+ past ∧
      .began id ∈ before ∧ firstMatch id type before = none := by
  -- Going back in time, this is the last moment at which there is a first event.
  induction past with
  | nil => cases begun
  | cons happening past ih =>
    by_cases starts : happening = .began id
    · subst starts
      simp [firstMatch, arrivals, sent] at found
    · -- The event is the latest happening itself, or was there before it.
      have older : .began id ∈ past := by simpa [Ne.symm starts] using begun
      rw [firstMatch, ← List.singleton_append, arrivals_append (by simpa using Ne.symm starts),
        List.find?_append, ← firstMatch] at found
      cases earlier : firstMatch id type past with
      | some first =>
        rw [earlier, Option.some_or] at found
        obtain ⟨typed, before, there, started, nothing⟩ := ih older (earlier.trans found)
        exact ⟨typed, before, there.trans (List.suffix_cons _ _), started, nothing⟩
      | none =>
        rw [earlier, Option.none_or] at found
        cases happening with
        | sent other =>
          obtain rfl := List.mem_singleton.mp (List.mem_of_find?_eq_some found)
          exact ⟨by simpa using List.find?_some found, past, List.suffix_rfl, older, earlier⟩
        | _ => cases found

/-- A wait that has begun divides what has happened, and so what was appended and sent. -/
theorem since_of_began (orderly : Orderly past) (began : .began id :: outset <:+ past) :
    past = since (.began id) past ++ .began id :: outset ∧
      appended past = appended outset ++ appended (since (.began id) past) ∧
      sent past = sent outset ++ arrivals id past := by
  obtain ⟨recent, rfl⟩ := began
  have fresh := began_once orderly.begunOnce List.mem_cons_self
  -- The history splits at the beginning of the wait.
  rw [arrivals, since_append fresh, since_cons_self, List.append_nil, appended_append, sent_append]
  exact ⟨rfl, rfl, rfl⟩

/-- What was appended before a wait began is not appended again after that. -/
theorem not_mem_since (orderly : Orderly past) (began : .began id :: outset <:+ past)
    {call : Nat} {event other : Event} (before : (call, other) ∈ appended outset) :
    (call, event) ∉ appended (since (.began id) past) := by
  -- The call would append in both parts of the history.
  obtain ⟨whole, -, -⟩ := since_of_began orderly began
  rw [whole] at orderly
  exact orderly.not_mem_appended before

/-- As long as nothing of its type has been sent to a wait, all that was appended is under way. -/
theorem underWay_of_logged (orderly : Orderly past) (begun : .began id ∈ past)
    (nothing : firstMatch id type past = none) {call : Nat} {event : Event}
    (logged : (call, event) ∈ appended (since (.began id) past)) (typed : event.type = type) :
    underWay call past = true := by
  obtain ⟨recent, outset, split⟩ := List.append_of_mem begun
  have began : .began id :: outset <:+ past := ⟨recent, split.symm⟩
  obtain ⟨-, appends, sends⟩ := since_of_began orderly began
  have whole : (call, event) ∈ appended past := appends ▸ List.mem_append_right _ logged
  refine underWay_iff.mpr ⟨⟨event, whole⟩, fun arrival gone same => ?_⟩
  subst same
  have again := orderly.appended_of_sent gone
  -- What was sent before had been appended before, and what was sent since is of another type.
  rw [sends] at gone
  rcases List.mem_append.mp gone with before | since
  · have older := orderly.earlier ((List.suffix_cons _ _).trans began)
    exact not_mem_since orderly began (older.appended_of_sent before) logged
  · rw [orderly.event_eq whole again] at typed
    exact List.find?_eq_none.mp nothing arrival since (beq_iff_eq.mpr typed)

/-- What was not sent before a wait began was appended since, unless it was under way then. -/
theorem mem_since_iff (orderly : Orderly past) (began : .began id :: outset <:+ past) {call : Nat}
    {event : Event} (logged : (call, event) ∈ appended past)
    (unsent : ∀ arrival ∈ sent outset, arrival.call ≠ call) :
    (call, event) ∈ appended (since (.began id) past) ↔ underWay call outset = false := by
  obtain ⟨-, appends, -⟩ := since_of_began orderly began
  -- A call is under way if it has appended and not sent; here it is known not to have sent.
  rw [← Bool.not_eq_true, underWay_iff]
  constructor
  · rintro since ⟨⟨other, before⟩, _⟩
    exact not_mem_since orderly began before since
  · intro resting
    rw [appends] at logged
    exact (List.mem_append.mp logged).resolve_left fun before =>
      resting ⟨⟨event, before⟩, unsent⟩

/-- What is appended is the first of its type unless there is an earlier one. -/
theorem firstLogged_eq (orderly : Orderly past) {call : Nat} {event : Event}
    (appending : .appended call event :: older <:+ past) (begun : .began id ∈ older)
    (typed : event.type = type) :
    firstLogged id type past = (firstLogged id type older).or (some (call, event)) := by
  obtain ⟨later, rfl⟩ := appending
  rw [List.append_cons] at orderly ⊢
  -- The search goes on into the new part only where it finds nothing in the old one.
  rw [firstLogged, since_append (began_once orderly.begunOnce begun), appended_append,
    List.find?_append, ← firstLogged, appended_append, List.find?_append]
  simp [appended, typed]

/-- An event is the first of its type in the log exactly if no other was under way before it. -/
theorem firstLogged_iff (orderly : Orderly past) {call : Nat} {event : Event}
    (appending : .appended call event :: older <:+ past) (begun : .began id ∈ older)
    (typed : event.type = type) (nothing : firstMatch id type older = none) :
    firstLogged id type past = some (call, event) ↔
      ∀ call event, (call, event) ∈ appended (since (.began id) older) →
        event.type = type → underWay call older = false := by
  have appends := orderly.earlier appending
  have before := appends.earlier (List.suffix_cons _ _)
  -- Either nothing of the type was appended between the two moments, or something was and hides it.
  rw [firstLogged_eq orderly appending begun typed]
  cases earlier : firstLogged id type older with
  | none =>
    rw [Option.none_or, eq_self_iff_true, true_iff]
    exact fun other content there same =>
      absurd (beq_iff_eq.mpr same) (List.find?_eq_none.mp earlier _ there)
  | some first =>
    have there := List.mem_of_find?_eq_some earlier
    have same : first.2.type = type := by simpa using List.find?_some earlier
    have overtaken := underWay_of_logged before begun nothing there same
    rw [Option.some_or, Option.some_inj]
    constructor
    · rintro rfl
      -- The call would have appended its event twice.
      exact absurd (appended_subset (since_isPrefix _ _).subset there) (appends.not_mem_older event)
    · intro resting
      rw [resting first.1 first.2 there same] at overtaken
      cases overtaken

/-- How the answer of a wait came about, in the light of what the log shows. -/
structure Answered (id : Nat) (type : EventType) (arrival : Arrival)
    (past before older outset : List Happening) : Prop where
  /-- Its event was sent before the wait ended. -/
  sent : .sent arrival :: before <:+ past
  /-- Its event was appended before it was sent. -/
  appended : .appended arrival.call arrival.event :: older <:+ before
  /-- The wait began before the event was sent. -/
  began : .began id :: outset <:+ before
  typed : arrival.event.type = type
  /-- No event of the type was sent to the wait before. -/
  first : firstMatch id type before = none
  /-- What the wait skips was under way when the event was sent. -/
  skipped : ∀ call event, (call, event) ∈ Watch.appended (since (.began id) before) →
    event.type = type → underWay call before = true
  /-- The event had not been appended when the wait began unless it was under way then. -/
  new : (arrival.call, arrival.event) ∈ Watch.appended (since (.began id) past) ↔
    underWay arrival.call outset = false
  /-- It is the first in the log unless it was under way then, or another when it was appended. -/
  inOrder : firstLogged id type past = some (arrival.call, arrival.event) ↔
    underWay arrival.call outset = false ∧
    ∀ call event, (call, event) ∈ Watch.appended (since (.began id) older) →
      event.type = type → underWay call older = false

/-- The first event that is sent to a wait answers it, and whatever it skips was under way. -/
theorem answered_of_firstMatch (orderly : Orderly past) (begun : .began id ∈ past)
    (found : firstMatch id type past = some arrival) :
    ∃ before older outset, Answered id type arrival past before older outset := by
  obtain ⟨typed, before, sending, begun, nothing⟩ := sent_of_firstMatch begun found
  have there := (List.suffix_cons _ _).trans sending
  have sends := orderly.earlier sending
  have sofar := orderly.earlier there
  have logged := sends.appendedFirst arrival before List.suffix_rfl
  -- These are the moments at which the wait began and the event was appended.
  obtain ⟨recent, outset, split⟩ := List.append_of_mem begun
  have began : .began id :: outset <:+ before := ⟨recent, split.symm⟩
  obtain ⟨faster, older, split⟩ := List.append_of_mem (mem_appended_iff.mp logged)
  have appending : .appended arrival.call arrival.event :: older <:+ before := ⟨faster, split.symm⟩
  have unsent : ∀ other ∈ sent outset, other.call ≠ arrival.call := fun other gone =>
    (underWay_iff.mp sends.underWay_of_sent).2 other
      (sent_subset ((List.suffix_cons _ _).trans began) gone)
  have new := mem_since_iff orderly (began.trans there) (appended_subset there.subset logged) unsent
  refine ⟨before, older, outset, sending, appending, began, typed, nothing,
    fun _ _ => underWay_of_logged sofar begun nothing, new, ?_⟩
  -- Either the event was appended after the wait began, or the log contained it then.
  rcases List.suffix_or_suffix_of_suffix began appending with late | early
  · have inside := (List.suffix_cons_iff.mp late).resolve_left nofun
    have begun := inside.subset List.mem_cons_self
    have resting : underWay arrival.call outset = false := Bool.eq_false_iff.mpr fun contained => by
      obtain ⟨⟨other, earlier⟩, _⟩ := underWay_iff.mp contained
      have earlier := appended_subset ((List.suffix_cons _ _).trans inside).subset earlier
      exact (sofar.earlier appending).not_mem_older other earlier
    have nothing := firstMatch_earlier sofar.begunOnce ((List.suffix_cons _ _).trans appending)
      begun nothing
    rw [resting, eq_self_iff_true, true_and]
    exact firstLogged_iff orderly (appending.trans there) begun typed nothing
  · have earlier := (List.suffix_cons_iff.mp early).resolve_left nofun
    have contained : underWay arrival.call outset = true :=
      underWay_iff.mpr ⟨⟨_, mem_appended_iff.mpr (earlier.subset List.mem_cons_self)⟩, unsent⟩
    rw [contained] at new ⊢
    simp only [reduceCtorEq, iff_false, false_and] at new ⊢
    exact fun first => new (List.mem_of_find?_eq_some first)

end Wait

/--
A wait ends with the first event of its type that is sent to it. Of the events that are appended
after the wait began, this is the first in the log unless calls were under way at the same time.
-/
theorem answer_is_first_sent {maxLen : Nat} {source : Option String} {moves : List Move}
    {watch : Watch} {id : Nat} {wait : Wait} {event : Event} {time : Nat} {past : List Happening}
    (ran : (start maxLen source).replay? moves = some watch)
    (begun : watch.waits[id]? = some wait)
    (keepsUp : KeepsUp watch.tracker.capacity id watch.history)
    (ended : .ended id (some event) time :: past <:+ watch.history) :
    watch.tracker.log <:+ (appended watch.history).map Prod.snd ∧
    ∃ arrival before older outset, arrival.event = event ∧
      Answered id wait.type arrival past before older outset := by
  have used := leads_of_replay? ran
  have sound := (Sound.start maxLen source).leads used
  have orderly := (Orderly.of_leads used).earlier ((List.suffix_cons _ _).trans ended)
  have finds := findsFirst used begun keepsUp
  obtain ⟨arrival, rfl, found, _⟩ := finds.resolves event time past ended
  have started := (isOpen_iff.mp (finds.ends _ _ _ ended)).1
  -- The moment at which the wait ended shows which arrival was the first.
  obtain ⟨before, older, outset, answered⟩ := answered_of_firstMatch orderly started found
  exact ⟨(Windowed.of_leads used).log_suffix, arrival, before, older, outset, rfl, answered⟩

/-- Two calls overlap while a client waits, and the second one sends its event first. -/
def overtakenCall (first second : Event) : List Move :=
  [.await first.type 10, .handle first, .handle second, .act 0, .act 1, .act 1, .poll 0, .act 0]

/-- The wait ends with the event of the second call, since the first call was under way. -/
theorem overtakenCall_answered :
    ∃ first second : Event, ∃ watch : Watch,
      (start 1 none).replay? (overtakenCall first second) = some watch ∧
      watch.tracker.log <:+ [first, second] ∧
      ∃ arrival before older outset, arrival.event = second ∧
        Answered 0 first.type arrival (watch.history.drop 2) before older outset := by
  let first : Event := ⟨⟨0⟩, ⟨"order"⟩, .null, .epoch, none⟩
  let second : Event := ⟨⟨1⟩, ⟨"order"⟩, .null, .epoch, none⟩
  -- The whole run is evaluated, and the history names every happening of it.
  have seen : ((start 1 none).replay? (overtakenCall first second)).map
      (fun watch => (watch.tracker.maxLen, watch.waits, watch.history)) =
        some (1, [⟨first.type, 10⟩],
          [.sent ⟨0, first, 0⟩, .ended 0 (some second) 0, .sent ⟨1, second, 0⟩,
            .appended 1 second, .appended 0 first, .began 0]) := by decide +kernel
  obtain ⟨watch, ran, seen⟩ := Option.map_eq_some_iff.mp seen
  obtain ⟨maxLen, waits, history⟩ : _ ∧ _ ∧ _ := by simpa only [Prod.mk.injEq] using seen
  have capacity : watch.tracker.capacity = 16 := Tracker.capacity_of_short (by omega)
  have begun : watch.waits[0]? = some ⟨first.type, 10⟩ := by rw [waits]; rfl
  obtain ⟨log, answered⟩ := answer_is_first_sent ran begun
    (by rw [capacity, history]; decide +kernel) (history ▸ List.suffix_cons _ _)
  rw [history] at log
  refine ⟨first, second, watch, ran, log, ?_⟩
  rw [history]
  exact answered

/-- A wait ends with another event than the first of the log, or with one that was there before. -/
theorem overtakenCall_misleads :
    (∃ first second : Event, ∃ watch : Watch, first ≠ second ∧
      (start 2 none).replay? (overtakenCall first second) = some watch ∧
      KeepsUp watch.tracker.capacity 0 watch.history ∧ watch.tracker.log = [first, second] ∧
      firstLogged 0 first.type watch.history = some (0, first) ∧
      .ended 0 (some second) 0 ∈ watch.history) ∧
    ∃ event : Event, ∃ outset watch : Watch,
      (start 2 none).replay? [.handle event, .act 0] = some outset ∧
      outset.tracker.log = [event] ∧
      outset.replay? [.await event.type 10, .act 0, .poll 0] = some watch ∧
      KeepsUp watch.tracker.capacity 0 watch.history ∧
      .ended 0 (some event) 0 ∈ watch.history := by
  let event (number : Nat) : Event := ⟨⟨number⟩, ⟨"order"⟩, .null, .epoch, none⟩
  -- The first call is overtaken by the second between its append and its send.
  constructor
  · have seen : ((start 2 none).replay? (overtakenCall (event 0) (event 1))).map
        (fun watch => (watch.tracker.maxLen, watch.tracker.log, watch.history)) =
          some (2, [event 0, event 1],
            [.sent ⟨0, event 0, 0⟩, .ended 0 (some (event 1)) 0, .sent ⟨1, event 1, 0⟩,
              .appended 1 (event 1), .appended 0 (event 0), .began 0]) := by decide +kernel
    obtain ⟨watch, ran, seen⟩ := Option.map_eq_some_iff.mp seen
    obtain ⟨maxLen, log, history⟩ : _ ∧ _ ∧ _ := by simpa only [Prod.mk.injEq] using seen
    have capacity : watch.tracker.capacity = 16 := Tracker.capacity_of_short (by omega)
    refine ⟨event 0, event 1, watch, by decide, ran, ?_, log, ?_⟩
    · rw [capacity, history]
      decide +kernel
    · rw [history]
      decide +kernel
  · -- The event is in the log already when the wait begins, and is sent to it afterwards.
    have seen : ((start 2 none).replay? [.handle (event 0), .act 0]).bind (fun outset =>
        (outset.replay? [.await (event 0).type 10, .act 0, .poll 0]).map fun watch =>
          (outset.tracker.log, watch.tracker.maxLen, watch.history)) =
            some ([event 0], 2, [.ended 0 (some (event 0)) 0, .sent ⟨0, event 0, 0⟩, .began 0,
              .appended 0 (event 0)]) := by decide +kernel
    obtain ⟨outset, ran, seen⟩ := Option.bind_eq_some_iff.mp seen
    obtain ⟨watch, goes, seen⟩ := Option.map_eq_some_iff.mp seen
    obtain ⟨log, maxLen, history⟩ : _ ∧ _ ∧ _ := by simpa only [Prod.mk.injEq] using seen
    have capacity : watch.tracker.capacity = 16 := Tracker.capacity_of_short (by omega)
    refine ⟨event 0, outset, watch, ran, log, goes, ?_, ?_⟩
    · rw [capacity, history]
      decide +kernel
    · rw [history]
      decide +kernel

end EventBus.Watch
