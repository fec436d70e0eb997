import EventBus.Proofs.Tracker.Watch
import EventBus.Proofs.Tracker.Window
import Mathlib.Data.List.Infix

/-!
What the history of a tracker tells of its waits. Every wait that is not over has in its inbox the
latest of the events that were sent since it began or last looked.
-/

namespace EventBus.Watch

/-- What has happened since something happened last. -/
def since (mark : Happening) (history : List Happening) : List Happening :=
  history.takeWhile (· ≠ mark)

/-- The waits that have begun, in this order. -/
def begun : List Happening → List Nat
  | [] => []
  | .began id :: past => begun past ++ [id]
  | _ :: past => begun past

/-- The calls that have appended their events to the log, in this order. -/
def appended : List Happening → List (Nat × Event)
  | [] => []
  | .appended call event :: past => appended past ++ [(call, event)]
  | _ :: past => appended past

/-- What has been sent to the waits, in the order of sending. -/
def sent : List Happening → List Arrival
  | [] => []
  | .sent arrival :: past => sent past ++ [arrival]
  | _ :: past => sent past

/-- What has been sent since a wait began. -/
def arrivals (id : Nat) (history : List Happening) : List Arrival :=
  sent (since (.began id) history)

/-- The first event of a type that has been sent since a wait began. -/
def firstMatch (id : Nat) (type : EventType) (history : List Happening) : Option Arrival :=
  (arrivals id history).find? (·.event.type == type)

/-- A wait is over when it ends, and when it is given up. -/
def isOver (id : Nat) (history : List Happening) : Bool :=
  history.any fun
    | .ended other _ _ => other == id
    | .abandoned other => other == id
    | _ => false

/-- Whether a wait has begun and is not over. -/
def isOpen (id : Nat) (history : List Happening) : Bool :=
  history.contains (.began id) && !isOver id history

/-- What has been sent since a wait began or last looked. -/
def unseen (id : Nat) : List Happening → List Arrival
  | [] => []
  | .began other :: past => if other = id then [] else unseen id past
  | .looked other :: past => if other = id then [] else unseen id past
  | .sent arrival :: past => unseen id past ++ [arrival]
  | _ :: past => unseen id past

/-- As long as a wait is open, there is room for everything that it has not looked at. -/
def KeepsUp (room id : Nat) (history : List Happening) : Prop :=
  ∀ past ∈ history.tails, isOpen id past = true → (unseen id past).length ≤ room

instance (room id : Nat) (history : List Happening) : Decidable (KeepsUp room id history) :=
  inferInstanceAs (Decidable (∀ past ∈ history.tails, _))

section History

variable {mark happening : Happening} {new past : List Happening} {id : Nat} {type : EventType}

/-- Nothing has happened since what has just happened. -/
@[simp] theorem since_cons_self : since mark (mark :: past) = [] := by simp [since]

/-- Anything else has happened since. -/
theorem since_cons_of_ne (differs : happening ≠ mark) :
    since mark (happening :: past) = happening :: since mark past := by simp [since, differs]

/-- What goes on without a mark has happened since that mark. -/
theorem since_append (absent : mark ∉ new) : since mark (new ++ past) = new ++ since mark past :=
  -- The walk back in time does not stop before it has passed all that is new.
  List.takeWhile_append_of_pos fun happening there => by
    simpa using fun same : happening = mark => absent (same ▸ there)

/-- What has happened since something is the end of what has happened. -/
theorem since_isPrefix (mark : Happening) (history : List Happening) :
    since mark history <+: history := List.takeWhile_prefix _

/-- What is sent later comes behind what was sent before. -/
theorem sent_append (new past : List Happening) : sent (new ++ past) = sent past ++ sent new := by
  -- A history has its latest entry first, so every entry of the new part comes behind the old ones.
  induction new with
  | nil => exact (List.append_nil _).symm
  | cons happening rest ih => cases happening <;> simp [sent, ih]

/-- What is appended later comes behind what was appended before. -/
theorem appended_append (new past : List Happening) :
    appended (new ++ past) = appended past ++ appended new := by
  -- As with what is sent, the latest entry comes last.
  induction new with
  | nil => exact (List.append_nil _).symm
  | cons happening rest ih => cases happening <;> simp [appended, ih]

/-- What begins later comes behind what began before. -/
theorem begun_append (new past : List Happening) :
    begun (new ++ past) = begun past ++ begun new := by
  -- As with what is sent, the latest entry comes last.
  induction new with
  | nil => exact (List.append_nil _).symm
  | cons happening rest ih => cases happening <;> simp [begun, ih]

/-- What has begun is what the history says to have begun. -/
theorem mem_begun_iff {history : List Happening} :
    id ∈ begun history ↔ .began id ∈ history := by
  -- Only an entry of this kind adds an identifier.
  induction history with
  | nil => simp [begun]
  | cons happening past ih => cases happening <;> simp [begun, ih, or_comm]

/-- Where no wait begins twice, none has begun twice before. -/
theorem nodup_begun_of_suffix {history : List Happening} (earlier : past <:+ history)
    (once : (begun history).Nodup) : (begun past).Nodup := by
  -- The waits of the past are the first ones of the list, and a part of it repeats nothing either.
  obtain ⟨new, rfl⟩ := earlier
  rw [begun_append, List.nodup_append] at once
  exact once.1

/-- Where no wait begins twice, none begins again. -/
theorem began_once (once : (begun (new ++ past)).Nodup) (before : .began id ∈ past) :
    .began id ∉ new := fun again => by
  -- The identifier would stand in both parts of the list.
  rw [begun_append, List.nodup_append] at once
  exact once.2.2 id (mem_begun_iff.mpr before) id (mem_begun_iff.mpr again) rfl

/-- What has been sent is what the history says to have been sent. -/
theorem mem_sent_iff {arrival : Arrival} {history : List Happening} :
    arrival ∈ sent history ↔ .sent arrival ∈ history := by
  -- Only an entry of this kind adds an arrival.
  induction history with
  | nil => simp [sent]
  | cons happening past ih => cases happening <;> simp [sent, ih, or_comm]

/-- What has been appended is what the history says to have been appended. -/
theorem mem_appended_iff {call : Nat} {event : Event} {history : List Happening} :
    (call, event) ∈ appended history ↔ .appended call event ∈ history := by
  -- Only an entry of this kind adds an event.
  induction history with
  | nil => simp [appended]
  | cons happening past ih => cases happening <;> simp [appended, ih, or_comm]

/-- What has been sent stays sent. -/
theorem sent_subset {history : List Happening} (earlier : past <:+ history) :
    sent past ⊆ sent history := fun _ there =>
  mem_sent_iff.mpr (earlier.subset (mem_sent_iff.mp there))

/-- What has been appended stays appended. -/
theorem appended_subset {history : List Happening} (earlier : past ⊆ history) :
    appended past ⊆ appended history := fun _ there =>
  mem_appended_iff.mpr (earlier (mem_appended_iff.mp there))

/-- What is sent while a wait goes on arrives behind what arrived before. -/
theorem arrivals_append (absent : .began id ∉ new) :
    arrivals id (new ++ past) = arrivals id past ++ sent new := by
  -- Without a new beginning, the time since the wait began just gets longer.
  rw [arrivals, since_append absent, sent_append]
  rfl

/-- The first event of a type stays the first. -/
theorem firstMatch_later {history : List Happening} (once : (begun history).Nodup)
    (earlier : past <:+ history) (before : .began id ∈ past) {arrival : Arrival}
    (found : firstMatch id type past = some arrival) :
    firstMatch id type history = some arrival := by
  -- The events that arrive later come behind, so the search finds the same one.
  obtain ⟨new, rfl⟩ := earlier
  rw [firstMatch] at found
  rw [firstMatch, arrivals_append (began_once once before), List.find?_append, found,
    Option.some_or]

/-- Where there is no event of a type, there was none. -/
theorem firstMatch_earlier {history : List Happening} (once : (begun history).Nodup)
    (earlier : past <:+ history) (before : .began id ∈ past)
    (nothing : firstMatch id type history = none) : firstMatch id type past = none :=
  -- If there had been one, it would still be the first.
  Option.eq_none_iff_forall_ne_some.mpr fun arrival found => by
    rw [firstMatch_later once earlier before found] at nothing
    cases nothing

/-- A wait is open if it has begun and is not over. -/
theorem isOpen_iff {history : List Happening} :
    isOpen id history = true ↔ .began id ∈ history ∧ isOver id history = false := by
  -- Both parts are tests of the history.
  rw [isOpen, Bool.and_eq_true, List.contains_iff_mem, Bool.not_eq_true']

/-- A wait that keeps up has always kept up. -/
theorem KeepsUp.earlier {room : Nat} {history : List Happening} (keepsUp : KeepsUp room id history)
    (before : past <:+ history) : KeepsUp room id past := fun older there =>
  keepsUp older ((List.mem_tails _ _).mpr (((List.mem_tails _ _).mp there).trans before))

end History

/-- The waits of a tracker are those that the history leaves open, each with what it has to see. -/
structure Sound (watch : Watch) : Prop where
  numbered : begun watch.history = List.range watch.waits.length
  finished : ∀ id, isOver id watch.history = true → id < watch.waits.length
  waiting : watch.tracker.waiters.map Waiter.id =
    (List.range watch.waits.length).filter (isOpen · watch.history)
  inbox : ∀ waiter ∈ watch.tracker.waiters,
    (watch.waits[waiter.id]?).map Wait.type = some waiter.type ∧
    waiter.inbox =
      ((unseen waiter.id watch.history).map Arrival.event).rtake watch.tracker.capacity

namespace Sound

variable {watch later : Watch} {id : Nat}

/-- Nothing is told of a tracker that nobody has used. -/
theorem start (maxLen : Nat) (source : Option String) : (Watch.start maxLen source).Sound where
  -- Without waits and without happenings there is nothing to compare.
  numbered := rfl
  finished := nofun
  waiting := rfl
  inbox := nofun

/-- The waits that have begun are those that are kept. -/
theorem began_iff (sound : watch.Sound) : .began id ∈ watch.history ↔ id < watch.waits.length := by
  -- The waits are numbered in the order in which they begin.
  rw [← mem_begun_iff, sound.numbered, List.mem_range]

/-- No wait begins twice. -/
theorem begunOnce (sound : watch.Sound) : (Watch.begun watch.history).Nodup := by
  -- The waits are numbered, and a number is used once.
  rw [sound.numbered]
  exact List.nodup_range

/-- The waits that are open have begun. -/
theorem begun (sound : watch.Sound) (opened : isOpen id watch.history = true) :
    id < watch.waits.length :=
  sound.began_iff.mp (isOpen_iff.mp opened).1

/-- Waits are told apart by their ids. -/
theorem distinct (sound : watch.Sound) : (watch.tracker.waiters.map Waiter.id).Nodup := by
  -- The tracker keeps those of the numbers that are open, in their order.
  rw [sound.waiting]
  exact List.nodup_range.filter _

/-- A wait is among those of the tracker exactly if it is open. -/
theorem mem_waiting_iff (sound : watch.Sound) :
    id ∈ watch.tracker.waiters.map Waiter.id ↔ isOpen id watch.history = true := by
  -- Only a wait that was kept can be open.
  rw [sound.waiting, List.mem_filter, List.mem_range]
  exact ⟨And.right, fun opened => ⟨sound.begun opened, opened⟩⟩

/-- A wait that is open is found at the tracker. -/
theorem find?_of_isOpen (sound : watch.Sound) (opened : isOpen id watch.history = true) :
    ∃ waiter ∈ watch.tracker.waiters, waiter.id = id ∧
      watch.tracker.waiters.find? (·.id == id) = some waiter := by
  -- The search finds the first waiter of this id, which is the only one.
  obtain ⟨waiter, there, same⟩ := List.mem_map.mp (sound.mem_waiting_iff.mpr opened)
  obtain ⟨found, present⟩ : ∃ found, watch.tracker.waiters.find? (·.id == id) = some found :=
    Option.isSome_iff_exists.mp (List.find?_isSome.mpr ⟨waiter, there, beq_iff_eq.mpr same⟩)
  exact ⟨found, List.mem_of_find?_eq_some present, by simpa using List.find?_some present, present⟩

/-- What is found at the tracker is a wait that is open. -/
theorem isOpen_of_find? (sound : watch.Sound) {waiter : Waiter}
    (present : watch.tracker.waiters.find? (·.id == id) = some waiter) :
    waiter ∈ watch.tracker.waiters ∧ waiter.id = id ∧ isOpen id watch.history = true := by
  -- It is one of the waiters of the tracker, and these are the open waits.
  have there := List.mem_of_find?_eq_some present
  have same : waiter.id = id := by simpa using List.find?_some present
  exact ⟨there, same, sound.mem_waiting_iff.mp (same ▸ List.mem_map_of_mem there)⟩

/-- When a wait is over, those that are open are all others. -/
theorem forget (sound : watch.Sound) {happening : Happening} (opened : isOpen id watch.history)
    (closes : ∀ other past, isOver other (happening :: past) = (id == other || isOver other past))
    (keeps : ∀ other past, unseen other (happening :: past) = unseen other past)
    (fresh : ∀ past, Watch.begun (happening :: past) = Watch.begun past) :
    Watch.Sound { watch with
      tracker := watch.tracker.forget id, history := happening :: watch.history } where
  numbered := (fresh _).trans sound.numbered
  -- The wait that is over was open, so it was kept, and the others were over before.
  finished other gone := by
    rw [closes, Bool.or_eq_true, beq_iff_eq] at gone
    rcases gone with rfl | gone
    · exact sound.begun opened
    · exact sound.finished other gone
  waiting := by
    have others : ∀ other,
        (isOpen other watch.history && other ≠ id) =
          isOpen other (happening :: watch.history) := fun other => by
      have same : .began other ∈ happening :: watch.history ↔ .began other ∈ watch.history := by
        rw [← mem_begun_iff, fresh, mem_begun_iff]
      rw [Bool.eq_iff_iff, isOpen_iff, closes, same, Bool.and_eq_true, isOpen_iff,
        Bool.or_eq_false_iff, decide_eq_true_iff, beq_eq_false_iff_ne, and_assoc,
        and_comm (a := isOver _ _ = false), ne_comm]
    calc (watch.tracker.waiters.filter (·.id ≠ id)).map Waiter.id
        = (watch.tracker.waiters.map Waiter.id).filter (· ≠ id) := by rw [List.filter_map]; rfl
      _ = ((List.range watch.waits.length).filter (isOpen · watch.history)).filter (· ≠ id) := by
          rw [sound.waiting]
      _ = (List.range watch.waits.length).filter (isOpen · (happening :: watch.history)) := by
          rw [List.filter_filter]
          exact List.filter_congr fun other _ => by rw [Bool.and_comm, others]
  inbox waiter there := by
    -- The other waits have seen what they had seen.
    rw [keeps]
    exact sound.inbox waiter (List.mem_of_mem_filter there)

/-- A wait that begins is open and has nothing to see. -/
theorem await (sound : watch.Sound) (wait : Wait) :
    Watch.Sound { watch with
      tracker := watch.tracker.await watch.waits.length wait.type
      waits := watch.waits ++ [wait]
      history := .began watch.waits.length :: watch.history } where
  numbered := by
    -- The new wait has the next number.
    rw [Watch.begun, sound.numbered, List.length_append, List.length_singleton, List.range_succ]
  finished other gone := by
    rw [List.length_append]
    exact Nat.lt_add_right _ (sound.finished other gone)
  waiting := by
    have others : ∀ other ∈ List.range watch.waits.length,
        isOpen other watch.history =
          isOpen other (.began watch.waits.length :: watch.history) := fun other there => by
      have earlier := List.mem_range.mp there
      simp [isOpen, isOver, Nat.ne_of_lt earlier]
    -- Nobody knows the number yet, so nothing can have ended the wait.
    have opened : isOpen watch.waits.length (.began watch.waits.length :: watch.history) = true :=
      isOpen_iff.mpr ⟨List.mem_cons_self,
        Bool.eq_false_iff.mpr fun gone => Nat.lt_irrefl _ (sound.finished _ gone)⟩
    show (watch.tracker.waiters ++ [_]).map Waiter.id = _
    rw [List.length_append, List.length_singleton, List.range_succ, List.map_append,
      List.filter_append, sound.waiting, List.filter_congr others,
      List.filter_singleton, opened]
    rfl
  inbox waiter there := by
    show ((watch.waits ++ [wait])[waiter.id]?).map Wait.type = _ ∧ _
    rcases List.mem_append.mp there with before | new
    · -- The wait that begins has an id of its own.
      have earlier : waiter.id < watch.waits.length :=
        sound.begun (sound.mem_waiting_iff.mp (List.mem_map_of_mem before))
      rw [List.getElem?_append_left earlier, unseen, if_neg (Nat.ne_of_gt earlier)]
      exact sound.inbox waiter before
    · obtain rfl := List.mem_singleton.mp new
      simp [unseen, List.rtake_nil]

/-- What is sent comes to every wait that is open. -/
theorem broadcast (sound : watch.Sound) (calls : List Call) (arrival : Arrival) :
    Watch.Sound { watch with
      tracker := watch.tracker.broadcast arrival.event
      calls := calls
      history := .sent arrival :: watch.history } where
  numbered := sound.numbered
  finished := sound.finished
  waiting := by
    -- No waiter comes or goes.
    show (watch.tracker.waiters.map _).map Waiter.id = _
    rw [List.map_map]
    exact sound.waiting
  inbox waiter there := by
    -- Every waiter takes the event into its inbox, which keeps the latest ones.
    obtain ⟨before, listed, rfl⟩ := List.mem_map.mp there
    obtain ⟨typed, kept⟩ := sound.inbox before listed
    refine ⟨typed, ?_⟩
    rw [unseen, List.map_append]
    exact Tracker.inbox_receive kept

/-- A wait that has looked at everything has nothing to see. -/
theorem look (sound : watch.Sound) (id : Nat) :
    Watch.Sound { watch with
      tracker := watch.tracker.passOver id, history := .looked id :: watch.history } where
  numbered := sound.numbered
  finished := sound.finished
  waiting := by
    show (watch.tracker.waiters.map _).map Waiter.id = _
    have same : ∀ waiter ∈ watch.tracker.waiters, (Waiter.id ∘ fun other : Waiter =>
        if other.id = id then { other with inbox := [] } else other) waiter = waiter.id :=
      fun waiter _ => by by_cases same : waiter.id = id <;> simp [same]
    rw [List.map_map, List.map_congr_left same]
    exact sound.waiting
  inbox waiter there := by
    -- Looking empties the inbox of the wait in question and of no other.
    obtain ⟨before, listed, rfl⟩ := List.mem_map.mp there
    obtain ⟨typed, kept⟩ := sound.inbox before listed
    by_cases same : before.id = id
    · simp only [same, if_true, unseen] at typed ⊢
      exact ⟨typed, by simp [List.rtake_nil]⟩
    · simp only [same, if_false, unseen, Ne.symm same] at typed ⊢
      exact ⟨typed, kept⟩

/-- Every move keeps the waits of a tracker with its history. -/
theorem step (sound : watch.Sound) {move : Move} (happened : watch.step? move = some later) :
    later.Sound := by
  -- All three ways of ending a wait forget the waiter and leave the others alone.
  cases step_of_step? happened with
  | handle | pass | append | clear =>
    exact ⟨sound.numbered, sound.finished, sound.waiting, sound.inbox⟩
  | @send number event called => exact sound.broadcast _ ⟨number, event, watch.now⟩
  | await type timeout => exact sound.await ⟨type, watch.now + timeout⟩
  | answer present | elapse present | abandon present =>
    exact sound.forget (sound.isOpen_of_find? present).2.2 (fun _ _ => rfl) (fun _ _ => rfl)
      fun _ => rfl
  | look present begun nothing early => exact sound.look _

/-- However a tracker is used, its waits go with its history. -/
theorem leads (sound : watch.Sound) (used : watch.Leads later) : later.Sound :=
  used.keeps (fun _ _ _ before happened => before.step happened) sound

end Sound

end EventBus.Watch
