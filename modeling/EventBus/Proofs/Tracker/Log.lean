import EventBus.Proofs.Tracker.Calls

/-!
The log of a tracker is a window that slides over the events that were handled since it was cleared
last, in the order in which they were appended.
-/

namespace EventBus.Watch

/-- The events that have been appended since the log was cleared last. -/
def handled (history : List Happening) : List Event :=
  (appended (since .cleared history)).map Prod.snd

/-- Unless the log is cleared, what has been handled stays in front of what is appended now. -/
theorem handled_cons (happening : Happening) (differs : happening ≠ .cleared)
    (past : List Happening) :
    handled (happening :: past) = handled past ++ (appended [happening]).map Prod.snd := by
  -- The time since the log was cleared goes on, and what is appended in it comes last.
  rw [handled, since_cons_of_ne differs, ← List.singleton_append, appended_append,
    List.map_append]
  rfl

/-- The log keeps the latest of what has been handled, as many events as there is room for. -/
structure Windowed (room : Nat) (watch : Watch) : Prop where
  maxLen : watch.tracker.maxLen = room
  log : watch.tracker.log = (handled watch.history).rtake room

namespace Windowed

variable {room : Nat} {watch later : Watch}

/-- A tracker that nobody has used has an empty log. -/
theorem start (maxLen : Nat) (source : Option String) :
    (Watch.start maxLen source).Windowed (max maxLen 1) where
  maxLen := rfl
  log := (List.rtake_nil _).symm

/-- What neither appends nor clears leaves the log with what has been handled. -/
theorem pass (windowed : watch.Windowed room) {happening : Happening}
    (differs : happening ≠ .cleared) (silent : appended [happening] = []) :
    watch.tracker.log = (handled (happening :: watch.history)).rtake room := by
  -- The window is of the same events as before.
  rw [handled_cons happening differs, silent, List.map_nil, List.append_nil]
  exact windowed.log

/-- Every move keeps the log with the history. -/
theorem step (windowed : watch.Windowed room) {move : Move}
    (happened : watch.step? move = some later) : later.Windowed room := by
  -- Only appending and clearing touch the log.
  cases step_of_step? happened with
  | handle | pass => exact ⟨windowed.maxLen, windowed.log⟩
  | @append number event called =>
    refine ⟨windowed.maxLen, ?_⟩
    have kept : watch.tracker.log = (handled watch.history).rtake watch.tracker.maxLen := by
      rw [windowed.maxLen]
      exact windowed.log
    have grown : handled (.appended number event :: watch.history) =
        handled watch.history ++ [event] := handled_cons (.appended number event) nofun _
    -- The oldest event goes if there is no room, which is what the window says.
    calc (watch.tracker.append event).log
        = (handled watch.history ++ [event]).rtake room := by
          rw [Tracker.log_append kept, windowed.maxLen]
      _ = (handled (.appended number event :: watch.history)).rtake room := by rw [grown]
  | clear => exact ⟨windowed.maxLen, by simp [handled, appended, Tracker.clear, List.rtake_nil]⟩
  | send | await | answer | elapse | look | abandon =>
    exact ⟨windowed.maxLen, windowed.pass (by simp) rfl⟩

/-- The log is in the order in which the calls append their events. -/
theorem log_suffix (windowed : watch.Windowed room) :
    watch.tracker.log <:+ (appended watch.history).map Prod.snd := by
  -- What was handled since the log was cleared is the end of all that was appended.
  obtain ⟨rest, whole⟩ := since_isPrefix .cleared watch.history
  have latest : handled watch.history <:+ (appended watch.history).map Prod.snd :=
    ⟨(appended rest).map Prod.snd, by rw [handled, ← List.map_append, ← appended_append, whole]⟩
  rw [windowed.log]
  exact (List.drop_suffix _ _).trans latest

/-- However a tracker is used, its log is a window. -/
theorem of_leads {maxLen : Nat} {source : Option String}
    (used : (Watch.start maxLen source).Leads watch) : watch.Windowed (max maxLen 1) :=
  used.keeps (fun _ _ _ before happened => before.step happened) (.start maxLen source)

end Windowed

/-- The log shows the latest of the events that were handled since it was cleared last. -/
structure ShowsLatest (room : Nat) (watch : Watch) : Prop where
  log : watch.tracker.log =
    (handled watch.history).drop ((handled watch.history).length - room)
  length : watch.tracker.log.length = min room (handled watch.history).length
  bounded : watch.tracker.log.length ≤ room
  /-- The next event takes the place of the oldest one if there is no room left. -/
  evicts : ∀ event, (watch.tracker.append event).log =
    (if room ≤ watch.tracker.log.length then watch.tracker.log.drop 1 else watch.tracker.log) ++
      [event]
  /-- A call counts as soon as it has made its first change. -/
  complete : ∀ number event, (number, event) ∈ appended watch.history ↔
    ∃ made, 1 ≤ made ∧ watch.calls[number]? = some ⟨event, made⟩
  once : ((appended watch.history).map Prod.fst).Nodup

/-- However many threads use a tracker, its log is a window on the events that were handled. -/
theorem log_shows_latest {maxLen : Nat} {source : Option String} {moves : List Move}
    {watch : Watch} (ran : (start maxLen source).replay? moves = some watch) :
    watch.ShowsLatest (max maxLen 1) := by
  have used := leads_of_replay? ran
  have windowed := Windowed.of_leads used
  have recorded := (Recorded.start maxLen source).leads used
  have length : watch.tracker.log.length = min (max maxLen 1) (handled watch.history).length := by
    rw [windowed.log, length_rtake]
  have bounded : watch.tracker.log.length ≤ max maxLen 1 := length ▸ Nat.min_le_left _ _
  refine ⟨windowed.log, length, bounded, fun event => ?_, recorded.appended,
    recorded.appendedOnce⟩
  -- The log never gets longer than its room, so the test for equality comes to the same.
  show (if watch.tracker.log.length = watch.tracker.maxLen then _ else _) ++ _ = _
  rw [windowed.maxLen]
  exact congrArg (· ++ [event]) (if_congr
    ⟨fun full => full.ge, fun full => Nat.le_antisymm bounded full⟩ rfl rfl)

/-- Two threads handle events at the same time, around a moment when the log is cleared. -/
def clearedLog (first second third : Event) : List Move :=
  [.handle first, .handle second, .act 0, .clear, .handle third, .act 1, .act 0, .handle first,
    .act 3, .act 2, .act 1]

/-- After three more events, a log with room for two shows the last two of them. -/
theorem clearedLog_shows :
    ∃ first second third : Event, ∃ watch : Watch,
      (start 2 none).replay? (clearedLog first second third) = some watch ∧
      watch.tracker.log = [first, third] ∧ handled watch.history = [second, first, third] ∧
      watch.ShowsLatest 2 := by
  let event (number : Nat) : Event := ⟨⟨number⟩, ⟨"order"⟩, .null, .epoch, none⟩
  -- A run that appends, clears and appends twice more, with room for two.
  have seen : ((start 2 none).replay? (clearedLog (event 0) (event 1) (event 2))).map
      (fun watch => (watch.tracker.log, handled watch.history)) =
        some ([event 0, event 2], [event 1, event 0, event 2]) := by decide +kernel
  obtain ⟨watch, ran, seen⟩ := Option.map_eq_some_iff.mp seen
  obtain ⟨log, history⟩ := Prod.mk.inj seen
  exact ⟨event 0, event 1, event 2, watch, ran, log, history, log_shows_latest ran⟩

end EventBus.Watch
