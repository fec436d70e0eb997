import EventBus.Subscribers.Tracker
import Mathlib.Data.List.DropRight

/-!
The log of a tracker and the inboxes of its waits keep the latest events, as many as there is room
for, of all that came to them.
-/

namespace EventBus

section Latest

variable {α : Type} {items : List α} {item : α} {room : Nat}

/-- As many items are the latest ones as there is room for, if there are so many. -/
theorem length_rtake (items : List α) (room : Nat) :
    (items.rtake room).length = min room items.length := by
  -- The oldest ones are dropped, as many as there are too many.
  rw [List.rtake, List.length_drop]
  omega

/-- Where there is room for all items, all of them are the latest. -/
theorem rtake_of_length_le (enough : items.length ≤ room) : items.rtake room = items := by
  -- Nothing is dropped.
  rw [List.rtake, Nat.sub_eq_zero_of_le enough, List.drop_zero]

/-- Items that are not among the latest do not come back with a new one. -/
theorem rtake_concat_rtake (items : List α) (item : α) (room : Nat) :
    (items.rtake room ++ [item]).rtake room = (items ++ [item]).rtake room := by
  -- Read from the end, this is about the first items of the first items.
  simp only [List.rtake_eq_reverse_take_reverse, List.reverse_append, List.reverse_reverse,
    List.reverse_singleton]
  cases room with
  | zero => rfl
  | succ less =>
    simp only [List.singleton_append, List.take_succ_cons, List.take_take,
      Nat.min_eq_left (Nat.le_succ less)]

/-- Where the oldest item goes if there is no room left, the latest ones stay with the new one. -/
theorem evict_concat (positive : 0 < room) (fits : items.length ≤ room) :
    (if items.length = room then items.drop 1 else items) ++ [item] =
      (items ++ [item]).rtake room := by
  -- With no room left one is dropped before the item comes, and otherwise none.
  rw [List.rtake, List.length_append, List.length_singleton]
  split
  · rename_i full
    rw [full, Nat.add_sub_cancel_left, List.drop_append_of_le_length (by omega)]
  · rename_i space
    rw [show items.length + 1 - room = 0 by omega, List.drop_zero]

end Latest

namespace Tracker

variable {tracker : Tracker} {event : Event}

/-- The log keeps the latest of all events that are appended. -/
theorem log_append {events : List Event} (kept : tracker.log = events.rtake tracker.maxLen) :
    (tracker.append event).log = (events ++ [event]).rtake tracker.maxLen := by
  -- The log never holds more than there is room for, so one event at most has to go.
  have fits : tracker.log.length ≤ tracker.maxLen := by
    rw [kept, length_rtake]
    exact Nat.min_le_left _ _
  calc (tracker.append event).log
      = (tracker.log ++ [event]).rtake tracker.maxLen := evict_concat tracker.maxLen_pos fits
    _ = (events ++ [event]).rtake tracker.maxLen := by rw [kept, rtake_concat_rtake]

/-- An inbox keeps the latest of all events that come to it. -/
theorem inbox_receive {waiter : Waiter} {events : List Event} {room : Nat}
    (kept : waiter.inbox = events.rtake room) :
    (Waiter.receive room waiter event).inbox = (events ++ [event]).rtake room := by
  -- It keeps the latest of what it had with the new one.
  rw [← rtake_concat_rtake, ← kept]
  rfl

/-- The inboxes of a tracker with a short log have room for sixteen events. -/
theorem capacity_of_short (short : tracker.maxLen ≤ 16) : tracker.capacity = 16 := by
  -- The capacity is sixteen at least.
  rw [capacity, Nat.max_eq_right short]
  cbv

end Tracker

end EventBus
