import EventBus.Proofs.Registry.Holdings

/-!
Subscribing a handler to several types, one by one, with nobody acting in between. A type that it is
subscribed to keeps its id, and every other type gets the next one when it comes up first.
-/

namespace EventBus

namespace Registry

variable (registry : Registry) (alive : Handler → Bool) (handler : Handler)

/-- The id of the live subscription that a handler has to a type. -/
def idOf? (type : EventType) : Option Nat :=
  ((registry.live alive type).find? (·.handler == handler)).map Entry.id

/-- The types of a list, each once and in order, to which a handler has no live subscription. -/
def newTypes (types : List EventType) : List EventType :=
  types.eraseDups.filter fun type => (registry.idOf? alive handler type).isNone

/-- The id that a handler has for a type once it is subscribed to all types of a list. -/
def idAmong (types : List EventType) (type : EventType) : Nat :=
  -- New ids follow the last one that was given out, in the order of the list.
  (registry.idOf? alive handler type).getD
    (registry.nextId + 1 + (registry.newTypes alive handler types).idxOf type)

end Registry

/-- Leaving out some items and leaving out repetitions can be done in either order. -/
theorem eraseDups_filter {α : Type} [BEq α] [LawfulBEq α] (keeps : α → Bool) (items : List α) :
    (items.filter keeps).eraseDups = items.eraseDups.filter keeps := by
  -- What follows an item is shorter without its repetitions, so the induction is on the length.
  induction size : items.length using Nat.strongRecOn generalizing items with
  | ind bound ih =>
    cases items with
    | nil => rfl
    | cons first rest =>
      have shorter : (rest.filter fun other => !other == first).length < bound := by
        have := List.length_filter_le (fun other => !other == first) rest
        simp only [List.length_cons] at size
        omega
      have later := ih _ shorter (rest.filter fun other => !other == first) rfl
      rw [List.eraseDups_cons]
      by_cases kept : keeps first = true
      · rw [List.filter_cons_of_pos kept, List.filter_cons_of_pos kept, List.eraseDups_cons,
          List.filter_comm, later]
      · -- Repetitions of an item that is left out are left out with it.
        have others :
            rest.filter keeps = (rest.filter fun other => !other == first).filter keeps := by
          rw [List.filter_filter]
          refine List.filter_congr fun other _ => ?_
          by_cases same : other = first
          · simp [same, kept]
          · simp [same]
        rw [List.filter_cons_of_neg kept, List.filter_cons_of_neg kept, others, later]

namespace Registry

variable {registry : Registry} {alive : Handler → Bool} {handler : Handler} {type : EventType}

/-- What a weak subscription is answered with, and what it leaves of the ids that a handler has. -/
structure Enrols (registry : Registry) (alive : Handler → Bool) (handler : Handler)
    (type : EventType) (done : Section (Except BusError SubscriptionHandle)) : Prop where
  answer : done.answer =
    .ok (registry.handle ((registry.idOf? alive handler type).getD (registry.nextId + 1)) type)
  id_eq : done.registry.id = registry.id
  closed_eq : done.registry.closed = registry.closed
  /-- Only a subscription that was not there takes a new id. -/
  nextId_eq : done.registry.nextId =
    registry.nextId + if (registry.idOf? alive handler type).isNone then 1 else 0
  idOf?_eq : ∀ other, done.registry.idOf? alive handler other =
    if other = type then some ((registry.idOf? alive handler type).getD (registry.nextId + 1))
    else registry.idOf? alive handler other

/-- The living entries of a type are those that are put in, if these are alive. -/
theorem live_setEntries {entries : List Entry}
    (living : ∀ entry ∈ entries, entry.isAlive alive = true) (other : EventType) :
    (registry.setEntries type entries).live alive other =
      if other = type then entries else registry.live alive other := by
  -- Nobody who is put in falls to the next look at who is alive.
  rw [live, entries_setEntries]
  split
  · exact List.filter_eq_self.mpr living
  · rfl

/-- An open registry enrols a living handler for a type that is not blank. -/
theorem enrols (living : alive handler = true) (named : type.isBlank = false)
    (opened : registry.closed = false) :
    registry.Enrols alive handler type (registry.subscribe alive type handler false) := by
  -- Either the handler is known by an id, which stays, or it gets the next one.
  cases found : (registry.live alive type).find? (·.handler == handler) with
  | some existing =>
    have known : registry.idOf? alive handler type = some existing.id := by
      rw [idOf?, found, Option.map_some]
    rw [subscribe_found named opened found]
    have kept : ∀ entry ∈ (registry.live alive type).map (Entry.upgrade existing.id false),
        entry.isAlive alive = true := by
      intro entry upgraded
      obtain ⟨old, stored, rfl⟩ := List.mem_map.mp upgraded
      have before := (List.mem_filter.mp stored).2
      simp only [Entry.isAlive, Entry.upgrade_handler, Bool.or_eq_true] at before ⊢
      exact before.imp_left (Entry.Continues.upgrade existing.id false old).retained_of
    -- An upgrade changes neither the handlers nor the ids, so the same entry is found.
    have searched : ((registry.live alive type).map (Entry.upgrade existing.id false)).find?
        (·.handler == handler) = some (existing.upgrade existing.id false) := by
      rw [List.find?_map]
      simp only [Function.comp_def, Entry.upgrade_handler, found, Option.map_some]
    refine ⟨by rw [known]; rfl, rfl, rfl, by rw [known]; rfl, fun other => ?_⟩
    rw [idOf?, live_setEntries kept, known]
    by_cases same : other = type
    · rw [if_pos same, if_pos same, searched, Option.map_some, Entry.upgrade_id]
      rfl
    · rw [if_neg same, if_neg same, idOf?]
  | none =>
    have unknown : registry.idOf? alive handler type = none := by
      rw [idOf?, found, Option.map_none]
    rw [subscribe_new named opened found]
    let entry : Entry := ⟨registry.nextId + 1, handler, false⟩
    have kept : ∀ other ∈ registry.live alive type ++ [entry], other.isAlive alive = true := by
      intro other there
      rcases List.mem_append.mp there with before | new
      · exact (List.mem_filter.mp before).2
      · rw [List.mem_singleton.mp new]
        exact living
    -- Nobody before the new entry has the handler.
    have searched : (registry.live alive type ++ [entry]).find? (·.handler == handler) =
        some entry := by
      rw [List.find?_append, found, Option.none_or]
      simp [entry]
    refine ⟨by rw [unknown]; rfl, rfl, rfl, by rw [unknown]; rfl, fun other => ?_⟩
    have unharmed : registry.next.live alive other = registry.live alive other := rfl
    rw [idOf?, live_setEntries kept, unknown]
    by_cases same : other = type
    · rw [if_pos same, if_pos same, searched, Option.map_some]
      rfl
    · rw [if_neg same, if_neg same, unharmed, idOf?]

namespace Enrols

variable {done : Section (Except BusError SubscriptionHandle)}
  (enrols : registry.Enrols alive handler type done)

include enrols

/-- The types that are new after the first one of a list are those that it leaves to be made. -/
theorem newTypes_cons (rest : List EventType) :
    registry.newTypes alive handler (type :: rest) =
      (if (registry.idOf? alive handler type).isNone then [type] else []) ++
        done.registry.newTypes alive handler rest := by
  -- Behind the first type only others are new, and they are as new as they were before.
  have others : done.registry.newTypes alive handler rest =
      (rest.eraseDups.filter fun other => !other == type).filter fun other =>
        (registry.idOf? alive handler other).isNone := by
    rw [newTypes, List.filter_filter]
    refine List.filter_congr fun other _ => ?_
    rw [enrols.idOf?_eq]
    by_cases same : other = type
    · simp [same]
    · simp [same]
  rw [newTypes, List.eraseDups_cons, eraseDups_filter, others]
  by_cases new : (registry.idOf? alive handler type).isNone = true
  · rw [List.filter_cons_of_pos (by exact new), if_pos new, List.singleton_append]
  · rw [List.filter_cons_of_neg (by exact new), if_neg new, List.nil_append]

/-- The type that was enrolled has its id from then on, whatever is subscribed behind it. -/
theorem idAmong_self (rest : List EventType) :
    done.registry.idAmong alive handler rest type =
      (registry.idOf? alive handler type).getD (registry.nextId + 1) := by
  -- What is enrolled is found afterwards, before any new id is counted.
  rw [idAmong, enrols.idOf?_eq, if_pos rfl, Option.getD_some]

/-- What is counted from the first type of a list on is counted from the second on as well. -/
theorem idAmong_cons (rest : List EventType) (other : EventType) :
    registry.idAmong alive handler (type :: rest) other =
      done.registry.idAmong alive handler rest other := by
  -- The first type itself is settled by now, and all others see one registry after the other.
  by_cases same : other = type
  · subst same
    rw [enrols.idAmong_self, idAmong, enrols.newTypes_cons]
    cases known : registry.idOf? alive handler other with
    | some id => rfl
    | none => simp
  · -- A new first type takes one id and one place, and any other type takes neither.
    rw [idAmong, idAmong, enrols.idOf?_eq, if_neg same, enrols.newTypes_cons, enrols.nextId_eq]
    have passed : (type == other) = false := by simpa using Ne.symm same
    cases known : registry.idOf? alive handler type with
    | some id => simp
    | none =>
      simp only [Option.isNone_none, if_true, List.singleton_append, List.idxOf_cons, passed,
        cond_false]
      congr 1
      omega

end Enrols

end Registry

end EventBus
