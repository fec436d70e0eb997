import EventBus.Proofs.Registry.Handlers
import EventBus.Proofs.Registry.Handles

/-!
What an id stands for. The answer to a subscription identifies the entry of its handler, and an id
whose entry has been ended is never that of an entry again.
-/

namespace EventBus

namespace Registry

/-- An id that has been given out and that no entry has any more, whichever its type is. -/
structure Vanished (id : Nat) (registry : Registry) : Prop where
  wellFormed : registry.WellFormed
  given : id ≤ registry.nextId
  gone : ∀ type, ∀ entry ∈ registry.entries type, entry.id ≠ id

/-- An id that has vanished never appears again. -/
theorem kept_vanished (id : Nat) : Kept (Vanished id) :=
  .of_survives fun change registry alive vanished => by
    -- An entry is one that was there, or has an id that nobody had before.
    have wellFormed := vanished.wellFormed
    have succeeds := wellFormed.succeeds_change alive change
    refine ⟨wellFormed.change alive change, Nat.le_trans vanished.given succeeds.nextId_le, ?_⟩
    intro type entry stored same
    cases wellFormed.origin stored with
    | earlier earlier there continues _ =>
      exact vanished.gone type earlier there (continues.id_eq ▸ same)
    | made later _ =>
      have given := vanished.given
      omega

variable {registry : Registry} {alive : Handler → Bool} {type : EventType} {handler : Handler}
  {retain : Bool} {handle : SubscriptionHandle}

/-- An unsubscription is answered with yes exactly if its handle stands for an entry. -/
theorem WellFormed.unsubscribe_found (wellFormed : registry.WellFormed) :
    (registry.unsubscribe alive handle).answer = .ok true ↔
      (registry.find? handle).isSome = true := by
  -- Past the two checks, the answer says whether the entry was found.
  constructor
  · intro answered
    by_cases closed : registry.closed = true
    · rw [unsubscribe_closed closed] at answered
      cases answered
    have opened : registry.closed = false := by simpa using closed
    by_cases own : handle.registry = registry.id
    · rw [unsubscribe_answer opened own] at answered
      simpa [find?, own] using Except.ok.inj answered
    · rw [unsubscribe_foreign opened own] at answered
      cases answered
  · intro found
    obtain ⟨entry, there⟩ := Option.isSome_iff_exists.mp found
    have own := (wellFormed.issued_of_find? there).1
    rw [unsubscribe_answer (wellFormed.opened_of_find? there) own]
    simpa [find?, own] using found

/-- The id of a subscription that was found and ended has vanished. -/
theorem WellFormed.vanished_unsubscribe (wellFormed : registry.WellFormed)
    (answered : (registry.unsubscribe alive handle).answer = .ok true) :
    Vanished handle.id (registry.unsubscribe alive handle).registry := by
  have found := wellFormed.unsubscribe_found.mp answered
  obtain ⟨ended, there⟩ := Option.isSome_iff_exists.mp found
  obtain ⟨stored, same⟩ := wellFormed.find?_eq_some.mp there
  have hit : ended.id = handle.id := congrArg SubscriptionHandle.id same
  have later := wellFormed.unsubscribe alive handle
  have succeeds := wellFormed.succeeds_change alive (.unsubscribe handle)
  have own : (registry.unsubscribe alive handle).registry.id = registry.id := succeeds.id_eq
  refine ⟨later, Nat.le_trans (wellFormed.issued_of_find? there).2 succeeds.nextId_le, ?_⟩
  intro type entry left again
  -- An entry of this id would be the one that has been ended.
  have before := wellFormed.mem_entries.mp (wellFormed.mem_of_unsubscribe left)
  obtain ⟨rfl, rfl⟩ := Subscription.mk.inj <|
    wellFormed.eq_of_id before (wellFormed.mem_entries.mp stored) (again.trans hit.symm)
  refine later.find?_eq_none.mp (wellFormed.find?_unsubscribe alive handle) entry left ?_
  rw [Registry.handle, own]
  exact same

/-- An accepted subscription is that of the living entry of its handler, or there is none yet. -/
theorem subscribe_answered
    (answered : (registry.subscribe alive type handler retain).answer = .ok handle) :
    handle.registry = registry.id ∧ handle.type = type ∧
      ((∃ entry ∈ registry.live alive type, entry.id = handle.id ∧ entry.handler = handler) ∨
        (handle.id = registry.nextId + 1 ∧
          ∀ entry ∈ registry.live alive type, entry.handler ≠ handler)) := by
  -- The search among the living tells the two kinds of answers apart.
  rcases registry.subscribe_cases alive type handler retain with
    ⟨error, refused⟩ | ⟨_, _, ⟨existing, found, made⟩ | ⟨absent, made⟩⟩
  · rw [refused] at answered
    cases answered
  · rw [made] at answered
    cases answered
    exact ⟨rfl, rfl, Or.inl ⟨existing, List.mem_of_find?_eq_some found, rfl,
      by simpa using List.find?_some found⟩⟩
  · rw [made] at answered
    cases answered
    refine ⟨rfl, rfl, Or.inr ⟨rfl, fun entry living same => ?_⟩⟩
    exact absurd (List.find?_eq_none.mp absent entry living) (by simp [same])

/-- A living entry is answered to its handler again. -/
theorem HandlersApart.answered_same (apart : registry.HandlersApart) {entry : Entry}
    (living : entry ∈ registry.live alive type)
    (answered : (registry.subscribe alive type entry.handler retain).answer = .ok handle) :
    handle = registry.handle entry.id type := by
  -- A new id would mean that the handler had no living entry.
  obtain ⟨own, rfl, ⟨other, there, hit, same⟩ | ⟨_, absent⟩⟩ := subscribe_answered answered
  · -- No handler has two entries of one type.
    have only : other = entry := List.inj_on_of_nodup_map (apart handle.type)
      (List.mem_of_mem_filter there) (List.mem_of_mem_filter living) same
    rw [← only, Registry.handle, hit, ← own]
  · exact absurd rfl (absent entry living)

/-- An entry with a new id was made for the handler that is subscribed, and is the answer. -/
theorem WellFormed.made_of_new (wellFormed : registry.WellFormed) {change : Change} {entry : Entry}
    (stored : entry ∈ (registry.change alive change).entries type)
    (later : registry.nextId < entry.id) :
    ∃ retain, change = .subscribe type entry.handler retain ∧
      (registry.subscribe alive type entry.handler retain).answer =
        .ok (registry.handle entry.id type) := by
  -- What was there before has an id that was given out before.
  have old (before : entry ∈ registry.entries type) : entry.id ≤ registry.nextId :=
    (wellFormed.counted _ (wellFormed.mem_entries.mp before)).2
  cases change with
  | subscribe asked handler retain =>
    rcases registry.subscribe_cases alive asked handler retain with
      ⟨error, made⟩ | ⟨_, _, ⟨existing, found, made⟩ | ⟨absent, made⟩⟩
    · simp only [Registry.change, made] at stored
      exact absurd (old stored) (Nat.not_le.mpr later)
    · simp only [Registry.change, made, entries_setEntries] at stored
      split at stored
      · rename_i ofType
        subst ofType
        obtain ⟨earlier, living, rfl⟩ := List.mem_map.mp stored
        have counted := (wellFormed.counted _ (wellFormed.mem_of_live living)).2
        rw [Entry.upgrade_id] at later
        exact absurd counted (Nat.not_le.mpr later)
      · exact absurd (old stored) (Nat.not_le.mpr later)
    · simp only [Registry.change, made, entries_setEntries] at stored
      split at stored
      · rename_i ofType
        subst ofType
        rcases List.mem_append.mp stored with living | new
        · exact absurd (old (List.mem_of_mem_filter living)) (Nat.not_le.mpr later)
        · obtain rfl := List.mem_singleton.mp new
          exact ⟨retain, rfl, congrArg Section.answer made⟩
      · exact absurd (old stored) (Nat.not_le.mpr later)
  | unsubscribe handle =>
    exact absurd (old (wellFormed.mem_of_unsubscribe stored)) (Nat.not_le.mpr later)
  | prune =>
    have living : entry ∈ registry.live alive type := wellFormed.entries_prune type ▸ stored
    exact absurd (old (List.mem_of_mem_filter living)) (Nat.not_le.mpr later)
  | close =>
    have listed := wellFormed.close.mem_entries.mp stored
    rw [wellFormed.subscriptions_close] at listed
    exact absurd listed List.not_mem_nil

end Registry

end EventBus
