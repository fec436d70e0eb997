import EventBus.Proofs.Registry.Sections

/-! No handler is subscribed to one type twice, whichever handlers live and die in between. -/

namespace EventBus

namespace Registry

/-- Every type has at most one entry for each handler, dead entries included. -/
def HandlersApart (registry : Registry) : Prop :=
  ∀ type, ((registry.entries type).map Entry.handler).Nodup

/-- A registry without subscriptions has no handler twice. -/
theorem handlersApart_new (id : Nat) : (Registry.new id).HandlersApart := fun _ => List.nodup_nil

namespace HandlersApart

variable {registry : Registry} (apart : registry.HandlersApart)

include apart

/-- Handlers stay apart when those of one type that changes are distinct. -/
theorem setEntries {type : EventType} {entries : List Entry}
    (distinct : (entries.map Entry.handler).Nodup) :
    (registry.setEntries type entries).HandlersApart := by
  -- The lists of other types are as they were.
  intro other
  rw [entries_setEntries]
  split
  · exact distinct
  · exact apart other

/-- Handlers of some entries of one type are distinct. -/
theorem of_sublist {type : EventType} {entries : List Entry}
    (part : entries.Sublist (registry.entries type)) : (entries.map Entry.handler).Nodup :=
  (apart type).sublist (part.map Entry.handler)

/-- Subscribing adds an entry only for a handler that has none. -/
theorem subscribe (alive : Handler → Bool) (type : EventType) (handler : Handler)
    (retain : Bool) : (registry.subscribe alive type handler retain).registry.HandlersApart := by
  have living : ((registry.live alive type).map Entry.handler).Nodup :=
    apart.of_sublist List.filter_sublist
  rcases registry.subscribe_cases alive type handler retain with
    ⟨error, refused⟩ | ⟨_, _, ⟨existing, _, made⟩ | ⟨unknown, made⟩⟩
  · rw [refused]
    exact apart
  · rw [made]
    refine apart.setEntries ?_
    -- An upgrade leaves every entry with the handler that it had.
    simpa [Function.comp_def] using living
  · rw [made]
    -- Dead entries of the type are gone, and no living one has the handler.
    have absent : handler ∉ (registry.live alive type).map Entry.handler := by
      intro there
      obtain ⟨entry, stored, same⟩ := List.mem_map.mp there
      exact absurd (List.find?_eq_none.mp unknown entry stored) (by simp [same])
    have next : registry.next.HandlersApart := apart
    refine next.setEntries ?_
    rw [List.map_append, List.map_singleton]
    refine List.nodup_append.mpr ⟨living, List.nodup_singleton _, ?_⟩
    rintro other there _ new rfl
    rw [List.mem_singleton.mp new] at there
    exact absent there

/-- Ending a subscription leaves some of the entries that were there. -/
theorem unsubscribe (wellFormed : registry.WellFormed) (alive : Handler → Bool)
    (handle : SubscriptionHandle) :
    (registry.unsubscribe alive handle).registry.HandlersApart := by
  -- Only one list changes, and loses an entry at most.
  rcases wellFormed.unsubscribe_cases alive handle with ⟨_, same⟩ | ⟨_, _, made⟩
  · rw [same]
    exact apart
  · rw [made]
    exact apart.setEntries (apart.of_sublist List.filter_sublist)

/-- Pruning leaves the living entries. -/
theorem prune (wellFormed : registry.WellFormed) (alive : Handler → Bool) :
    (registry.prune alive).registry.HandlersApart := by
  -- What is left of a list has no handler that the list did not have.
  intro type
  rw [wellFormed.entries_prune]
  exact apart.of_sublist List.filter_sublist

/-- Closing leaves nothing. -/
theorem close : registry.close.registry.HandlersApart := by
  -- A closed registry has no lists.
  unfold Registry.close
  split
  · exact apart
  · exact fun _ => List.nodup_nil

end HandlersApart

/-- Every section keeps a well-formed registry without a handler that is twice under one type. -/
theorem kept_handlersApart : Kept fun registry => registry.WellFormed ∧ registry.HandlersApart where
  -- Removal and pruning keep handlers apart in a well-formed registry, hence the first part.
  subscribe kept alive type handler retain :=
    ⟨kept.1.subscribe alive type handler retain, kept.2.subscribe alive type handler retain⟩
  unsubscribe kept alive handle :=
    ⟨kept.1.unsubscribe alive handle, kept.2.unsubscribe kept.1 alive handle⟩
  prune kept alive := ⟨kept.1.prune alive, kept.2.prune kept.1 alive⟩
  close kept := ⟨kept.1.close, kept.2.close⟩

/-- No handler is twice in a snapshot. -/
theorem HandlersApart.snapshot {registry : Registry} (apart : registry.HandlersApart)
    {alive : Handler → Bool} {type : EventType} {subscribers : List Subscriber}
    (taken : registry.snapshot alive type = .ok subscribers) :
    (subscribers.map Subscriber.handler).Nodup := by
  -- A snapshot has the handlers of some of the entries, in their order.
  obtain ⟨_, rfl⟩ := of_snapshot taken
  rw [List.map_map]
  exact apart.of_sublist List.filter_sublist

end Registry

end EventBus
