import EventBus.Proofs.Registry.Holdings

/-!
Which entries are retained: those whose handles were given out to retained subscriptions, however
these and weak ones followed each other.
-/

namespace EventBus

namespace Registry

/-- A record of the handles that retained subscriptions were answered with. -/
structure Charters (granted : List SubscriptionHandle) (registry : Registry) : Prop where
  wellFormed : registry.WellFormed
  /-- No handle was given out before its id. -/
  counted : ∀ handle ∈ granted, handle.id ≤ registry.nextId
  /-- A stored entry is retained exactly if its handle was given out for that. -/
  retained_iff : ∀ {type : EventType} {entry : Entry}, entry ∈ registry.entries type →
    (entry.retained = true ↔ registry.handle entry.id type ∈ granted)

/-- Nothing is granted in the beginning. -/
theorem charters_new (id : Nat) : (Registry.new id).Charters [] where
  -- Nothing has been granted.
  wellFormed := wellFormed_new id
  counted _ there := absurd there List.not_mem_nil
  retained_iff there := absurd there List.not_mem_nil

namespace Charters

variable {granted : List SubscriptionHandle} {registry : Registry}

/-- The references of a registry are counted by the record of what was granted. -/
theorem holds_eq (charters : registry.Charters granted) (handler : Handler) :
    registry.holds handler = registry.subscriptions.countP fun subscription =>
      subscription.entry.handler = handler ∧
        registry.handle subscription.entry.id subscription.type ∈ granted := by
  -- Retained entries are the ones with a handle on record.
  rw [Registry.holds_eq]
  refine List.countP_congr fun subscription stored => ?_
  have retained := charters.retained_iff (charters.wellFormed.mem_entries.mpr stored)
  simp only [Subscription.owns, Bool.and_eq_true, beq_iff_eq, decide_eq_true_eq, retained]
  exact and_comm

/-- No change but a retained subscription has anything to do with what is granted. -/
theorem survives {change : Change}
    (ungranted : ∀ type handler, change ≠ .subscribe type handler true) :
    Survives (Charters granted) change := by
  -- An entry that was there keeps its flag, so only a new one is of interest.
  intro registry alive charters
  have wellFormed := charters.wellFormed
  have succeeds := wellFormed.succeeds_change alive change
  refine ⟨wellFormed.change alive change,
    fun handle there => Nat.le_trans (charters.counted handle there) succeeds.nextId_le, ?_⟩
  intro type entry stored
  have own : (registry.change alive change).handle entry.id type =
      registry.handle entry.id type := by
    rw [Registry.handle, Registry.handle, succeeds.id_eq]
  rw [own]
  cases wellFormed.origin stored with
  | earlier earlier there continues granted =>
    rw [continues.id_eq, ← charters.retained_iff there]
    refine ⟨fun retained => ?_, continues.retained_of⟩
    exact (granted retained).resolve_right fun grants => ungranted _ _ grants.1
  | made later granted =>
    -- A new entry is weak, and its id is above all that were given out.
    refine iff_of_false (fun retained => ungranted _ _ (granted retained).1) fun there => ?_
    exact absurd (charters.counted _ there) (Nat.not_le.mpr later)

/-- A retained subscription that is answered adds its handle to the record. -/
theorem grant (charters : registry.Charters granted) {alive : Handler → Bool} {type : EventType}
    {handler : Handler} {handle : SubscriptionHandle}
    (answered : (registry.subscribe alive type handler true).answer = .ok handle) :
    (registry.subscribe alive type handler true).registry.Charters (granted ++ [handle]) := by
  -- The handle that is answered is the one that goes on record.
  have wellFormed := charters.wellFormed
  let later := (registry.subscribe alive type handler true).registry
  have next : later.WellFormed := wellFormed.subscribe alive type handler true
  have succeeds : registry.Succeeds later :=
    wellFormed.succeeds_change alive (.subscribe type handler true)
  have own : ∀ id type, later.handle id type = registry.handle id type := fun id type => by
    rw [Registry.handle, Registry.handle, succeeds.id_eq]
  obtain ⟨_, _, _, answer, found, _, retains⟩ := wellFormed.find?_subscribe answered
  obtain ⟨there, meant⟩ := next.find?_eq_some.mp found
  -- The entry that the answer stands for is retained, and no other has its handle.
  have answer_retained : ∀ {type : EventType} {entry : Entry}, entry ∈ later.entries type →
      registry.handle entry.id type = handle → entry.retained = true := by
    intro type entry stored same
    have hit : entry.id = answer.id :=
      congrArg SubscriptionHandle.id (((own _ _).trans same).trans meant.symm)
    obtain ⟨_, rfl⟩ := Subscription.mk.inj <|
      next.eq_of_id (next.mem_entries.mp stored) (next.mem_entries.mp there) hit
    exact retains rfl
  have granted_answer : ∀ {other : EventType} {entry : Entry},
      registry.Grants alive (.subscribe type handler true) other entry →
        registry.handle entry.id other = handle := by
    rintro other entry ⟨same, answer⟩
    obtain ⟨rfl, rfl, _⟩ := Change.subscribe.inj same
    exact Except.ok.inj (answer.symm.trans answered)
  refine ⟨next, fun other there => ?_, fun {type' entry} stored => ?_⟩
  · -- Its id was given out by this very change at the latest.
    rcases List.mem_append.mp there with before | now
    · exact Nat.le_trans (charters.counted other before) succeeds.nextId_le
    · rw [List.mem_singleton.mp now]
      exact (next.issued_of_find? found).2
  · rw [own, List.mem_append, List.mem_singleton]
    -- An entry that was there becomes retained only if it is the one that is answered.
    cases wellFormed.origin_subscribe stored with
    | earlier earlier there continues granted =>
      rw [continues.id_eq, ← charters.retained_iff there, ← continues.id_eq]
      refine ⟨fun retained => (granted retained).imp_right granted_answer, ?_⟩
      rintro (before | same)
      · exact continues.retained_of before
      · exact answer_retained stored same
    -- A new entry is retained, since that is what was asked for.
    | made later granted =>
      refine ⟨fun retained => Or.inr (granted_answer (granted retained)), ?_⟩
      rintro (before | same)
      · exact absurd (charters.counted _ before) (Nat.not_le.mpr later)
      · exact answer_retained stored same

end Charters

end Registry

end EventBus
