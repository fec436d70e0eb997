import EventBus.Proofs.Lock.Sections

/-!
Looking at a registry under the lock, and dropping what is dead there. Neither gives up a reference,
and a snapshot takes one to every subscriber in it before the lock is given up.
-/

namespace EventBus

/-- The handlers of the subscribers that an answer holds. -/
def Subscriber.handlersIn : Except BusError (List Subscriber) → List Handler
  | .ok subscribers => subscribers.map Subscriber.handler
  | .error _ => []

/-- The lists of a registry with the living entries only. -/
def Registry.livingLists (registry : Registry) (alive : Handler → Bool) :
    List (EventType × List Entry) :=
  registry.lists.map fun (type, entries) => (type, entries.filter (Entry.isAlive alive))

namespace Registry

variable {registry : Registry}

/-- The number of live subscriptions is that of the entries that are left when the dead ones go. -/
theorem size_eq_length (alive : Handler → Bool) :
    registry.size alive = ((registry.livingLists alive).flatMap Prod.snd).length := by
  -- Both count the entries that are alive, the one list by list.
  simp only [size, allEntries, livingLists, List.countP_eq_length_filter, List.filter_flatMap,
    List.flatMap_map]

/-- The types with a live subscription are those of which something is left. -/
theorem types_eq_sort (alive : Handler → Bool) :
    registry.types alive = EventType.sort
      (((registry.livingLists alive).filter fun (_, entries) => !entries.isEmpty).map
        Prod.fst) := by
  rw [types, livingLists]
  congr 1
  induction registry.lists with
  | nil => rfl
  | cons first rest ih =>
    obtain ⟨type, entries⟩ := first
    rw [List.filterMap_cons, List.map_cons, List.filter_cons, ih]
    -- Something is left of a type if and only if an entry of it is alive.
    by_cases living : entries.any (Entry.isAlive alive) = true
    · obtain ⟨entry, stored, lives⟩ := List.any_eq_true.mp living
      have left : entries.filter (Entry.isAlive alive) ≠ [] :=
        List.ne_nil_of_mem (List.mem_filter.mpr ⟨stored, lives⟩)
      simp [living, left]
    · have nothing : entries.filter (Entry.isAlive alive) = [] := by
        simpa using living
      simp [living, nothing]

/-- The registry without the dead entries of a type. -/
def dropDead (alive : Handler → Bool) (registry : Registry) (type : EventType) : Registry :=
  registry.setEntries type (registry.live alive type)

/-- Dropping the dead entries of a type is what ending no subscription of the type does. -/
theorem WellFormed.dropDead_eq (wellFormed : registry.WellFormed)
    (opened : registry.closed = false) (alive : Handler → Bool) (type : EventType) :
    registry.dropDead alive type =
      registry.change alive (.unsubscribe (registry.handle 0 type)) := by
  -- No entry has the id zero, so none but dead ones are taken out.
  have others : leaves alive (registry.handle 0 type) = fun entry =>
      entry.isAlive alive && entry.id ≠ 0 := rfl
  have counted : ∀ entry ∈ registry.entries type, entry.id ≠ 0 := fun entry stored =>
    Nat.pos_iff_ne_zero.mp (wellFormed.counted _ (wellFormed.mem_entries.mp stored)).1
  show _ = (registry.unsubscribe alive (registry.handle 0 type)).registry
  rw [wellFormed.unsubscribe_registry opened rfl, dropDead, live, others]
  refine congrArg _ (List.filter_congr fun entry stored => ?_)
  simp [counted entry stored]

/-- Dropping dead entries gives up no reference. -/
theorem WellFormed.holds_dropDead (wellFormed : registry.WellFormed) (alive : Handler → Bool)
    (type : EventType) (handler : Handler) :
    (registry.dropDead alive type).holds handler = registry.holds handler := by
  -- What is dropped is dead, so it is not retained.
  rw [dropDead, live, holds_eq_of_perm (wellFormed.subscriptions_setEntries_filter _ _),
    countP_owns_filter_stays, ← holds_eq]

/-- A list is put in the place of the only one of its type. -/
theorem putList_middle {before rest : List (EventType × List Entry)} {type : EventType}
    (absent : type ∉ before.map Prod.fst) (old entries : List Entry) :
    putList type entries (before ++ (type, old) :: rest) = before ++ (type, entries) :: rest := by
  -- The induction is on the lists in front, none of which is of the type.
  induction before with
  | nil => simp [putList]
  | cons first before ih =>
    rw [List.map_cons, List.mem_cons, not_or] at absent
    rw [List.cons_append, putList, if_neg (Ne.symm absent.1), ih absent.2, List.cons_append]

/-- Dropping the dead entries of a type changes its list where it stands. -/
theorem dropDead_middle {before rest : List (EventType × List Entry)} {type : EventType}
    {entries : List Entry} (split : registry.lists = before ++ (type, entries) :: rest)
    (nodup : (registry.lists.map Prod.fst).Nodup) (alive : Handler → Bool) :
    registry.dropDead alive type =
      { registry with lists := before ++ pruned alive [(type, entries)] ++ rest } := by
  -- No other list is of the type, neither in front nor behind.
  rw [split, List.map_append, List.map_cons] at nodup
  obtain ⟨_, behind, apart⟩ := List.nodup_append.mp nodup
  have first : type ∉ before.map Prod.fst := fun there =>
    apart type there type List.mem_cons_self rfl
  have last : type ∉ rest.map Prod.fst := (List.nodup_cons.mp behind).1
  have others {lists : List (EventType × List Entry)} (absent : type ∉ lists.map Prod.fst) :
      ∀ pair ∈ lists, pair.1 ≠ type := fun pair listed same =>
    absent (List.mem_map.mpr ⟨pair, listed, same⟩)
  have stored : registry.entries type = entries := by
    have found : registry.lists.lookup type = some entries :=
      List.lookup_eq_some_iff.mpr ⟨before, rest, split, fun pair listed => by
        simpa using (others first pair listed).symm⟩
    rw [Registry.entries, found, Option.getD_some]
  rw [dropDead, live, stored, setEntries, split]
  -- A list of which nothing is left is taken out, and any other stays in its place.
  by_cases empty : entries.filter (Entry.isAlive alive) = []
  · have gone : pruned alive [(type, entries)] = [] := by simp [pruned, empty]
    rw [if_pos (by simp [empty]), gone, List.append_nil, List.filter_append,
      List.filter_cons_of_neg (by simp), List.filter_eq_self.mpr fun pair listed => by
        simpa using others first pair listed, List.filter_eq_self.mpr fun pair listed => by
        simpa using others last pair listed]
  · have left : pruned alive [(type, entries)] =
        [(type, entries.filter (Entry.isAlive alive))] := by
      simp only [pruned, List.map_cons, List.map_nil]
      rw [List.filter_cons_of_pos (by simpa using empty), List.filter_nil]
    rw [if_neg (by simpa using empty), left, putList_middle first, List.append_assoc]
    rfl

/-- Dropping the dead entries of all types one by one is pruning. -/
theorem foldl_dropDead (alive : Handler → Bool) (nodup : (registry.lists.map Prod.fst).Nodup) :
    (registry.lists.map Prod.fst).foldl (dropDead alive) registry =
      (registry.prune alive).registry := by
  -- What has been passed is pruned already, and what comes is as it was.
  suffices passed : ∀ before rest : List (EventType × List Entry),
      ((before ++ rest).map Prod.fst).Nodup →
      (rest.map Prod.fst).foldl (dropDead alive) { registry with lists := before ++ rest } =
        { registry with lists := before ++ pruned alive rest } from passed [] registry.lists nodup
  intro before rest nodup
  -- The induction is on the lists that come, whatever has been passed before them.
  induction rest generalizing before with
  | nil => rfl
  | cons first rest ih =>
    obtain ⟨type, entries⟩ := first
    let current : Registry := { registry with lists := before ++ (type, entries) :: rest }
    have step : current.dropDead alive type =
        { registry with lists := before ++ pruned alive [(type, entries)] ++ rest } :=
      dropDead_middle rfl nodup alive
    have both : pruned alive ((type, entries) :: rest) =
        pruned alive [(type, entries)] ++ pruned alive rest := by
      simp only [pruned, List.map_cons, List.map_nil, ← List.filter_append, List.singleton_append]
    rw [List.map_cons, List.foldl_cons, step, ih, both, List.append_assoc]
    refine nodup.sublist ?_
    rw [List.append_assoc, List.map_append, List.map_append, List.map_append, List.map_cons]
    have first := map_fst_pruned_sublist alive [(type, entries)]
    exact (List.Sublist.refl _).append (first.append (List.Sublist.refl _))

end Registry

namespace Locked

variable {company : Company} {view : View}

namespace Procedure

/-- A snapshot shows the living subscribers of a type, and the thread holds each of them. -/
theorem safe_snapshot {type : EventType} (intact : view.registry.Intact)
    (free : view.holding = none) {post : Except BusError (List Subscriber) → View → Prop}
    (taken : ∀ registry seen, company.Finds view registry →
      company.Fits { view with registry } seen →
      let answer := registry.snapshot seen type
      post answer ({ view with registry, holding := none }.gain (Subscriber.handlersIn answer))) :
    Safe company (snapshot type) view post := by
  unfold snapshot
  refine .enter free fun registry found => ?_
  -- A closed registry is left with nothing taken; of an open one the living entries are visited.
  obtain ⟨intact, _⟩ := found.intact intact
  by_cases closed : registry.closed = true
  · rw [if_pos closed]
    refine .leave (by simp) ?_
    obtain ⟨seen, fits⟩ := company.exists_fits { view with registry }
    have taken := taken registry seen found fits
    rw [Registry.snapshot, if_pos closed] at taken
    exact taken
  · rw [if_neg closed, safe_bind]
    let locked : View := { view with registry, holding := some .shared }
    have lists : locked.Lists (registry.entries type) :=
      .of_sublist (Option.some_ne_none _) intact (List.Sublist.refl _)
    refine safe_upgradeEach lists fun seen fits => ?_
    have taken := taken registry seen found fits.unlocked
    rw [Registry.snapshot, if_neg closed] at taken
    exact .leave (by simp [locked, View.gain]) taken

/-- Looking at the lists of all types changes nothing; with nobody else there, it is exact. -/
theorem safe_survey {lists : List (EventType × List Entry)}
    (listed : ∀ pair ∈ lists, view.Lists pair.2)
    {post : List (EventType × List Entry) → View → Prop}
    (found : ∀ living, (∀ afar, company = .idle afar → living = lists.map fun (type, entries) =>
      (type, entries.filter (Entry.isAlive (view.alive afar)))) → post living view) :
    Safe company (survey lists) view post := by
  -- The induction is on the lists, each of which is looked at by itself.
  induction lists generalizing post with
  | nil => exact found [] fun _ _ => rfl
  | cons first rest ih =>
    obtain ⟨type, entries⟩ := first
    rw [survey, safe_bind]
    refine safe_pickLiving (listed _ List.mem_cons_self) fun seen fits => ?_
    rw [safe_bind]
    refine ih (fun pair there => listed pair (List.mem_cons_of_mem _ there))
      fun living settled => ?_
    refine found _ fun afar alone => ?_
    subst alone
    obtain rfl : seen = view.alive afar := fits
    rw [settled afar rfl, List.map_cons]

/-- A list of the registry is listed under the lock. -/
theorem lists_of_mem (intact : view.registry.Intact) (locked : view.holding ≠ none)
    {pair : EventType × List Entry} (listed : pair ∈ view.registry.lists) :
    view.Lists pair.2 := by
  -- The list is the one that is stored for its type.
  have same : view.registry.entries pair.1 = pair.2 := intact.1.entries_eq listed
  rw [← same]
  exact .of_sublist locked intact (List.Sublist.refl _)

/-- Looking at the registry changes nothing; with nobody else there, it is exact. -/
theorem safe_inspect (intact : view.registry.Intact) (free : view.holding = none)
    {post : List (EventType × List Entry) → View → Prop}
    (found : ∀ registry living, company.Finds view registry →
      (∀ afar, company = .idle afar → living = registry.livingLists (view.alive afar)) →
      post living { view with registry, holding := none }) :
    Safe company inspect view post := by
  refine .enter free fun registry there => ?_
  obtain ⟨intact, _⟩ := there.intact intact
  rw [safe_bind]
  let locked : View := { view with registry, holding := some .shared }
  have intact : locked.registry.Intact := intact
  -- Under the lock every list of the registry is there to be looked at.
  have listed : ∀ pair ∈ registry.lists, locked.Lists pair.2 := fun pair =>
    lists_of_mem intact (Option.some_ne_none _)
  refine safe_survey listed fun living settled => .leave (by simp [locked]) ?_
  refine found registry living there fun afar alone => ?_
  subst alone
  obtain rfl : registry = view.registry := there
  exact settled afar rfl

/-- Dropping the dead entries of types one by one takes no reference and gives none up. -/
theorem safe_pruneEach {registry : Registry} {types : List EventType} (intact : registry.Intact)
    (opened : registry.closed = false) {post : Registry → View → Prop}
    (pruned : ∀ later, registry.Evolves later →
      (∀ afar, company = .idle afar →
        later = types.foldl (Registry.dropDead ({ view with registry }.alive afar)) registry) →
      post later { view with registry := later, holding := some .exclusive }) :
    Safe company (pruneEach registry types)
      { view with registry, holding := some .exclusive } post := by
  -- The induction is on the types, with the registry that the first one leaves.
  induction types generalizing registry post with
  | nil => exact pruned registry .refl fun _ _ => rfl
  | cons type rest ih =>
    rw [pruneEach, safe_bind]
    let locked : View := { view with registry, holding := some .exclusive }
    have lists : locked.Lists (registry.entries type) :=
      .of_sublist (Option.some_ne_none _) intact (List.Sublist.refl _)
    refine safe_retainLiving lists fun seen fits => ?_
    show Safe company (do
      perform (.store (registry.dropDead seen type))
      pruneEach (registry.dropDead seen type) rest) locked post
    -- To drop the dead of one type is what an unsubscription with no handle of it does.
    have changed := intact.1.dropDead_eq opened seen type
    have holds := intact.1.holds_dropDead seen type
    have covered (other : Handler) :
        (registry.dropDead seen type).holds other ≤ locked.hand other + registry.holds other := by
      rw [holds]
      omega
    -- The registry holds what it held, so the hand is as it was.
    have kept : locked.store (registry.dropDead seen type) =
        { view with registry := registry.dropDead seen type, holding := some .exclusive } := by
      simp [View.store, holds, locked]
    refine .commit rfl ⟨seen, _, changed⟩ covered ?_
    rw [kept]
    have intact' : (registry.dropDead seen type).Intact := by
      rw [changed]
      exact Registry.kept_handlersApart.survives _ registry seen intact
    refine ih intact' opened fun last evolves settled => ?_
    refine pruned last (.head ⟨seen, _, changed⟩ evolves) fun afar alone => ?_
    subst alone
    obtain rfl : seen = locked.alive afar := fits
    rw [settled afar rfl, List.foldl_cons]
    refine congrArg (fun alive => List.foldl (Registry.dropDead alive) _ rest) ?_
    exact View.alive_congr fun other => by simp only [View.owners, holds, locked]

/-- Dropping all dead entries takes no reference and gives none up. -/
theorem safe_prune (intact : view.registry.Intact) (free : view.holding = none)
    {post : Nat → View → Prop}
    (pruned : ∀ answer later, view.registry.Evolves later →
      (∀ afar, company = .idle afar →
        let done := view.registry.prune (view.alive afar)
        answer = done.answer ∧ later = done.registry) →
      post answer { view with registry := later, holding := none }) :
    Safe company prune view post := by
  unfold prune
  refine .enter free fun registry found => ?_
  obtain ⟨intact, evolves⟩ := found.intact intact
  rw [safe_bind]
  by_cases closed : registry.closed = true
  · -- There is nothing to prune in a closed registry.
    have empty := intact.1.emptied closed
    rw [empty]
    refine .leave (by simp) (pruned _ registry evolves fun afar alone => ?_)
    subst alone
    obtain rfl : registry = view.registry := found
    have same := Registry.foldl_dropDead (view.alive afar) intact.1.types_nodup
    rw [empty] at same
    exact ⟨congrArg (view.registry.allEntries.length - ·.allEntries.length) same, same⟩
  · -- In an open registry the types are gone through one by one, which is pruning in the end.
    refine safe_pruneEach intact (by simpa using closed) fun later evolved settled => ?_
    refine .leave (by simp) (pruned _ later (evolves.trans evolved) fun afar alone => ?_)
    subst alone
    obtain rfl : registry = view.registry := found
    have same : later = (view.registry.prune (view.alive afar)).registry :=
      (settled afar rfl).trans (Registry.foldl_dropDead _ intact.1.types_nodup)
    exact ⟨congrArg (view.registry.allEntries.length - ·.allEntries.length) same, same⟩

end Procedure

end Locked

end EventBus
