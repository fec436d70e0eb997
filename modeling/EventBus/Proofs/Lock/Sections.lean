import EventBus.Proofs.Lock.Contracts

/-!
Every operation is safe, and does to the registry what its section says. Under the lock no reference
is given up that could be the last one, whatever others do at the same time.
-/

namespace EventBus.Locked

variable {company : Company} {view : View}

/-- References in hand, one by one. -/
@[simp] theorem View.gain_hand (view : View) (handlers : List Handler) (handler : Handler) :
    (view.gain handlers).hand handler = view.hand handler + handlers.count handler := rfl

@[simp] theorem View.lose_hand (view : View) (handlers : List Handler) (handler : Handler) :
    (view.lose handlers).hand handler = view.hand handler - handlers.count handler := rfl

/-- References are gained together as one after the other. -/
theorem View.gain_gain (view : View) (handlers others : List Handler) :
    (view.gain handlers).gain others = view.gain (handlers ++ others) := by
  -- Each handler is counted in both lists.
  simp only [gain, List.count_append, Nat.add_assoc]

/-- Nothing is lost with no references. -/
@[simp] theorem View.lose_nil (view : View) : view.lose [] = view := rfl

/-- References are lost together as one after the other. -/
theorem View.lose_lose (view : View) (handlers others : List Handler) :
    (view.lose handlers).lose others = view.lose (handlers ++ others) := by
  -- Each handler is counted in both lists.
  simp only [lose, List.count_append, Nat.sub_sub]

/-- A handler in hand is one of the references there. -/
theorem View.covers {view : View} {handler : Handler} (own : 0 < view.hand handler)
    (other : Handler) : [handler].count other ≤ view.hand other := by
  -- The handler is counted once, and no other is.
  by_cases same : handler = other
  · subst same
    simpa using Nat.succ_le_of_lt own
  · simp [same]

/-- Where there are as many references, the same handlers are alive. -/
theorem View.alive_congr {afar : Handler → Nat} {other : View}
    (same : ∀ handler, view.owners afar handler = other.owners afar handler) :
    view.alive afar = other.alive afar := by
  -- Who is alive depends on the number of references alone.
  funext handler
  simp only [alive, same]

/-- A reference to a living handler makes no other handler alive or dead. -/
theorem View.alive_gain {afar : Handler → Nat} {handler : Handler}
    (living : 0 < view.owners afar handler) :
    (view.gain [handler]).alive afar = view.alive afar := by
  -- The handler itself is alive before and after, and the others have not been touched.
  funext other
  by_cases same : handler = other
  · subst same
    have more : view.owners afar handler ≤ (view.gain [handler]).owners afar handler := by
      simp only [owners, gain]
      omega
    simp [alive, living, Nat.lt_of_lt_of_le living more]
  · have unchanged : (view.gain [handler]).owners afar other = view.owners afar other := by
      simp [owners, gain, same]
    simp only [alive, unchanged]

namespace Company

/-- There is always something that a thread may take for alive. -/
theorem exists_fits (company : Company) (view : View) : ∃ seen, company.Fits view seen := by
  -- In company anything fits.
  cases company with
  | idle afar => exact ⟨view.alive afar, rfl⟩
  | active sparing => exact ⟨fun _ => false, trivial⟩

/-- What was counted last of a handler fits as well as anything before. -/
theorem Fits.update {seen : Handler → Bool} (fits : company.Fits view seen) {handler : Handler}
    {count : Nat} (counted : company.Counts view handler count) :
    company.Fits view (Function.update seen handler (0 < count)) := by
  -- Alone, what is counted is what there is.
  cases company with
  | idle afar =>
    obtain rfl : seen = view.alive afar := fits
    obtain rfl : count = view.owners afar handler := counted
    exact Function.update_eq_self handler _
  | active sparing => trivial

/-- What fits once a living handler has been taken did so before. -/
theorem Fits.of_gain {seen : Handler → Bool} {handler : Handler} {count : Nat}
    (fits : company.Fits (view.gain [handler]) seen)
    (counted : company.Counts view handler count) (living : 0 < count) :
    company.Fits view seen := by
  -- Alone, one reference more to a living handler leaves who is alive.
  cases company with
  | idle afar =>
    obtain rfl : count = view.owners afar handler := counted
    exact fits.trans (View.alive_gain living)
  | active sparing => trivial

/-- Holding the lock makes no handler alive or dead. -/
theorem Fits.unlocked {seen : Handler → Bool} {holding : Option Mode}
    (fits : company.Fits { view with holding } seen) : company.Fits view seen := by
  -- Who is alive does not depend on the lock.
  cases company with
  | idle afar => exact fits
  | active sparing => trivial

/-- Under the lock, a handler of a retained entry is counted. -/
theorem Counts.of_holds {handler : Handler} {count : Nat}
    (counted : company.Counts view handler count) (locked : view.holding ≠ none)
    (held : 0 < view.registry.holds handler) : 0 < count := by
  -- The registry's own reference is among those that are counted.
  cases company with
  | idle afar =>
    obtain rfl : count = view.owners afar handler := counted
    simp only [View.owners]
    omega
  | active sparing =>
    have bounded := counted.2 locked
    omega

/-- A handler in hand is counted. -/
theorem Counts.of_hand {handler : Handler} {count : Nat}
    (counted : company.Counts view handler count) (held : 0 < view.hand handler) : 0 < count := by
  -- The reference in hand is among those that are counted.
  cases company with
  | idle afar =>
    obtain rfl : count = view.owners afar handler := counted
    simp only [View.owners]
    omega
  | active sparing => exact Nat.lt_of_lt_of_le held counted.1

/-- A registry that is found is intact, and has evolved from the one that was there before. -/
theorem Finds.intact {registry : Registry} (found : company.Finds view registry)
    (intact : view.registry.Intact) :
    registry.Intact ∧ view.registry.Evolves registry := by
  -- In company the registry is found intact by assumption.
  cases company with
  | idle afar =>
    obtain rfl : registry = view.registry := found
    exact ⟨intact, .refl⟩
  | active sparing => exact found

/-- The registry that was there before may be found. -/
theorem finds_self (company : Company) (intact : view.registry.Intact) :
    company.Finds view view.registry := by
  -- The registry has evolved from itself, in no step at all.
  cases company with
  | idle afar => rfl
  | active sparing => exact ⟨intact, .refl⟩

end Company

/-- What a handler counts as makes no difference to entries of others. -/
theorem filter_update {entries : List Entry} {handler : Handler} (seen : Handler → Bool)
    (answer : Bool) (absent : handler ∉ entries.map Entry.handler) :
    entries.filter (Entry.isAlive (Function.update seen handler answer)) =
      entries.filter (Entry.isAlive seen) := by
  -- None of the entries is of the handler.
  refine List.filter_congr fun entry listed => ?_
  have differs : entry.handler ≠ handler := fun same =>
    absent (List.mem_map.mpr ⟨entry, listed, same⟩)
  rw [Entry.isAlive, Entry.isAlive, Function.update_of_ne differs]

/-- Entries that are looked at under the lock: no handler twice, and all retained ones counted. -/
structure View.Lists (view : View) (entries : List Entry) : Prop where
  locked : view.holding ≠ none
  apart : (entries.map Entry.handler).Nodup
  counted : ∀ entry ∈ entries, entry.retained = true → 0 < view.registry.holds entry.handler

namespace View.Lists

variable {entries rest : List Entry} {entry : Entry}

/-- What is said of entries is said of all but the first. -/
theorem tail (lists : view.Lists (entry :: rest)) : view.Lists rest where
  -- The first entry is left out of each part.
  locked := lists.locked
  apart := (List.nodup_cons.mp lists.apart).2
  counted other listed := lists.counted other (List.mem_cons_of_mem entry listed)

/-- References in hand do not matter. -/
theorem gain (lists : view.Lists entries) {handlers : List Handler} :
    (view.gain handlers).Lists entries :=
  ⟨lists.locked, lists.apart, lists.counted⟩

/-- The entries of a type are listed under the lock, and so is any part of them. -/
theorem of_sublist (locked : view.holding ≠ none) (intact : view.registry.Intact)
    {type : EventType} (part : entries.Sublist (view.registry.entries type)) :
    view.Lists entries where
  locked
  apart := intact.2.of_sublist part
  -- A retained entry of the registry holds a reference to its handler.
  counted entry listed retained := by
    have stored := intact.1.mem_entries.mp (part.subset listed)
    rw [Registry.holds_eq, List.countP_pos_iff]
    exact ⟨_, stored, by simp [Subscription.owns, retained]⟩

/-- Going through entries under the lock, one that counts as alive is kept and no other is. -/
theorem filter_cons (lists : view.Lists (entry :: rest)) {count : Nat}
    (counted : company.Counts view entry.handler count) (seen : Handler → Bool) :
    (entry :: rest).filter
        (Entry.isAlive (Function.update seen entry.handler (decide (0 < count)))) =
      if 0 < count then entry :: rest.filter (Entry.isAlive seen)
      else rest.filter (Entry.isAlive seen) := by
  have others := filter_update seen (decide (0 < count)) (List.nodup_cons.mp lists.apart).1
  by_cases living : 0 < count
  · rw [if_pos living, List.filter_cons_of_pos (by simp [Entry.isAlive, living]), others]
  · -- The entry is weak: a retained one would have been counted.
    have weak : entry.retained = false := by
      refine Bool.eq_false_iff.mpr fun retained => living ?_
      exact counted.of_holds lists.locked (lists.counted entry List.mem_cons_self retained)
    rw [if_neg living, List.filter_cons_of_neg (by simp [Entry.isAlive, living, weak]), others]

end View.Lists

namespace Procedure

variable {entries : List Entry}

/-- Of the entries under the lock the living ones are kept, and no reference is given up. -/
theorem safe_retainLiving (lists : view.Lists entries) {post : List Entry → View → Prop}
    (kept : ∀ seen, company.Fits view seen → post (entries.filter (Entry.isAlive seen)) view) :
    Safe company (retainLiving entries) view post := by
  -- The induction is on the entries, one of which is asked about at a time.
  induction entries generalizing post with
  | nil =>
    obtain ⟨seen, fits⟩ := company.exists_fits view
    exact kept seen fits
  | cons entry rest ih =>
    rw [retainLiving, safe_bind, safe_perform]
    intro count counted
    -- What was seen of the others goes together with what was counted of the first.
    have both (seen) (fits : company.Fits view seen) :=
      lists.filter_cons counted seen ▸ kept _ (fits.update counted)
    by_cases living : 0 < count
    · rw [if_pos living, safe_bind]
      refine ih lists.tail fun seen fits => ?_
      have kept := both seen fits
      rwa [if_pos living] at kept
    · rw [if_neg living]
      have weak : entry.retained = false := by
        refine Bool.eq_false_iff.mpr fun retained => living ?_
        exact counted.of_holds lists.locked (lists.counted entry List.mem_cons_self retained)
      rw [weak]
      refine ih lists.tail fun seen fits => ?_
      have kept := both seen fits
      rwa [if_neg living] at kept

/-- Looking at entries under the lock finds the living ones, and changes nothing. -/
theorem safe_pickLiving (lists : view.Lists entries) {post : List Entry → View → Prop}
    (found : ∀ seen, company.Fits view seen → post (entries.filter (Entry.isAlive seen)) view) :
    Safe company (pickLiving entries) view post := by
  -- The induction is on the entries, one of which is asked about at a time.
  induction entries generalizing post with
  | nil =>
    obtain ⟨seen, fits⟩ := company.exists_fits view
    exact found seen fits
  | cons entry rest ih =>
    rw [pickLiving, safe_bind, safe_perform]
    intro count counted
    rw [safe_bind]
    refine ih lists.tail fun seen fits => ?_
    have both := lists.filter_cons counted seen ▸ found _ (fits.update counted)
    exact both

/-- A handler in hand is found at the first entry that is its own. -/
theorem safe_findHolding {handler : Handler} (held : 0 < view.hand handler)
    {post : Option Entry → View → Prop}
    (found : post (entries.find? (·.handler == handler)) view) :
    Safe company (findHolding handler entries) view post := by
  -- The induction is on the entries, up to the first one of the handler.
  induction entries with
  | nil => exact found
  | cons entry rest ih =>
    rw [findHolding, safe_bind, safe_perform]
    intro count counted
    by_cases own : entry.handler = handler
    · -- The handler is in hand, so its own entry cannot be taken for a dead one.
      subst own
      rw [List.find?_cons_of_pos (by simp)] at found
      rw [if_pos ⟨counted.of_hand held, rfl⟩]
      exact found
    · rw [List.find?_cons_of_neg (by simpa using own)] at found
      rw [if_neg (fun both => own both.2)]
      exact ih found

/-- Every living entry of a list is taken a reference to. -/
theorem safe_upgradeEach (lists : view.Lists entries) {post : List Subscriber → View → Prop}
    (taken : ∀ seen, company.Fits view seen →
      let subscribers := (entries.filter (Entry.isAlive seen)).map Entry.subscriber
      post subscribers (view.gain (subscribers.map Subscriber.handler))) :
    Safe company (upgradeEach entries) view post := by
  -- The induction is on the entries, with one reference more in hand for each that lives.
  induction entries generalizing view post with
  | nil =>
    obtain ⟨seen, fits⟩ := company.exists_fits view
    exact taken seen fits
  | cons entry rest ih =>
    rw [upgradeEach, safe_bind, safe_perform]
    intro count counted
    -- A handler that has been taken is alive, as it was before, so the rest is seen as it is.
    by_cases living : 0 < count
    · rw [if_pos living, safe_bind]
      refine ih lists.tail.gain fun seen fits => ?_
      have taken := taken _ ((fits.of_gain counted living).update counted)
      rw [lists.filter_cons counted seen, if_pos living] at taken
      simp only [living, decide_true, if_true, View.gain_gain, safe_pure]
      exact taken
    · rw [if_neg living, safe_bind]
      refine ih lists.tail fun seen fits => ?_
      have taken := taken _ (fits.update counted)
      rw [lists.filter_cons counted seen, if_neg living] at taken
      simpa [living, safe_pure] using taken

end Procedure

/--
An operation has carried out a section of the registry as it has found it.

The references that it uses up come from its hand, and what it releases is still in its hand.
-/
structure Carried (company : Company) (view : View) {α : Type}
    (section? : Registry → (Handler → Bool) → Section α) (used : List Handler)
    (remainder : Remainder α) (later : View) : Prop where
  result : ∃ registry seen, company.Finds view registry ∧ company.Fits { view with registry } seen ∧
    remainder.answer = (section? registry seen).answer ∧
    remainder.records = (section? registry seen).records ∧
    later.registry = (section? registry seen).registry
  evolves : view.registry.Evolves later.registry
  free : later.holding = none
  hand : ∀ handler, later.hand handler + used.count handler =
    view.hand handler + remainder.released.count handler
  elsewhere : later.elsewhere = view.elsewhere
  born : later.born = view.born
  records : later.records = view.records

/-- A section that refuses leaves the references that it was given to be given up. -/
theorem Carried.refused {α : Type} {section? : Registry → (Handler → Bool) → Section α}
    {used : List Handler} {registry : Registry} {answer : α} (found : company.Finds view registry)
    (evolves : view.registry.Evolves registry)
    (same : ∀ seen, section? registry seen = registry.unchanged answer) :
    Carried company view section? used { answer, released := used }
      { view with registry, holding := none } := by
  -- What is alive plays no part where the section refuses.
  obtain ⟨seen, fits⟩ := company.exists_fits { view with registry }
  refine ⟨⟨registry, seen, found, fits, ?_⟩, evolves, rfl, fun _ => rfl, rfl, rfl, rfl⟩
  rw [same]
  exact ⟨rfl, rfl, rfl⟩

namespace Procedure

section Subscribe

variable {registry : Registry} {type : EventType} {handler : Handler} {retain : Bool}
  {seen : Handler → Bool} {post : Remainder (Except BusError SubscriptionHandle) → View → Prop}

/-- A subscription that is there already takes the reference over, or it is still in hand. -/
theorem safe_subscribeAgain (intact : registry.Intact) (evolves : view.registry.Evolves registry)
    (found : company.Finds view registry) (fits : company.Fits { view with registry } seen)
    (own : 0 < view.hand handler) (named : type.isBlank = false)
    (opened : registry.closed = false) {existing : Entry}
    (there : (registry.live seen type).find? (·.handler == handler) = some existing)
    (carried : ∀ remainder later,
      Carried company view (fun registry seen => registry.subscribe seen type handler retain)
        [handler] remainder later →
      remainder.released ⊆ [handler] → post remainder later) :
    Safe company
      (subscribeAgain registry type handler retain (registry.live seen type) existing)
      { view with registry, holding := some .exclusive } post := by
  -- The section finds the subscription, and the procedure does the same to the registry.
  have made : registry.subscribe seen type handler retain = _ :=
    Registry.subscribe_found named opened there
  have same : existing.handler = handler := by simpa using List.find?_some there
  let later := registry.setEntries type
    ((registry.live seen type).map (Entry.upgrade existing.id retain))
  have changed : later = registry.change seen (.subscribe type handler retain) := by
    rw [Registry.change, made]
  have holds (other : Handler) : later.holds other = registry.holds other +
      if (retain && !existing.retained) && handler == other then 1 else 0 := by
    rw [← same]
    exact intact.1.holds_upgrade (List.mem_of_find?_eq_some there) retain other
  -- The registry takes over one reference at most, and that is in hand.
  have covered (other : Handler) : later.holds other ≤ view.hand other + registry.holds other := by
    rw [holds]
    by_cases self : handler = other
    · subst self
      split <;> omega
    · simp [self]
  refine .commit rfl ⟨seen, _, changed⟩ covered (.leave (by simp [View.store]) ?_)
  -- The reference is with the entry now, or among those that are still to be given up.
  refine carried _ _ ⟨⟨registry, seen, found, fits, ?_⟩, ?_, rfl, ?_, rfl, rfl, rfl⟩ ?_
  · rw [made]
    exact ⟨rfl, rfl, rfl⟩
  · exact evolves.tail ⟨seen, _, changed⟩
  · intro other
    show view.hand other + registry.holds other - later.holds other + [handler].count other = _
    rw [holds]
    by_cases self : handler = other
    · subst self
      cases retain && !existing.retained
      · simp
      · simp
        omega
    · cases retain && !existing.retained <;> simp [self]
  · cases retain && !existing.retained <;> simp

/-- A new subscription takes the reference over if it is to be retained, and needs none if not. -/
theorem safe_subscribeNew (intact : registry.Intact) (evolves : view.registry.Evolves registry)
    (found : company.Finds view registry) (fits : company.Fits { view with registry } seen)
    (own : 0 < view.hand handler) (spare : retain = false → 1 < view.hand handler)
    (named : type.isBlank = false) (opened : registry.closed = false)
    (absent : (registry.live seen type).find? (·.handler == handler) = none)
    (carried : ∀ remainder later,
      Carried company view (fun registry seen => registry.subscribe seen type handler retain)
        [handler] remainder later →
      remainder.released ⊆ [handler] → post remainder later) :
    Safe company (subscribeNew registry type handler retain (registry.live seen type))
      { view with registry, holding := some .exclusive } post := by
  -- The section makes a new entry, and the procedure puts the same one at the end.
  have made : registry.subscribe seen type handler retain = _ :=
    Registry.subscribe_new named opened absent
  let entry : Entry := ⟨registry.nextId + 1, handler, retain⟩
  let later := registry.next.setEntries type (registry.live seen type ++ [entry])
  have changed : later = registry.change seen (.subscribe type handler retain) := by
    rw [Registry.change, made]
  have holds (other : Handler) : later.holds other =
      registry.holds other + if retain && handler == other then 1 else 0 :=
    intact.1.holds_new seen type entry other
  -- Either way one reference goes: it is given up at once, or the registry takes it over.
  let cost (other : Handler) : Nat := if retain then 0 else [handler].count other
  let spent : View :=
    { view with
      registry
      holding := some .exclusive
      hand := fun other => view.hand other - cost other }
  have paid : Safe company (provided (!retain) (perform (.release handler)))
      { view with registry, holding := some .exclusive } fun _ middle => middle = spent := by
    cases retain with
    | true => rfl
    | false => exact ⟨own, fun _ => spare rfl, rfl⟩
  have costs (other : Handler) : cost other + later.holds other =
      registry.holds other + [handler].count other := by
    rw [holds, List.count_singleton]
    cases retain <;> simp [cost, List.count_singleton, Nat.add_comm]
  have enough (other : Handler) :
      cost other ≤ [handler].count other ∧ [handler].count other ≤ view.hand other := by
    refine ⟨?_, View.covers own other⟩
    simp only [cost]
    split <;> omega
  have covered (other : Handler) : later.holds other ≤ spent.hand other + registry.holds other := by
    have costs := costs other
    have enough := enough other
    simp only [spent]
    omega
  -- The release comes first, then the new list is stored, and then the lock is given up.
  refine paid.bind fun _ middle reached => ?_
  subst reached
  refine .commit rfl ⟨seen, _, changed⟩ covered (.leave (by simp [View.store, spent]) ?_)
  refine carried _ _ ⟨⟨registry, seen, found, fits, ?_⟩, ?_, rfl, ?_, rfl, rfl, rfl⟩ (by simp)
  · rw [made]
    exact ⟨rfl, rfl, rfl⟩
  · exact evolves.tail ⟨seen, _, changed⟩
  · intro other
    show view.hand other - cost other + registry.holds other - later.holds other +
      [handler].count other = view.hand other
    have costs := costs other
    have enough := enough other
    omega

/-- Subscribing uses up a reference, which is given up outside the lock if no entry keeps it. -/
theorem safe_insert (intact : view.registry.Intact) (free : view.holding = none)
    (own : 0 < view.hand handler) (spare : retain = false → 1 < view.hand handler)
    (carried : ∀ remainder later,
      Carried company view (fun registry seen => registry.subscribe seen type handler retain)
        [handler] remainder later →
      remainder.released ⊆ [handler] → post remainder later) :
    Safe company (insert type handler retain) view post := by
  unfold insert
  by_cases blank : type.isBlank = true
  · -- A blank type is refused without a look at the registry.
    rw [if_pos blank, safe_pure]
    obtain ⟨seen, fits⟩ := company.exists_fits view
    refine carried _ _ ⟨⟨view.registry, seen, company.finds_self intact, fits, ?_⟩, .refl, free,
      fun _ => rfl, rfl, rfl, rfl⟩ (List.Subset.refl _)
    simp [Registry.subscribe_blank blank, Registry.unchanged]
  have named : type.isBlank = false := by simpa using blank
  rw [if_neg blank]
  refine .enter free fun registry found => ?_
  obtain ⟨intact, evolves⟩ := found.intact intact
  by_cases closed : registry.closed = true
  · -- A closed registry is left as it is found.
    rw [if_pos closed]
    refine .leave (by simp) ?_
    refine carried _ _ (.refused found evolves fun seen => ?_) (List.Subset.refl _)
    exact Registry.subscribe_closed named closed
  have opened : registry.closed = false := by simpa using closed
  rw [if_neg closed, safe_bind]
  let locked : View := { view with registry, holding := some .exclusive }
  have lists : locked.Lists (registry.entries type) :=
    .of_sublist (Option.some_ne_none _) intact (List.Sublist.refl _)
  refine safe_retainLiving lists fun seen fits => ?_
  -- What is alive has been found out, and the handler is looked for among it.
  have held : 0 < locked.hand handler := own
  rw [safe_bind]
  refine safe_findHolding held ?_
  rw [show (registry.entries type).filter (Entry.isAlive seen) = registry.live seen type from rfl]
  cases there : (registry.live seen type).find? (·.handler == handler) with
  | some existing =>
    exact safe_subscribeAgain intact evolves found fits.unlocked own named opened there carried
  | none =>
    exact safe_subscribeNew intact evolves found fits.unlocked own spare named opened there carried

end Subscribe

section Removal

variable {post : Remainder (Except BusError Bool) → View → Prop}

/-- Ending a subscription takes its reference into the hand, to be given up outside the lock. -/
theorem safe_unsubscribe {handle : SubscriptionHandle} (intact : view.registry.Intact)
    (free : view.holding = none)
    (carried : ∀ remainder later,
      Carried company view (fun registry seen => registry.unsubscribe seen handle) [] remainder
        later → post remainder later) :
    Safe company (unsubscribe handle) view post := by
  unfold unsubscribe
  refine .enter free fun registry found => ?_
  obtain ⟨intact, evolves⟩ := found.intact intact
  -- A closed registry refuses, and one that has not given the handle does nothing.
  by_cases closed : registry.closed = true
  · rw [if_pos closed]
    refine .leave (by simp) (carried _ _ (.refused found evolves fun seen => ?_))
    exact Registry.unsubscribe_closed closed handle
  have opened : registry.closed = false := by simpa using closed
  rw [if_neg closed]
  by_cases foreign : handle.registry ≠ registry.id
  · rw [if_pos foreign]
    refine .leave (by simp) (carried _ _ (.refused found evolves fun seen => ?_))
    exact Registry.unsubscribe_foreign opened foreign
  rw [if_neg foreign, safe_bind]
  let locked : View := { view with registry, holding := some .exclusive }
  have lists : locked.Lists ((registry.entries handle.type).eraseP (·.id == handle.id)) :=
    .of_sublist (Option.some_ne_none _) intact List.eraseP_sublist
  refine safe_retainLiving lists fun seen fits => ?_
  let done := registry.unsubscribe seen handle
  have changed : done.registry = registry.change seen (.unsubscribe handle) := rfl
  have made : done.registry = registry.setEntries handle.type
      (((registry.entries handle.type).eraseP (·.id == handle.id)).filter
        (Entry.isAlive seen)) := by
    simp only [done, Registry.unsubscribe, opened, foreign]
    cases (registry.entries handle.type).find? (·.id == handle.id) <;> rfl
  -- What the registry gives back is what the section releases.
  have holds (other : Handler) :
      done.registry.holds other + done.released.count other = registry.holds other :=
    intact.1.holds_unsubscribe seen handle other
  have covered (other : Handler) :
      done.registry.holds other ≤ locked.hand other + registry.holds other := by
    have holds := holds other
    omega
  -- What is given back comes into the hand, and is all that is left to give up.
  have hand (other : Handler) :
      view.hand other + registry.holds other - done.registry.holds other + [].count other =
        view.hand other + done.released.count other := by
    have holds := holds other
    simp only [List.count_nil]
    omega
  rw [← made]
  refine .commit rfl ⟨seen, _, changed⟩ covered (.leave (by simp [locked, View.store]) ?_)
  have evolved : view.registry.Evolves done.registry := evolves.tail ⟨seen, _, changed⟩
  have outcome : removal handle ((registry.entries handle.type).find? (·.id == handle.id)) =
      ⟨done.answer, done.released, done.records⟩ := by
    simp only [done, Registry.unsubscribe, opened, foreign]
    cases (registry.entries handle.type).find? (·.id == handle.id) <;> rfl
  rw [outcome, safe_pure]
  exact carried _ _ ⟨⟨registry, seen, found, fits.unlocked, rfl, rfl, rfl⟩, evolved, rfl, hand, rfl,
    rfl, rfl⟩

/-- Closing takes all references into the hand, to be given up outside the lock. -/
theorem safe_closeRegistry (intact : view.registry.Intact) (free : view.holding = none)
    {post : Remainder Bool → View → Prop}
    (carried : ∀ remainder later,
      Carried company view (fun registry _ => registry.close) [] remainder later →
        post remainder later) :
    Safe company closeRegistry view post := by
  unfold closeRegistry
  refine .enter free fun registry found => ?_
  obtain ⟨intact, evolves⟩ := found.intact intact
  obtain ⟨seen, fits⟩ := company.exists_fits { view with registry }
  by_cases closed : registry.closed = true
  · rw [if_pos closed]
    refine .leave (by simp) (carried _ _ (.refused found evolves fun _ => ?_))
    simp [Registry.close, closed]
  -- What is in hand afterwards are the references of the registry, to be given up in any order.
  rw [if_neg closed]
  let done := registry.close
  have made : done = {
      answer := true,
      registry := { registry with closed := true, lists := [] },
      released := (registry.allEntries.filter Entry.retained).map Entry.handler,
      records := [.registryClosed registry.allEntries.length] } := by
    simp [done, Registry.close, closed]
  have changed : done.registry = registry.change seen .close := rfl
  have holds (other : Handler) :
      done.registry.holds other = 0 ∧ done.released.count other = registry.holds other :=
    intact.1.holds_close other
  have stored : { registry with closed := true, lists := [] } = done.registry := by rw [made]
  have covered (other : Handler) :
      done.registry.holds other ≤ view.hand other + registry.holds other := by
    rw [(holds other).1]
    exact Nat.zero_le _
  rw [stored]
  refine .commit rfl ⟨seen, _, changed⟩ covered (.leave (by simp [View.store]) ?_)
  intro released arranged
  have evolved : view.registry.Evolves done.registry := evolves.tail ⟨seen, _, changed⟩
  refine carried _ _ ⟨⟨registry, seen, found, fits, ?_⟩, evolved, rfl, fun other => ?_, rfl, rfl,
    rfl⟩
  · exact ⟨congrArg Section.answer made.symm, congrArg Section.records made.symm, rfl⟩
  · -- Whatever their order is, all references of the registry are among those in hand.
    have order : released.count other = done.released.count other := by
      rw [made]
      exact arranged.count_eq other
    show view.hand other + registry.holds other - done.registry.holds other + 0 =
      view.hand other + released.count other
    rw [order, (holds other).1, (holds other).2]
    omega

end Removal

end Procedure

end EventBus.Locked
