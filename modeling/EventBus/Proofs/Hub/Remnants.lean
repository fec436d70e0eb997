import EventBus.Proofs.Hub.Batches
import EventBus.Proofs.Network.Steps

/-!
What the end of a subscription finds. It finds every entry that is stored, and an entry whose
handler has died is stored until something else sweeps its type. No snapshot shows such a remnant,
so the answer tells apart what nothing else does.
-/

namespace EventBus

/-- Whether a change drops the dead entries of the type of a handle. -/
def Change.sweeps (handle : SubscriptionHandle) : Change → Bool
  | .subscribe type _ _ => type == handle.type
  -- The handle of another registry is turned away before anything is dropped.
  | .unsubscribe other => other.registry == handle.registry && other.type == handle.type
  | .prune | .close => true

/-- The changes that an incident carries out, one after the other. -/
def Incident.carried : Incident → List Change
  | .request (.subscribeMany types handler) =>
    -- With a blank type among several, none of them is subscribed to.
    if types.any EventType.isBlank then []
    else (Request.subscribeMany types handler).changes
  | incident => incident.changes

/-- What an incident carries out is what it is made of. -/
theorem Incident.mem_changes {incident : Incident} {change : Change}
    (carried : change ∈ incident.carried) : change ∈ incident.changes := by
  -- What is refused carries nothing out.
  unfold Incident.carried at carried
  split at carried
  · split at carried
    · exact absurd carried List.not_mem_nil
    · exact carried
  · exact carried

/-- Whether an incident drops the dead entries of the type of a handle. -/
def Incident.sweeps (handle : SubscriptionHandle) (incident : Incident) : Bool :=
  incident.carried.any (Change.sweeps handle)

/-- What continues a living entry is alive. -/
theorem Entry.Continues.isAlive {earlier later : Entry} (continues : earlier.Continues later)
    {alive : Handler → Bool} (living : earlier.isAlive alive = true) :
    later.isAlive alive = true := by
  rw [Entry.isAlive, continues.handler_eq]
  -- It is of the same handler, and retained if the earlier one was.
  rcases Bool.or_eq_true_iff.mp living with retained | owned
  · rw [continues.retained_of retained, Bool.true_or]
  · rw [owned, Bool.or_true]

namespace Registry

variable {registry : Registry} {handle : SubscriptionHandle} {entry : Entry}

/-- A registry that stores certain entries under the type of one of its handles. -/
structure Stores (handle : SubscriptionHandle) (entries : List Entry) (registry : Registry) :
    Prop where
  wellFormed : registry.WellFormed
  own : handle.registry = registry.id
  entries_eq : registry.entries handle.type = entries

/-- A change that does not sweep a type leaves the entries of the type alone. -/
theorem survives_stores (entries : List Entry) {change : Change}
    (unswept : change.sweeps handle = false) : Survives (Stores handle entries) change := by
  intro registry alive stores
  obtain ⟨wellFormed, own, same⟩ := stores
  refine ⟨wellFormed.change alive change,
    own.trans (wellFormed.succeeds_change alive change).id_eq.symm, ?_⟩
  rw [← same]
  -- Subscriptions and unsubscriptions only write to the list of their own type.
  cases change with
  | subscribe type handler retain =>
    have other : handle.type ≠ type := Ne.symm (by simpa [Change.sweeps] using unswept)
    rcases registry.subscribe_cases alive type handler retain with
      ⟨_, made⟩ | ⟨_, _, ⟨_, _, made⟩ | ⟨_, made⟩⟩ <;> simp only [Registry.change, made]
    · rfl
    · rw [entries_setEntries, if_neg other]
    · rw [entries_setEntries, if_neg other]
      rfl
  | unsubscribe used =>
    simp only [Registry.change]
    rcases wellFormed.unsubscribe_cases alive used with ⟨_, made⟩ | ⟨_, here, made⟩
    · rw [made]
    · -- A handle that is used here is one of the same registry, so its type is another.
      have other : handle.type ≠ used.type := fun ofType => by
        simp [Change.sweeps, here, own, ofType] at unswept
      rw [made, entries_setEntries, if_neg other]
  | prune | close => cases unswept

/-- A type under which something is stored is not blank. -/
theorem WellFormed.named_of_stored (wellFormed : registry.WellFormed) {type : EventType}
    (stored : entry ∈ registry.entries type) : type.isBlank = false := by
  -- In a registry that is well formed no list is kept for a blank type.
  obtain ⟨entries, listed, _⟩ := mem_subscriptionsOf.mp (wellFormed.mem_entries.mp stored)
  exact wellFormed.named type (List.mem_map_of_mem listed)

/-- After a change that sweeps a type, its entries are those that lived and new ones. -/
theorem WellFormed.origin_swept (wellFormed : registry.WellFormed) {alive : Handler → Bool}
    {change : Change} (swept : change.sweeps handle = true) (own : handle.registry = registry.id)
    (opened : registry.closed = false) (named : handle.type.isBlank = false)
    (stored : entry ∈ (registry.change alive change).entries handle.type) :
    (∃ earlier ∈ registry.live alive handle.type, earlier.id = entry.id) ∨
      registry.nextId < entry.id := by
  -- Each change leaves the living entries of the type at most, besides what it makes itself.
  cases change with
  | subscribe type handler retain =>
    obtain rfl : type = handle.type := by simpa [Change.sweeps] using swept
    obtain ⟨given, accepted⟩ := @subscribe_accepted registry alive handle.type handler retain
      named opened
    rcases registry.subscribe_cases alive handle.type handler retain with
      ⟨_, made⟩ | ⟨_, _, ⟨_, _, made⟩ | ⟨_, made⟩⟩
    · rw [made] at accepted
      cases accepted
    · simp only [Registry.change, made, entries_setEntries, if_true] at stored
      obtain ⟨earlier, living, rfl⟩ := List.mem_map.mp stored
      exact Or.inl ⟨earlier, living, (Entry.upgrade_id ..).symm⟩
    · simp only [Registry.change, made, entries_setEntries, if_true] at stored
      rcases List.mem_append.mp stored with living | new
      · exact Or.inl ⟨entry, living, rfl⟩
      · rw [List.mem_singleton.mp new]
        exact Or.inr (Nat.lt_succ_self _)
  -- An unsubscription that comes to this registry leaves the living entries but its own.
  | unsubscribe used =>
    have same : used.registry = handle.registry ∧ used.type = handle.type := by
      simpa [Change.sweeps] using swept
    have registry_eq := @WellFormed.unsubscribe_registry registry alive wellFormed opened used
      (same.1.trans own)
    simp only [Registry.change, registry_eq, same.2, entries_setEntries, if_true] at stored
    obtain ⟨there, left⟩ := List.mem_filter.mp stored
    have living : entry.isAlive alive = true := (Bool.and_eq_true_iff.mp left).1
    exact Or.inl ⟨entry, List.mem_filter.mpr ⟨there, living⟩, rfl⟩
  -- Pruning drops the dead entries of every type, and closing all of them.
  | prune => exact Or.inl ⟨entry, wellFormed.entries_prune handle.type ▸ stored, rfl⟩
  | close =>
    have nothing := wellFormed.close.entries_closed (closed_close registry) handle.type
    rw [Registry.change, nothing] at stored
    exact absurd stored List.not_mem_nil

/-- A dead entry is gone after a change that sweeps its type. -/
theorem WellFormed.spent_of_swept (wellFormed : registry.WellFormed) {alive : Handler → Bool}
    {change : Change} (swept : change.sweeps handle = true)
    (found : registry.find? handle = some entry) (dead : entry.isAlive alive = false) :
    Spent handle (registry.change alive change) := by
  obtain ⟨own, given⟩ := wellFormed.issued_of_find? found
  obtain ⟨stored, same⟩ := wellFormed.find?_eq_some.mp found
  have succeeds := wellFormed.succeeds_change alive change
  have later := wellFormed.change alive change
  -- Were an entry found by the handle, it would come from a living one or be new.
  refine ⟨later, own.trans succeeds.id_eq.symm, Nat.le_trans given succeeds.nextId_le,
    later.find?_eq_none.mpr fun other there again => ?_⟩
  have hit : entry.id = handle.id := congrArg SubscriptionHandle.id same
  have hit' : other.id = handle.id := congrArg SubscriptionHandle.id again
  rcases wellFormed.origin_swept swept own (wellFormed.opened_of_find? found)
    (wellFormed.named_of_stored stored) there with ⟨earlier, living, ofId⟩ | new
  · -- The entry with the id would have to be the dead one.
    have one := wellFormed.eq_of_id (wellFormed.mem_of_live living)
      (wellFormed.mem_entries.mp stored) (ofId.trans (hit'.trans hit.symm))
    obtain rfl : earlier = entry := congrArg Subscription.entry one
    exact absurd ((List.mem_filter.mp living).2.symm.trans dead) (by decide)
  · -- A new entry has a number that the registry has not given before.
    omega

/-- The registry after several changes, all of which find the same handlers alive. -/
def changeEach (registry : Registry) (alive : Handler → Bool) (changes : List Change) : Registry :=
  changes.foldl (fun registry change => registry.change alive change) registry

/-- The first change is carried out before the others. -/
theorem changeEach_cons (registry : Registry) (alive : Handler → Bool) (change : Change)
    (rest : List Change) : registry.changeEach alive (change :: rest) =
      (registry.change alive change).changeEach alive rest := rfl

section Several

variable {alive : Handler → Bool} {changes : List Change}

/-- What survives each of several changes survives all of them. -/
theorem survives_changeEach {property : Registry → Prop}
    (survives : ∀ change ∈ changes, Survives property change) (held : property registry) :
    property (registry.changeEach alive changes) := by
  -- The induction is on the changes, with the registry that the first one leaves.
  induction changes generalizing registry with
  | nil => exact held
  | cons change rest ih =>
    have first := survives change List.mem_cons_self registry alive held
    exact ih (fun other there => survives other (List.mem_cons_of_mem change there)) first

/-- A dead entry is gone after several changes, one of which sweeps its type. -/
theorem WellFormed.spent_changeEach (wellFormed : registry.WellFormed)
    (swept : ∃ change ∈ changes, change.sweeps handle = true)
    (found : registry.find? handle = some entry) (dead : entry.isAlive alive = false) :
    Spent handle (registry.changeEach alive changes) := by
  -- The induction is on the changes, up to the first one that sweeps the type.
  induction changes generalizing registry with
  | nil => exact absurd swept (by simp)
  | cons change rest ih =>
    have formed := wellFormed.change alive change
    rw [changeEach_cons]
    cases first : change.sweeps handle with
    | true =>
      -- The entry goes with this change, and no later one brings it back.
      exact survives_changeEach (fun other _ => (kept_spent handle).survives other)
        (wellFormed.spent_of_swept first found dead)
    -- A change that does not sweep the type leaves the dead entry where it is.
    | false =>
      have own := (wellFormed.issued_of_find? found).1
      have stores := survives_stores (registry.entries handle.type) first registry alive
        ⟨wellFormed, own, rfl⟩
      have still : Registry.find? (registry.change alive change) handle = some entry := by
        rw [find?, if_pos stores.own, stores.entries_eq]
        rwa [find?, if_pos own] at found
      obtain ⟨other, there, sweeps⟩ := swept
      rcases List.mem_cons.mp there with rfl | behind
      · exact absurd (sweeps.symm.trans first) (by decide)
      · exact ih formed ⟨other, behind, sweeps⟩ still

/-- A living entry is there after several changes none of which closes or uses its handle. -/
theorem WellFormed.stays_changeEach (wellFormed : registry.WellFormed)
    (opened : registry.closed = false)
    (others : ∀ change ∈ changes, change ≠ .close ∧ change ≠ .unsubscribe handle)
    (found : registry.find? handle = some entry) (living : entry.isAlive alive = true) :
    ∃ later, Registry.find? (registry.changeEach alive changes) handle = some later ∧
      entry.Continues later := by
  -- An entry that continues a living one is alive as well, so it stays through the next change.
  induction changes generalizing registry entry with
  | nil => exact ⟨entry, found, .refl entry⟩
  | cons change rest ih =>
    obtain ⟨notClose, notEnd⟩ := others change List.mem_cons_self
    obtain ⟨formed, stillOpen⟩ := survives_closed false notClose registry alive
      ⟨wellFormed, opened⟩
    obtain ⟨stored, same⟩ := wellFormed.find?_eq_some.mp found
    rcases wellFormed.stays (List.mem_filter.mpr ⟨stored, living⟩) change with
      closed | ended | ⟨next, there, continues⟩
    · exact absurd (closed.symm.trans stillOpen) (by decide)
    · rw [same] at ended
      exact absurd ended notEnd
    · have found' : Registry.find? (registry.change alive change) handle = some next := by
        refine formed.find?_eq_some.mpr ⟨there, ?_⟩
        rw [Registry.handle, (wellFormed.succeeds_change alive change).id_eq, continues.id_eq]
        exact same
      obtain ⟨later, last, goes⟩ := ih formed stillOpen
        (fun other there => others other (List.mem_cons_of_mem change there)) found'
        (continues.isAlive living)
      exact ⟨later, last, continues.trans goes⟩

end Several

end Registry

namespace Hub

/-- Whether a snapshot shows the subscription that a handle stands for. -/
def shows (hub : Hub) (handle : SubscriptionHandle) : Bool :=
  -- Another registry may have given out the same id, so the snapshot alone does not tell.
  handle.registry == hub.registry.id &&
    match hub.registry.snapshot hub.alive handle.type with
    | .ok subscribers => subscribers.any (·.id == handle.id)
    | .error _ => false

/-- Whether a handle stands for a dead entry that is still stored. -/
def lingers (hub : Hub) (handle : SubscriptionHandle) : Bool :=
  (hub.registry.find? handle).any fun entry => !entry.isAlive hub.alive

section Reading

variable {hub : Hub} (wellFormed : hub.registry.WellFormed) {handle : SubscriptionHandle}

include wellFormed

/-- A snapshot shows a subscription exactly if its entry is stored and alive. -/
theorem shows_iff : hub.shows handle = true ↔
    ∃ entry, hub.registry.find? handle = some entry ∧ entry.isAlive hub.alive = true := by
  by_cases closed : hub.registry.closed = true
  · -- A closed registry gives no snapshot, and stores nothing.
    have nothing : hub.registry.find? handle = none :=
      wellFormed.find?_eq_none.mpr fun entry stored => by
        rw [wellFormed.entries_closed closed] at stored
        exact absurd stored List.not_mem_nil
    simp [shows, Registry.snapshot, closed, nothing]
  -- Both the snapshot and the finding go through the living entries of the type.
  have taken : hub.registry.snapshot hub.alive handle.type =
      .ok ((hub.registry.live hub.alive handle.type).map Entry.subscriber) := if_neg closed
  simp only [shows, taken, Bool.and_eq_true, beq_iff_eq, List.any_eq_true, List.mem_map]
  constructor
  · rintro ⟨own, _, ⟨entry, living, rfl⟩, hit⟩
    obtain ⟨stored, isAlive⟩ := List.mem_filter.mp living
    have hit : entry.id = handle.id := hit
    refine ⟨entry, wellFormed.find?_eq_some.mpr ⟨stored, ?_⟩, isAlive⟩
    rw [Registry.handle, hit, ← own]
  · rintro ⟨entry, found, isAlive⟩
    obtain ⟨stored, same⟩ := wellFormed.find?_eq_some.mp found
    exact ⟨(wellFormed.issued_of_find? found).1, _,
      ⟨entry, List.mem_filter.mpr ⟨stored, isAlive⟩, rfl⟩, congrArg SubscriptionHandle.id same⟩

omit wellFormed in
/-- A handle lingers exactly if its entry is stored and dead. -/
theorem lingers_iff : hub.lingers handle = true ↔
    ∃ entry, hub.registry.find? handle = some entry ∧ entry.isAlive hub.alive = false := by
  -- The finding gives an entry, and lingering asks whether it is dead.
  simp [lingers, Option.any_eq_true]

/-- What is stored is either shown or lingers, and never both. -/
theorem stored_iff (handle : SubscriptionHandle) :
    ((hub.registry.find? handle).isSome = true ↔
      hub.shows handle = true ∨ hub.lingers handle = true) ∧
    ¬ (hub.shows handle = true ∧ hub.lingers handle = true) := by
  -- Whatever entry is found is alive or dead, and not both.
  rw [shows_iff wellFormed, lingers_iff]
  cases hub.registry.find? handle with
  | none => simp
  | some entry => cases living : entry.isAlive hub.alive <;> simp [living]

end Reading

section Steps

variable {hub next : Hub} {handle : SubscriptionHandle}

/-- A weak subscription is a change of the registry, and leaves the same handlers alive. -/
theorem subscribe_change (config : BusConfig) (wellFormed : hub.registry.WellFormed)
    (type : EventType) (handler : Handler) :
    let next := ((bus config fun _ _ => none).subscribe type handler hub).2
    next.registry = hub.registry.change hub.alive (.subscribe type handler false) ∧
      next.alive = hub.alive := by
  -- The answer only decides what is noted in the log.
  have kept := alive_subscribe wellFormed type handler
  rw [subscribe_eq]
  split <;> exact ⟨rfl, kept⟩

/-- A series of weak subscriptions is a series of changes that find the same handlers alive. -/
theorem subscribeEach_changes (config : BusConfig) (wellFormed : hub.registry.WellFormed)
    {types : List EventType} (named : ∀ type ∈ types, type.isBlank = false) (handler : Handler) :
    ((bus config fun _ _ => none).subscribeEach handler types hub).2.registry =
      hub.registry.changeEach hub.alive (Request.subscribeMany types handler).changes := by
  -- The induction is on the types, up to a refusal, which only a closed registry can give.
  induction types generalizing hub with
  | nil => rfl
  | cons type rest ih =>
    have others : ∀ type ∈ rest, type.isBlank = false := fun type there =>
      named type (List.mem_cons_of_mem _ there)
    obtain ⟨registry, alive⟩ := subscribe_change config wellFormed type handler
    have answered := (subscribe_frame config hub type handler).1
    rw [subscribeEach_cons, Request.changes, List.map_cons, Registry.changeEach_cons]
    generalize (bus config fun _ _ => none).subscribe type handler hub = done
      at registry alive answered ⊢
    obtain ⟨answer, first⟩ := done
    cases answer with
    | ok given =>
      have formed : first.registry.WellFormed := registry ▸ wellFormed.change hub.alive _
      rw [← registry, ← alive]
      exact ih formed others
    | error error =>
      -- A series that is refused at once meets a closed registry, which no change touches.
      have closed : hub.registry.closed = true := by
        refine Bool.of_not_eq_false fun opened => ?_
        obtain ⟨given, accepted⟩ := @Registry.subscribe_accepted hub.registry hub.alive type
          handler false (named type List.mem_cons_self) opened
        cases answered.trans accepted
      have same : hub.registry.change hub.alive (.subscribe type handler false) = hub.registry :=
        Registry.subscribe_refused answered.symm
      show first.registry = _
      rw [registry, same]
      -- A closed registry refuses the rest as well, which would be changes of nothing.
      have survives : ∀ change ∈ (Request.subscribeMany rest handler).changes,
          Registry.Survives (· = hub.registry) change := by
        rintro change made _ alive rfl
        obtain ⟨other, there, rfl⟩ := List.mem_map.mp made
        exact congrArg Section.registry (Registry.subscribe_closed (others other there) closed)
      exact (Registry.survives_changeEach survives rfl).symm

variable {config : BusConfig}

/-- Whatever happens at a hub carries out its changes on the registry. -/
theorem registry_of_step {incident : Incident} {answer : Answer}
    (wellFormed : hub.registry.WellFormed)
    (happened : hub.step? config incident = some (answer, next)) :
    next.registry = hub.registry.changeEach hub.alive incident.carried := by
  -- Of all requests, only a subscription to several types is more than one section.
  cases incident with
  | request request =>
    simp only [step?, Option.ite_none_right_eq_some, Option.some.injEq] at happened
    obtain ⟨_, served⟩ := happened
    obtain rfl : (serve (bus config fun _ _ => none) request hub).2 = next :=
      congrArg Prod.snd served
    cases request with
    | subscribe type handler => exact (subscribe_change config wellFormed type handler).1
    | subscribeMany types handler =>
      simp only [serve, Bus.subscribeMany, Incident.carried]
      cases found : types.find? EventType.isBlank with
      | some blank =>
        have among : types.any EventType.isBlank = true :=
          List.any_eq_true.mpr ⟨blank, List.mem_of_find?_eq_some found, List.find?_some found⟩
        rw [if_pos among]
        rfl
      | none =>
        have named : ∀ type ∈ types, type.isBlank = false := fun type there => by
          simpa using List.find?_eq_none.mp found type there
        have none_blank : ¬ types.any EventType.isBlank = true := by simpa using named
        rw [if_neg none_blank]
        exact subscribeEach_changes config wellFormed named handler
    | snapshot type =>
      simp only [serve, bind, StateT.bind, snapshot_eq]
      cases hub.registry.snapshot hub.alive type <;> rfl
    -- The remaining requests are one section each, and the rest of what they do is at the log.
    | close =>
      simp only [serve, bind, StateT.bind, close_eq]
      split <;> rfl
    | subscribeRetained type handler =>
      simp only [serve, bind, StateT.bind, subscribeRetained_eq]
      rfl
    | unsubscribe handle =>
      simp only [serve, bind, StateT.bind, unsubscribe_eq]
      rfl
    | prune =>
      simp only [serve, bind, StateT.bind, prune_eq]
      rfl
    | _ => rfl
  -- A publication takes a snapshot, which changes no registry.
  | publishAsync runtime event =>
    have same := (publishAsync_keeps config hub runtime event).1
    have later : ((bus config fun _ _ => none).publishAsync runtime event hub).2 = next :=
      congrArg Prod.snd (Option.some.inj happened)
    rw [later] at same
    exact same
  -- A move of a flight is none of the registry's business.
  | move index move =>
    simp only [step?, bind, pure, Option.ite_none_right_eq_some, Option.bind_eq_some_iff,
      Option.some.injEq, Prod.mk.injEq] at happened
    obtain ⟨_, _, _, _, _, _, rfl⟩ := happened
    rfl

/-- Everybody who is alive or subscribed at a hub has come into being. -/
theorem Attainable.peopled (attainable : hub.Attainable config) : hub.Peopled := by
  -- The induction is on how the hub came about, and every incident is a walk.
  induction attainable with
  | new id =>
    have nobody (handler : Handler) : (Hub.new id).alive handler = false := rfl
    exact ⟨Registry.wellFormed_new id,
      fun handler living => absurd (living.symm.trans (nobody handler)) (by decide),
      fun there => absurd there List.not_mem_nil⟩
  | step before happened ih => exact ih.walk (walk_of_step .clients before.intact.1 happened)
  | noted before calls records ih => exact ⟨ih.wellFormed, ih.living, ih.stored⟩

variable {incident : Incident} {answer : Answer}

/-- A remnant remains until an incident sweeps its type, and is gone then. -/
theorem lingers_step (peopled : hub.Peopled)
    (happened : hub.step? config incident = some (answer, next))
    (lingering : hub.lingers handle = true) :
    if incident.sweeps handle then Registry.Spent handle next.registry
    else next.lingers handle = true := by
  have wellFormed := peopled.wellFormed
  have registry := registry_of_step wellFormed happened
  obtain ⟨entry, found, dead⟩ := lingers_iff.mp lingering
  -- A sweep takes the dead entry away; otherwise the list is as before and its handler still dead.
  cases swept : incident.sweeps handle with
  | true =>
    rw [if_pos rfl, registry]
    exact wellFormed.spent_changeEach (List.any_eq_true.mp swept) found dead
  | false =>
    rw [if_neg (by decide)]
    have own := (wellFormed.issued_of_find? found).1
    obtain ⟨stored, _⟩ := wellFormed.find?_eq_some.mp found
    have stores : Registry.Stores handle (hub.registry.entries handle.type) next.registry := by
      rw [registry]
      refine Registry.survives_changeEach (fun change there => ?_) ⟨wellFormed, own, rfl⟩
      exact Registry.survives_stores _ (by simpa using List.any_eq_false.mp swept change there)
    refine lingers_iff.mpr ⟨entry, ?_, ?_⟩
    · rw [Registry.find?, if_pos stores.own, stores.entries_eq]
      rwa [Registry.find?, if_pos own] at found
    · -- A handler that is dead was alive once, and does not come back.
      have mortal := (walk_of_step .clients wellFormed happened).mortal
      obtain ⟨weak, gone⟩ := Bool.or_eq_false_iff.mp dead
      exact Bool.or_eq_false_iff.mpr ⟨weak, mortal.dead (peopled.stored stored) gone⟩

/-- A handle that is spent neither shows nor lingers. -/
theorem absent_of_spent (spent : Registry.Spent handle hub.registry) :
    hub.shows handle = false ∧ hub.lingers handle = false := by
  -- What is not stored is neither.
  have stored := (stored_iff spent.wellFormed handle).1
  rw [spent.gone] at stored
  simpa using stored

/-- Whatever sections keep holds of the registry after a run. -/
theorem registry_run {property : Registry → Prop} (kept : Registry.Kept property)
    {incidents : List Incident} {last : Hub} (ran : hub.run? config incidents = some last)
    (held : property hub.registry) : property last.registry :=
  run_keeps (fun held happened => registry_step kept happened held) ran held

/-- A remnant is not shown again, and remains exactly until its type is swept. -/
theorem lingers_run {incidents : List Incident} {last : Hub} (attainable : hub.Attainable config)
    (ran : hub.run? config incidents = some last) (lingering : hub.lingers handle = true) :
    last.shows handle = false ∧
      (last.lingers handle = true ↔
        ∀ incident ∈ incidents, incident.sweeps handle = false) := by
  -- The induction is on the incidents, up to the first one that sweeps the type.
  induction incidents generalizing hub with
  | nil =>
    cases ran
    have apart := (stored_iff attainable.intact.1 handle).2
    exact ⟨by simpa [lingering] using apart, by simpa using lingering⟩
  | cons incident rest ih =>
    unfold run? at ran
    split at ran
    · cases ran
    rename_i answer next happened
    have first := lingers_step attainable.peopled happened lingering
    have later := attainable.step happened
    cases swept : incident.sweeps handle with
    | false =>
      rw [swept, if_neg (by decide)] at first
      simpa [swept] using ih later ran first
    | true =>
      -- It is gone with this incident, whatever follows.
      rw [swept, if_pos rfl] at first
      have spent := registry_run (Registry.kept_spent handle) ran first
      obtain ⟨hidden, gone⟩ := absent_of_spent spent
      exact ⟨hidden, by simp [swept, gone]⟩

/-- What a snapshot shows is stored until its handle ends it or the bus is closed. -/
theorem stored_step (wellFormed : hub.registry.WellFormed)
    (happened : hub.step? config incident = some (answer, next))
    (notEnd : incident ≠ .request (.unsubscribe handle)) (notClose : incident ≠ .request .close)
    (shown : hub.shows handle = true) :
    next.shows handle = true ∨ next.lingers handle = true := by
  -- None of the changes that it is made of closes the registry or puts the handle to use.
  obtain ⟨entry, found, living⟩ := (shows_iff wellFormed).mp shown
  have others : ∀ change ∈ incident.carried, change ≠ .close ∧ change ≠ .unsubscribe handle := by
    intro change there
    have made := Incident.mem_changes there
    refine ⟨fun same => notClose (Incident.eq_close (same ▸ made)), fun same => notEnd ?_⟩
    exact Incident.eq_unsubscribe made (same ▸ rfl)
  obtain ⟨later, stays, _⟩ := wellFormed.stays_changeEach (wellFormed.opened_of_find? found)
    others found living
  rw [← registry_of_step wellFormed happened] at stays
  have formed := registry_step Registry.kept_wellFormed happened wellFormed
  exact (stored_iff formed handle).1.mp (Option.isSome_iff_exists.mpr ⟨later, stays⟩)

end Steps

end Hub

/--
An open bus answers an unsubscription with yes exactly if the entry of the handle is stored.

Then a snapshot would show it, or it is the remnant of a handler that has died. What a snapshot
shows is stored until its handle ends it or the bus is closed. A remnant is never shown again, and
is stored until a subscription to its type, the end of another one of its type, a pruning or the
close sweeps it away.
-/
theorem unsubscription_finds_stored {config : BusConfig} {hub : Hub}
    (attainable : hub.Attainable config) (opened : hub.registry.closed = false)
    (handle : SubscriptionHandle) :
    (∃ found, hub.step? config (.request (.unsubscribe handle)) =
        some (.unsubscribed (.ok found), hub.ended handle) ∧
      (found = true ↔ hub.shows handle = true ∨ hub.lingers handle = true)) ∧
    ¬ (hub.shows handle = true ∧ hub.lingers handle = true) ∧
    (hub.shows handle = true → ∀ incident answer next,
      hub.step? config incident = some (answer, next) →
      incident ≠ .request (.unsubscribe handle) → incident ≠ .request .close →
      next.shows handle = true ∨ next.lingers handle = true) ∧
    (hub.lingers handle = true → ∀ incidents last, hub.run? config incidents = some last →
      last.shows handle = false ∧
        (last.lingers handle = true ↔
          ∀ incident ∈ incidents, incident.sweeps handle = false)) := by
  have wellFormed := attainable.intact.1
  obtain ⟨stored, apart⟩ := Hub.stored_iff wellFormed handle
  refine ⟨?_, apart, fun shown incident answer next happened notEnd notClose =>
    Hub.stored_step wellFormed happened notEnd notClose shown,
    fun lingering incidents last ran => Hub.lingers_run attainable ran lingering⟩
  have answers := @Registry.WellFormed.unsubscribe_found hub.registry hub.alive handle wellFormed
  rw [Hub.step?_unsubscribe, ← stored, ← answers]
  -- An open registry refuses no handle, so all there is to tell is what it says.
  cases answered : (hub.registry.unsubscribe hub.alive handle).answer with
  | ok found => exact ⟨found, rfl, by simp⟩
  | error error =>
    by_cases own : handle.registry = hub.registry.id
    · cases answered.symm.trans (Registry.unsubscribe_answer opened own)
    · rw [Registry.unsubscribe_foreign opened own] at answered
      cases answered

/-- A handler is subscribed and dies, and something else may happen after that. -/
def weakEnd (afterwards : List Incident) : List Incident :=
  [.request (.create ⟨1, "audit"⟩), .request (.subscribe ⟨"order"⟩ ⟨1, "audit"⟩),
    .request (.release ⟨1, "audit"⟩)] ++ afterwards

/-- The subscription of a handler that has died is found, unless it has been swept away. -/
theorem weakEnd_found :
    let handle : SubscriptionHandle := ⟨0, 1, ⟨"order"⟩⟩
    ∃ hub : Hub, (Hub.new 0).run? {} (weakEnd []) = some hub ∧
      hub.step? {} (.request (.unsubscribe handle)) =
        some (.unsubscribed (.ok true), hub.ended handle) ∧
      ∃ last : Hub, hub.run? {} [.request (.snapshot ⟨"order"⟩), .request .prune] = some last ∧
        last.lingers handle = false := by
  intro handle
  have seen : ((Hub.new 0).run? {} (weakEnd [])).bind (fun hub =>
      (hub.run? {} [.request (.snapshot ⟨"order"⟩), .request .prune]).map fun _ =>
        (hub.registry.closed, hub.lingers handle)) = some (false, true) := by decide +kernel
  -- Before the pruning the entry lingers, and the theorem says what becomes of it.
  obtain ⟨hub, ran, seen⟩ := Option.bind_eq_some_iff.mp seen
  obtain ⟨last, later, seen⟩ := Option.map_eq_some_iff.mp seen
  simp only [Prod.mk.injEq] at seen
  obtain ⟨opened, lingering⟩ := seen
  have attainable := ((Hub.Reachable.new 0).run? ran).attainable
  obtain ⟨⟨found, happened, tells⟩, _, _, remains⟩ :=
    unsubscription_finds_stored attainable opened handle
  obtain rfl := tells.mpr (Or.inr lingering)
  refine ⟨hub, ran, happened, last, later, ?_⟩
  have swept := (remains lingering _ _ later).2
  rw [Bool.eq_false_iff, ne_eq, swept]
  decide

/-- Two hubs show nothing at all, and unsubscriptions are answered differently at them. -/
theorem weakEnd_told_apart :
    let order : EventType := ⟨"order"⟩
    let handle : SubscriptionHandle := ⟨0, 1, order⟩
    let answers := fun afterwards found =>
      ∃ hub : Hub, (Hub.new 0).run? {} (weakEnd afterwards) = some hub ∧
        hub.registry.size hub.alive = 0 ∧ hub.registry.snapshot hub.alive order = .ok [] ∧
        hub.step? {} (.request (.unsubscribe handle)) =
          some (.unsubscribed (.ok found), hub.ended handle)
    answers [] true ∧ answers [.request .prune] false := by
  -- Both ways come to a hub that shows nothing, and only what is stored differs.
  intro order handle answers
  have told (afterwards : List Incident) (found : Bool)
      (seen : ((Hub.new 0).run? {} (weakEnd afterwards)).map (fun hub => decide (
          hub.registry.closed = false ∧ handle.registry = hub.registry.id ∧
          hub.registry.size hub.alive = 0 ∧ hub.registry.live hub.alive order = [] ∧
          (hub.registry.entries order).any (·.id == handle.id) = found)) = some true) :
      answers afterwards found := by
    -- Size, snapshot and answer are read off the registry of that hub.
    obtain ⟨hub, ran, facts⟩ := Option.map_eq_some_iff.mp seen
    obtain ⟨opened, own, none_alive, nothing, stored⟩ := of_decide_eq_true facts
    have taken : hub.registry.snapshot hub.alive order =
        .ok ((hub.registry.live hub.alive order).map Entry.subscriber) := if_neg (by simp [opened])
    refine ⟨hub, ran, none_alive, by rw [taken, nothing]; rfl, ?_⟩
    rw [Hub.step?_unsubscribe, Registry.unsubscribe_answer opened own, stored]
  exact ⟨told [] true (by decide +kernel), told [.request .prune] false (by decide +kernel)⟩

end EventBus
