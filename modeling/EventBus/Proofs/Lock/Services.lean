import EventBus.Proofs.Lock.Queries

/-!
With nobody else there, every operation does what the bus does at a hub, up to what it has still to
give up and to write. So what a dying handler does comes after the operation and changes no answer.
-/

namespace EventBus

/-- The same section with another answer. -/
def Section.answered {α β : Type} (done : Section α) (change : α → β) : Section β :=
  ⟨change done.answer, done.registry, done.released, done.records⟩

namespace Locked

/-- The bus of a hub at which handlers do nothing when they are called. -/
abbrev hubBus : Bus (StateM Hub) := Hub.bus {} fun _ _ => none

namespace View

variable (view : View) (afar : Handler → Nat)

/-- The hub of a thread, to which all others are clients. -/
def hub : Hub where
  registry := view.registry
  outside handler := view.hand handler + view.elsewhere handler + afar handler
  born := view.born
  voyages := []
  calls := []
  records := view.records

/-- The view once an operation has given up what it leaves and has written its records. -/
def settled {α : Type} (remainder : Remainder α) : View :=
  { view.lose remainder.released with records := view.records ++ remainder.records }

/-- The view of a thread that has noted that a handler has a single owner, if that is so. -/
def noting (type : EventType) (handler : Handler) (owners : Nat) : View :=
  { view with
    records := view.records ++ if owners = 1 then [.singleOwner type handler.name] else [] }

/-- Settling what leaves nothing changes nothing. -/
@[simp] theorem settled_nothing {α : Type} (answer : α) : view.settled { answer } = view := by
  -- There is no reference to give up and no record to write.
  simp [settled]

/-- Further records are written last. -/
theorem settled_more {α : Type} (remainder : Remainder α) (records : List LogRecord) :
    view.settled { remainder with records := remainder.records ++ records } =
      { view.settled remainder with
        records := (view.settled remainder).records ++ records } := by
  -- The records are written after all references have been given up.
  simp [settled]

/-- A hub counts the references that its thread counts. -/
@[simp] theorem owners_hub : (view.hub afar).owners = view.owners afar := by
  -- A hub without flights counts clients and registry, and the clients stand for all threads.
  funext handler
  simp only [Hub.owners, hub, owners, List.foldl_nil]
  omega

/-- The same handlers are alive at a hub as to its thread. -/
@[simp] theorem alive_hub : (view.hub afar).alive = view.alive afar := by
  -- Who is alive is who has owners.
  funext handler
  rw [Hub.alive, owners_hub, alive]

/-- A reference that a thread gains is one that a client takes at its hub. -/
theorem hub_gain (handler : Handler) :
    (view.gain [handler]).hub afar = (view.hub afar).take handler := by
  -- Only the count of this handler differs, and by one on either side.
  simp only [hub, gain, Hub.take]
  congr 1
  funext other
  by_cases same : other = handler
  · simp [same]
    omega
  · simp [same, Ne.symm same]

/-- A reference that a thread loses is one that a client gives up at its hub. -/
theorem hub_lose {view : View} {handler : Handler} (held : 0 < view.hand handler) :
    (view.lose [handler]).hub afar = (view.hub afar).giveUp handler := by
  -- Only the count of this handler differs, and by one on either side.
  simp only [hub, lose, Hub.giveUp]
  congr 1
  funext other
  by_cases same : other = handler
  · subst same
    simp
    omega
  · simp [same, Ne.symm same]

/-- What a thread notes is noted at its hub. -/
theorem hub_noting (type : EventType) (handler : Handler) (owners : Nat) :
    (view.noting type handler owners).hub afar =
      if owners = 1 then (view.hub afar).note (.singleOwner type handler.name)
      else view.hub afar := by
  -- The warning is written exactly if there is a single owner.
  by_cases single : owners = 1
  · simp only [noting, hub, Hub.note, if_pos single]
  · simp only [noting, hub, if_neg single, List.append_nil]

end View

variable {company : Company} {view later : View} {α : Type}

/-- A section that was carried out with nobody else there is the one that the hub carries out. -/
theorem Carried.agrees {section? : Registry → (Handler → Bool) → Section α} {used : List Handler}
    {remainder : Remainder α} {afar : Handler → Nat}
    (carried : Carried (.idle afar) view section? used remainder later) :
    let done := section? view.registry (view.alive afar)
    remainder.answer = done.answer ∧
      (later.settled remainder).hub afar = ((view.lose used).hub afar).after done := by
  -- Nobody has changed the registry in between, and everybody is as alive as they count.
  obtain ⟨registry, seen, found, fits, answered, noted, stored⟩ := carried.result
  obtain rfl : registry = view.registry := found
  obtain rfl : seen = view.alive afar := fits
  refine ⟨answered, ?_⟩
  have outside (handler : Handler) :
      later.hand handler - remainder.released.count handler =
        view.hand handler - used.count handler := by
    have hand := carried.hand handler
    omega
  simp only [View.hub, View.settled, View.lose, Hub.after, outside, stored, noted,
    carried.elsewhere, carried.born, carried.records]

/--
An operation has done what a bus does at a hub, up to what it leaves.

With nobody else there, the hub is the one that the operation leaves once it is settled.
-/
structure Performs (company : Company) (view : View) (effect : StateM Hub α)
    (remainder : Remainder α) (later : View) : Prop where
  evolves : view.registry.Evolves later.registry
  free : later.holding = none
  /-- What is still to be given up is in hand. -/
  held : ∀ handler, remainder.released.count handler ≤ later.hand handler
  agrees : ∀ afar, company = .idle afar →
    effect (view.hub afar) = (remainder.answer, (later.settled remainder).hub afar)

/-- A section that uses nothing up is carried out as the bus does it. -/
theorem Carried.performs {section? : Registry → (Handler → Bool) → Section α}
    {remainder : Remainder α} (carried : Carried company view section? [] remainder later) :
    Performs company view (hubBus.carryOut section?) remainder later where
  evolves := carried.evolves
  free := carried.free
  -- Nothing has been used up, so what is left to be released is in hand.
  held handler := by
    have hand := carried.hand handler
    rw [List.count_nil] at hand
    omega
  agrees afar alone := by
    subst alone
    obtain ⟨answered, left⟩ := carried.agrees
    rw [Hub.carryOut_eq, View.alive_hub, answered, left]
    rfl

/-- What an operation does is not changed by what is made of its answer. -/
theorem Performs.map {β : Type} {effect : StateM Hub α} {remainder : Remainder α}
    (performs : Performs company view effect remainder later) (change : α → β) :
    Performs company view (do return change (← effect)) (remainder.map change) later where
  evolves := performs.evolves
  free := performs.free
  held := performs.held
  agrees afar alone := by
    -- The state behind the answer is the same, whatever is made of the answer.
    show ((do return change (← effect) : StateM Hub β) (view.hub afar)) = _
    simp only [bind, StateT.bind, performs.agrees afar alone]
    rfl

/--
A section was carried out on a registry that has evolved from the one that was seen first.

Whatever others did in between, they left the section whole.
-/
def CarriedOut (view : View) (section? : Registry → (Handler → Bool) → Section α) (answer : α)
    (later : Registry) : Prop :=
  ∃ before seen, before.Intact ∧ view.registry.Evolves before ∧
    answer = (section? before seen).answer ∧ later = (section? before seen).registry

/-- A section that an operation has carried out was carried out. -/
theorem Carried.carriedOut {section? : Registry → (Handler → Bool) → Section α}
    {used : List Handler} {remainder : Remainder α}
    (carried : Carried company view section? used remainder later)
    (intact : view.registry.Intact) :
    CarriedOut view section? remainder.answer later.registry := by
  -- The section was carried out on a registry that was found, and its result is stored.
  obtain ⟨before, seen, found, _, answered, _, stored⟩ := carried.result
  obtain ⟨intact, evolves⟩ := found.intact intact
  exact ⟨before, seen, intact, evolves, answered, stored⟩

/-- What is made of its answer does not matter to a section. -/
theorem CarriedOut.answered {β : Type} {section? : Registry → (Handler → Bool) → Section α}
    {answer : α} {registry : Registry} (carriedOut : CarriedOut view section? answer registry)
    (change : α → β) :
    CarriedOut view (fun before seen => (section? before seen).answered change) (change answer)
      registry := by
  -- The section is the same, and only its answer is told in another form.
  obtain ⟨before, seen, intact, evolves, answered, stored⟩ := carriedOut
  exact ⟨before, seen, intact, evolves, congrArg change answered, stored⟩

/-- A reference that was taken first and is used up is none that the thread has lost. -/
theorem Carried.of_gain {section? : Registry → (Handler → Bool) → Section α} {handler : Handler}
    {remainder : Remainder α} {count : Nat} (counted : company.Counts view handler count)
    (living : 0 < count)
    (carried : Carried company (view.gain [handler]) section? [handler] remainder later) :
    Carried company view section? [] remainder later where
  result := by
    obtain ⟨registry, seen, found, fits, outcome⟩ := carried.result
    -- Alone, taking a living handler changes nothing of who is alive.
    cases company with
    | idle afar =>
      obtain rfl : registry = view.registry := found
      exact ⟨view.registry, seen, rfl, Company.Fits.of_gain fits counted living, outcome⟩
    | active sparing => exact ⟨registry, seen, found, trivial, outcome⟩
  evolves := carried.evolves
  free := carried.free
  hand other := by
    have hand := carried.hand other
    simp only [View.gain_hand, List.count_nil] at hand ⊢
    omega
  elsewhere := carried.elsewhere
  born := carried.born
  records := carried.records

/-- Once it is settled, an operation leaves nothing. -/
theorem Performs.settled {effect : StateM Hub α} {remainder : Remainder α}
    (performs : Performs company view effect remainder later) :
    Performs company view effect { answer := remainder.answer } (later.settled remainder) where
  evolves := performs.evolves
  free := performs.free
  held _ := Nat.zero_le _
  -- What was left has been given up, and nothing remains to be settled.
  agrees afar alone := by
    rw [performs.agrees afar alone, View.settled_nothing]

/-- A registry that an operation leaves is intact. -/
theorem Performs.intact {effect : StateM Hub α} {remainder : Remainder α}
    (performs : Performs company view effect remainder later) (intact : view.registry.Intact) :
    later.registry.Intact :=
  Registry.kept_handlersApart.evolves performs.evolves intact

/-- A weak subscription is made as the bus makes it. -/
theorem Carried.subscribes {type : EventType} {handler : Handler} {count : Nat}
    {remainder : Remainder (Except BusError SubscriptionHandle)}
    (counted : company.Counts view handler count)
    (carried : Carried company (view.noting type handler count)
      (fun registry seen => registry.subscribe seen type handler false) [] remainder later) :
    Performs company view (hubBus.subscribe type handler) remainder later where
  evolves := carried.evolves
  free := carried.free
  held := carried.performs.held
  -- Alone, the warning and the section are those of the bus.
  agrees afar alone := by
    subst alone
    obtain rfl : count = view.owners afar handler := counted
    obtain ⟨answered, left⟩ := carried.agrees
    rw [Hub.subscribe_eq, View.owners_hub, View.alive_hub, answered, left, View.lose_nil,
      View.hub_noting]
    rfl

/-- A question changes nothing but what the thread has seen of the registry. -/
theorem Performs.of_question {effect : StateM Hub α} {answer : α} {registry : Registry}
    (intact : view.registry.Intact) (found : company.Finds view registry)
    (agrees : ∀ afar, company = .idle afar → effect (view.hub afar) = (answer, view.hub afar)) :
    Performs company view effect { answer } { view with registry, holding := none } where
  evolves := (found.intact intact).2
  free := rfl
  held _ := Nat.zero_le _
  -- Alone, the registry that is found is the one that is seen.
  agrees afar alone := by
    rw [agrees afar alone]
    subst alone
    obtain rfl : registry = view.registry := found
    simp [View.hub, View.settled, View.lose]

namespace Procedure

/-- References in hand may be given up one by one, unless one of them could be the last. -/
theorem safe_releases {handlers : List Handler}
    (held : ∀ handler, handlers.count handler ≤ view.hand handler)
    (spare : view.holding ≠ none ∨ company.sparing = true →
      ∀ handler ∈ handlers, handlers.count handler < view.hand handler)
    {post : Unit → View → Prop} (given : post () (view.lose handlers)) :
    Safe company (handlers.forM fun handler => perform (.release handler)) view post := by
  -- Each release leaves one reference less of its handler in hand, and one less to be given up.
  induction handlers generalizing view with
  | nil => exact given
  | cons first rest ih =>
    show Safe company (do
      perform (.release first)
      rest.forM fun handler => perform (.release handler)) view post
    have own := held first
    rw [List.count_cons_self] at own
    refine .release (by omega) (fun watched => ?_) (ih (fun handler => ?_) ?_ ?_)
    · have spare := spare watched first List.mem_cons_self
      rw [List.count_cons_self] at spare
      omega
    · have held := held handler
      rw [List.count_cons] at held
      simp only [View.lose_hand, List.count_singleton]
      omega
    · intro watched handler listed
      have spare := spare watched handler (List.mem_cons_of_mem first listed)
      rw [List.count_cons] at spare
      simp only [View.lose_hand, List.count_singleton]
      omega
    · rw [View.lose_lose]
      exact given

/-- Records may be written at any time. -/
theorem safe_logs {records : List LogRecord} {post : Unit → View → Prop}
    (written : post () { view with records := view.records ++ records }) :
    Safe company (records.forM fun record => perform (.log record)) view post := by
  -- The induction is on the records.
  induction records generalizing view with
  | nil =>
    rw [List.append_nil] at written
    exact written
  | cons first rest ih =>
    refine .log (ih ?_)
    rw [List.append_assoc]
    exact written

/-- An operation may be settled as long as what it leaves is in hand. -/
theorem safe_settle {remainder : Remainder α}
    (held : ∀ handler, remainder.released.count handler ≤ view.hand handler)
    (spare : view.holding ≠ none ∨ company.sparing = true → ∀ handler ∈ remainder.released,
      remainder.released.count handler < view.hand handler)
    {post : Unit → View → Prop} (settled : post () (view.settled remainder)) :
    Safe company remainder.settle view post := by
  -- The references are given up first, and the records are written after that.
  rw [Remainder.settle, safe_bind]
  exact safe_releases held spare (safe_logs settled)

section Subscribe

variable {type : EventType} {handler : Handler}

/-- Subscribing with a reference that is taken for the purpose leaves all others in hand. -/
theorem safe_insertTaken {retain : Bool} (intact : view.registry.Intact)
    (free : view.holding = none) (own : 0 < view.hand handler)
    {post : Remainder (Except BusError SubscriptionHandle) → View → Prop}
    (carried : ∀ remainder later,
      Carried company view (fun registry seen => registry.subscribe seen type handler retain) []
        remainder later →
      remainder.released ⊆ [handler] → post remainder later) :
    Safe company (do let _ ← perform (.take handler); insert type handler retain) view post := by
  -- The handler is alive since a reference is in hand, so the taking succeeds.
  refine .take fun count counted => ?_
  have living := counted.of_hand own
  rw [if_pos living]
  have taken : 1 < (view.gain [handler]).hand handler := by simpa using own
  refine safe_insert intact free (Nat.zero_lt_of_lt taken) (fun _ => taken) ?_
  exact fun remainder later inserted => carried remainder later (inserted.of_gain counted living)

/-- A weak subscription is a section, and a single owner is noted before it. -/
theorem safe_subscribe (intact : view.registry.Intact) (free : view.holding = none)
    (own : 0 < view.hand handler)
    {post : Remainder (Except BusError SubscriptionHandle) → View → Prop}
    (carried : ∀ remainder later count, company.Counts view handler count →
      Carried company (view.noting type handler count)
        (fun registry seen => registry.subscribe seen type handler false) [] remainder later →
      remainder.released ⊆ [handler] → post remainder later) :
    Safe company (subscribe type handler) view post := by
  -- The owners are counted before the lock is taken, and the warning is written if there is one.
  refine .count fun count counted => ?_
  have noted : Safe company
      (provided (count == 1) (perform (.log (.singleOwner type handler.name)))) view
      fun _ middle => middle = view.noting type handler count := by
    by_cases single : count = 1
    · subst single
      rfl
    · rw [show (count == 1) = false by simpa using single]
      show view = view.noting type handler count
      rw [View.noting, if_neg single, List.append_nil]
  refine noted.bind fun _ middle reached => ?_
  subst reached
  have free : (view.noting type handler count).holding = none := free
  refine safe_insertTaken (by exact intact) free own ?_
  exact fun remainder later => carried remainder later count counted

/-- A weak subscription that is carried through leaves the thread with the references it had. -/
theorem safe_finish_subscribe (intact : view.registry.Intact) (free : view.holding = none)
    (own : 0 < view.hand handler)
    {post : Except BusError SubscriptionHandle → View → Prop}
    (subscribed : ∀ answer later,
      Performs company view (hubBus.subscribe type handler) { answer } later →
      later.hand = view.hand → post answer later) :
    Safe company (finish (subscribe type handler)) view post := by
  rw [finish, safe_bind]
  refine safe_subscribe intact free own fun remainder later count counted carried released => ?_
  -- The operation leaves in hand what it is about to give up.
  have performs := carried.subscribes counted
  have hand (other : Handler) :
      later.hand other = view.hand other + remainder.released.count other := by
    have hand := carried.hand other
    rw [List.count_nil] at hand
    exact hand
  rw [safe_bind]
  refine safe_settle performs.held (fun _ other listed => ?_) ?_
  · -- The caller holds the handler all the while, so a reference to it is never the last one.
    obtain rfl : other = handler := List.mem_singleton.mp (released listed)
    have hand := hand other
    omega
  · refine subscribed _ _ performs.settled (funext fun other => ?_)
    have hand := hand other
    show later.hand other - remainder.released.count other = view.hand other
    omega

/-- Subscribing to several types leaves the thread with the references that it had. -/
theorem safe_subscribeEach {types : List EventType} (intact : view.registry.Intact)
    (free : view.holding = none) (own : 0 < view.hand handler)
    {post : Except BusError (List SubscriptionHandle) → View → Prop}
    (subscribed : ∀ answer later,
      Performs company view (hubBus.subscribeEach handler types) { answer } later →
      post answer later) :
    Safe company (subscribeEach handler types) view post := by
  -- The handler stays in hand from one subscription to the next.
  induction types generalizing view post with
  | nil =>
    refine subscribed _ _ ⟨.refl, free, fun _ => Nat.zero_le _, fun afar _ => ?_⟩
    rw [View.settled_nothing]
    rfl
  | cons type rest ih =>
    rw [subscribeEach, safe_bind]
    refine safe_finish_subscribe intact free own fun answer middle performs hand => ?_
    cases answer with
    | error error =>
      refine subscribed _ _ ⟨performs.evolves, performs.free, performs.held, fun afar alone => ?_⟩
      rw [Bus.subscribeEach_cons, performs.agrees afar alone]
      rfl
    | ok handle =>
      rw [safe_bind]
      refine ih (performs.intact intact) performs.free (hand ▸ own) fun others later rest' => ?_
      refine subscribed _ _ ⟨performs.evolves.trans rest'.evolves, rest'.free, rest'.held,
        fun afar alone => ?_⟩
      have first := performs.agrees afar alone
      have second := rest'.agrees afar alone
      simp only [View.settled_nothing] at first second ⊢
      rw [Bus.subscribeEach_cons, first]
      simp only [second]

/-- Subscribing to several types begins with a look at all of them. -/
theorem safe_subscribeMany {types : List EventType} (intact : view.registry.Intact)
    (free : view.holding = none) (own : 0 < view.hand handler)
    {post : Except BusError (List SubscriptionHandle) → View → Prop}
    (subscribed : ∀ answer later,
      Performs company view (hubBus.subscribeMany types handler) { answer } later →
      post answer later) :
    Safe company (subscribeMany types handler) view post := by
  unfold subscribeMany
  unfold Bus.subscribeMany at subscribed
  -- A blank type is looked for before anything is subscribed.
  split
  · rename_i blank found
    simp only [found] at subscribed
    refine subscribed _ _ ⟨.refl, free, fun _ => Nat.zero_le _, fun afar _ => ?_⟩
    rw [View.settled_nothing]
    rfl
  · rename_i found
    simp only [found] at subscribed
    exact safe_subscribeEach intact free own subscribed

end Subscribe

end Procedure

end Locked

end EventBus
