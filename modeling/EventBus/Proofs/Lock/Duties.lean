import EventBus.Proofs.Lock.Services

/-!
Every task is safe for a client that holds what it passes on, and so is every client. A client may
go on from the answers as it likes, and may call back into the bus while it is itself called.
-/

namespace EventBus.Locked

namespace Task

/-- The section of the registry that a task carries out, if it is a single one. -/
def section? : (task : Task) → Option (Registry → (Handler → Bool) → Section task.Result)
  | .request (.subscribe type handler) => some fun registry seen =>
    (registry.subscribe seen type handler false).answered .subscribed
  | .request (.subscribeRetained type handler) => some fun registry seen =>
    (registry.subscribe seen type handler true).answered .subscribed
  | .request (.unsubscribe handle) => some fun registry seen =>
    (registry.unsubscribe seen handle).answered .unsubscribed
  | .request .close => some fun registry _ => registry.close.answered .closed
  | .give type handler => some fun registry seen => registry.subscribe seen type handler true
  | _ => none

/-- What a task does at a hub, if it neither calls handlers nor passes references to others. -/
def effect? : (task : Task) → Option (StateM Hub task.Result)
  | .request asked => some (Hub.serve hubBus asked)
  | .give type handler => some do
    let answer ← hubBus.subscribeRetained type handler
    hubBus.drop handler
    return answer
  | _ => none

/-- What a publication answers: what each subscriber of its snapshot made of the event. -/
inductive Dispatched (type : EventType) :
    Except BusError (List Subscriber) → Except BusError DispatchResult → Prop
  | refused (error : BusError) : Dispatched type (.error error) (.error error)
  | gathered (turns : List (Subscriber × Option Cause)) :
    Dispatched type (.ok (turns.map Prod.fst))
      (.ok (.sum type (turns.map fun turn => turn.1.outcome turn.2)))

/-- A publication answers for the subscribers of a snapshot, whatever becomes of them later. -/
def Reports : (task : Task) → task.Result → Registry → Prop
  | .publish event, answer, registry => ∃ (before : Registry) (seen : Handler → Bool),
    before.Intact ∧ before.Evolves registry ∧
      Dispatched event.type (before.snapshot seen event.type) answer
  | .launch runtime event, answer, registry => ∃ (before : Registry) (seen : Handler → Bool),
    before.Intact ∧ before.Evolves registry ∧
      answer = do
        let subscribers ← before.snapshot seen event.type
        if runtime || subscribers.isEmpty then .ok () else .error .noRuntime
  | _, _, _ => True

/-- What a publication has answered is not changed by what comes later. -/
theorem Reports.evolves {task : Task} {answer : task.Result} {earlier later : Registry}
    (reports : task.Reports answer earlier) (evolves : earlier.Evolves later) :
    task.Reports answer later := by
  -- The report is about an earlier registry, from which this one has evolved.
  cases task with
  | publish event =>
    obtain ⟨before, seen, intact, evolved, same⟩ := reports
    exact ⟨before, seen, intact, evolved.trans evolves, same⟩
  | launch runtime event =>
    obtain ⟨before, seen, intact, evolved, same⟩ := reports
    exact ⟨before, seen, intact, evolved.trans evolves, same⟩
  | _ => trivial

end Task

/-- A task has been done up to what it leaves to give up and to write. -/
structure Served (company : Company) (view : View) (task : Task)
    (remainder : Remainder task.Result) (later : View) : Prop where
  evolves : view.registry.Evolves later.registry
  free : later.holding = none
  held : ∀ handler, remainder.released.count handler ≤ later.hand handler
  /-- Its section of the registry, if it has one, is over. -/
  carriedOut : ∀ section?, task.section? = some section? →
    CarriedOut view section? remainder.answer later.registry
  reports : task.Reports remainder.answer later.registry
  /-- With nobody else there, the rest leads to where the bus at the hub comes. -/
  agrees : ∀ afar effect, company = .idle afar → task.effect? = some effect →
    effect (view.hub afar) = (remainder.answer, (later.settled remainder).hub afar)

variable {company : Company} {view later : View}

/-- A request that has performed what the bus does is served. -/
theorem Performs.served {asked : Request} {remainder : Remainder Answer}
    (performs : Performs company view (Hub.serve hubBus asked) remainder later)
    (carriedOut : ∀ section?, (Task.request asked).section? = some section? →
      CarriedOut view section? remainder.answer later.registry) :
    Served company view (.request asked) remainder later where
  evolves := performs.evolves
  free := performs.free
  held := performs.held
  carriedOut
  reports := trivial
  -- What a thread alone does is what the bus does, by assumption.
  agrees afar effect alone known := by
    obtain rfl : Hub.serve hubBus asked = effect := Option.some.inj known
    exact performs.agrees afar alone

/-- A request that is a section of the registry is served once that is carried out. -/
theorem Performs.served_of_section {asked : Request} {remainder : Remainder Answer}
    {section? : Registry → (Handler → Bool) → Section Answer}
    (performs : Performs company view (Hub.serve hubBus asked) remainder later)
    (whole : (Task.request asked).section? = some section?)
    (carriedOut : CarriedOut view section? remainder.answer later.registry) :
    Served company view (.request asked) remainder later :=
  performs.served fun other known => by
    -- There is one section that the request stands for.
    rw [whole] at known
    cases known
    exact carriedOut

/-- A request that is no section of the registry is served if it does what the bus does. -/
theorem Performs.served_of_none {asked : Request} {remainder : Remainder Answer}
    (performs : Performs company view (Hub.serve hubBus asked) remainder later)
    (none : (Task.request asked).section? = none) :
    Served company view (.request asked) remainder later :=
  performs.served fun other known => by
    -- There is no section, so nothing has to be carried out.
    rw [none] at known
    cases known

namespace Procedure

variable {born : List Handler}

/-- A question of a client is answered as the bus answers it. -/
theorem safe_question {α : Type} {procedure : Procedure α} {effect : StateM Hub α}
    {asked : Request} (change : α → Answer)
    (safe : Safe company procedure view fun answer later =>
      Performs company view effect { answer } later)
    (same : Hub.serve hubBus asked = do return change (← effect))
    (plain : (Task.request asked).section? = none) :
    Safe company (do return { answer := change (← procedure) }) view
      (Served company view (.request asked)) := by
  -- The answer is told through a change of form, as at the bus.
  rw [safe_bind]
  refine safe.mono fun answer later performs => ?_
  have performs := performs.map change
  rw [← same] at performs
  exact performs.served_of_none plain

section Questions

variable (intact : view.registry.Intact) (free : view.holding = none)

include intact free

/-- A snapshot is taken as the bus takes it, and every subscriber in it is held from then on. -/
theorem snapshot_performs {type : EventType} :
    Safe company (snapshot type) view fun answer later =>
      Performs company view (hubBus.snapshot type) { answer } later := by
  refine safe_snapshot intact free fun registry seen found fits => ?_
  -- Alone, the thread finds the very registry that it sees, with those alive who are.
  refine ⟨(found.intact intact).2, rfl, fun _ => Nat.zero_le _, fun afar alone => ?_⟩
  subst alone
  obtain rfl : registry = view.registry := found
  obtain rfl : seen = view.alive afar := fits
  rw [Hub.snapshot_eq, View.alive_hub, View.settled_nothing]
  refine congrArg (Prod.mk _) ?_
  cases taken : view.registry.snapshot (view.alive afar) type with
  | error error => simp only [View.hub, taken, View.gain, Subscriber.handlersIn, List.count_nil,
      Nat.add_zero]
  | ok subscribers =>
    simp only [View.hub, taken, View.gain, Subscriber.handlersIn]
    congr 1
    funext handler
    omega

/-- The number of subscriptions is counted as the bus counts it. -/
theorem size_performs :
    Safe company size view fun answer later =>
      Performs company view hubBus.size { answer } later := by
  rw [size, safe_bind]
  refine safe_inspect intact free fun registry living found settled => ?_
  -- Alone, the registry that is found is the one that is seen.
  refine .of_question intact found fun afar alone => ?_
  subst alone
  obtain rfl : registry = view.registry := found
  show (view.registry.size (view.hub afar).alive, view.hub afar) = _
  rw [View.alive_hub, Registry.size_eq_length, settled afar rfl]

/-- The types are found as the bus finds them. -/
theorem types_performs :
    Safe company types view fun answer later =>
      Performs company view hubBus.types { answer } later := by
  rw [types, safe_bind]
  refine safe_inspect intact free fun registry living found settled => ?_
  refine .of_question intact found fun afar alone => ?_
  -- Alone, the registry that is found is the one that is seen.
  subst alone
  obtain rfl : registry = view.registry := found
  show (view.registry.types (view.hub afar).alive, view.hub afar) = _
  rw [View.alive_hub, Registry.types_eq_sort, settled afar rfl]

/-- A closed bus is known as the bus knows it. -/
theorem isClosed_performs :
    Safe company isClosed view fun answer later =>
      Performs company view hubBus.isClosed { answer } later := by
  refine .enter free fun registry found => .leave (by simp) ?_
  refine .of_question intact found fun afar alone => ?_
  -- Alone, the registry that is found is the one that is seen.
  subst alone
  obtain rfl : registry = view.registry := found
  rfl

/-- The dead subscriptions are dropped as the bus drops them. -/
theorem prune_performs :
    Safe company prune view fun answer later =>
      Performs company view hubBus.prune { answer } later := by
  -- Pruning gives up no reference, so nothing is left in hand.
  refine safe_prune intact free fun answer later evolves settled => ?_
  refine ⟨evolves, rfl, fun _ => Nat.zero_le _, fun afar alone => ?_⟩
  obtain ⟨rfl, rfl⟩ := settled afar alone
  rw [Hub.prune_eq, View.alive_hub, View.settled_nothing]
  simp [Hub.after, View.hub, Registry.prune]

/-- The bus is closed as the bus does it, and what it held is still in hand. -/
theorem close_performs :
    Safe company close view fun remainder later =>
      Performs company view hubBus.close remainder later ∧
        CarriedOut view (fun registry _ => registry.close) remainder.answer later.registry := by
  rw [close, safe_bind]
  refine safe_closeRegistry intact free fun remainder later carried => ?_
  refine ⟨⟨carried.evolves, carried.free, carried.performs.held, fun afar alone => ?_⟩,
    carried.carriedOut intact⟩
  -- Alone, the registry is closed as the bus does it, and the note is written if that was new.
  subst alone
  obtain ⟨answered, left⟩ := carried.agrees
  rw [View.lose_nil] at left
  rw [Hub.close_eq, View.settled_more]
  show (view.registry.close.answer, if view.registry.close.answer then
      ((view.hub afar).after view.registry.close).note .busClosed
    else (view.hub afar).after view.registry.close) = _
  rw [← answered, ← left]
  cases remainder.answer
  · simp [View.hub]
  · rfl

end Questions

section References

variable {handler : Handler} (free : view.holding = none)

include free

/-- A handler that has never been there comes into being as at the bus. -/
theorem safe_create (unborn : ∀ afar, company = .idle afar → handler ∉ view.born) :
    Safe company (serve (.create handler)) view
      (Served company view (.request (.create handler))) := by
  -- In company the handler may turn out to have been there, and then nothing is done.
  intro fresh fits
  refine Performs.served_of_none ⟨?_, ?_, fun _ => Nat.zero_le _, fun afar alone => ?_⟩ rfl
  · cases fresh <;> exact .refl
  · cases fresh <;> exact free
  · subst alone
    obtain rfl : fresh = !view.born.contains handler := fits
    have unborn : (!view.born.contains handler) = true := by simpa using unborn afar rfl
    rw [unborn, if_pos rfl, View.settled_nothing]
    refine congrArg (Prod.mk _) ?_
    show ({ (view.hub afar).take handler with born := handler :: view.born } : Hub) = _
    rw [← View.hub_gain]
    rfl

/-- Another reference to a handler in hand is taken as at the bus. -/
theorem safe_clone (own : 0 < view.hand handler) :
    Safe company (serve (.clone handler)) view
      (Served company view (.request (.clone handler))) := by
  -- The handler is alive since a reference is in hand, so another one is taken.
  refine .take fun count counted => ?_
  rw [if_pos (counted.of_hand own)]
  refine Performs.served_of_none ⟨.refl, free, fun _ => Nat.zero_le _, fun afar _ => ?_⟩ rfl
  rw [View.settled_nothing, View.hub_gain]
  rfl

/-- A reference in hand is left to be given up. -/
theorem safe_yield (own : 0 < view.hand handler) :
    Safe company (serve (.release handler)) view
      (Served company view (.request (.release handler))) := by
  -- The reference is only promised here, and given up by the remainder.
  refine Performs.served_of_none ⟨.refl, free, View.covers own, fun afar _ => ?_⟩ rfl
  refine congrArg (Prod.mk _) ?_
  show (view.hub afar).giveUp handler = _
  rw [← View.hub_lose afar own, View.settled, List.append_nil]
  rfl

end References

/-- A request may be served as long as the client holds what it passes on. -/
theorem safe_serve {asked : Request} (intact : view.registry.Intact)
    (free : view.holding = none) (allowed : Hub.allows view.hand born asked = true)
    (known : ∀ afar, company = .idle afar → view.born = born) :
    Safe company (serve asked) view (Served company view (.request asked)) := by
  -- Each request is served by the operation that has been looked at for it.
  cases asked with
  | create handler =>
    have unborn : handler ∉ born := by simpa [Hub.allows] using allowed
    exact safe_create free fun afar alone => known afar alone ▸ unborn
  | clone handler => exact safe_clone free (by simpa [Hub.allows] using allowed)
  | release handler => exact safe_yield free (by simpa [Hub.allows] using allowed)
  | subscribe type handler =>
    have own : 0 < view.hand handler := by simpa [Hub.allows] using allowed
    rw [serve, safe_bind]
    refine safe_subscribe intact free own fun remainder later count counted carried _ => ?_
    have performs := (carried.subscribes counted).map Answer.subscribed
    exact performs.served_of_section rfl ((carried.carriedOut intact).answered _)
  | subscribeRetained type handler =>
    have own : 0 < view.hand handler := by simpa [Hub.allows] using allowed
    rw [serve, ← bind_assoc, safe_bind]
    refine safe_insertTaken intact free own fun remainder later carried _ => ?_
    have performs := carried.performs.map Answer.subscribed
    exact performs.served_of_section rfl ((carried.carriedOut intact).answered _)
  | subscribeMany types handler =>
    have own : 0 < view.hand handler := by simpa [Hub.allows] using allowed
    exact safe_question .subscribedMany
      (safe_subscribeMany intact free own fun _ _ performs => performs) rfl rfl
  | unsubscribe handle =>
    rw [serve, safe_bind]
    refine safe_unsubscribe intact free fun remainder later carried => ?_
    have performs := carried.performs.map Answer.unsubscribed
    exact performs.served_of_section rfl ((carried.carriedOut intact).answered _)
  | snapshot type => exact safe_question .snapshot (snapshot_performs intact free) rfl rfl
  | size => exact safe_question .size (size_performs intact free) rfl rfl
  | isEmpty =>
    exact safe_question (fun size => .isEmpty (size == 0)) (size_performs intact free) rfl rfl
  | types => exact safe_question .types (types_performs intact free) rfl rfl
  | prune => exact safe_question .pruned (prune_performs intact free) rfl rfl
  | close =>
    rw [serve, safe_bind]
    refine (close_performs intact free).mono fun remainder later closed => ?_
    obtain ⟨performs, carriedOut⟩ := closed
    exact (performs.map Answer.closed).served_of_section rfl (carriedOut.answered _)
  | isClosed => exact safe_question .closed (isClosed_performs intact free) rfl rfl

/-- A client may hand its own reference over, which is given up outside the lock if it is spare. -/
theorem safe_give {type : EventType} {handler : Handler} (intact : view.registry.Intact)
    (free : view.holding = none) (own : 0 < view.hand handler) :
    Safe company (insert type handler true) view (Served company view (.give type handler)) := by
  -- What is left of the reference is in hand, and alone it is as at the bus.
  refine safe_insert intact free own nofun fun remainder later carried _ => ?_
  refine ⟨carried.evolves, carried.free, fun other => ?_, ?_, trivial,
    fun afar effect alone known => ?_⟩
  · have hand := carried.hand other
    have covered := View.covers own other
    omega
  · rintro _ ⟨⟩
    exact carried.carriedOut intact
  · subst alone
    obtain ⟨answered, left⟩ := carried.agrees
    cases known
    simp only [bind, StateT.bind, Hub.subscribeRetained_eq, View.alive_hub]
    rw [answered, left, View.hub_lose afar own]
    rfl

/-- Subscribers may be called as long as they are in hand and the lock is not. -/
theorem safe_gather {event : Event} {result : DispatchResult} {subscribers : List Subscriber}
    (loud : company.loud = true) (free : view.holding = none)
    (held : ∀ subscriber ∈ subscribers, 0 < view.hand subscriber.handler)
    {post : DispatchResult → View → Prop}
    (gathered : ∀ turns : List (Subscriber × Option Cause), turns.map Prod.fst = subscribers →
      post ((turns.map fun turn => turn.1.outcome turn.2).foldl DispatchResult.record result)
        view) :
    Safe company (DispatchResult.gather (fun handler event => perform (.call handler event)) event
      result subscribers) view post := by
  -- A called handler may do anything, but the snapshot in hand outlives the call.
  induction subscribers generalizing result with
  | nil => exact gathered [] rfl
  | cons subscriber rest ih =>
    refine ⟨loud, free, held subscriber List.mem_cons_self, fun cause => ?_⟩
    refine ih (fun other listed => held other (List.mem_cons_of_mem subscriber listed)) ?_
    exact fun turns same => gathered ((subscriber, cause) :: turns) (congrArg _ same)

/-- References in hand may be left elsewhere one by one. -/
theorem safe_stashes {subscribers : List Subscriber} (loud : company.loud = true)
    (held : ∀ handler, (subscribers.map Subscriber.handler).count handler ≤ view.hand handler)
    {post : Unit → View → Prop}
    (stashed : post () (view.lose (subscribers.map Subscriber.handler))) :
    Safe company (subscribers.forM fun subscriber => perform (.stash subscriber.handler)) view
      post := by
  -- The induction is on the subscribers, each of whom takes one reference out of hand.
  induction subscribers generalizing view with
  | nil => exact stashed
  | cons first rest ih =>
    have own := held first.handler
    rw [List.map_cons, List.count_cons_self] at own
    refine ⟨loud, by omega, ih (fun handler => ?_) ?_⟩
    · have held := held handler
      rw [List.map_cons, List.count_cons] at held
      simp only [View.lose_hand, List.count_singleton]
      omega
    · rw [View.lose_lose]
      exact stashed

/-- What is left by a task that carries out no section and does something to others. -/
theorem served_of_loud {task : Task} {remainder : Remainder task.Result}
    (loud : company.loud = true) (whole : task.section? = none)
    (reports : task.Reports remainder.answer later.registry)
    (evolves : view.registry.Evolves later.registry) (free : later.holding = none)
    (held : ∀ handler, remainder.released.count handler ≤ later.hand handler) :
    Served company view task remainder later where
  evolves
  free
  held
  -- There is no section to be carried out, and a thread in company is not compared to the bus.
  carriedOut section? known := by
    rw [whole] at known
    cases known
  reports
  agrees afar effect alone := by
    subst alone
    cases loud

/-- Publishing calls the subscribers of a snapshot, and gives the snapshot up behind that. -/
theorem safe_publish {event : Event} (intact : view.registry.Intact) (free : view.holding = none)
    (loud : company.loud = true) :
    Safe company (publish event) view (Served company view (.publish event)) := by
  -- The snapshot is taken under the lock, and the calls are made after that.
  rw [publish, safe_bind]
  refine safe_snapshot intact free fun registry seen found fits => ?_
  obtain ⟨intact, evolves⟩ := found.intact intact
  have reports {answer : Except BusError DispatchResult}
      (dispatched : Task.Dispatched event.type (registry.snapshot seen event.type) answer) :
      (Task.publish event).Reports answer registry := ⟨registry, seen, intact, .refl, dispatched⟩
  cases taken : registry.snapshot seen event.type with
  | error error =>
    rw [taken] at reports
    exact served_of_loud loud rfl (reports (.refused error)) evolves rfl fun _ => Nat.zero_le _
  | ok subscribers =>
    rw [taken] at reports
    have held (handler : Handler) :
        (subscribers.map Subscriber.handler).count handler ≤
          view.hand handler + (subscribers.map Subscriber.handler).count handler :=
      Nat.le_add_left _ _
    rw [safe_bind]
    -- Every subscriber of the snapshot is held, so it can be called.
    refine safe_gather loud rfl (fun subscriber listed => ?_) fun turns same => ?_
    · have counted := List.count_pos_iff.mpr (List.mem_map_of_mem (f := Subscriber.handler) listed)
      exact Nat.lt_of_lt_of_le counted (held _)
    · subst same
      rw [safe_bind]
      exact safe_logs (served_of_loud loud rfl (reports (.gathered turns)) evolves rfl held)

/-- A flight takes the references of its snapshot over, unless it cannot be set going. -/
theorem safe_launch {runtime : Bool} {event : Event} (intact : view.registry.Intact)
    (free : view.holding = none) (loud : company.loud = true) :
    Safe company (launch runtime event) view (Served company view (.launch runtime event)) := by
  -- The snapshot is taken under the lock, and what becomes of it is decided after that.
  rw [launch, safe_bind]
  refine safe_snapshot intact free fun registry seen found fits => ?_
  obtain ⟨intact, evolves⟩ := found.intact intact
  have reports {answer : Except BusError Unit}
      (same : answer = do
        let subscribers ← registry.snapshot seen event.type
        if runtime || subscribers.isEmpty then .ok () else .error .noRuntime) :
      (Task.launch runtime event).Reports answer registry := ⟨registry, seen, intact, .refl, same⟩
  cases taken : registry.snapshot seen event.type with
  | error error =>
    rw [taken] at reports
    exact served_of_loud loud rfl (reports rfl) evolves rfl fun _ => Nat.zero_le _
  | ok subscribers =>
    rw [taken] at reports
    have held (handler : Handler) :
        (subscribers.map Subscriber.handler).count handler ≤
          view.hand handler + (subscribers.map Subscriber.handler).count handler :=
      Nat.le_add_left _ _
    -- An empty snapshot is no failure, whether there is a runtime or not.
    cases subscribers with
    | nil =>
      have answered : (Task.launch runtime event).Reports (.ok ()) registry :=
        reports (by cases runtime <;> rfl)
      exact .log (served_of_loud loud rfl answered evolves rfl fun _ => Nat.zero_le _)
    | cons first rest =>
      cases runtime with
      | true =>
        show Safe company (_ >>= _) _ _
        rw [safe_bind]
        exact safe_stashes loud held
          (served_of_loud loud rfl (reports rfl) evolves rfl fun _ => Nat.zero_le _)
      | false => exact served_of_loud loud rfl (reports rfl) evolves rfl held

end Procedure

open Procedure in
/-- A task may be taken on by a client that holds what it passes on. -/
theorem safe_body {task : Task} {born : List Handler} (intact : view.registry.Intact)
    (free : view.holding = none) (allowed : task.allowed view.hand born = true)
    (known : ∀ afar, company = .idle afar → view.born = born)
    (loud : task.effect? = none → company.loud = true) :
    Safe company task.body view (Served company view task) := by
  -- Each task has been looked at by itself.
  cases task with
  | request asked => exact safe_serve intact free allowed known
  | give type handler => exact safe_give intact free (by simpa [Task.allowed] using allowed)
  | publish event => exact safe_publish intact free (loud rfl)
  | launch runtime event => exact safe_launch intact free (loud rfl)
  | stash handler =>
    have own : 0 < view.hand handler := by simpa [Task.allowed] using allowed
    exact ⟨loud rfl, own, served_of_loud (loud rfl) rfl trivial .refl free fun _ => Nat.zero_le _⟩
  | fetch handler =>
    refine ⟨loud rfl, fun found =>
      served_of_loud (loud rfl) rfl trivial ?_ ?_ fun _ => Nat.zero_le _⟩
    · cases found <;> exact .refl
    · cases found <;> exact free

/-- A task that is attempted is served, or the thread does not hold what it needs. -/
theorem safe_attempt {task : Task} (intact : view.registry.Intact) (free : view.holding = none)
    (loud : task.effect? = none → company.loud = true) :
    Safe company task.attempt view fun outcome later =>
      later.holding = none ∧
        (outcome = none → company.Allows view task false) ∧
        ∀ remainder, outcome = some remainder → Served company view task remainder later := by
  -- Whether the task is allowed is found out first.
  refine ⟨free, fun allowed means => ?_⟩
  cases allowed with
  | false => exact ⟨free, fun _ => means, by rintro _ ⟨⟩⟩
  | true =>
    show Safe _ (task.body >>= fun remainder => pure (some remainder)) _ _
    rw [safe_bind]
    -- Others may bring handlers into being meanwhile, but take none from the hand of the thread.
    obtain ⟨born, allowed, known⟩ : ∃ born, task.allowed view.hand born = true ∧
        ∀ afar, company = .idle afar → view.born = born := by
      cases company with
      | idle afar => exact ⟨view.born, means.symm, fun _ _ => rfl⟩
      | active sparing =>
        obtain ⟨born, allowed⟩ := means
        exact ⟨born, allowed.symm, by rintro _ ⟨⟩⟩
    refine (safe_body intact free allowed known loud).mono fun remainder later served => ?_
    refine ⟨served.free, nofun, fun other same => ?_⟩
    obtain rfl := Option.some.inj same
    exact served

end EventBus.Locked
