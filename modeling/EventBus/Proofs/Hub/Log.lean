import EventBus.Proofs.Hub.Voyages

/-!
The log of a hub is only written. Whatever happens comes out in the same way with any other log, and
adds the same records to it.
-/

namespace EventBus.Hub

/-- The hub without its log. -/
def unlogged (hub : Hub) : Hub := { hub with records := [] }

/-- The hub with more records in front of its log. -/
def following (hub : Hub) (past : List LogRecord) : Hub :=
  { hub with records := past ++ hub.records }

/-- A log can be put aside and put back. -/
theorem unlogged_following (hub : Hub) : hub.unlogged.following hub.records = hub := by
  -- Nothing stands behind an empty log.
  simp only [unlogged, following, List.append_nil]

/-- A task that comes out in the same way whatever was in the log before. -/
def LogBlind {α : Type} (task : StateM Hub α) : Prop :=
  ∀ (hub : Hub) (past : List LogRecord),
    task (hub.following past) = ((task hub).1, (task hub).2.following past)

namespace LogBlind

variable {α β : Type}

/-- An answer needs no log. -/
theorem pure (answer : α) : LogBlind (Pure.pure answer : StateM Hub α) := fun _ _ => rfl

/-- Tasks in a row that are blind are blind together. -/
theorem bind {task : StateM Hub α} {next : α → StateM Hub β} (first : LogBlind task)
    (second : ∀ answer, LogBlind (next answer)) : LogBlind (task >>= next) := fun hub past => by
  -- The second task starts from what the first has left, with the same past in front.
  show next (task (hub.following past)).1 (task (hub.following past)).2 = _
  rw [first hub past]
  exact second _ _ past

/-- Going through a list is blind if every item is. -/
theorem forM {items : List α} {task : α → StateM Hub Unit} (blind : ∀ item, LogBlind (task item)) :
    LogBlind (items.forM task) := by
  -- Tasks in a row are blind if each of them is.
  induction items with
  | nil => exact .pure ()
  | cons first rest ih => exact (blind first).bind fun _ => ih

/-- A choice between two blind tasks is blind. -/
theorem ite {condition : Prop} [Decidable condition] {one other : StateM Hub α}
    (first : LogBlind one) (second : LogBlind other) :
    LogBlind (if condition then one else other) := by
  -- Which of the two it is does not depend on the log.
  split
  · exact first
  · exact second

variable {config : BusConfig} {outcome : Handler → Event → Option Cause}

/-- Reading the registry is blind. -/
theorem load : LogBlind (bus config outcome).load := fun _ _ => rfl

/-- Changing the registry is blind. -/
theorem store (registry : Registry) : LogBlind ((bus config outcome).store registry) :=
  fun _ _ => rfl

/-- Counting owners is blind. -/
theorem owners : LogBlind (bus config outcome).owners := fun _ _ => rfl

/-- Taking a reference is blind. -/
theorem hold (handler : Handler) : LogBlind ((bus config outcome).hold handler) := fun _ _ => rfl

/-- Giving up a reference is blind. -/
theorem drop (handler : Handler) : LogBlind ((bus config outcome).drop handler) := fun _ _ => rfl

/-- A record comes last, whatever was before it. -/
theorem log (record : LogRecord) : LogBlind ((bus config outcome).log record) := fun hub past => by
  -- The past stands in front, and the record behind.
  show ((), { hub with records := past ++ hub.records ++ [record] }) = _
  rw [List.append_assoc]
  rfl

/-- Setting a flight going is blind. -/
theorem spawn (flight : Flight) : LogBlind ((bus config outcome).spawn flight) := fun _ _ => rfl

/-- A section is blind, since it knows no more than the registry and who is alive. -/
theorem carryOut (section? : Registry → (Handler → Bool) → Section α) :
    LogBlind ((bus config outcome).carryOut section?) :=
  -- No step of a section reads what has been logged.
  load.bind fun _ => (owners.bind fun _ => .pure _).bind fun _ => (forM hold).bind fun _ =>
    (store _).bind fun _ => (forM drop).bind fun _ => (forM log).bind fun _ => .pure _

/-- A weak subscription is blind. -/
theorem subscribe (type : EventType) (handler : Handler) :
    LogBlind ((bus config outcome).subscribe type handler) :=
  owners.bind fun _ => ite (log _ |>.bind fun _ => carryOut _) (carryOut _)

/-- Subscriptions one by one are blind. -/
theorem subscribeEach (handler : Handler) (types : List EventType) :
    LogBlind ((bus config outcome).subscribeEach handler types) := by
  -- Whether the rest is done depends on the answer, which is blind itself.
  induction types with
  | nil => exact .pure _
  | cons type rest ih =>
    refine (subscribe type handler).bind fun answer => ?_
    cases answer with
    | error error => exact .pure _
    | ok handle =>
      refine ih.bind fun answers => ?_
      cases answers <;> exact .pure _

/-- A snapshot is blind. -/
theorem snapshot (type : EventType) : LogBlind ((bus config outcome).snapshot type) :=
  load.bind fun registry => (owners.bind fun _ => .pure _).bind fun alive => by
    -- A snapshot that is refused holds nobody.
    cases registry.snapshot alive type with
    | error error => exact .pure _
    | ok subscribers => exact (forM fun _ => hold _).bind fun _ => .pure _

/-- Setting a flight going over a snapshot is blind. -/
theorem publishAsync (runtime : Bool) (event : Event) :
    LogBlind ((bus config outcome).publishAsync runtime event) := by
  -- Whether there are subscribers, and a runtime, can be seen without the log.
  have dropSnapshot (subscribers : List Subscriber) :
      LogBlind ((bus config outcome).dropSnapshot subscribers) := forM fun _ => drop _
  refine (snapshot event.type).bind fun answer => ?_
  match answer with
  | .error error => exact .pure _
  | .ok [] => exact (log _).bind fun _ => (spawn _).bind fun _ => .pure _
  | .ok (first :: rest) =>
    cases runtime with
    | true => exact (spawn _).bind fun _ => (dropSnapshot _).bind fun _ => .pure _
    | false => exact (dropSnapshot _).bind fun _ => .pure _

/-- Every request is served blindly. -/
theorem serve (request : Request) : LogBlind (serve (bus config outcome) request) := by
  -- Each request is put together from tasks that are blind.
  cases request with
  | create handler =>
    exact fun _ _ => rfl
  | clone handler => exact (hold handler).bind fun _ => .pure _
  | release handler => exact (drop handler).bind fun _ => .pure _
  | subscribe type handler => exact (subscribe type handler).bind fun _ => .pure _
  | subscribeRetained type handler => exact (carryOut _).bind fun _ => .pure _
  | subscribeMany types handler =>
    refine bind ?_ fun _ => .pure _
    rw [Bus.subscribeMany]
    split
    · exact .pure _
    · exact subscribeEach handler types
  | unsubscribe handle => exact (carryOut _).bind fun _ => .pure _
  | snapshot type => exact (snapshot type).bind fun _ => .pure _
  | size | isEmpty | types =>
    exact (load.bind fun _ => (owners.bind fun _ => .pure _).bind fun _ => .pure _).bind
      fun _ => .pure _
  | prune => exact (carryOut _).bind fun _ => .pure _
  | close =>
    refine ((carryOut _).bind fun closed => ?_).bind fun _ => .pure _
    exact ite (log _ |>.bind fun _ => .pure _) (.pure _)
  | isClosed => exact (load.bind fun _ => .pure _).bind fun _ => .pure _

end LogBlind

/-- What can happen at a hub can happen with any other log, with the same answer. -/
theorem step?_following (config : BusConfig) (hub : Hub) (past : List LogRecord)
    (incident : Incident) :
    (hub.following past).step? config incident =
      (hub.step? config incident).map fun (answer, later) => (answer, later.following past) := by
  -- What is allowed does not depend on the log, and what is done is blind.
  cases incident with
  | request request =>
    simp only [step?]
    show (if allows hub.outside hub.born request then _ else _) = _
    split
    · rw [LogBlind.serve request hub past]
      rfl
    · rfl
  | publishAsync runtime event =>
    simp only [step?, LogBlind.publishAsync runtime event hub past]
    rfl
  | move index move =>
    simp only [step?]
    split
    · show (hub.voyages[index]?.bind fun voyage => (voyage.extend? move).bind _) = _
      cases hub.voyages[index]? with
      | none => rfl
      | some voyage => cases extended : voyage.extend? move <;> simp [extended, following]
    · rfl

end EventBus.Hub
