import EventBus.Proofs.Lock.Operations
import EventBus.Proofs.Registry.Holdings
import Mathlib.Logic.Relation

/-!
What every instruction demands of a thread and what the thread knows after it. What a procedure
demands follows by recursion, so that an operation is proved about once for all surroundings.
-/

namespace EventBus

/-- What holds of a registry whenever nobody is changing it. -/
def Registry.Intact (registry : Registry) : Prop := registry.WellFormed ∧ registry.HandlersApart

/-- A registry as it may be after some changes. -/
abbrev Registry.Evolves : Registry → Registry → Prop :=
  Relation.ReflTransGen fun earlier later => ∃ alive change, later = earlier.change alive change

/-- What every section keeps is kept as a registry evolves. -/
theorem Registry.Kept.evolves {property : Registry → Prop} (kept : Registry.Kept property)
    {earlier later : Registry} (evolves : earlier.Evolves later) (held : property earlier) :
    property later := by
  -- The induction is on the changes, each of which is a section.
  induction evolves with
  | refl => exact held
  | tail _ changed ih =>
    obtain ⟨alive, change, rfl⟩ := changed
    exact kept.survives change _ alive ih

namespace Locked

/-- What a thread sees. -/
structure View where
  registry : Registry
  /-- How the thread holds the lock, if it does. -/
  holding : Option Mode
  /-- How many references to each handler the thread holds at the moment. -/
  hand : Handler → Nat
  /-- How many references were left where any thread can find them. -/
  elsewhere : Handler → Nat
  /-- The handlers that have ever come into being. -/
  born : List Handler
  records : List LogRecord

namespace View

variable (view : View)

/-- The view with more references in hand. -/
def gain (handlers : List Handler) : View :=
  { view with hand := fun handler => view.hand handler + handlers.count handler }

/-- The view with fewer references in hand. -/
def lose (handlers : List Handler) : View :=
  { view with hand := fun handler => view.hand handler - handlers.count handler }

/-- The view after a change of the registry, which takes references or gives them back. -/
def store (later : Registry) : View :=
  { view with
    registry := later
    hand := fun handler =>
      view.hand handler + view.registry.holds handler - later.holds handler }

/-- How many references there are to a handler, with those that others hold. -/
def owners (afar : Handler → Nat) (handler : Handler) : Nat :=
  view.hand handler + view.elsewhere handler + view.registry.holds handler + afar handler

/-- Whether a handler has an owner. -/
def alive (afar : Handler → Nat) (handler : Handler) : Bool := 0 < view.owners afar handler

end View

/-- Who else is there while a thread does something. -/
inductive Company where
  /-- The others rest, and hold some references meanwhile. -/
  | idle (afar : Handler → Nat)
  /-- The others act at any time, and the thread may act on them; it may be bound to end nobody. -/
  | active (sparing : Bool)

namespace Company

/-- Whether the thread may call others, and leave them references. -/
def loud : Company → Bool
  | .idle _ => false
  | .active _ => true

/-- Whether the thread may not end any handler. -/
def sparing : Company → Bool
  | .idle _ => true
  | .active sparing => sparing

/-- What a thread may find as the registry when it is let in. -/
def Finds : Company → View → Registry → Prop
  | .idle _, view, registry => registry = view.registry
  | .active _, view, registry => registry.Intact ∧ view.registry.Evolves registry

/-- How many references to a handler a thread may count. -/
def Counts : Company → View → Handler → Nat → Prop
  | .idle afar, view, handler, count => count = view.owners afar handler
  -- The others may hold any number of references, and none of those in the registry is lost.
  | .active _, view, handler, count =>
    view.hand handler ≤ count ∧
      (view.holding ≠ none → view.hand handler + view.registry.holds handler ≤ count)

/-- Whether a handler may turn out not to have been there before. -/
def Fresh : Company → View → Handler → Bool → Prop
  | .idle _, view, handler, fresh => fresh = !view.born.contains handler
  | .active _, _, _, _ => True

/-- Whether a task may turn out to be one that the thread can take on. -/
def Allows : Company → View → Task → Bool → Prop
  | .idle _, view, task, allowed => allowed = task.allowed view.hand view.born
  | .active _, view, task, allowed =>
    ∃ born, allowed = task.allowed view.hand born

/-- Which handlers a thread may take for alive. -/
def Fits : Company → View → (Handler → Bool) → Prop
  | .idle afar, view, seen => seen = view.alive afar
  | .active _, _, _ => True

end Company

/--
Whether a thread may carry out an instruction in its situation.

What it goes on with is demanded of every result and every situation that may come of it.
-/
def Instruction.Permits (company : Company) (view : View) :
    (instruction : Instruction) → (instruction.Result → View → Prop) → Prop
  | .lock mode, next =>
    -- Who holds the lock and waits for it would wait forever.
    view.holding = none ∧ ∀ registry, company.Finds view registry →
      next () { view with registry, holding := some mode }
  | .unlock, next => view.holding ≠ none ∧ next () { view with holding := none }
  | .look, next => view.holding ≠ none ∧ next view.registry view
  | .store later, next =>
    view.holding = some .exclusive ∧
      (∃ alive change, later = view.registry.change alive change) ∧
      (∀ handler, later.holds handler ≤ view.hand handler + view.registry.holds handler) ∧
      next () (view.store later)
  | .count handler, next => ∀ count, company.Counts view handler count → next count view
  | .take handler, next => ∀ count, company.Counts view handler count →
      next (0 < count) (if 0 < count then view.gain [handler] else view)
  | .release handler, next =>
    -- Under the lock there must be another reference that nobody else can take away.
    0 < view.hand handler ∧
      (view.holding ≠ none ∨ company.sparing = true → 1 < view.hand handler) ∧
      next () (view.lose [handler])
  | .create handler, next => ∀ fresh, company.Fresh view handler fresh →
      next fresh (if fresh then { view.gain [handler] with born := handler :: view.born } else view)
  | .stash handler, next =>
    company.loud = true ∧ 0 < view.hand handler ∧ next () (view.lose [handler])
  | .fetch handler, next =>
    company.loud = true ∧ ∀ found : Bool,
      next found (if found then view.gain [handler] else view)
  | .may task, next =>
    view.holding = none ∧ ∀ allowed, company.Allows view task allowed → next allowed view
  | .arrange handlers, next => ∀ arranged, arranged.Perm handlers → next arranged view
  | .log record, next => next () { view with records := view.records ++ [record] }
  | .call handler _, next =>
    company.loud = true ∧ view.holding = none ∧ 0 < view.hand handler ∧
      ∀ cause, next cause view

/-- Whether a thread may carry out a procedure, and what then holds of its answer. -/
def Safe (company : Company) {α : Type} : Procedure α → View → (α → View → Prop) → Prop
  | .done value, view, post => post value view
  | .step instruction next, view, post =>
    instruction.Permits company view fun result later => Safe company (next result) later post

section Rules

variable {company : Company} {α β : Type} {view : View}

/-- What is demanded of a single instruction. -/
theorem safe_perform {instruction : Instruction} {post : instruction.Result → View → Prop} :
    Safe company (perform instruction) view post = instruction.Permits company view post := rfl

/-- What is demanded of an answer. -/
theorem safe_pure {value : α} {post : α → View → Prop} :
    Safe company (pure value) view post = post value view := rfl

/-- What is demanded of one procedure after another. -/
theorem safe_bind {procedure : Procedure α} {next : α → Procedure β} {post : β → View → Prop} :
    Safe company (procedure >>= next) view post =
      Safe company procedure view fun value later => Safe company (next value) later post := by
  -- The demands of the second procedure stand where those of the first one end.
  induction procedure generalizing view with
  | done value => rfl
  | step instruction later ih =>
    exact congrArg (instruction.Permits company view) (funext₂ fun result _ => ih result)

/-- An instruction that is permitted is so for the sake of anything that is demanded less. -/
theorem Instruction.Permits.mono {instruction : Instruction}
    {next later : instruction.Result → View → Prop}
    (permits : instruction.Permits company view next)
    (weaker : ∀ result after, next result after → later result after) :
    instruction.Permits company view later := by
  -- What is permitted asks for what comes next in each case, and is otherwise the same.
  cases instruction with
  | lock mode => exact ⟨permits.1, fun registry found => weaker _ _ (permits.2 registry found)⟩
  | unlock => exact ⟨permits.1, weaker _ _ permits.2⟩
  | look => exact ⟨permits.1, weaker _ _ permits.2⟩
  | store later => exact ⟨permits.1, permits.2.1, permits.2.2.1, weaker _ _ permits.2.2.2⟩
  | count handler => exact fun count counted => weaker _ _ (permits count counted)
  | take handler => exact fun count counted => weaker _ _ (permits count counted)
  | release handler => exact ⟨permits.1, permits.2.1, weaker _ _ permits.2.2⟩
  | create handler => exact fun fresh fits => weaker _ _ (permits fresh fits)
  | stash handler => exact ⟨permits.1, permits.2.1, weaker _ _ permits.2.2⟩
  | fetch handler => exact ⟨permits.1, fun found => weaker _ _ (permits.2 found)⟩
  | may task => exact ⟨permits.1, fun allowed means => weaker _ _ (permits.2 allowed means)⟩
  | arrange handlers => exact fun arranged perm => weaker _ _ (permits arranged perm)
  | log record => exact weaker _ _ permits
  | call handler event =>
    exact ⟨permits.1, permits.2.1, permits.2.2.1, fun cause => weaker _ _ (permits.2.2.2 cause)⟩

/-- What is permitted to a thread that may end no handler is permitted to one that may. -/
theorem Instruction.Permits.unbound {instruction : Instruction} {sparing : Bool}
    {next : instruction.Result → View → Prop}
    (permits : instruction.Permits (.active sparing) view next) :
    instruction.Permits (.active false) view next := by
  -- Only a release asks whether the thread is sparing.
  cases instruction with
  | release handler =>
    obtain ⟨held, spare, goesOn⟩ := permits
    exact ⟨held, fun watched => spare (.inl (watched.resolve_right nofun)), goesOn⟩
  | _ => exact permits

/-- A procedure that is safe is so for the sake of anything that is demanded less. -/
theorem Safe.mono {procedure : Procedure α} {post weaker : α → View → Prop}
    (safe : Safe company procedure view post)
    (implies : ∀ value later, post value later → weaker value later) :
    Safe company procedure view weaker := by
  -- Whatever may come of the first instruction, the rest is safe from there.
  induction procedure generalizing view with
  | done value => exact implies value view safe
  | step instruction next ih =>
    exact Instruction.Permits.mono safe fun result later safe => ih result safe

/-- One procedure after another is safe if each is where the one before it ends. -/
theorem Safe.bind {procedure : Procedure α} {next : α → Procedure β} {middle : α → View → Prop}
    {post : β → View → Prop} (safe : Safe company procedure view middle)
    (continues : ∀ value later, middle value later → Safe company (next value) later post) :
    Safe company (procedure >>= next) view post := by
  -- The second procedure is judged from wherever the first one ends.
  rw [safe_bind]
  exact safe.mono continues

/-- A thread that does not hold the lock may wait for it, and then sees the registry. -/
theorem Safe.enter {mode : Mode} {next : Registry → Procedure β} {post : β → View → Prop}
    (free : view.holding = none)
    (continues : ∀ registry, company.Finds view registry →
      Safe company (next registry) { view with registry, holding := some mode } post) :
    Safe company (do perform (.lock mode); let registry ← perform .look; next registry) view post :=
  ⟨free, fun registry found => ⟨Option.some_ne_none mode, continues registry found⟩⟩

/-- A thread that holds the lock may give it up. -/
theorem Safe.leave {next : Procedure β} {post : β → View → Prop} (locked : view.holding ≠ none)
    (continues : Safe company next { view with holding := none } post) :
    Safe company (do perform .unlock; next) view post :=
  ⟨locked, continues⟩

/-- A writer may change the registry as a section does, with references of its own. -/
theorem Safe.commit {later : Registry} {next : Procedure β} {post : β → View → Prop}
    (locked : view.holding = some .exclusive)
    (changed : ∃ alive change, later = view.registry.change alive change)
    (covered : ∀ handler, later.holds handler ≤ view.hand handler + view.registry.holds handler)
    (continues : Safe company next (view.store later) post) :
    Safe company (do perform (.store later); next) view post :=
  ⟨locked, changed, covered, continues⟩

/-- Any thread may count references. -/
theorem Safe.count {handler : Handler} {next : Nat → Procedure β} {post : β → View → Prop}
    (continues : ∀ count, company.Counts view handler count →
      Safe company (next count) view post) :
    Safe company (do let count ← perform (.count handler); next count) view post :=
  continues

/-- Any thread may take a reference to a handler, which succeeds if that is alive. -/
theorem Safe.take {handler : Handler} {next : Bool → Procedure β} {post : β → View → Prop}
    (continues : ∀ count, company.Counts view handler count →
      Safe company (next (0 < count)) (if 0 < count then view.gain [handler] else view) post) :
    Safe company (do let taken ← perform (.take handler); next taken) view post :=
  continues

/-- Any thread may write to the log. -/
theorem Safe.log {record : LogRecord} {next : Procedure β} {post : β → View → Prop}
    (continues : Safe company next { view with records := view.records ++ [record] } post) :
    Safe company (do perform (.log record); next) view post :=
  continues

/-- A reference may be given up where it is not the last one, or where that does no harm. -/
theorem Safe.release {handler : Handler} {next : Procedure β} {post : β → View → Prop}
    (held : 0 < view.hand handler)
    (spare : view.holding ≠ none ∨ company.sparing = true → 1 < view.hand handler)
    (continues : Safe company next (view.lose [handler]) post) :
    Safe company (do perform (.release handler); next) view post :=
  ⟨held, spare, continues⟩

end Rules

end Locked

end EventBus
