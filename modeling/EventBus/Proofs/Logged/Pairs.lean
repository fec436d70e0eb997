import EventBus.Proofs.Logged.Layers
import EventBus.Proofs.Logged.Troupe

/-!
A player in a run in which handlers are inside layers, beside the same player in a run in which
they are not. Whenever a handler is called, the one is behind for as long as the lines of the layers
take, and apart from that both take the same steps.
-/

namespace EventBus.Scripted

variable {σ α : Type}

/-- A script that comes after some records are written. -/
def Script.after (records : List LogRecord) (script : Script σ α) : Script σ α := do
  records.forM Script.log
  script

/-- A script that comes after no records. -/
@[simp] theorem Script.after_nil (script : Script σ α) : script.after [] = script := rfl

namespace Company

variable (company : Company σ) (layers : Nat → List LineStyle)

/-- The company with each handler inside its layers, of which the first is the outermost. -/
def layered : Company σ := fun id => (company id).layered (layers id) Script.log

/-- What the layers of a handler write when it is called with an event. -/
def lines (handler : Handler) (event : Event) : List LogRecord :=
  LineStyle.records (layers handler.id) (company handler.id).name event

/-- All handlers keep their names. -/
theorem layered_name : (company.layered layers).name = company.name :=
  funext fun id => (company id).layered_name (layers id) Script.log

/-- A handler inside layers does what it does without them, but after its lines. -/
theorem layered_script (handler : Handler) (event : Event) :
    (company.layered layers).script handler event =
      (company.script handler event).after (company.lines layers handler event) :=
  (company handler.id).layered_handle (layers handler.id) Script.log event

end Company

namespace Note

/-- A record was written. -/
def wrote (record : LogRecord) : Note σ := .did (.log record) ()

/-- The lines that layers write because of what is noted. -/
def lines (company : Company σ) (layers : Nat → List LineStyle) : Note σ → List LogRecord
  | .began handler event => company.lines layers handler event
  | _ => []

/-- What is noted with layers where this is noted without: the lines follow on the call. -/
def layered (company : Company σ) (layers : Nat → List LineStyle) (note : Note σ) : List (Note σ) :=
  note :: (note.lines company layers).map wrote

end Note

/-- A player in a run with layers and in one without. -/
structure Pair (σ : Type) where
  layered : Player σ
  bare : Player σ
  /-- The lines of layers that are written. -/
  written : List LogRecord
  /-- The lines of layers that come before anything else. -/
  left : List LogRecord

/-- A player does the same with layers and without, but for the lines. -/
structure Pair.Agrees (company : Company σ) (layers : Nat → List LineStyle) (pair : Pair σ) :
    Prop where
  role : pair.layered.role = pair.bare.role
  script : pair.layered.script = pair.bare.script.after pair.left
  outer : pair.layered.outer = pair.bare.outer
  /-- Behind every call come its lines, and nothing else is between the notes. -/
  history : pair.layered.history ++ pair.left.map .wrote =
    pair.bare.history.flatMap (Note.layered company layers)
  lines : pair.written ++ pair.left = pair.bare.history.flatMap (Note.lines company layers)
  /-- As long as lines are left, the handler that was called has not done anything. -/
  first : pair.left ≠ [] →
    ∃ handler event, pair.bare.history.getLast? = some (.began handler event)

namespace Pair

variable {company : Company σ} {layers : Nat → List LineStyle} {pair : Pair σ}

/-- A player who has just been called by a flight. -/
def invoked (company : Company σ) (layers : Nat → List LineStyle) (index : Nat) (event : Event)
    (subscriber : Subscriber) : Pair σ where
  layered := .invoked (company.layered layers) index event subscriber
  bare := .invoked company index event subscriber
  written := []
  left := company.lines layers subscriber.handler event

/-- A player who has just been called still has all lines to write. -/
theorem agrees_invoked (index : Nat) (event : Event) (subscriber : Subscriber) :
    (invoked company layers index event subscriber).Agrees company layers where
  -- Nothing has been done yet, so the lines left are all lines of the call.
  role := rfl
  script := company.layered_script layers subscriber.handler event
  outer := rfl
  history := (List.append_nil _).symm
  lines := (List.append_nil _).symm
  first _ := ⟨subscriber.handler, event, rfl⟩

namespace Agrees

variable (agrees : pair.Agrees company layers) (config : BusConfig)

include agrees

/-- When no line is left, the same can be noted in both runs, and new lines come from a call. -/
theorem noted (even : pair.left = []) (note : Note σ) (role : Role)
    (script : Script σ (Option Cause))
    (outer : List (Handler × (Option Cause → Script σ (Option Cause)))) :
    ∃ next : Pair σ, next.Agrees company layers ∧ next.written = pair.written ∧
      next.layered = ⟨role, script.after (note.lines company layers), outer,
        pair.layered.history ++ [note]⟩ ∧
      next.bare = ⟨role, script, outer, pair.bare.history ++ [note]⟩ := by
  -- Both histories grow by the same note, and the lines of the note are the ones left now.
  have history := agrees.history
  have lines := agrees.lines
  simp only [even, List.map_nil, List.append_nil] at history lines
  refine ⟨⟨_, _, pair.written, note.lines company layers⟩, ?_, rfl, rfl, rfl⟩
  exact {
    role := rfl
    script := rfl
    outer := rfl
    history := by
      simp only [List.flatMap_append, List.flatMap_singleton, history, Note.layered,
        List.append_assoc, List.singleton_append]
    lines := by simp only [List.flatMap_append, List.flatMap_singleton, lines]
    first := fun left => by
      cases note with
      | began handler event => exact ⟨handler, event, List.getLast?_concat⟩
      | did effect result => exact absurd rfl left
      | ended handler cause => exact absurd rfl left }

/-- When no line is left, the player takes the same step in both runs, or in neither. -/
theorem step (even : pair.left = []) (scene : Scene σ) :
    Option.Rel (fun layered bare => ∃ next : Pair σ, next.Agrees company layers ∧
        next.written = pair.written ∧ layered = (bare.1, next.layered) ∧ bare.2 = next.bare)
      (pair.layered.step? config (company.layered layers) scene)
      (pair.bare.step? config company scene) := by
  -- The two are at the same place of their scripts once the lines are written.
  have same : pair.layered.script = pair.bare.script := by
    rw [agrees.script, even, Script.after_nil]
  have role := agrees.role
  have outer := agrees.outer
  cases upcoming : pair.bare.script with
  | step action next =>
    cases action with
    | act effect =>
      simp only [Player.step?, same, upcoming, company.layered_name, role, outer]
      cases effect.perform? config company.name scene with
      | none => exact .none
      | some done =>
        obtain ⟨after, agrees, written, layered, bare⟩ :=
          agrees.noted even (.did effect done.1) pair.bare.role (next done.1) pair.bare.outer
        exact .some ⟨after, agrees, written, layered ▸ rfl, bare.symm⟩
    | call handler event =>
      -- Only here the two scripts differ, by the lines that come first.
      simp only [Player.step?, same, upcoming, company.layered_script, role, outer]
      obtain ⟨after, agrees, written, layered, bare⟩ :=
        agrees.noted even (.began handler event) pair.bare.role (company.script handler event)
          ((handler, next) :: pair.bare.outer)
      exact .some ⟨after, agrees, written, layered ▸ rfl, bare.symm⟩
  -- A script that has come to its end gives its ending to the call behind it, or to the flight.
  | done cause =>
    simp only [Player.step?, same, upcoming, role, outer]
    cases pair.bare.outer with
    | cons frame rest =>
      obtain ⟨handler, next⟩ := frame
      obtain ⟨after, agrees, written, layered, bare⟩ :=
        agrees.noted even (.ended handler cause) pair.bare.role (next cause) rest
      exact .some ⟨after, agrees, written, layered ▸ rfl, bare.symm⟩
    | nil =>
      cases pair.bare.role with
      | invoked index subscriber =>
        obtain ⟨after, agrees, written, layered, bare⟩ :=
          agrees.noted even (.ended subscriber.handler cause) .retired (.done cause) []
        exact .some ⟨after, agrees, written, layered ▸ rfl, bare.symm⟩
      | client => exact .none
      | retired => exact .none

end Agrees

end Pair

end EventBus.Scripted
