import EventBus.Proofs.Logged.Pairs

/-!
Layers that write to the log change nothing else on a bus. A run in which handlers are inside layers
and one in which they are not go on together, whatever handlers, clients and flights do.
-/

namespace EventBus.Scripted

variable {σ : Type}

/-- A run with layers has come as far as one without. -/
structure Troupe.Agrees (company : Company σ) (layers : Nat → List LineStyle)
    (pairs : List (Pair σ)) (layered bare : Troupe σ) : Prop where
  scene : layered.scene.unlogged = bare.scene.unlogged
  players : layered.players = pairs.map Pair.layered ∧ bare.players = pairs.map Pair.bare
  agree : ∀ pair ∈ pairs, pair.Agrees company layers
  /-- The log has the lines that are written in addition, and what it has without them in order. -/
  log : layered.scene.hub.records.Perm (bare.scene.hub.records ++ pairs.flatMap Pair.written) ∧
    bare.scene.hub.records.Sublist layered.scene.hub.records

/-- No line is left of the player that a cue is for. -/
def Cue.Even (pairs : List (Pair σ)) (cue : Cue) : Prop :=
  ∀ index pair, cue = .play index → pairs[index]? = some pair → pair.left = []

/-- What one item of a list has gained, the list as a whole has gained. -/
theorem flatMap_set_perm {α β : Type} {values : α → List β} {items : List α} {index : Nat}
    {old new : α} {more : List β} (found : items[index]? = some old)
    (gained : values new = values old ++ more) :
    ((items.set index new).flatMap values).Perm (items.flatMap values ++ more) := by
  -- The induction is on the list, up to the item that has gained.
  induction items generalizing index with
  | nil => cases found
  | cons item rest ih =>
    cases index with
    | zero =>
      cases found
      simp only [List.set_cons_zero, List.flatMap_cons, gained, List.append_assoc]
      exact List.perm_append_comm.append_left _
    | succ index =>
      simp only [List.set_cons_succ, List.flatMap_cons, List.append_assoc]
      exact (ih found).append_left _

namespace Troupe

variable {company : Company σ} {layers : Nat → List LineStyle}

namespace Agrees

variable {pairs : List (Pair σ)} {layered bare : Troupe σ} {index : Nat} {pair : Pair σ}

section Steps

variable (agrees : Agrees company layers pairs layered bare) (config : BusConfig)

include agrees

/-- With one more player that does the same in both runs in the place of another, all of them do. -/
theorem agree_set {after : Pair σ} (agree : after.Agrees company layers) :
    ∀ pair ∈ pairs.set index after, pair.Agrees company layers := fun pair there => by
  -- A pair is one of the old ones or the new one.
  rcases List.mem_or_eq_of_mem_set there with before | rfl
  · exact agrees.agree pair before
  · exact agree

/-- After a step that leads to the same scene in both runs, these still agree. -/
theorem after (later : Scene σ) {more : List (Pair σ)}
    (agree : ∀ pair ∈ more, pair.Agrees company layers)
    (written : (more.flatMap Pair.written).Perm (pairs.flatMap Pair.written)) :
    Agrees company layers more
      ⟨later.following layered.scene.hub.records, more.map Pair.layered⟩
      ⟨later.following bare.scene.hub.records, more.map Pair.bare⟩ where
  scene := rfl
  players := ⟨rfl, rfl⟩
  agree := agree
  log := by
    obtain ⟨perm, order⟩ := agrees.log
    refine ⟨(perm.append_right _).trans ?_, order.append_right _⟩
    -- The records of the step are behind the lines in the one log, and before them in the other.
    calc bare.scene.hub.records ++ pairs.flatMap Pair.written ++ later.hub.records
      _ = bare.scene.hub.records ++ (pairs.flatMap Pair.written ++ later.hub.records) :=
        List.append_assoc _ _ _
      List.Perm _ (bare.scene.hub.records ++ (later.hub.records ++ more.flatMap Pair.written)) :=
        (List.perm_append_comm.trans (written.symm.append_left _)).append_left _
      _ = bare.scene.hub.records ++ later.hub.records ++ more.flatMap Pair.written :=
        (List.append_assoc _ _ _).symm

/-- The scenes are the same behind different logs. -/
theorem scenes : layered.scene = bare.scene.unlogged.following layered.scene.hub.records ∧
    bare.scene = bare.scene.unlogged.following bare.scene.hub.records := by
  constructor
  · -- Putting the log back behind the scene gives the scene itself.
    rw [← agrees.scene, layered.scene.unlogged_following]
  · rw [bare.scene.unlogged_following]

/-- When no line is left of who plays, the step is the same in both runs, or impossible. -/
theorem play (even : ∀ pair, pairs[index]? = some pair → pair.left = []) :
    Option.Rel (fun next later => ∃ more, Agrees company layers more next later)
      (layered.step? config (company.layered layers) (.play index))
      (bare.step? config company (.play index)) := by
  -- The same index is played in both runs, with one pair behind it or none.
  simp only [step?, agrees.players.1, agrees.players.2, List.getElem?_map]
  cases found : pairs[index]? with
  | none => exact .none
  | some pair =>
    have there := List.mem_of_getElem? found
    have steps := (agrees.agree pair there).step config (even pair found) bare.scene.unlogged
    -- The scene without its log is one for both runs, and the logs are put back behind the step.
    have near := Player.step?_following config bare.scene.unlogged layered.scene.hub.records
      (company.layered layers) pair.layered
    have far := Player.step?_following config bare.scene.unlogged bare.scene.hub.records company
      pair.bare
    rw [← agrees.scenes.1] at near
    rw [← agrees.scenes.2] at far
    simp only [Option.map_some, bind, pure, Option.bind_some, near, far]
    generalize pair.layered.step? config (company.layered layers) bare.scene.unlogged = ahead
      at steps
    generalize pair.bare.step? config company bare.scene.unlogged = behind at steps
    cases steps with
    | none => exact .none
    | @some ahead behind taken =>
      obtain ⟨after, agree, written, rfl, same⟩ := taken
      refine .some ⟨pairs.set index after, ?_⟩
      have kept := flatMap_set_perm found (written.trans (List.append_nil _).symm)
      rw [List.append_nil] at kept
      have done := agrees.after behind.1 (agrees.agree_set agree) kept
      rw [List.map_set, List.map_set, ← same] at done
      exact done

/-- The flights make the same moves in both runs, and call the same handlers. -/
theorem move (index : Nat) (move : Move) :
    Option.Rel (fun next later => ∃ more, Agrees company layers more next later)
      (layered.step? config (company.layered layers) (.move index move))
      (bare.step? config company (.move index move)) := by
  -- A flight moves without looking at the log, and only its moves tell whom it calls.
  have voyages : layered.scene.hub.voyages = bare.scene.hub.voyages :=
    congrArg (·.hub.voyages) agrees.scene
  have near := bare.scene.unlogged.move?_following config layered.scene.hub.records index move
  have far := bare.scene.unlogged.move?_following config bare.scene.hub.records index move
  rw [← agrees.scenes.1] at near
  rw [← agrees.scenes.2] at far
  simp only [step?, voyages]
  split
  swap
  · exact .none
  cases bare.scene.hub.voyages[index]? with
  | none => exact .none
  | some voyage =>
    simp only [bind, pure, Option.bind_some, near, far]
    cases bare.scene.unlogged.move? config index move with
    | none => exact .none
    | some moved =>
      -- Those who are called join both runs, and have all their lines before them.
      obtain ⟨notices, later⟩ := moved
      let called := (calls notices).map (Pair.invoked company layers index voyage.flight.event)
      refine .some ⟨pairs ++ called, ?_⟩
      have agree : ∀ pair ∈ pairs ++ called, pair.Agrees company layers := fun pair there => by
        rcases List.mem_append.mp there with before | there
        · exact agrees.agree pair before
        · obtain ⟨subscriber, _, rfl⟩ := List.mem_map.mp there
          exact Pair.agrees_invoked index voyage.flight.event subscriber
      have silent : called.flatMap Pair.written = [] := by
        simp [called, Pair.invoked, List.flatMap_map]
      have kept : ((pairs ++ called).flatMap Pair.written).Perm (pairs.flatMap Pair.written) := by
        rw [List.flatMap_append, silent, List.append_nil]
      have done := agrees.after later agree kept
      rw [List.map_append, List.map_append, ← agrees.players.1, ← agrees.players.2,
        List.map_map, List.map_map] at done
      exact done

/-- A cue leads on in both runs, or in neither, if no line is left of the player that it is for. -/
theorem step {cue : Cue} (even : cue.Even pairs) :
    Option.Rel (fun next later => ∃ more, Agrees company layers more next later)
      (layered.step? config (company.layered layers) cue) (bare.step? config company cue) := by
  -- A cue is for a player or for a flight.
  cases cue with
  | play index => exact agrees.play config fun pair => even index pair rfl
  | move index move => exact agrees.move config index move

end Steps

end Agrees

end Troupe

end EventBus.Scripted
