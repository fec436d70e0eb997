import EventBus.Proofs.Hub.Endings

/-!
A handler that has died does not come back. Whatever happens at a hub, a handler that is alive after
it was alive before, or has just come into being.
-/

namespace EventBus

namespace Flight

/-- A flight holds nobody whom it did not hold before. -/
theorem held_of_advance {flight next : Flight} {move : Move} {more : List Notice}
    (advance : flight.Advance move next more) {subscriber : Subscriber}
    (there : subscriber ∈ next.held) : subscriber ∈ flight.held := by
  -- Subscribers only move on from one station to the next, or leave.
  simp only [held, List.mem_append] at there ⊢
  cases advance with
  | launch => tauto
  | skip _ _ queued _ =>
    simp only [queued, List.mem_cons]
    tauto
  | submit _ _ queued _ =>
    simp only [List.mem_append, List.mem_singleton] at there
    simp only [queued, List.mem_cons]
    tauto
  | start picked =>
    -- Who starts to run was submitted before.
    obtain ⟨_, _, moved⟩ := perm_of_pick? picked
    have same := moved.mem_iff (a := subscriber)
    simp only [List.mem_cons] at same
    simp only [List.mem_append, List.mem_singleton] at there
    tauto
  | finish picked =>
    obtain ⟨_, _, moved⟩ := perm_of_pick? picked
    have same := moved.mem_iff (a := subscriber)
    simp only [List.mem_cons] at same
    tauto
  | @receive other _ _ _ _ | @drain other _ _ _ _ =>
    -- Who has been heard from is not waited for any more.
    have kept : subscriber ∈ flight.pending.eraseP (·.id == other.id) →
      subscriber ∈ flight.pending := List.mem_of_mem_eraseP
    simp only [count] at there
    tauto
  | timeOut =>
    have nobody : subscriber ∉ [] := List.not_mem_nil
    tauto
  | abandon =>
    have nobody : subscriber ∉ [] := List.not_mem_nil
    simp only [abandoned, List.mem_append] at there
    tauto
  | _ => exact there

end Flight

namespace Hub

/-- No handler comes back from the dead, and none is forgotten. -/
structure Mortal (hub next : Hub) : Prop where
  born : ∀ handler ∈ hub.born, handler ∈ next.born
  living : ∀ handler, next.alive handler = true →
    hub.alive handler = true ∨ (handler ∉ hub.born ∧ handler ∈ next.born)

namespace Mortal

variable {hub next : Hub}

/-- A handler that was dead when all that are alive had been born is still dead. -/
theorem dead (mortal : hub.Mortal next) {handler : Handler} (born : handler ∈ hub.born)
    (dead : hub.alive handler = false) : next.alive handler = false := by
  -- Who lives now lived before, or was not born yet.
  refine Bool.eq_false_iff.mpr fun living => ?_
  rcases mortal.living handler living with before | ⟨unborn, _⟩
  · exact absurd (before.symm.trans dead) (by decide)
  · exact unborn born

/-- Nothing comes back where the same handlers or fewer are owned. -/
theorem of_fading (born : next.born = hub.born)
    (fading : ∀ handler, next.alive handler = true → hub.alive handler = true) :
    hub.Mortal next :=
  ⟨fun _ there => born ▸ there, fun handler living => Or.inl (fading handler living)⟩

/-- Clients may come to hold handlers that are alive or new. -/
theorem of_outside (registry : next.registry = hub.registry) (voyages : next.voyages = hub.voyages)
    (born : ∀ handler ∈ hub.born, handler ∈ next.born)
    (held : ∀ handler, 0 < next.outside handler →
      hub.alive handler = true ∨ (handler ∉ hub.born ∧ handler ∈ next.born)) :
    hub.Mortal next := by
  -- Of the three kinds of owners only the clients are others than before.
  refine ⟨born, fun handler living => ?_⟩
  rcases alive_iff_owned.mp living with outside | aloft | stored
  · exact held handler outside
  · refine Or.inl (alive_iff_owned.mpr (Or.inr (Or.inl ?_)))
    rw [Hub.aloft, voyages] at aloft
    exact aloft
  · exact Or.inl (alive_iff_owned.mpr (Or.inr (Or.inr (registry ▸ stored))))

/-- Flights may come to hold handlers that are alive. -/
theorem of_voyages (registry : next.registry = hub.registry) (outside : next.outside = hub.outside)
    (born : next.born = hub.born)
    (held : ∀ voyage ∈ next.voyages, ∀ subscriber ∈ voyage.flight.held,
      hub.alive subscriber.handler = true) : hub.Mortal next := by
  -- Of the three kinds of owners only the flights are others than before.
  refine .of_fading born fun handler living => ?_
  rcases alive_iff_owned.mp living with client | aloft | stored
  · exact alive_iff_owned.mpr (Or.inl (outside ▸ client))
  · obtain ⟨voyage, sailing, subscriber, there, rfl⟩ := aloft_pos_iff.mp aloft
    exact held voyage sailing subscriber there
  · exact alive_iff_owned.mpr (Or.inr (Or.inr (registry ▸ stored)))

end Mortal

/-- Who is subscribed in a change is alive at that time. -/
def backs (hub : Hub) : Change → Bool
  | .subscribe _ handler _ => hub.alive handler
  | _ => true

/-- A change of the registry brings nobody back. -/
theorem Mortal.of_change {hub next : Hub} (wellFormed : hub.registry.WellFormed) {change : Change}
    (backed : hub.backs change = true)
    (registry : next.registry = hub.registry.change hub.alive change)
    (outside : next.outside = hub.outside) (voyages : next.voyages = hub.voyages)
    (born : next.born = hub.born) : hub.Mortal next := by
  -- Of the three kinds of owners only the registry is another than before.
  refine .of_fading born fun handler living => ?_
  rcases alive_iff_owned.mp living with client | aloft | ⟨⟨type, entry⟩, stored, retained, rfl⟩
  · exact alive_iff_owned.mpr (Or.inl (outside ▸ client))
  · refine alive_iff_owned.mpr (Or.inr (Or.inl ?_))
    rw [Hub.aloft, voyages] at aloft
    exact aloft
  · rw [registry] at stored
    have later := wellFormed.change hub.alive change
    -- An entry is retained since before, or for a handler that is being passed on.
    have owned (earlier : Entry) (there : earlier ∈ hub.registry.entries type)
        (kept : earlier.retained = true) : hub.alive earlier.handler = true :=
      alive_iff_owned.mpr (Or.inr (Or.inr
        ⟨⟨type, earlier⟩, wellFormed.mem_entries.mp there, kept, rfl⟩))
    have passed (granted : hub.registry.Grants hub.alive change type entry) :
        hub.alive entry.handler = true := by
      rw [granted.1] at backed
      exact backed
    cases wellFormed.origin (later.mem_entries.mpr stored) with
    | earlier earlier there continues granted =>
      rcases granted retained with before | granted
      · exact continues.handler_eq ▸ owned earlier there before
      · exact passed granted
    | made _ granted => exact passed (granted retained)

/-- Who is in a snapshot is alive. -/
theorem alive_of_snapshot {hub : Hub} (wellFormed : hub.registry.WellFormed) {type : EventType}
    {subscribers : List Subscriber}
    (taken : hub.registry.snapshot hub.alive type = .ok subscribers) {subscriber : Subscriber}
    (there : subscriber ∈ subscribers) : hub.alive subscriber.handler = true := by
  -- A snapshot shows living entries, and a weak one is alive by its handler.
  obtain ⟨_, rfl⟩ := Registry.of_snapshot taken
  obtain ⟨entry, living, rfl⟩ := List.mem_map.mp there
  obtain ⟨stored, isAlive⟩ := List.mem_filter.mp living
  rcases Bool.or_eq_true_iff.mp isAlive with retained | alive
  · -- A retained entry is an owner itself.
    exact alive_iff_owned.mpr (Or.inr (Or.inr
      ⟨⟨type, entry⟩, wellFormed.mem_entries.mp stored, retained, rfl⟩))
  · exact alive

/-- A flight that begins or goes on brings nobody back. -/
theorem mortal_of_course {config : BusConfig} {hub next : Hub} {incident : Incident}
    {answer : Answer} (wellFormed : hub.registry.WellFormed)
    (course : Course config hub incident answer next.voyages)
    (registry : next.registry = hub.registry) (outside : next.outside = hub.outside)
    (born : next.born = hub.born) : hub.Mortal next := by
  -- A flight holds what its snapshot held, at most.
  refine .of_voyages registry outside born fun voyage sailing subscriber there => ?_
  have aloft {earlier : Voyage} (before : earlier ∈ hub.voyages)
      (held : subscriber ∈ earlier.flight.held) : hub.alive subscriber.handler = true := by
    have aloft : 0 < hub.aloft subscriber.handler :=
      aloft_pos_iff.mpr ⟨earlier, before, subscriber, held, rfl⟩
    exact alive_iff_owned.mpr (Or.inr (Or.inl aloft))
  generalize next.voyages = voyages at course sailing
  cases course with
  | calm _ _ => exact aloft sailing there
  | begun begun =>
    rcases List.mem_append.mp sailing with before | new
    · exact aloft before there
    rw [List.mem_singleton.mp new, Voyage.new] at there
    -- The flight holds its snapshot, and nobody else.
    refine alive_of_snapshot wellFormed begun.snapshot ?_
    rcases begun.opening with flown | grounded
    · rw [flown] at there
      simpa [Flight.held, Flight.new] using there
    · rw [grounded] at there
      simp [Flight.held, Flight.grounded, Flight.new] at there
  | moved _ found extended =>
    rcases List.mem_or_eq_of_mem_set sailing with before | rfl
    · exact aloft before there
    · obtain ⟨more, advance⟩ := Voyage.advance_of_extend? extended
      exact aloft (List.mem_of_getElem? found) (Flight.held_of_advance advance there)

end Hub

end EventBus
