import EventBus.Proofs.Group.Assembly

/-!
A chronicle tells of the subscriptions of a bus: who was given which handle, and which of them were
ended. In a consistent one the handles alone say which subscription is meant.
-/

namespace EventBus

/-- A call for a subscription that was answered with a handle. -/
structure Call where
  party : Party
  type : EventType
  handler : Handler
  handle : SubscriptionHandle
  deriving DecidableEq, Repr

/-- What a chronicle tells. -/
inductive Occurrence where
  /-- The registry answers a call. -/
  | given (call : Call)
  /-- A group that has a member of the type and the name answers a call without asking anybody. -/
  | recalled (call : Call)
  /-- An unsubscription is answered with yes. -/
  | ended (handle : SubscriptionHandle)
  deriving DecidableEq, Repr

/-- What is told of a call for a subscription, by how the registry answers it. -/
def Occurrence.subscribed (party : Party) (type : EventType) (handler : Handler) :
    Except BusError SubscriptionHandle → List Occurrence
  | .ok handle => [.given ⟨party, type, handler, handle⟩]
  | .error _ => []

/-- What is told of an unsubscription, by how it is answered. -/
def Occurrence.unsubscribed (handle : SubscriptionHandle) : Except BusError Bool → List Occurrence
  | .ok true => [.ended handle]
  | _ => []

/-- How the answer of a registry goes with what was told before. -/
structure Call.Fits (past : List Occurrence) (call : Call) : Prop where
  /-- It is that of an earlier call for the same handler, unless this was ended in between. -/
  same : ∀ {i : Nat} {earlier : Call}, past[i]? = some (.given earlier) →
    (earlier.handle = call.handle ↔
      earlier.type = call.type ∧ earlier.handler = call.handler ∧
        ∀ l, i < l → past[l]? ≠ some (.ended earlier.handle))
  lasting : .ended call.handle ∉ past
  /-- A handle that is given for the first time has the largest id. -/
  fresh : (∃ earlier, .given earlier ∈ past ∧ earlier.handle = call.handle) ∨
    ∀ earlier, .given earlier ∈ past → earlier.handle.id < call.handle.id

/-- A group remembers what it was given, as long as that has not been ended. -/
def Call.Recalls (past : List Occurrence) (call : Call) : Prop :=
  .ended call.handle ∉ past →
    ∃ earlier, .given earlier ∈ past ∧ earlier.party = call.party ∧ earlier.type = call.type ∧
      earlier.handler.name = call.handler.name ∧ earlier.handle = call.handle

/-- How an occurrence goes with what was told before. -/
def Occurrence.Fits (past : List Occurrence) : Occurrence → Prop
  | given call => call.Fits past
  | recalled call => call.Recalls past
  -- Nothing is ended twice.
  | ended handle => .ended handle ∉ past

/-- Everything that a chronicle tells goes with what it told before. -/
def Consistent (chronicle : List Occurrence) : Prop :=
  ∀ (j : Nat) (occurrence : Occurrence), chronicle[j]? = some occurrence →
    occurrence.Fits (chronicle.take j)

/-- What stands before a position is the past of what stands there. -/
theorem getElem?_take_of_lt {chronicle : List Occurrence} {i j : Nat} (earlier : i < j) :
    (chronicle.take j)[i]? = chronicle[i]? := by
  -- Both sides look at the same position, which the cut leaves in.
  rw [List.getElem?_take, if_pos earlier]

/-- What is in the past of a position stands before it. -/
theorem mem_take_iff {chronicle : List Occurrence} {occurrence : Occurrence} {j : Nat} :
    occurrence ∈ chronicle.take j ↔ ∃ i < j, chronicle[i]? = some occurrence := by
  -- Membership is to stand somewhere, and the cut keeps what stands before its end.
  rw [List.mem_iff_getElem?]
  simp only [List.getElem?_take, Option.ite_none_right_eq_some]

namespace Consistent

/-- Nothing is told in the beginning. -/
theorem nil : Consistent [] := by
  -- There is no position to look at.
  intro j occurrence told
  cases told

variable {chronicle : List Occurrence} (consistent : Consistent chronicle)

include consistent

/-- A chronicle stays consistent with an occurrence that goes with what was told before. -/
theorem concat {occurrence : Occurrence} (fits : occurrence.Fits chronicle) :
    Consistent (chronicle ++ [occurrence]) := by
  -- A position is one of the old chronicle, or the one behind it.
  intro j other told
  rcases Nat.lt_or_ge j chronicle.length with inside | behind
  · rw [List.getElem?_append_left inside] at told
    rw [List.take_append_of_le_length (Nat.le_of_lt inside)]
    exact consistent j other told
  · -- Behind all that was told there is the new occurrence alone.
    rw [List.getElem?_append_right behind, List.getElem?_singleton] at told
    split at told
    · rename_i last
      obtain rfl := Option.some.inj told
      have here : j = chronicle.length := by omega
      rw [here, List.take_left]
      exact fits
    · cases told

variable {i j : Nat} {call later : Call} {handle : SubscriptionHandle}

/-- Two calls have one handle if they have one handler, and nothing was ended in between. -/
theorem same (earlier : i < j) (first : chronicle[i]? = some (.given call))
    (second : chronicle[j]? = some (.given later)) :
    call.handle = later.handle ↔
      call.type = later.type ∧ call.handler = later.handler ∧
        ∀ l, i < l → l < j → chronicle[l]? ≠ some (.ended call.handle) := by
  have fits : later.Fits (chronicle.take j) := consistent j _ second
  rw [fits.same ((getElem?_take_of_lt earlier).trans first)]
  refine and_congr_right fun _ => and_congr_right fun _ => forall_congr' fun l => ?_
  refine forall_congr' fun _ => ?_
  -- What the past tells at a position is what stands there.
  rw [List.getElem?_take]
  by_cases inside : l < j <;> simp [inside]

/-- No subscription is ended twice. -/
theorem once (first : chronicle[i]? = some (.ended handle))
    (second : chronicle[j]? = some (.ended handle)) : i = j := by
  -- An end that is told goes only with a past in which it has not been told.
  have never {k l : Nat} (before : chronicle[k]? = some (.ended handle))
      (again : chronicle[l]? = some (.ended handle)) : ¬ k < l := fun earlier => by
    have fits : .ended handle ∉ chronicle.take l := consistent l _ again
    exact fits (mem_take_iff.mpr ⟨k, earlier, before⟩)
  have here := never first second
  have there := never second first
  omega

/-- What has been ended is not given again. -/
theorem never_again (earlier : i < j) (ended : chronicle[i]? = some (.ended handle))
    (given : chronicle[j]? = some (.given call)) : call.handle ≠ handle := by
  -- A handle that has been ended in the past goes with no later call.
  rintro rfl
  have fits : call.Fits (chronicle.take j) := consistent j _ given
  exact fits.lasting (mem_take_iff.mpr ⟨i, earlier, ended⟩)

/-- Every handle was given for the first time, and had the largest id then. -/
theorem first (given : chronicle[j]? = some (.given call)) :
    ∃ k ≤ j, ∃ original, chronicle[k]? = some (.given original) ∧
      original.handle = call.handle ∧
      ∀ l < k, ∀ other, chronicle[l]? = some (.given other) →
        other.handle.id < call.handle.id := by
  -- The induction is on the position, back to the call that was given the handle first.
  induction j using Nat.strongRecOn generalizing call with
  | ind j ih =>
    have fits : call.Fits (chronicle.take j) := consistent j _ given
    rcases fits.fresh with ⟨earlier, told, same⟩ | largest
    · obtain ⟨i, before, told⟩ := mem_take_iff.mp told
      obtain ⟨k, there, original, begun, original_same, largest⟩ := ih i before told
      exact ⟨k, Nat.le_trans there (Nat.le_of_lt before), original, begun,
        original_same.trans same, same ▸ largest⟩
    · exact ⟨j, Nat.le_refl j, call, given, rfl, fun l before other told =>
        largest other (mem_take_iff.mpr ⟨l, before, told⟩)⟩

/--
A handler that is subscribed again gets a handle that is new at that time.

It was first given after the end of the earlier one, to a call for this handler, and with an id
above all that were given until then.
-/
theorem anew {e : Nat} (before : i < e) (between : e < j)
    (told : chronicle[i]? = some (.given call))
    (ended : chronicle[e]? = some (.ended call.handle))
    (again : chronicle[j]? = some (.given later)) (type : call.type = later.type)
    (handler : call.handler = later.handler) :
    ∃ k, e < k ∧ k ≤ j ∧ ∃ original, chronicle[k]? = some (.given original) ∧
      original.type = later.type ∧ original.handler = later.handler ∧
      original.handle = later.handle ∧
      ∀ l < k, ∀ other, chronicle[l]? = some (.given other) →
        other.handle.id < later.handle.id := by
  obtain ⟨k, reached, original, begun, sameHandle, largest⟩ := consistent.first again
  have differs : later.handle ≠ call.handle := consistent.never_again between ended again
  -- The first call for the handle is for the same handler, since the handle is the same.
  have meant : original.type = later.type ∧ original.handler = later.handler := by
    rcases Nat.lt_or_eq_of_le reached with earlier | rfl
    · obtain ⟨sameType, sameHandler, _⟩ := (consistent.same earlier begun again).mp sameHandle
      exact ⟨sameType, sameHandler⟩
    · obtain rfl : original = later :=
        Occurrence.given.inj (Option.some.inj (begun.symm.trans again))
      exact ⟨rfl, rfl⟩
  refine ⟨k, ?_, reached, original, begun, meant.1, meant.2, sameHandle, largest⟩
  refine Nat.lt_of_not_le fun early => ?_
  have strict : k < e := by
    refine Nat.lt_of_le_of_ne early ?_
    rintro rfl
    cases begun.symm.trans ended
  have unequal : original.handle ≠ call.handle := fun same => differs (sameHandle.symm.trans same)
  rcases Nat.lt_trichotomy k i with sooner | rfl | after
  · -- The handle would have been ended between the two calls, and yet be given again.
    refine unequal ((consistent.same sooner begun told).mpr
      ⟨meant.1.trans type.symm, meant.2.trans handler.symm, fun l _ inside gone => ?_⟩)
    refine consistent.never_again (Nat.lt_trans inside (Nat.lt_trans before between)) gone again ?_
    exact sameHandle.symm
  · obtain rfl : original = call :=
      Occurrence.given.inj (Option.some.inj (begun.symm.trans told))
    exact unequal rfl
  · -- The end in question is the only one of the earlier handle, and comes too late.
    refine unequal ((consistent.same after told begun).mpr
      ⟨type.trans meant.1.symm, handler.trans meant.2.symm, fun l _ inside gone => ?_⟩).symm
    have only := consistent.once gone ended
    omega

end Consistent

end EventBus
