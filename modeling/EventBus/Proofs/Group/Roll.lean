import EventBus.Proofs.Group.Membership

/-!
The roll of a group. Whatever is done in an assembly, the members of a group are those types and
names that have been put on its roll and not been struck off since, in the order of their signing.
-/

namespace EventBus

/-- What a member is known by: the type of its subscription and the name of its handler. -/
def Member.key (member : Member) : EventType × String := (member.handle.type, member.name)

/-- A member stands for the type and the name that it is known by. -/
theorem Member.standsFor_iff {member : Member} {type : EventType} {name : String} :
    member.standsFor type name = true ↔ member.key = (type, name) := by
  -- A member stands for its own key and for no other.
  simp [Member.standsFor, Member.key]

/-- Whether a deed, as it was answered, puts a type and a name on the roll of a group. -/
def enters (index : Nat) (key : EventType × String) : Deed × Reply → Bool
  | (.join target _ type handler, .joined (.ok _)) =>
    target == index && (type, handler.name) == key
  | _ => false

/-- Whether a deed strikes a type and a name off the roll of a group, however it is answered. -/
def strikes (index : Nat) (key : EventType × String) : Deed × Reply → Bool
  | (.remove target (.member type name), _) => target == index && (type, name) == key
  -- A group that is cleared or dropped has nothing left on its roll.
  | (.remove target _, _) => target == index
  | _ => false

/-- A type and a name have been put on the roll of a group and not been struck off since. -/
def Standing (past : List (Deed × Reply)) (index : Nat) (key : EventType × String) : Prop :=
  ∃ (i : Nat) (done : Deed × Reply), past[i]? = some done ∧ enters index key done = true ∧
    ∀ (j : Nat) (other : Deed × Reply), i < j → past[j]? = some other →
      strikes index key other = false

/-- A member stands on the roll of a group since a position, where it was answered its handle. -/
structure Signed (past : List (Deed × Reply)) (index position : Nat) (member : Member) : Prop where
  joined : ∃ joining handler, handler.name = member.name ∧ past[position]? =
    some (.join index joining member.handle.type handler, .joined (.ok member.handle))
  /-- Its type and name were not on the roll before. -/
  first : ¬ Standing (past.take position) index member.key
  kept : ∀ j other, position < j → past[j]? = some other → strikes index member.key other = false

section Past

variable {past : List (Deed × Reply)} {done other : Deed × Reply} {index position i : Nat}
  {key : EventType × String} {member : Member}

/-- What stands in a past that has grown was there before, or is what has been added. -/
theorem getElem?_concat_iff :
    (past ++ [done])[i]? = some other ↔
      past[i]? = some other ∨ (i = past.length ∧ done = other) := by
  rcases Nat.lt_trichotomy i past.length with before | rfl | behind
  · rw [List.getElem?_append_left before]
    exact ⟨Or.inl, fun there => there.resolve_right fun same => Nat.ne_of_lt before same.1⟩
  · simp
  · -- Behind the end there is nothing, neither before nor afterwards.
    have long : (past ++ [done]).length ≤ i := by
      rw [List.length_append, List.length_singleton]
      exact behind
    rw [List.getElem?_eq_none long, List.getElem?_eq_none (Nat.le_of_lt behind)]
    simp [Nat.ne_of_gt behind]

/-- What stands somewhere stands before the end. -/
theorem lt_of_getElem? (there : past[i]? = some other) : i < past.length :=
  (List.getElem?_eq_some_iff.mp there).1

/-- A key is on the roll after a deed that enters it, or was on it and has not been struck off. -/
theorem standing_concat :
    Standing (past ++ [done]) index key ↔
      enters index key done = true ∨
        (Standing past index key ∧ strikes index key done = false) := by
  -- What has entered the key is the last deed, or an earlier one that the last has left in force.
  constructor
  · rintro ⟨i, first, there, entered, kept⟩
    rcases getElem?_concat_iff.mp there with before | ⟨_, rfl⟩
    · refine Or.inr ⟨⟨i, first, before, entered, fun j other later listed =>
        kept j other later (getElem?_concat_iff.mpr (Or.inl listed))⟩, ?_⟩
      exact kept past.length done (lt_of_getElem? before)
        (getElem?_concat_iff.mpr (Or.inr ⟨rfl, rfl⟩))
    · exact Or.inl entered
  · rintro (entered | ⟨⟨i, first, there, entered, kept⟩, spared⟩)
    · refine ⟨past.length, done, getElem?_concat_iff.mpr (Or.inr ⟨rfl, rfl⟩), entered, ?_⟩
      intro j other later listed
      rcases getElem?_concat_iff.mp listed with before | ⟨same, _⟩
      · exact absurd (lt_of_getElem? before) (Nat.lt_asymm later)
      · exact absurd same (Nat.ne_of_gt later)
    · refine ⟨i, first, getElem?_concat_iff.mpr (Or.inl there), entered, ?_⟩
      intro j other later listed
      rcases getElem?_concat_iff.mp listed with before | ⟨_, rfl⟩
      · exact kept j other later before
      · exact spared

/-- A member stays signed as long as nothing strikes it off. -/
theorem Signed.concat (signed : Signed past index position member)
    (spared : strikes index member.key done = false) :
    Signed (past ++ [done]) index position member := by
  -- It signed before the end, so what went before its signing is the same.
  obtain ⟨joining, handler, named, there⟩ := signed.joined
  have inside := lt_of_getElem? there
  refine ⟨⟨joining, handler, named, getElem?_concat_iff.mpr (Or.inl there)⟩, ?_, ?_⟩
  · rw [List.take_append_of_le_length (Nat.le_of_lt inside)]
    exact signed.first
  · intro j other later listed
    rcases getElem?_concat_iff.mp listed with before | ⟨_, rfl⟩
    · exact signed.kept j other later before
    · exact spared

/-- A member that was not on the roll signs where it joins. -/
theorem Signed.new {joining : Joining} {handler : Handler} {handle : SubscriptionHandle}
    (absent : ¬ Standing past index (handle.type, handler.name)) :
    Signed (past ++ [(.join index joining handle.type handler, .joined (.ok handle))]) index
      past.length ⟨handler.name, handle⟩ := by
  -- The handler joins at the last place, behind which there is none.
  refine ⟨⟨joining, handler, rfl, getElem?_concat_iff.mpr (Or.inr ⟨rfl, rfl⟩)⟩, ?_, ?_⟩
  · rw [List.take_left']
    · exact absent
    · rfl
  · intro j other later listed
    rcases getElem?_concat_iff.mp listed with before | ⟨same, _⟩
    · exact absurd (lt_of_getElem? before) (Nat.lt_asymm later)
    · exact absurd same (Nat.ne_of_gt later)

end Past

namespace SubscriptionGroup

variable {group : SubscriptionGroup} {type : EventType} {name : String}

/-- What the members of a group are known by. -/
def keys (group : SubscriptionGroup) : List (EventType × String) := group.members.map Member.key

/-- A group has a member for a type and a name exactly if one is known by them. -/
theorem contains_iff : group.contains type name = true ↔ (type, name) ∈ group.keys := by
  -- A member that is found is one with the key, and the other way round.
  simp only [contains, find?, List.find?_isSome, Member.standsFor_iff, keys, List.mem_map]

/-- A group finds no member exactly if none is known by the type and the name. -/
theorem find?_eq_none_iff : group.find? type name = none ↔ (type, name) ∉ group.keys := by
  -- To find none is not to contain any.
  rw [← contains_iff, contains, Option.isSome_iff_ne_none, ne_eq, not_not]

/-- Where no two members are known by the same, a member is the one that is found. -/
theorem find?_member (distinct : group.keys.Nodup) {member : Member}
    (listed : member ∈ group.members) :
    group.find? member.handle.type member.name = some member := by
  -- Somebody of the key is found, and only one member has it.
  have known := contains_iff.mpr (List.mem_map_of_mem listed : member.key ∈ group.keys)
  obtain ⟨first, found⟩ := Option.isSome_iff_exists.mp known
  obtain ⟨there, ofType, named⟩ := of_find? found
  have same : first.key = member.key := Prod.ext ofType named
  exact found.trans (congrArg some (List.inj_on_of_nodup_map distinct there listed same))

/-- Where no two members are known by the same, taking one out leaves all others. -/
theorem eraseP_eq_filter {members : List Member} (distinct : (members.map Member.key).Nodup)
    (type : EventType) (name : String) :
    members.eraseP (·.standsFor type name) = members.filter (·.key ≠ (type, name)) := by
  -- The induction is on the members, up to the first one that stands for the type and the name.
  induction members with
  | nil => rfl
  | cons member rest ih =>
    obtain ⟨alone, distinct⟩ := List.nodup_cons.mp distinct
    by_cases hit : member.key = (type, name)
    · -- Nobody behind it is known by the same.
      have others : rest.filter (·.key ≠ (type, name)) = rest := by
        refine List.filter_eq_self.mpr fun other there => ?_
        have differs : other.key ≠ member.key := fun same =>
          alone (same ▸ List.mem_map_of_mem there)
        simpa [hit] using differs
      rw [List.eraseP_cons, Member.standsFor_iff.mpr hit, cond_true,
        List.filter_cons_of_neg (by simpa using hit), others]
    · have unlike : member.standsFor type name = false :=
        Bool.eq_false_iff.mpr (mt Member.standsFor_iff.mp hit)
      rw [List.eraseP_cons, unlike, cond_false, List.filter_cons_of_pos (by simpa using hit),
        ih distinct]

end SubscriptionGroup

/-- The members of a group are those on its roll, in the order of their signing. -/
structure Enrolled (past : List (Deed × Reply)) (index : Nat) (group : SubscriptionGroup) :
    Prop where
  distinct : group.keys.Nodup
  standing : ∀ key, key ∈ group.keys ↔ Standing past index key
  signed : ∃ roll : List (Nat × Member), roll.map Prod.snd = group.members ∧
    roll.Pairwise (fun earlier later => earlier.1 < later.1) ∧
    ∀ line ∈ roll, Signed past index line.1 line.2

namespace Assembly

/-- How a group that there is after a deed has fared. -/
inductive Fares (assembly : Assembly) (done : Deed × Reply) (index : Nat) :
    SubscriptionGroup → Prop
  /-- It has the members that it had; what the deed enters was on the roll already. -/
  | spared {group : SubscriptionGroup} (present : assembly.group? index = some group)
    (known : ∀ key, enters index key done = true → key ∈ group.keys)
    (unstruck : ∀ key, strikes index key done = false) : Fares assembly done index group
  /-- It has just been made. -/
  | fresh (last : index = assembly.groups.length) (made : done.1 = .found) :
    Fares assembly done index {}
  | added {earlier : SubscriptionGroup} {joining : Joining} {handler : Handler}
    {handle : SubscriptionHandle} (present : assembly.group? index = some earlier)
    (absent : (handle.type, handler.name) ∉ earlier.keys)
    (did : done = (.join index joining handle.type handler, .joined (.ok handle))) :
    Fares assembly done index ⟨earlier.members ++ [⟨handler.name, handle⟩]⟩
  | left {earlier group : SubscriptionGroup} {removal : Removal}
    (present : assembly.group? index = some earlier) (did : done.1 = .remove index removal)
    (left : removal.left earlier = some group) : Fares assembly done index group

variable {config : BusConfig} {assembly later : Assembly} {deed : Deed} {reply : Reply}
  {index : Nat} {group : SubscriptionGroup} {past : List (Deed × Reply)}

/-- Where there is a group, groups have been made up to its index. -/
theorem lt_of_group? (present : assembly.group? index = some group) :
    index < assembly.groups.length := by
  -- Behind the groups that were made there is none.
  by_contra beyond
  have nothing : assembly.groups[index]? = none := List.getElem?_eq_none (Nat.le_of_not_lt beyond)
  simp [group?, nothing] at present

/-- Every group that there is after a deed has fared in one of four ways. -/
theorem fares_of_step (wellFormed : assembly.hub.registry.WellFormed)
    (happened : assembly.step? config deed = some (reply, later))
    (present : later.group? index = some group) : assembly.Fares (deed, reply) index group := by
  -- Of all deeds, only those at the index can change the group there.
  have effect := (effect_of_step happened).1
  have present : later.groups[index]?.join = some group := present
  generalize later.hub = hub at effect
  generalize later.groups = groups at effect present
  cases effect with
  | occur happened => exact .spared present nofun fun _ => rfl
  | found =>
    -- The new group is the last one, and has no members.
    by_cases old : index < assembly.groups.length
    · rw [List.getElem?_append_left old] at present
      exact .spared present nofun fun _ => rfl
    · rw [List.getElem?_append_right (Nat.le_of_not_lt old)] at present
      cases place : index - assembly.groups.length with
      | zero =>
        rw [place] at present
        cases present
        exact .fresh (by omega) rfl
      | succ beyond => simp [place] at present
  | @join target joining type handler earlier next answer hub there joined attainable =>
    rw [group?_set there] at present
    split at present
    · rename_i hit
      subst hit
      obtain rfl : next = group := Option.some.inj present
      generalize hub.registry = registry at joined
      -- The handler is known already, is refused by the bus, or becomes a member.
      cases joined with
      | @known member found =>
        have listed : (type, handler.name) ∈ earlier.keys :=
          SubscriptionGroup.contains_iff.mp (by rw [SubscriptionGroup.contains, found]; rfl)
        refine .spared there (fun key entered => ?_) fun _ => rfl
        have same : (type, handler.name) = key := by simpa [enters] using entered
        exact same ▸ listed
      | refused absent answered => exact .spared there nofun fun _ => rfl
      | added absent answered =>
        obtain ⟨_, _, rfl, _⟩ := wellFormed.find?_subscribe answered
        exact .added there (SubscriptionGroup.find?_eq_none_iff.mp absent) rfl
    · rename_i other
      -- A handler that joins one group is not put on the roll of another.
      refine .spared present (fun key entered => ?_) fun _ => rfl
      cases answer with
      | error error => cases entered
      | ok handle =>
        have own : target = index ∧ (type, handler.name) = key := by simpa [enters] using entered
        exact absurd own.1.symm other
  -- A removal at another index leaves this group alone, and strikes nobody off its roll.
  | @remove target removal earlier reply records there silent =>
    rw [group?_set there] at present
    split at present
    · rename_i hit
      subst hit
      exact .left there rfl present
    · rename_i other
      refine .spared present nofun fun key => ?_
      cases removal <;> simp [strikes, Ne.symm other]

/-- No group is forgotten, though it may be dropped. -/
theorem length_groups_le (happened : assembly.step? config deed = some (reply, later)) :
    assembly.groups.length ≤ later.groups.length := by
  -- Deeds set groups at an index and add new ones behind.
  have effect := (effect_of_step happened).1
  generalize later.hub = hub at effect
  generalize later.groups = groups at effect ⊢
  cases effect with
  | occur happened => exact Nat.le_refl _
  | found => simp
  | join there joined attainable => simp
  | remove there silent => simp

/-- Only groups that there are have anything put on their rolls. -/
theorem lt_of_enters {key : EventType × String}
    (happened : assembly.step? config deed = some (reply, later))
    (entered : enters index key (deed, reply) = true) : index < assembly.groups.length := by
  -- Only a handler that joins a group enters anything, and the group must be there for that.
  have effect := (effect_of_step happened).1
  generalize later.hub = hub at effect
  generalize later.groups = groups at effect
  cases effect with
  | occur happened => cases entered
  | found => cases entered
  | @join target joining type handler earlier next answer hub there joined attainable =>
    cases answer with
    | error error => cases entered
    | ok handle =>
      have own : target = index ∧ (type, handler.name) = key := by simpa [enters] using entered
      exact own.1 ▸ lt_of_group? there
  | remove there silent => cases entered

/--
The assemblies that can come about, each with all that has been done and how it was answered.

A clear that others interrupt comes to taking out one member after another.
-/
inductive Annals (config : BusConfig) : List (Deed × Reply) → Assembly → Prop
  | new (id : Nat) : Annals config [] (Assembly.new id)
  | step {past : List (Deed × Reply)} {assembly later : Assembly} {deed : Deed} {reply : Reply}
    (before : Annals config past assembly)
    (happened : assembly.step? config deed = some (reply, later)) :
    Annals config (past ++ [(deed, reply)]) later
  | noted {past : List (Deed × Reply)} {assembly : Assembly} (before : Annals config past assembly)
    (calls : List (Handler × Event)) (records : List LogRecord) :
    Annals config past { assembly with hub := { assembly.hub with calls, records } }

/-- Every assembly that can come about has annals. -/
theorem Reachable.annals (reachable : assembly.Reachable config) :
    ∃ past, Annals config past assembly := by
  -- The induction is on how the assembly came about, deed by deed.
  induction reachable with
  | new id => exact ⟨[], .new id⟩
  | step before happened ih =>
    obtain ⟨past, annals⟩ := ih
    exact ⟨_, annals.step happened⟩
  | noted before calls records ih =>
    obtain ⟨past, annals⟩ := ih
    exact ⟨past, annals.noted calls records⟩

namespace Annals

/-- An assembly with annals can come about. -/
theorem reachable (annals : Annals config past assembly) : assembly.Reachable config := by
  -- Annals tell more than that the assembly can come about.
  induction annals with
  | new id => exact .new id
  | step before happened ih => exact ih.step happened
  | noted before calls records ih => exact ih.noted calls records

/-- What can be done in an assembly with annals goes down in them. -/
theorem run? {deeds : List Deed} {last : Assembly} (annals : Annals config past assembly)
    (ran : assembly.run? config deeds = some last) :
    ∃ more, more.map Prod.fst = deeds ∧ Annals config (past ++ more) last := by
  -- The induction is on the deeds, each of which adds a line to the annals.
  induction deeds generalizing assembly past with
  | nil =>
    cases ran
    exact ⟨[], rfl, (List.append_nil past).symm ▸ annals⟩
  | cons deed rest ih =>
    unfold Assembly.run? at ran
    split at ran
    · cases ran
    · rename_i reply later happened
      obtain ⟨more, done, told⟩ := ih (annals.step happened) ran
      rw [List.append_assoc] at told
      exact ⟨(deed, reply) :: more, congrArg (deed :: ·) done, told⟩

/-- What was ever put on a roll was put on that of a group that had been made. -/
theorem bounded (annals : Annals config past assembly) {done : Deed × Reply}
    (there : done ∈ past) {key : EventType × String} (entered : enters index key done = true) :
    index < assembly.groups.length := by
  -- Groups only become more, so a group that was there for an earlier deed is there still.
  induction annals with
  | new id => exact absurd there List.not_mem_nil
  | step before happened ih =>
    have grown := length_groups_le happened
    rcases List.mem_append.mp there with old | now
    · exact Nat.lt_of_lt_of_le (ih old) grown
    · rw [List.mem_singleton.mp now] at entered
      exact Nat.lt_of_lt_of_le (lt_of_enters happened entered) grown
  | noted before calls records ih => exact ih there

end Annals

end Assembly

namespace Enrolled

variable {past : List (Deed × Reply)} {done : Deed × Reply} {index : Nat}
  {group : SubscriptionGroup} (enrolled : Enrolled past index group)

include enrolled

/-- A group that is spared has the same roll. -/
theorem spared (known : ∀ key, enters index key done = true → key ∈ group.keys)
    (unstruck : ∀ key, strikes index key done = false) :
    Enrolled (past ++ [done]) index group := by
  -- The lines of the roll stay as they are, being signed in a past that has grown.
  obtain ⟨roll, members, ordered, signed⟩ := enrolled.signed
  refine ⟨enrolled.distinct, fun key => ?_, roll, members, ordered, fun line there =>
    (signed line there).concat (unstruck line.2.key)⟩
  rw [standing_concat, ← enrolled.standing, unstruck key]
  simpa using known key

/-- A handler whose type and name are not on the roll signs as the last. -/
theorem added {joining : Joining} {handler : Handler} {handle : SubscriptionHandle}
    (absent : (handle.type, handler.name) ∉ group.keys) :
    Enrolled (past ++ [(.join index joining handle.type handler, .joined (.ok handle))]) index
      ⟨group.members ++ [⟨handler.name, handle⟩]⟩ := by
  -- The new line comes last, and its key is on the roll from now on.
  obtain ⟨roll, members, ordered, signed⟩ := enrolled.signed
  let line : Nat × Member := (past.length, ⟨handler.name, handle⟩)
  have keys : (⟨group.members ++ [line.2]⟩ : SubscriptionGroup).keys =
      group.keys ++ [(handle.type, handler.name)] := by
    simp [SubscriptionGroup.keys, Member.key, line]
  refine ⟨?_, fun key => ?_, roll ++ [line], by simp [members, line], ?_, ?_⟩
  · rw [keys]
    exact List.nodup_append_comm.mp (List.nodup_cons.mpr ⟨absent, enrolled.distinct⟩)
  · have own : enters index key (.join index joining handle.type handler, .joined (.ok handle)) =
        true ↔ key = (handle.type, handler.name) := by
      rw [eq_comm (a := key)]
      simp [enters]
    rw [keys, standing_concat, ← enrolled.standing, own, List.mem_append, List.mem_singleton,
      or_comm]
    simp [strikes]
  · -- All others have signed in the past.
    refine List.pairwise_append.mpr ⟨ordered, List.pairwise_singleton _ _, ?_⟩
    intro earlier there last new
    obtain ⟨_, _, _, joined⟩ := (signed earlier there).joined
    rw [List.mem_singleton.mp new]
    exact lt_of_getElem? joined
  · intro other there
    rcases List.mem_append.mp there with old | new
    · exact (signed other old).concat rfl
    · rw [List.mem_singleton.mp new]
      exact .new (mt (enrolled.standing _).mpr absent)

/-- Who is taken out is struck off the roll, and the others stay on it as they were. -/
theorem left {removal : Removal} {reply : Reply} {later : SubscriptionGroup}
    (left : removal.left group = some later) :
    Enrolled (past ++ [(.remove index removal, reply)]) index later := by
  -- Nobody is put on the roll by being taken out.
  have unentered (key : EventType × String) :
      enters index key (.remove index removal, reply) = false := rfl
  cases removal with
  | member type name =>
    obtain ⟨roll, members, ordered, signed⟩ := enrolled.signed
    have struck (key : EventType × String) :
        strikes index key (.remove index (.member type name), reply) = true ↔
          (type, name) = key := by simp [strikes]
    obtain rfl : ⟨group.members.eraseP (·.standsFor type name)⟩ = later := Option.some.inj left
    have filtered := SubscriptionGroup.eraseP_eq_filter enrolled.distinct type name
    refine ⟨?_, fun key => ?_, roll.filter (·.2.key ≠ (type, name)), ?_, ordered.filter _, ?_⟩
    · exact enrolled.distinct.sublist (List.eraseP_sublist.map Member.key)
    · rw [standing_concat, unentered, ← enrolled.standing, Bool.eq_false_iff, ne_eq, struck,
        SubscriptionGroup.keys, filtered]
      simp only [List.mem_map, List.mem_filter, SubscriptionGroup.keys, decide_eq_true_eq]
      -- A key is left exactly if it was there and is not the one that is struck off.
      constructor
      · rintro ⟨member, ⟨listed, differs⟩, rfl⟩
        exact Or.inr ⟨⟨member, listed, rfl⟩, Ne.symm differs⟩
      · rintro (impossible | ⟨⟨member, listed, rfl⟩, differs⟩)
        · cases impossible
        · exact ⟨member, ⟨listed, Ne.symm differs⟩, rfl⟩
    · rw [filtered, ← members, List.filter_map]
      rfl
    · intro line there
      obtain ⟨listed, differs⟩ := List.mem_filter.mp there
      refine (signed line listed).concat (Bool.eq_false_iff.mpr fun hit => ?_)
      exact (of_decide_eq_true differs) ((struck line.2.key).mp hit).symm
  -- A clear leaves nobody on the roll, and a drop leaves no group.
  | clear =>
    cases left
    refine ⟨List.nodup_nil, fun key => ?_, [], rfl, .nil, fun _ there =>
      absurd there List.not_mem_nil⟩
    rw [standing_concat, unentered]
    simp [SubscriptionGroup.keys, strikes]
  | drop => cases left

end Enrolled

/-- Every group that there is goes by its roll. -/
theorem Assembly.Annals.enrolled {config : BusConfig} {past : List (Deed × Reply)}
    {assembly : Assembly} (annals : Annals config past assembly) {index : Nat}
    {group : SubscriptionGroup} (present : assembly.group? index = some group) :
    Enrolled past index group := by
  -- The induction is on the annals, and each deed lets the group fare in one of four ways.
  induction annals generalizing group with
  | new id => simp [Assembly.new, group?] at present
  | @step past assembly later deed reply before happened ih =>
    have wellFormed := before.reachable.coherent.wellFormed
    cases fares_of_step wellFormed happened present with
    | spared there known unstruck => exact (ih there).spared known unstruck
    | added there absent did => exact did ▸ (ih there).added absent
    | left there did left =>
      obtain rfl : deed = _ := did
      exact (ih there).left left
    | fresh last made =>
      obtain rfl : deed = .found := made
      refine ⟨List.nodup_nil, fun key => ?_, [], rfl, .nil, fun _ there =>
        absurd there List.not_mem_nil⟩
      -- Nothing can have been put on the roll of a group that was not there.
      have unheard : ¬ Standing past index key := by
        rintro ⟨i, done, there, entered, _⟩
        have inside := before.bounded (List.mem_of_getElem? there) entered
        omega
      rw [standing_concat]
      simp [SubscriptionGroup.keys, enters, unheard]
  | noted before calls records ih => exact ih present

end EventBus
