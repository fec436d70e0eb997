import EventBus.Proofs.Hub.Isolation
import EventBus.Proofs.Hub.Mortality
import EventBus.Proofs.Registry.Batches
import EventBus.Proofs.Registry.Identity

/-!
Subscribing a handler to several types while others act. The call is made of one section for each
type, and anything may happen at the hub before each of them; the caller alone keeps its reference.
-/

namespace EventBus

namespace Hub

/-- The hubs to which a hub leads, whatever happens in whichever order. -/
inductive Leads (config : BusConfig) (hub : Hub) : Hub → Prop
  | here : Leads config hub hub
  | step {before later : Hub} {incident : Incident} {answer : Answer}
    (led : Leads config hub before)
    (happened : before.step? config incident = some (answer, later)) : Leads config hub later
  | noted {before : Hub} (led : Leads config hub before) (calls : List (Handler × Event))
    (records : List LogRecord) : Leads config hub { before with calls, records }

variable {config : BusConfig} {hub between later : Hub}

/-- What a hub leads to leads on. -/
theorem Leads.trans (first : hub.Leads config between) (second : between.Leads config later) :
    hub.Leads config later := by
  -- The induction is on the second part, which is put behind the first one step by step.
  induction second with
  | here => exact first
  | step _ happened ih => exact ih.step happened
  | noted _ calls records ih => exact ih.noted calls records

/-- A hub that can come about leads to others that can. -/
theorem Leads.attainable (led : hub.Leads config later) (attainable : hub.Attainable config) :
    later.Attainable config := by
  -- Whatever leads on is a step that hubs can come about by.
  induction led with
  | here => exact attainable
  | step _ happened ih => exact ih.step happened
  | noted _ calls records ih => exact ih.noted calls records

/-- The hub after something that others do, if it can happen and leaves a client its handler. -/
def endure (config : BusConfig) (held : Handler) (hub : Hub) (incident : Incident) : Hub :=
  match hub.step? config incident with
  | some (_, later) => if 0 < later.outside held then later else hub
  | none => hub

/-- What others do leads on, and a client keeps its handler. -/
theorem endure_leads (config : BusConfig) {held : Handler} (kept : 0 < hub.outside held)
    (incident : Incident) :
    hub.Leads config (hub.endure config held incident) ∧
      0 < (hub.endure config held incident).outside held := by
  -- An incident that would take the handler from its client is left out.
  unfold endure
  split
  · rename_i answer next happened
    split
    · rename_i still
      exact ⟨.step .here happened, still⟩
    · exact ⟨.here, kept⟩
  · exact ⟨.here, kept⟩

/-- However much others do leads on, and a client keeps its handler. -/
theorem foldl_endure_leads (config : BusConfig) {held : Handler} (kept : 0 < hub.outside held)
    (incidents : List Incident) :
    hub.Leads config (incidents.foldl (endure config held) hub) ∧
      0 < (incidents.foldl (endure config held) hub).outside held := by
  -- They act one after the other, and each leaves the client its handler.
  induction incidents generalizing hub with
  | nil => exact ⟨.here, kept⟩
  | cons incident rest ih =>
    obtain ⟨first, still⟩ := endure_leads config kept incident
    obtain ⟨led, held⟩ := ih still
    exact ⟨first.trans led, held⟩

/-- A handle is that of a live subscription of a handler to a type. -/
def StandsFor (hub : Hub) (handle : SubscriptionHandle) (type : EventType) (handler : Handler) :
    Prop :=
  ∃ entry ∈ hub.registry.live hub.alive type,
    entry.handler = handler ∧ hub.registry.handle entry.id type = handle

/-- A weak subscription leaves the same handlers alive. -/
theorem alive_subscribe (wellFormed : hub.registry.WellFormed) (type : EventType)
    (handler : Handler) :
    (hub.after (hub.registry.subscribe hub.alive type handler false)).alive = hub.alive := by
  -- The registry gains no reference, and the clients keep theirs.
  funext other
  have held := wellFormed.holds_subscribe_weak hub.alive type handler other
  show decide (0 < hub.outside other + _ + _) = decide (0 < hub.outside other + _ + _)
  rw [← held]
  rfl

/-- A weak subscription is answered with the handle of a live subscription. -/
theorem standsFor_of_subscribe (wellFormed : hub.registry.WellFormed) {type : EventType}
    {handler : Handler} (living : hub.alive handler = true) {handle : SubscriptionHandle}
    (answered : (hub.registry.subscribe hub.alive type handler false).answer = .ok handle) :
    (hub.after (hub.registry.subscribe hub.alive type handler false)).StandsFor handle type
      handler := by
  obtain ⟨_, _, rfl, entry, found, same, _⟩ := wellFormed.find?_subscribe answered
  have next := wellFormed.subscribe hub.alive handle.type handler false
  obtain ⟨stored, own⟩ := next.find?_eq_some.mp found
  refine ⟨entry, List.mem_filter.mpr ⟨stored, ?_⟩, same, own⟩
  -- The caller holds the handler, so its entry is alive even if it is weak.
  rw [alive_subscribe wellFormed, Entry.isAlive, same, living, Bool.or_true]

/-- A weak subscription leads on, and only a closed bus refuses it for a type that is not blank. -/
theorem leads_subscribe (attainable : hub.Attainable config) {type : EventType} {handler : Handler}
    (kept : 0 < hub.outside handler) (named : type.isBlank = false) :
    let done := hub.registry.subscribe hub.alive type handler false
    hub.Leads config (hub.after done) ∧
      match done.answer with
      | .error error => error = .busClosed ∧ done.registry.closed = true
      | .ok handle => handle.type = type ∧ (hub.after done).StandsFor handle type handler := by
  intro done
  have living : hub.alive handler = true := by
    rw [alive, decide_eq_true_eq, owners]
    omega
  constructor
  · -- As a request of its own the section notes a single owner, and the log is all that differs.
    have happened : hub.step? config (.request (.subscribe type handler)) =
        some (serve (bus config fun _ _ => none) (.subscribe type handler) hub) :=
      if_pos (decide_eq_true kept)
    have served : (serve (bus config fun _ _ => none) (.subscribe type handler) hub).2 =
        ((bus config fun _ _ => none).subscribe type handler hub).2 := rfl
    have led : hub.Leads config
        (serve (bus config fun _ _ => none) (.subscribe type handler) hub).2 :=
      .step .here happened
    rw [served, subscribe_eq] at led
    convert led.noted hub.calls (hub.records ++ done.records) using 1
    split <;> rfl
  · by_cases closed : hub.registry.closed = true
    · have refused : done = hub.registry.unchanged (.error .busClosed) :=
        Registry.subscribe_closed named closed
      rw [refused]
      exact ⟨rfl, closed⟩
    · have answer := (Registry.enrols living named (by simpa using closed)).answer
      have stands := standsFor_of_subscribe attainable.intact.1 living answer
      rw [show done.answer = _ from answer]
      exact ⟨rfl, stands⟩

/-- Between two hubs there was one at which a handle stood for a handler and the handle's type. -/
def Earns (config : BusConfig) (start last : Hub) (handler : Handler) (type : EventType)
    (handle : SubscriptionHandle) : Prop :=
  handle.type = type ∧ ∃ moment : Hub,
    start.Leads config moment ∧ moment.Leads config last ∧ moment.StandsFor handle type handler

/-- The hub after a weak subscription. -/
def enlist (config : BusConfig) (handler : Handler) (hub : Hub) (type : EventType) : Hub :=
  (serve (bus config fun _ _ => none) (.subscribe type handler) hub).2

/-- What it comes to if a handler is subscribed to a list of types with nobody in between. -/
structure Enlists (config : BusConfig) (handler : Handler) (types : List EventType) (start : Hub)
    (answer : Except BusError (List SubscriptionHandle)) (last : Hub) : Prop where
  /-- Every place of the list has the handle of its type. -/
  answer_eq : answer = .ok (types.map fun type =>
    start.registry.handle (start.registry.idAmong start.alive handler types type) type)
  /-- The hub is left as by one subscription after another. -/
  last_eq : last = types.foldl (enlist config handler) start
  nextId_eq : last.registry.nextId =
    start.registry.nextId + (start.registry.newTypes start.alive handler types).length
  /-- The handler is subscribed to the types of the list besides those that it had. -/
  idOf?_eq : ∀ type, last.registry.idOf? last.alive handler type =
    if type ∈ types then some (start.registry.idAmong start.alive handler types type)
    else start.registry.idOf? start.alive handler type

/-- A weak subscription is a section, apart from the log. -/
theorem enlist_eq (config : BusConfig) (hub : Hub) (type : EventType) (handler : Handler) :
    ∃ records, hub.enlist config handler type =
      { hub with
        registry := (hub.registry.subscribe hub.alive type handler false).registry, records } := by
  -- On the way to the section a single owner may be noted, which is the only difference.
  have served : hub.enlist config handler type =
      ((bus config fun _ _ => none).subscribe type handler hub).2 := rfl
  rw [served, subscribe_eq]
  split <;> exact ⟨_, rfl⟩

/-- A handler is subscribed to the first type of a list, and then to the others. -/
theorem Enlists.cons {handler : Handler} {type : EventType} {rest : List EventType} {hub last : Hub}
    {answer : Except BusError (List SubscriptionHandle)} (wellFormed : hub.registry.WellFormed)
    (enrols : hub.registry.Enrols hub.alive handler type
      (hub.registry.subscribe hub.alive type handler false))
    (enlists : (hub.enlist config handler type).Enlists config handler rest answer last) :
    hub.Enlists config handler (type :: rest) (answer.map
      (hub.registry.handle ((hub.registry.idOf? hub.alive handler type).getD
        (hub.registry.nextId + 1)) type :: ·)) last := by
  -- The first subscription is a step of the registry, and the others see what it leaves.
  obtain ⟨records, next⟩ := hub.enlist_eq config type handler
  obtain ⟨answered, hub_eq, nextId, known⟩ := enlists
  have alive_eq : (hub.enlist config handler type).alive = hub.alive := by
    rw [next]
    exact alive_subscribe wellFormed type handler
  have registry_eq : (hub.enlist config handler type).registry =
      (hub.registry.subscribe hub.alive type handler false).registry := by rw [next]
  rw [alive_eq, registry_eq] at answered nextId known
  refine ⟨?_, hub_eq, ?_, fun other => ?_⟩
  · -- The first handle is counted like the others, since its type is the first of the list.
    rw [answered, Except.map, List.map_cons, enrols.idAmong_cons, enrols.idAmong_self]
    simp only [enrols.idAmong_cons, Registry.handle, enrols.id_eq]
  · rw [nextId, enrols.nextId_eq, enrols.newTypes_cons, List.length_append]
    split
    · simp only [List.length_singleton]
      omega
    · simp only [List.length_nil]
      omega
  · rw [known, enrols.idAmong_cons, enrols.idOf?_eq]
    by_cases there : other ∈ rest
    · rw [if_pos there, if_pos (List.mem_cons_of_mem _ there)]
    · by_cases same : other = type
      · subst same
        rw [if_neg there, if_pos rfl, if_pos List.mem_cons_self, enrols.idAmong_self]
      · rw [if_neg there, if_neg same, if_neg (by simp [same, there])]

end Hub

/-- A hub at which a client makes a call, and what others do before each section of the call. -/
structure Crowd where
  hub : Hub
  meanwhile : List (List Incident)

namespace Crowd

variable (config : BusConfig) (held : Handler)

/-- The others act, for as long as the client that makes the call is kept waiting. -/
def proceed (crowd : Crowd) : Crowd where
  hub := (crowd.meanwhile.headD []).foldl (Hub.endure config held) crowd.hub
  meanwhile := crowd.meanwhile.tail

/-- Does something at the hub that nobody interrupts. -/
def atHub {α : Type} (task : StateM Hub α) : StateM Crowd α := fun crowd =>
  ((task crowd.hub).1, { crowd with hub := (task crowd.hub).2 })

/-- The bus of a hub at which others act before every section; the caller holds a handler. -/
def bus : Bus (StateM Crowd) :=
  let quiet := Hub.bus config fun _ _ => none
  { config
    -- A section begins with a look at the registry, and from then on nobody comes in between.
    load := fun crowd =>
      let next := crowd.proceed config held
      (next.hub.registry, next)
    store := fun registry => atHub (quiet.store registry)
    owners := atHub quiet.owners
    hold := fun handler => atHub (quiet.hold handler)
    drop := fun handler => atHub (quiet.drop handler)
    log := fun record => atHub (quiet.log record)
    call := fun handler event => atHub (quiet.call handler event)
    spawn := fun flight => atHub (quiet.spawn flight) }

/-- Going through a list at the hub. -/
theorem forM_atHub {α : Type} (task : α → StateM Hub Unit) (items : List α) (crowd : Crowd) :
    (items.forM fun item => atHub (task item)) crowd =
      ((), { crowd with hub := (items.forM task crowd.hub).2 }) := by
  -- The rest of the crowd is passed along.
  induction items generalizing crowd with
  | nil => rfl
  | cons first rest ih => exact ih { crowd with hub := (task first crowd.hub).2 }

/-- A section is carried out at the hub that others have left. -/
theorem carryOut_eq {α : Type} (section? : Registry → (Handler → Bool) → Section α)
    (crowd : Crowd) :
    (bus config held).carryOut section? crowd =
      let next := crowd.proceed config held
      let done := section? next.hub.registry next.hub.alive
      (done.answer, { next with hub := next.hub.after done }) := by
  let quiet := Hub.bus config fun _ _ => none
  let next := crowd.proceed config held
  let done := section? next.hub.registry next.hub.alive
  show (do
    done.released.forM fun handler => atHub (quiet.hold handler)
    atHub (quiet.store done.registry)
    done.released.forM fun handler => atHub (quiet.drop handler)
    done.records.forM fun record => atHub (quiet.log record)
    return done.answer : StateM Crowd α) next = _
  have whole := Hub.carryOut_eq config (fun _ _ => none) next.hub section?
  simp only [bind, StateT.bind, forM_atHub]
  -- What is done at the hub after the look at its registry is what the section does there.
  exact congrArg (fun last : Hub => (done.answer, { next with hub := last }))
    (congrArg Prod.snd whole)

/-- A client sets out to subscribe its handler: a single owner is noted, and the others act. -/
def approach (type : EventType) (crowd : Crowd) : Crowd :=
  let noted :=
    if crowd.hub.owners held = 1 then crowd.hub.note (.singleOwner type held.name) else crowd.hub
  { crowd with hub := noted }.proceed config held

/-- A weak subscription is carried out at the hub that others have left. -/
theorem subscribe_eq (type : EventType) (crowd : Crowd) :
    (bus config held).subscribe type held crowd =
      let next := crowd.approach config held type
      let done := next.hub.registry.subscribe next.hub.alive type held false
      (done.answer, { next with hub := next.hub.after done }) := by
  -- First the owners are counted, and then others may act before the section.
  have unfolded : (bus config held).subscribe type held crowd =
      (bus config held).carryOut
        (fun registry alive => registry.subscribe alive type held false)
        { crowd with
          hub := if crowd.hub.owners held = 1 then
            crowd.hub.note (.singleOwner type held.name) else crowd.hub } := by
    have owners : (bus config held).owners crowd = (crowd.hub.owners, crowd) := rfl
    simp only [Bus.subscribe, bind, StateT.bind, owners]
    by_cases single : crowd.hub.owners held = 1
    · rw [if_pos single, if_pos single]
      rfl
    · rw [if_neg single, if_neg single]
  rw [unfolded, carryOut_eq]
  rfl

variable {config} {handler : Handler} (crowd : Crowd)

/-- The others lead the hub on while a client sets out, and it keeps its handler. -/
theorem approach_leads (kept : 0 < crowd.hub.outside handler) (type : EventType) :
    crowd.hub.Leads config (crowd.approach config handler type).hub ∧
      0 < (crowd.approach config handler type).hub.outside handler := by
  -- The record of a single owner may come before what the others do.
  unfold approach
  split
  · -- Noting a single owner writes to the log and does nothing else.
    have noted : crowd.hub.Leads config (crowd.hub.note (.singleOwner type handler.name)) :=
      .noted .here crowd.hub.calls _
    have kept' : 0 < (crowd.hub.note (.singleOwner type handler.name)).outside handler := kept
    obtain ⟨led, still⟩ := Hub.foldl_endure_leads config kept' _
    exact ⟨noted.trans led, still⟩
  · exact Hub.foldl_endure_leads config kept _

/-- With nobody else there, a weak subscription is the request. -/
theorem subscribe_alone (alone : crowd.meanwhile.flatten = []) (type : EventType) :
    (bus config handler).subscribe type handler crowd =
      ((crowd.hub.registry.subscribe crowd.hub.alive type handler false).answer,
        ⟨crowd.hub.enlist config handler type, crowd.meanwhile.tail⟩) := by
  -- Nobody is there at any of the moments of the call.
  have nobody : crowd.meanwhile.headD [] = [] := by
    cases others : crowd.meanwhile with
    | nil => rfl
    | cons first rest => exact List.flatten_eq_nil_iff.mp alone first (others ▸ List.mem_cons_self)
  have served : crowd.hub.enlist config handler type =
      ((Hub.bus config fun _ _ => none).subscribe type handler crowd.hub).2 := rfl
  rw [subscribe_eq, served, Hub.subscribe_eq]
  simp only [approach, proceed, nobody, List.foldl_nil]
  split <;> rfl

/-- What a series of subscriptions comes to: all of them are made, or the bus was closed. -/
theorem subscribeEach_leads (attainable : crowd.hub.Attainable config)
    (kept : 0 < crowd.hub.outside handler) {types : List EventType}
    (named : ∀ type ∈ types, type.isBlank = false) :
    let (answer, last) := (bus config handler).subscribeEach handler types crowd
    crowd.hub.Leads config last.hub ∧
      match answer with
      | .error error => error = .busClosed ∧ last.hub.registry.closed = true
      | .ok handles => List.Forall₂ (crowd.hub.Earns config last.hub handler) types handles := by
  -- Each subscription is led to from the one before it, whatever others do in between.
  induction types generalizing crowd with
  | nil => exact ⟨.here, .nil⟩
  | cons type rest ih =>
    obtain ⟨waited, still⟩ := approach_leads crowd kept type
    have made := Hub.leads_subscribe (waited.attainable attainable) still
      (named type List.mem_cons_self)
    rw [Bus.subscribeEach_cons, subscribe_eq]
    generalize crowd.approach config handler type = next at waited still made ⊢
    obtain ⟨led, settled⟩ := made
    have reached := waited.trans led
    dsimp only at settled ⊢
    cases answer : (next.hub.registry.subscribe next.hub.alive type handler false).answer with
    | error error =>
      rw [answer] at settled
      exact ⟨reached, settled⟩
    | ok handle =>
      rw [answer] at settled
      let after : Crowd := { next with
        hub := next.hub.after (next.hub.registry.subscribe next.hub.alive type handler false) }
      have others := ih after (reached.attainable attainable) still
        fun type there => named type (List.mem_cons_of_mem _ there)
      dsimp only [after] at others ⊢
      generalize (bus config handler).subscribeEach handler rest after = done at others ⊢
      obtain ⟨answer, last⟩ := done
      refine ⟨reached.trans others.1, ?_⟩
      cases answer with
      | error error => exact others.2
      | ok handles =>
        -- The other handles were earned after the first one, and all of them during the call.
        have later : List.Forall₂ (crowd.hub.Earns config last.hub handler) rest handles :=
          others.2.imp fun _ _ earned => by
            obtain ⟨own, moment, first, second, stands⟩ := earned
            exact ⟨own, moment, reached.trans first, second, stands⟩
        exact .cons ⟨settled.1, _, reached, others.1, settled.2⟩ later

/-- With nobody else there, a series of subscriptions at an open bus is made as a whole. -/
theorem subscribeEach_alone (attainable : crowd.hub.Attainable config)
    (kept : 0 < crowd.hub.outside handler) (alone : crowd.meanwhile.flatten = [])
    (opened : crowd.hub.registry.closed = false) {types : List EventType}
    (named : ∀ type ∈ types, type.isBlank = false) :
    let (answer, last) := (bus config handler).subscribeEach handler types crowd
    crowd.hub.Enlists config handler types answer last.hub := by
  -- Without others the hub is the one that the subscription before has left.
  induction types generalizing crowd with
  | nil =>
    refine ⟨rfl, rfl, rfl, fun type => ?_⟩
    rw [if_neg List.not_mem_nil]
  | cons type rest ih =>
    have living : crowd.hub.alive handler = true := by
      rw [Hub.alive, decide_eq_true_eq, Hub.owners]
      omega
    have enrols := Registry.enrols living (named type List.mem_cons_self) opened
    obtain ⟨records, next⟩ := crowd.hub.enlist_eq config type handler
    obtain ⟨led, _⟩ := Hub.leads_subscribe attainable kept (named type List.mem_cons_self)
    rw [Bus.subscribeEach_cons, subscribe_alone crowd alone, enrols.answer]
    have others := ih ⟨crowd.hub.enlist config handler type, crowd.meanwhile.tail⟩
      (by rw [next]; exact (led.noted crowd.hub.calls records).attainable attainable)
      (by rw [next]; exact kept)
      (List.flatten_eq_nil_iff.mpr fun incidents there =>
        List.flatten_eq_nil_iff.mp alone incidents (List.mem_of_mem_tail there))
      (by rw [next]; exact enrols.closed_eq.trans opened)
      fun type there => named type (List.mem_cons_of_mem _ there)
    exact others.cons attainable.intact.1 enrols

/--
A handler is subscribed to all types of a list or to none of them, whatever others do meanwhile.

A blank type is found before anything is done, wherever it stands. Otherwise the bus can only be
closed, and then it has no subscription left. If all goes well, every place of the list gets a
handle of its type, which stood for the handler when it was given out; with nobody in between, the
hub is left as by one subscription after another.
-/
theorem subscribeMany_all_or_nothing (attainable : crowd.hub.Attainable config)
    (kept : 0 < crowd.hub.outside handler) (types : List EventType) :
    let (answer, last) := (bus config handler).subscribeMany types handler crowd
    crowd.hub.Leads config last.hub ∧
      ((∃ type ∈ types, type.isBlank = true) → last = crowd ∧
        ∃ blank, types.find? EventType.isBlank = some blank ∧
          answer = .error (.blankTypeAmong blank)) ∧
      ((∀ type ∈ types, type.isBlank = false) →
        (match answer with
          | .error error => error = .busClosed ∧ last.hub.registry.closed = true ∧
              last.hub.registry.subscriptions = []
          | .ok handles => List.Forall₂ (crowd.hub.Earns config last.hub handler) types handles) ∧
        (crowd.hub.registry.closed = false → crowd.meanwhile.flatten = [] →
          crowd.hub.Enlists config handler types answer last.hub)) := by
  -- The types are all looked at before the first section.
  cases found : types.find? EventType.isBlank with
  | some blank =>
    have refused : (bus config handler).subscribeMany types handler crowd =
        (.error (.blankTypeAmong blank), crowd) := by
      rw [Bus.subscribeMany, found]
      rfl
    rw [refused]
    refine ⟨.here, fun _ => ⟨rfl, blank, rfl, rfl⟩, fun named => ?_⟩
    have marked : blank.isBlank = true := List.find?_some found
    exact absurd (marked.symm.trans (named blank (List.mem_of_find?_eq_some found))) (by decide)
  | none =>
    have named : ∀ type ∈ types, type.isBlank = false := fun type there => by
      simpa using List.find?_eq_none.mp found type there
    have unfolded : (bus config handler).subscribeMany types handler crowd =
        (bus config handler).subscribeEach handler types crowd := by
      rw [Bus.subscribeMany, found]
    have settled := subscribeEach_leads crowd attainable kept named
    have whole := fun alone opened => subscribeEach_alone crowd attainable kept alone opened named
    rw [unfolded]
    generalize (bus config handler).subscribeEach handler types crowd = done at settled whole ⊢
    obtain ⟨answer, last⟩ := done
    refine ⟨settled.1, fun refused => ?_, fun _ => ⟨?_, fun opened alone => whole alone opened⟩⟩
    · obtain ⟨type, there, blank⟩ := refused
      exact absurd (blank.symm.trans (named type there)) (by decide)
    · cases answer with
      | ok handles => exact settled.2
      | error error =>
        obtain ⟨only, closed⟩ := settled.2
        have wellFormed := (settled.1.attainable attainable).intact.1
        refine ⟨only, closed, ?_⟩
        rw [Registry.subscriptions, wellFormed.emptied closed]
        rfl

/-- A worker is subscribed to one type already, and a clerk to another. -/
def sharedOffice : List Incident :=
  let worker : Handler := ⟨1, "worker"⟩
  let clerk : Handler := ⟨2, "clerk"⟩
  [.request (.create worker), .request (.create clerk),
    .request (.subscribe ⟨"audit"⟩ worker), .request (.subscribe ⟨"order"⟩ clerk)]

/-- The worker keeps its old handle and gets two new ones, or none if others close the bus. -/
theorem sharedOffice_batches :
    let worker : Handler := ⟨1, "worker"⟩
    let types : List EventType := [⟨"order"⟩, ⟨"audit"⟩, ⟨"order"⟩, ⟨"mail"⟩]
    ∃ hub : Hub, (Hub.new 1).run? {} sharedOffice = some hub ∧
      (let (answer, last) := (bus {} worker).subscribeMany types worker ⟨hub, []⟩
      answer = .ok [⟨1, 3, ⟨"order"⟩⟩, ⟨1, 1, ⟨"audit"⟩⟩, ⟨1, 3, ⟨"order"⟩⟩, ⟨1, 4, ⟨"mail"⟩⟩] ∧
        hub.Enlists {} worker types answer last.hub) ∧
      (let (answer, last) := (bus {} worker).subscribeMany types worker
        ⟨hub, [[], [], [.request .close]]⟩
      answer = .error .busClosed ∧ last.hub.registry.subscriptions = []) := by
  -- Both calls are run to their ends, one alone and one that is interrupted.
  intro worker types
  let interrupted : List (List Incident) := [[], [], [.request .close]]
  have checked : ((Hub.new 1).run? {} sharedOffice).map (fun hub =>
      (hub.outside worker, hub.registry.closed,
        ((bus {} worker).subscribeMany types worker ⟨hub, []⟩).1,
        ((bus {} worker).subscribeMany types worker ⟨hub, interrupted⟩).1)) =
      some (1, false, .ok [⟨1, 3, ⟨"order"⟩⟩, ⟨1, 1, ⟨"audit"⟩⟩, ⟨1, 3, ⟨"order"⟩⟩,
        ⟨1, 4, ⟨"mail"⟩⟩], .error .busClosed) := by decide +kernel
  obtain ⟨hub, ran, known⟩ := Option.map_eq_some_iff.mp checked
  simp only [Prod.mk.injEq] at known
  obtain ⟨owned, opened, whole, refused⟩ := known
  have attainable : hub.Attainable {} := (Hub.Attainable.new 1).run? ran
  have kept : 0 < hub.outside worker := owned ▸ Nat.one_pos
  have named : ∀ type ∈ types, type.isBlank = false := by decide +kernel
  have alone := (subscribeMany_all_or_nothing ⟨hub, []⟩ attainable kept types).2.2 named
  have settled := subscribeMany_all_or_nothing ⟨hub, interrupted⟩ attainable kept types
  refine ⟨hub, ran, ⟨whole, alone.2 opened rfl⟩, ?_⟩
  generalize (bus {} worker).subscribeMany types worker ⟨hub, interrupted⟩ = done
    at refused settled ⊢
  obtain ⟨answer, last⟩ := done
  subst refused
  exact ⟨rfl, (settled.2.2 named).1.2.2⟩

end Crowd

end EventBus
