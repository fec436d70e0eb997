import EventBus.Proofs.Group.Walks
import EventBus.Proofs.Registry.Grants
import Mathlib.Algebra.Ring.Nat

/-!
A network is several buses whose clients share their handlers. A handler is alive as long as a
client owns it, or a flight or a retained subscription of any of the buses.
-/

namespace EventBus

/--
One bus of a network with its flights and groups.

Who its clients are is up to the network, whatever the hub of the station says of them.
-/
structure Station where
  config : BusConfig
  assembly : Assembly
  /-- The handles that retained subscriptions were answered with. -/
  granted : List SubscriptionHandle

/-- Several buses and their clients. -/
structure Network where
  /-- How many references to each handler the clients hold, those in snapshots included. -/
  outside : Handler → Nat
  /-- The handlers that have ever come into being. -/
  born : List Handler
  stations : List Station

/-- What happens in a network. -/
inductive NetworkAct where
  /-- A bus is made. -/
  | build (config : BusConfig)
  /-- Something is done at one of the buses. -/
  | deed (index : Nat) (deed : Deed)

namespace Station

variable (station : Station)

/-- The registry of a station. -/
def registry : Registry := station.assembly.hub.registry

/-- How many references to a handler a station holds: those of its flights and of its registry. -/
def keeps (handler : Handler) : Nat :=
  station.assembly.hub.aloft handler + station.registry.holds handler

end Station

/-- The handles that a deed was granted for retained subscriptions. -/
def Deed.granted (assembly : Assembly) : Deed → Reply → List SubscriptionHandle
  | .occur (.request (.subscribeRetained ..)), .answered (.subscribed (.ok handle)) => [handle]
  | .join index _ type handler, .joined (.ok handle) =>
    -- A group that answers for a member does not ask the bus.
    if assembly.answersFor index type handler.name then [] else [handle]
  | _, _ => []

namespace Network

/-- A network without buses and handlers. -/
def empty : Network := ⟨fun _ => 0, [], []⟩

variable (network : Network)

/-- The number of references to a handler. -/
def owners (handler : Handler) : Nat :=
  network.outside handler + (network.stations.map (·.keeps handler)).sum

/-- Whether a handler has an owner. -/
def alive (handler : Handler) : Bool := 0 < network.owners handler

/-- How many references to a handler all stations but one hold. -/
def elsewhere (index : Nat) (handler : Handler) : Nat :=
  ((network.stations.eraseIdx index).map (·.keeps handler)).sum

/-- What a station sees: to it, the other stations are clients like all others. -/
def view (index : Nat) (station : Station) : Assembly :=
  { station.assembly with
    hub := { station.assembly.hub with
      outside := fun handler => network.outside handler + network.elsewhere index handler
      born := network.born } }

/-- Clients can only pass on and give up references of their own. -/
def allows (station : Station) : Deed → Bool
  | .occur (.request request) => Hub.allows network.outside network.born request
  | .join _ joining _ handler =>
    joining.allows handler
      { station.assembly.hub with outside := network.outside, born := network.born }
  | _ => true

/-- The network once a station has come to another assembly. -/
def settle (index : Nat) (station : Station) (later : Assembly)
    (granted : List SubscriptionHandle) : Network where
  -- What the other stations hold is no reference of a client.
  outside handler := later.hub.outside handler - network.elsewhere index handler
  born := later.hub.born
  stations :=
    network.stations.set index ⟨station.config, later, station.granted ++ granted⟩

/-- The network once a station has noted calls and written to the log. -/
def note (index : Nat) (station : Station) (calls : List (Handler × Event))
    (records : List LogRecord) : Network :=
  { network with
    stations := network.stations.set index { station with
      assembly := { station.assembly with
        hub := { station.assembly.hub with calls, records } } } }

/-- The network after something has happened, or nothing where it cannot happen. -/
def step? : NetworkAct → Option Network
  | .build config =>
    let station : Station := ⟨config, .new network.stations.length, []⟩
    some { network with stations := network.stations ++ [station] }
  | .deed index deed => do
    let station ← network.stations[index]?
    if network.allows station deed then
      let view := network.view index station
      let (reply, later) ← view.step? station.config deed
      return network.settle index station later (deed.granted view reply)
    else none

/--
The networks to which a network leads, whatever happens in whichever order.

A publication in the calling thread is made of a snapshot that a client takes and gives up, and of
what its handlers do. Besides that it notes its calls and writes to the log.
-/
inductive Leads : Network → Prop
  | here : Leads network
  | step {before later : Network} {act : NetworkAct} (led : Leads before)
    (happened : before.step? act = some later) : Leads later
  | noted {before : Network} (led : Leads before) {index : Nat} {station : Station}
    (there : before.stations[index]? = some station) (calls : List (Handler × Event))
    (records : List LogRecord) :
    Leads (before.note index station calls records)

/-- The networks that can come about. -/
def Reachable : Prop := empty.Leads network

/-- The network after a list of acts, if each of them can happen. -/
def run? (network : Network) : List NetworkAct → Option Network
  | [] => some network
  | act :: rest =>
    match network.step? act with
    | none => none
    | some later => run? later rest

/-- What can happen in a network leads to another one. -/
theorem Leads.run? {network before last : Network} {acts : List NetworkAct}
    (led : network.Leads before) (ran : before.run? acts = some last) : network.Leads last := by
  -- The induction is on the acts, with the network that the first one leads to.
  induction acts generalizing before with
  | nil =>
    cases ran
    exact led
  | cons act rest ih =>
    unfold Network.run? at ran
    split at ran
    · cases ran
    · rename_i later happened
      exact ih (led.step happened) ran

section Views

variable {network} {index : Nat} {station : Station}
  (there : network.stations[index]? = some station)

include there

/-- The references of a station and those that are elsewhere are all that stations hold. -/
theorem keeps_add_elsewhere (handler : Handler) :
    station.keeps handler + network.elsewhere index handler =
      (network.stations.map (·.keeps handler)).sum := by
  -- Taking one station out of the list leaves what the others keep.
  obtain ⟨inside, rfl⟩ := List.getElem?_eq_some_iff.mp there
  have moved := (List.getElem_cons_eraseIdx_perm inside).map (·.keeps handler)
  exact moved.sum_nat

/-- A station sees the owners that there are in the network. -/
theorem owners_view (handler : Handler) :
    (network.view index station).hub.owners handler = network.owners handler := by
  -- A station sees its own references and those elsewhere as held by its clients.
  have same : (network.view index station).hub.owners handler =
      network.outside handler + network.elsewhere index handler +
        station.assembly.hub.aloft handler + station.registry.holds handler := rfl
  rw [same, owners, ← keeps_add_elsewhere there handler, Station.keeps]
  omega

/-- A station sees who is alive. -/
theorem alive_view : (network.view index station).hub.alive = network.alive := by
  -- Whoever has owners is alive, and the owners are the same.
  funext handler
  rw [Hub.alive, alive, owners_view there]

end Views

/-- Where a deed leaves the references of the other stations alone, its owners are all there are. -/
theorem owners_settle {index : Nat} {station : Station}
    (there : network.stations[index]? = some station) {later : Assembly}
    {granted : List SubscriptionHandle} {handler : Handler}
    (kept : network.elsewhere index handler ≤ later.hub.outside handler) :
    (network.settle index station later granted).owners handler = later.hub.owners handler := by
  -- The deed changes the station at the index and what the clients hold, and nothing elsewhere.
  let next := network.settle index station later granted
  let settled : Station := ⟨station.config, later, station.granted ++ granted⟩
  have here : next.stations[index]? = some settled :=
    List.getElem?_set_self (List.getElem?_eq_some_iff.mp there).1
  have others : next.elsewhere index = network.elsewhere index := by
    funext handler
    simp only [elsewhere, next, settle, List.eraseIdx_set_eq]
  have held := keeps_add_elsewhere here handler
  have counted : later.hub.owners handler =
      later.hub.outside handler + later.hub.aloft handler + later.hub.registry.holds handler := rfl
  have outside : next.outside handler =
      later.hub.outside handler - network.elsewhere index handler := rfl
  rw [others] at held
  show next.owners handler = _
  rw [counted, owners, outside, ← held]
  simp only [Station.keeps, Station.registry, settled]
  omega

/-- Everything that a step of a network can do. -/
inductive Stepped : NetworkAct → Network → Prop
  | built (config : BusConfig) :
    Stepped (.build config)
      { network with
        stations := network.stations ++ [⟨config, .new network.stations.length, []⟩] }
  | done {index : Nat} {station : Station} {deed : Deed} {reply : Reply} {later : Assembly}
    (there : network.stations[index]? = some station)
    (allowed : network.allows station deed = true)
    (happened : (network.view index station).step? station.config deed = some (reply, later)) :
    Stepped (.deed index deed)
      (network.settle index station later (deed.granted (network.view index station) reply))

/-- A step of a network does one of the things that steps can do. -/
theorem stepped {network later : Network} {act : NetworkAct}
    (happened : network.step? act = some later) : network.Stepped act later := by
  -- A deed is done at a station that is there, and has to be allowed.
  cases act with
  | build config =>
    cases happened
    exact .built config
  | deed index deed =>
    simp only [step?, bind, pure, Option.bind_eq_some_iff, Option.ite_none_right_eq_some,
      Option.some.injEq, Prod.exists] at happened
    obtain ⟨station, there, allowed, reply, assembly, happened, rfl⟩ := happened
    exact .done there allowed happened

end Network

end EventBus
