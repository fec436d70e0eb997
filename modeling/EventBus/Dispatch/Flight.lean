import EventBus.Dispatch.Handling

/-!
A flight is one asynchronous dispatch. A fan-out starts the subscribers in order with a bounded
number in progress, a collector gathers their outcomes from a channel until a deadline, and a token
lets one client cancel the flight and take its result. Every small step of theirs is a move, so that
any list of moves is one interleaving of the parties.
-/

namespace EventBus

/-- What the collector of a flight is doing. -/
inductive Collector where
  /-- It takes outcomes from the channel as they come. -/
  | collecting
  /-- The deadline has passed, and it takes what is in the channel already. -/
  | draining
  /-- It has counted everybody and is about to leave. -/
  | departing
  /-- It has left, and the channel is gone. -/
  | departed
  deriving DecidableEq, Repr

/-- What has become of the result of a flight. -/
inductive Verdict where
  /-- There is no result yet. -/
  | undecided
  /-- The result waits to be taken with the token. -/
  | delivered (result : DispatchResult)
  /-- The token is gone, and these failures are still to be reported. -/
  | reporting (left : List Failure)
  /-- The result has been taken, reported or thrown away. -/
  | spent
  /-- The flight was abandoned and has no result. -/
  | lost
  deriving DecidableEq, Repr

/-- One asynchronous dispatch. -/
structure Flight where
  event : Event
  /-- How many invocations may be in progress at once. -/
  slots : Nat
  slots_pos : 0 < slots
  timeout : Option Duration
  /-- Whether the fan-out and the collector exist. -/
  launched : Bool
  /-- The subscribers that the fan-out has not come to yet. -/
  queued : List Subscriber
  /-- Those that passed the check for cancellation and wait for a thread. -/
  submitted : List Subscriber
  /-- Those whose handlers are running. -/
  running : List Subscriber
  /-- Those whose outcomes have not been sent yet. -/
  ended : List (Subscriber × Outcome)
  /-- The outcomes on their way to the collector. -/
  channel : List (Subscriber × Outcome)
  /-- The subscribers that the collector has not counted yet. -/
  pending : List Subscriber
  /-- The handlers that no longer count for anything, since the flight was abandoned. -/
  stranded : List Subscriber
  collector : Collector
  tally : DispatchResult
  cancelled : Bool
  /-- Whether somebody holds the token. -/
  watched : Bool
  verdict : Verdict
  deriving DecidableEq, Repr

/-- One small step of a flight. -/
inductive Move where
  /-- The fan-out and the collector come into being. -/
  | launch
  /-- The fan-out takes the next subscriber: it is skipped if the flight is cancelled. -/
  | submit
  /-- The handler of a submitted subscriber begins to run. -/
  | start (id : Nat)
  /-- A running handler ends. -/
  | finish (id : Nat) (cause : Option Cause)
  /-- The fan-out sends an outcome, or reports a failure that comes too late. -/
  | send (id : Nat)
  /-- The collector takes an outcome from the channel. -/
  | receive
  /-- The deadline passes. -/
  | expire
  /-- The collector takes an outcome that was in the channel when the deadline passed. -/
  | drain
  /-- The collector finds the channel empty and counts everybody missing as timed out. -/
  | timeOut
  /-- The collector leaves. -/
  | depart
  /-- The result goes to the holder of the token, if there is one. -/
  | conclude
  /-- A failure of a result that nobody waits for is reported. -/
  | report
  /-- The holder of the token cancels the flight. -/
  | cancel
  /-- The holder of the token takes the result. -/
  | join
  /-- The token is dropped. -/
  | drop
  /-- All that serves the flight ends at once. -/
  | abandon
  deriving DecidableEq, Repr

/-- What the world notices of a move. -/
inductive Notice where
  /-- A handler is called with the event of the flight. -/
  | called (subscriber : Subscriber)
  /-- The result is complete. -/
  | concluded (result : DispatchResult)
  /-- A failure goes to the failure sink. -/
  | unobserved (failure : Failure)
  /-- The result is handed to the holder of the token. -/
  | answered (result : DispatchResult)
  /-- The holder of the token learns that there will be no result. -/
  | aborted
  deriving DecidableEq, Repr

namespace Flight

/-- A flight over a snapshot, before anything of it runs. -/
def new (event : Event) (subscribers : List Subscriber) (concurrency : Nat)
    (timeout : Option Duration) : Flight where
  event
  slots := max 1 concurrency
  slots_pos := Nat.le_max_left 1 concurrency
  timeout
  launched := false
  queued := subscribers
  submitted := []
  running := []
  ended := []
  channel := []
  pending := []
  stranded := []
  collector := .collecting
  tally := .empty event.type
  cancelled := false
  watched := true
  verdict := .undecided

/-- A flight that found nobody to call and has its result from the beginning. -/
def grounded (event : Event) : Flight :=
  { new event [] 1 none with
    launched := true, collector := .departed, verdict := .delivered (.empty event.type) }

/-- How many invocations are in progress: their outcomes are not sent yet. -/
def busy (flight : Flight) : Nat :=
  flight.submitted.length + flight.running.length + flight.ended.length

/-- The fan-out has sent every outcome. -/
def fanOutEnded (flight : Flight) : Bool :=
  flight.launched && flight.queued.isEmpty && flight.submitted.isEmpty && flight.running.isEmpty
    && flight.ended.isEmpty

/-- How many tracked tasks the flight keeps going: its conductor and its fan-out. -/
def tasks (flight : Flight) : Nat :=
  -- The conductor works until the result is handed over or its last failure is reported.
  let conductor := match flight.verdict with
    | .undecided | .reporting _ => 1
    | _ => 0
  conductor + if flight.launched && !flight.fanOutEnded then 1 else 0

/-- How many references to a handler the flight holds. -/
def holds (flight : Flight) (handler : Handler) : Nat :=
  let count := List.countP fun subscriber : Subscriber => subscriber.handler == handler
  -- The collector holds those that it waits for, and the fan-out those that it has not come to.
  -- An invocation in progress is held by the fan-out and by the thread that runs it.
  count flight.queued + count flight.pending + 2 * count flight.submitted
    + 2 * count flight.running + count flight.stranded

/-- The subscriber with an id, and the list without it. -/
def pick? (id : Nat) (subscribers : List Subscriber) : Option (Subscriber × List Subscriber) :=
  -- Ids are unique in a snapshot, so the first match is the one.
  (subscribers.find? (·.id == id)).map fun found => (found, subscribers.eraseP (·.id == id))

/-- The collector counts an outcome. -/
def count (flight : Flight) (subscriber : Subscriber) (outcome : Outcome)
    (rest : List (Subscriber × Outcome)) : Flight :=
  { flight with
    channel := rest
    pending := flight.pending.eraseP (·.id == subscriber.id)
    tally := flight.tally.record outcome }

/-- The failure that an outcome carries. -/
def lateFailure : Outcome → List Notice
  | .done (some failure) => [.unobserved failure]
  | _ => []

/-- The flight after an outcome was sent: nobody takes it once the collector has left. -/
def deliver (flight : Flight) (subscriber : Subscriber) (outcome : Outcome) :
    Flight × List Notice :=
  match flight.collector with
  -- A success that comes too late leaves no trace.
  | .departed => (flight, lateFailure outcome)
  | _ => ({ flight with channel := flight.channel ++ [(subscriber, outcome)] }, [])

/-- What is left to do once these failures are still to be reported. -/
def reportingVerdict : List Failure → Verdict
  | [] => .spent
  | left => .reporting left

/-- The flight when nothing serves it any more: what was running keeps hold of its handlers. -/
def abandoned (flight : Flight) : Flight :=
  { flight with
    launched := true, queued := [], submitted := [], running := [], ended := [], channel := [],
    pending := [], stranded := flight.stranded ++ flight.running, collector := .departed,
    verdict := match flight.verdict with
      | .undecided | .reporting _ => .lost
      | other => other }

/-- The flight after a move and what is noticed of it, or nothing where the move is impossible. -/
def step? (flight : Flight) : Move → Option (Flight × List Notice)
  | .launch =>
    -- From now on the collector waits for everybody.
    if !flight.launched && flight.verdict == .undecided then
      some ({ flight with launched := true, pending := flight.queued }, [])
    else none
  | .submit =>
    -- A slot is taken until the outcome is sent, also by an invocation that is skipped.
    if flight.launched && flight.busy < flight.slots then
      match flight.queued with
      | [] => none
      | next :: rest =>
        -- This is the only place where cancellation is looked at.
        if flight.cancelled then
          some ({ flight with queued := rest, ended := flight.ended ++ [(next, .skipped)] }, [])
        else some ({ flight with queued := rest, submitted := flight.submitted ++ [next] }, [])
    else none
  | .start id =>
    -- Threads may begin with any of those that were submitted, cancelled or not.
    (pick? id flight.submitted).map fun (subscriber, rest) =>
      ({ flight with submitted := rest, running := flight.running ++ [subscriber] },
        [.called subscriber])
  | .finish id cause =>
    -- How the handler ended is known to the fan-out alone until it is sent.
    (pick? id flight.running).map fun (subscriber, rest) =>
      ({ flight with
          running := rest, ended := flight.ended ++ [(subscriber, subscriber.outcome cause)] }, [])
  | .send id =>
    (flight.ended.find? (·.1.id == id)).map fun (subscriber, outcome) =>
      deliver { flight with ended := flight.ended.eraseP (·.1.id == id) } subscriber outcome
  | .receive =>
    -- Before the deadline outcomes are counted as they arrive.
    match flight.collector, flight.channel with
    | .collecting, (subscriber, outcome) :: rest => some (flight.count subscriber outcome rest, [])
    | _, _ => none
  | .expire =>
    -- Only a flight with a deadline can pass it, and only while somebody is missing.
    if flight.launched && flight.collector == .collecting && flight.timeout.isSome then
      some ({ flight with collector := .draining }, [])
    else none
  | .drain =>
    -- What was sent in time is still counted after the deadline.
    match flight.collector, flight.channel with
    | .draining, (subscriber, outcome) :: rest => some (flight.count subscriber outcome rest, [])
    | _, _ => none
  | .timeOut =>
    match flight.collector, flight.channel, flight.timeout with
    | .draining, [], some after =>
      -- Whoever is still missing counts as invoked, even if it has not been called.
      let missing := flight.pending.map fun subscriber =>
        Outcome.done (some (subscriber.failure (.timedOut after)))
      some ({ flight with
          collector := .departing, pending := [],
          tally := missing.foldl DispatchResult.record flight.tally }, [])
    | _, _, _ => none
  | .depart =>
    -- Without a deadline the collector leaves when the fan-out has sent its last outcome.
    let complete := match flight.collector with
      | .collecting => flight.channel.isEmpty && flight.fanOutEnded
      | .departing => true
      | _ => false
    -- What was sent between the last look into the channel and this step goes with the channel.
    if complete then
      some ({ flight with collector := .departed, channel := [], tally := flight.tally.sorted }, [])
    else none
  | .conclude =>
    -- The result goes to the token if it is still there; otherwise its failures are reported.
    if flight.collector == .departed && flight.verdict == .undecided then
      let verdict := if flight.watched then .delivered flight.tally
        else reportingVerdict flight.tally.failures
      some ({ flight with verdict }, [.concluded flight.tally])
    else none
  | .report =>
    match flight.verdict with
    | .reporting (failure :: left) =>
      some ({ flight with verdict := reportingVerdict left }, [.unobserved failure])
    | _ => none
  | .cancel => if flight.watched then some ({ flight with cancelled := true }, []) else none
  | .join =>
    -- The result is taken once, and the token goes with it.
    if flight.watched then
      match flight.verdict with
      | .delivered result =>
        some ({ flight with watched := false, verdict := .spent }, [.answered result])
      | .lost => some ({ flight with watched := false }, [.aborted])
      | _ => none
    else none
  | .drop =>
    -- A result that was delivered and not taken goes with the token.
    if flight.watched then
      let verdict := match flight.verdict with
        | .delivered _ => .spent
        | other => other
      some ({ flight with watched := false, verdict }, [])
    else none
  | .abandon => some (flight.abandoned, [])

/-- The flight after a list of moves and all that was noticed, if each of them was possible. -/
def replay? (flight : Flight) : List Move → Option (Flight × List Notice)
  | [] => some (flight, [])
  -- The notices are kept in the order of the moves.
  | move :: rest => do
    let (next, notices) ← flight.step? move
    let (last, later) ← replay? next rest
    return (last, notices ++ later)

/-- The first of some moves that is possible. -/
def firstPossible? (flight : Flight) : List Move → Option Move
  | [] => none
  | move :: rest => if (flight.step? move).isSome then some move else firstPossible? flight rest

/--
The next move of a flight that is served without delay; `due` says whether its deadline has passed.
The ends of handlers and the wishes of the token's holder are not chosen here.
-/
def next? (flight : Flight) (due : Bool) : Option Move :=
  -- The collector comes first, so that everything sent is counted before a deadline can pass.
  let sends := flight.ended.map fun (subscriber, _) => Move.send subscriber.id
  let starts := flight.submitted.map fun subscriber => Move.start subscriber.id
  flight.firstPossible? <|
    [.launch, .receive] ++ (if due then [.expire] else []) ++ sends
      ++ [.drain, .timeOut, .depart, .submit] ++ starts ++ [.conclude, .report]

end Flight

end EventBus
