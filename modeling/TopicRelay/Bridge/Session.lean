import TopicRelay.Bridge.Step

/-!
# Sessions

A session plays a script against a bridge, one instruction after the other, under one
schedule of the steps of the bridge.  The calls of an instruction are begun in order, and
each runs until it has to wait; then every relay that has got something to do runs until it
has to wait, in the order in which the relays got something to do; and so on.  While some
call has no answer yet and nothing can move, the clock goes on to the next moment that
something waits for.

`Session.perform` carries out an instruction and gives its answer together with what could
be seen meanwhile and the state afterwards.
-/

namespace TopicRelay

set_option autoImplicit false

/-! ## Instructions and answers -/

/-- How a client identifies itself. -/
inductive Identification where
  | chosen (name secret : String)
  /-- With a key that was presented to the topic side, and perhaps another name. -/
  | presented (index : Nat) (name : Option String)
  deriving DecidableEq, Repr

/-- One thing to do or to ask. -/
inductive Instruction where
  | start
  | stop
  | subscribe (topic : String) (client : Identification)
  | attach (topic : String)
  | notify (topic : String)
  | authorize (client : Identification) (action : Action)
  | topics (scope : Option String)
  | describe (scope : Option String)
  | settings
  | servicePrincipal
  | route (id : String)
  | change (change : Change)
  | advance (milliseconds : Nat)
  | closeSource
  | closeSink
  | awaitPayloads (topic : String) (count timeout : Nat)
  | payloads (topic : String)
  | subscriptions
  | connectCount (queue : String)
  | clientId
  | connectedTopics
  | sinkPrincipal
  | keyCount
  | hasHooks

/-- The topics of a bridge, and where its broker can be reached. -/
structure Description where
  endpoints : List (Table String)
  protocols : Names
  topics : Names
  deriving DecidableEq, Repr

/-- A route and whether it is started. -/
structure RouteView where
  route : Route
  started : Bool
  deriving DecidableEq, Repr

/-- What an instruction is answered with. -/
inductive Reply where
  | nothing
  | start (result : Except StartFailure Unit)
  | attach (result : Except SubscribeFailure Unit)
  | noHooks
  | unknownKey
  | transport (result : Except TransportFailure Unit)
  | flag (value : Bool)
  | count (value : Nat)
  | name (value : Option String)
  | names (values : List String)
  | settings (value : Settings)
  | description (value : Description)
  | route (value : Option RouteView)
  | notRunning
  | subscriptions (values : List Subscription)

namespace State

/-! ## Questions -/

/-- The credential that a client presents. -/
def credential? (state : State) : Identification → Option Credential
  | .chosen name secret => some ⟨name, .chosen secret⟩
  | .presented index name =>
    (state.downstream.presented[index]?).map fun key =>
      { key.credential with principal := name.getD key.principal }

/-- The topics that subscribers may ask for. -/
def advertisedTopics (state : State) (scope : Option String) : Names :=
  match state.runningRun? with
  | some run => run.table.topics scope
  | none => []

/-- The document that clients are given. -/
def description (state : State) (scope : Option String) : Description where
  endpoints := state.broker.endpoints
  protocols := state.broker.protocols
  topics := state.advertisedTopics scope

end State

/-- A route of a run, by the name of its queue. -/
def Run.view? (run : Run) (id : String) : Option RouteView := do
  let place ← run.table.routes.findIdx? fun route => route.id == id
  let route ← run.table.routes[place]?
  return ⟨route, run.isStarted place⟩

/-! ## Errands -/

/-- An instruction that is being carried out. -/
inductive Errand where
  | pending (instruction : Instruction)
  | calling (job : JobId)
  | sleeping (due : Nat)
  | polling (topic : String) (count deadline due : Nat)
  | done (reply : Reply)

/-- The answer of a job that is done. -/
def Job.reply? : Job → Option Reply
  | .start (.done result) => some (.start result)
  | .stop .done => some .nothing
  | .attach _ (.done result) => some (.attach result)
  | _ => none

namespace Errand

/-- The answer, if there is one. -/
def reply? : Errand → Option Reply
  | .done reply => some reply
  | _ => none

/-- A call begins. -/
def call (state : State) (request : Request) : Errand × State × List Effect :=
  (.calling state.jobs.length, state.arrive request, [])

/-- A question is answered at once. -/
def answer (state : State) (reply : Reply) : Errand × State × List Effect :=
  (.done reply, state, [])

/-- How often payloads are looked for, in milliseconds. -/
def pollInterval : Nat := 5

/-- Looks whether enough payloads are there or it is too late. -/
def poll (state : State) (topic : String) (count deadline : Nat) : Errand :=
  let payloads := state.downstream.payloads topic
  if count ≤ payloads.length ∨ deadline ≤ state.clock then .done (.names payloads)
  else .polling topic count deadline (state.clock + pollInterval)

/-- The time of day one millisecond later. -/
def nextMillisecond (now : Instant) : Instant :=
  let nanos := now.nanos + 1000000
  if nanos < 1000000000 then ⟨now.seconds, nanos⟩ else ⟨now.seconds + 1, nanos - 1000000000⟩

/-- A client asks for an action. -/
def authorize (state : State) (client : Identification) (action : Action) :
    Errand × State × List Effect :=
  match state.credential? client with
  | none => answer state .unknownKey
  | some credential =>
    let (allowed, events) :=
      state.broker.authorize state.directory state.now credential action
    (.done (.flag allowed), state, events.map .report)

/-- An instruction begins. -/
def begin (state : State) : Instruction → Errand × State × List Effect
  -- No two starts issue their keys in the same millisecond.
  | .start => call { state with now := nextMillisecond state.now } .start
  | .stop => call state .stop
  | .subscribe topic client =>
    match state.credential? client with
    | some credential => call state (.subscribe topic credential)
    | none => answer state .unknownKey
  | .attach topic => call state (.attach topic)
  | .notify topic =>
    match state.broker.hooks with
    | some hooks => call state (.notify hooks.run topic)
    | none => answer state .noHooks
  | .authorize client action => authorize state client action
  | .topics scope => answer state (.names (state.advertisedTopics scope))
  | .describe scope => answer state (.description (state.description scope))
  | .settings => answer state (.settings state.settings)
  | .servicePrincipal => answer state (.name (state.runningRun?.map (·.principal)))
  | .route id =>
    match state.runningRun? with
    | some run => answer state (.route (run.view? id))
    | none => answer state .notRunning
  | .change change => (.done .nothing, state.change change, [])
  | .advance milliseconds => (.sleeping (state.clock + milliseconds), state, [])
  | .closeSource =>
    let (outcome, upstream) := state.upstream.disconnect
    (.done (.transport outcome), { state with upstream := upstream },
      [.call .sourceClose (succeeded outcome)])
  | .closeSink =>
    let (outcome, downstream) := state.downstream.disconnect
    (.done (.transport outcome), { state with downstream := downstream },
      [.call .sinkClose (succeeded outcome)])
  | .awaitPayloads topic count timeout =>
    (poll state topic count (state.clock + timeout), state, [])
  | .payloads topic => answer state (.names (state.downstream.payloads topic))
  | .subscriptions => answer state (.subscriptions state.upstream.subscriptions)
  | .connectCount queue => answer state (.count (state.upstream.connectCount queue))
  | .clientId => answer state (.name state.upstream.clientId)
  | .connectedTopics => answer state (.names state.downstream.connectedTopics)
  | .sinkPrincipal => answer state (.name (state.downstream.credential.map (·.principal)))
  | .keyCount => answer state (.count state.directory.keys.length)
  | .hasHooks => answer state (.flag state.broker.hooks.isSome)

/-- One turn of an errand; `none` while it has to wait. -/
def turn (state : State) : Errand → Option (Errand × State × List Effect)
  | .pending instruction => some (begin state instruction)
  | .calling job =>
    match (state.jobs[job]?).bind Job.reply? with
    | some reply => some (.done reply, state, [])
    | none =>
      match state.jobTurn job with
      | some (state, effects) => some (.calling job, state, effects)
      | none => none
  | .sleeping due => if due ≤ state.clock then some (.done .nothing, state, []) else none
  | .polling topic count deadline due =>
    if due ≤ state.clock then some (poll state topic count deadline, state, []) else none
  | .done _ => none

/-- Whether an errand can make a turn. -/
def canMove (state : State) (errand : Errand) : Bool := (errand.turn state).isSome

/-- The moment an errand waits for, if it waits for one. -/
def due? (state : State) : Errand → Option Nat
  | .calling job =>
    match state.jobs[job]? with
    | some (.attach _ (.activating _ (.connecting _ _ due))) => some due
    | _ => none
  | .sleeping due | .polling _ _ _ due => some due
  | _ => none

end Errand

/-! ## Relays -/

namespace State

/-- Whether a relay can make a turn. -/
def relayCanMove (state : State) (relay : RelayId) : Bool := (state.relayTurn relay true).isSome

/-- Turns of a relay until it has to wait. -/
def runRelay : Nat → State → RelayId → State × List Effect
  | 0, state, _ => (state, [])
  | fuel + 1, state, relay =>
    match state.relayTurn relay true with
    | none => (state, [])
    | some (state, effects) =>
      let (state, more) := runRelay fuel state relay
      (state, effects ++ more)

/-- Lets some relays run until they have to wait, one after the other. -/
def runRelays (fuel : Nat) (state : State) : List RelayId → State × List Effect
  | [] => (state, [])
  | relay :: relays =>
    let (state, effects) := state.runRelay fuel relay
    let (state, more) := state.runRelays fuel relays
    (state, effects ++ more)

/-- The moment a relay waits for, if it waits for one. -/
def relayDue? (relay : Relay) : Option Nat :=
  match relay.phase with
  | .backingOff due => some due
  | _ => none

/-- The earliest moment after now that something waits for. -/
def nextDue? (state : State) (errands : List Errand) : Option Nat :=
  let dues := errands.filterMap (Errand.due? state) ++ state.relays.filterMap relayDue?
  (dues.filter fun due => state.clock < due).min?

end State

/-- Forgets every run that nobody has hold of. -/
def State.forgetRuns (state : State) : State :=
  (List.range state.runs.length).foldl
    (fun state run => if state.holds run then state else state.tellRelays run) state

/-- All relays, in the order in which their turns come. -/
structure Lineup where
  /-- Those that wait, in the order in which they began to. -/
  waiting : List RelayId := []
  /-- Those that have been set up or have got something to do since, in the order in which
  that came about. -/
  ready : List RelayId := []

namespace Lineup

/-- Makes those relays ready that can make a turn, and those that have just been set up. -/
def wake (lineup : Lineup) (state : State) : Lineup where
  waiting := lineup.waiting.filter fun relay => !state.relayCanMove relay
  ready := lineup.ready ++ lineup.waiting.filter state.relayCanMove ++
    (List.range state.relays.length).drop (lineup.waiting.length + lineup.ready.length)

/-- The relays that were ready have run and wait again. -/
def settle (lineup : Lineup) : Lineup where
  waiting := lineup.waiting ++ lineup.ready

end Lineup

/-! ## Sessions -/

/-- A bridge that a script is played against. -/
structure Session where
  state : State
  lineup : Lineup := {}
  /-- The run that the bridge was last seen in. -/
  latest : Option RunId := none

/-- What can be seen of a bridge from outside. -/
structure Snapshot where
  running : Bool
  broker : Bool
  source : Bool
  sink : Bool
  /-- The routes of the run that the bridge was last seen in. -/
  routes : Option (List (String × Bool))
  producers : List String
  deriving DecidableEq, Repr

/-- The answers to the instructions of a step, what could be seen meanwhile, and the state
afterwards. -/
structure Outcome where
  replies : List Reply
  effects : List Effect
  snapshot : Snapshot

namespace Session

/-- A session with a bridge that has not been started. -/
def create (settings : Settings) (catalog : Catalog) (directory : Directory) (broker : Broker)
    (now : Instant) : Session where
  state := {
    settings := settings, catalog := catalog, directory := directory, broker := broker, now := now }

/-- The session after its state has changed.  Runs are forgotten as soon as they can be. -/
def reach (session : Session) (state : State) : Session :=
  let kept := state.forgetRuns
  { session with state := kept, lineup := session.lineup.wake kept }

/-- Turns of an errand until it has to wait. -/
def runErrand : Nat → Session → Errand → Errand × Session × List Effect
  | 0, session, errand => (errand, session, [])
  | fuel + 1, session, errand =>
    match errand.turn session.state with
    | none => (errand, session, [])
    | some (errand, state, effects) =>
      let (errand, session, more) := runErrand fuel (session.reach state) errand
      (errand, session, effects ++ more)

/-- Lets each errand run until it has to wait, in order. -/
def runErrands (fuel : Nat) (session : Session) : List Errand →
    List Errand × Session × List Effect
  | [] => ([], session, [])
  | errand :: errands =>
    let (errand, session, effects) := session.runErrand fuel errand
    let (errands, session, more) := session.runErrands fuel errands
    (errand :: errands, session, effects ++ more)

/-- Lets each relay that is ready run until it has to wait, in order. -/
def runRelays (fuel : Nat) (session : Session) : Session × List Effect :=
  let (state, effects) := session.state.runRelays fuel session.lineup.ready
  ({ session with state := state, lineup := session.lineup.settle }, effects)

/-- The clock goes on to the next moment that something waits for. -/
def letTimePass (session : Session) (errands : List Errand) : Session :=
  match session.state.nextDue? errands with
  | some due => session.reach { session.state with clock := due }
  | none => session

/-- Rounds of errands and relays until everything has its answer and nothing can move.  Time
passes only where no relay was ready and no errand can move: an errand late in the order may
have given up a guard that an earlier one was waiting for. -/
def rounds (turns : Nat) : Nat → Session → List Errand → List Errand × Session × List Effect
  | 0, session, errands => (errands, session, [])
  | fuel + 1, session, errands =>
    let (errands, session, effects) := session.runErrands turns errands
    let resting := session.lineup.ready.isEmpty &&
      errands.all fun errand => !errand.canMove session.state
    let (session, more) := session.runRelays turns
    if resting && errands.all fun errand => errand.reply?.isSome then
      (errands, session, effects ++ more)
    else
      let session := if resting then session.letTimePass errands else session
      let (errands, session, rest) := rounds turns fuel session errands
      (errands, session, effects ++ more ++ rest)

/-- How many times an instruction may wait for time to pass. -/
def patience : Instruction → Nat
  | .awaitPayloads _ _ timeout => timeout / Errand.pollInterval + 2
  | _ => 1

/-- The number of queues that the catalog may list. -/
def catalogSize (state : State) : Nat :=
  match state.catalog.source with
  | .scripted names _ => names.length
  | .directory => state.directory.document.queues.length

/-- The sum of some numbers. -/
def total (numbers : List Nat) : Nat := numbers.foldl Nat.add 0

/-- More turns than the errands and the relays can make before everything waits.  Every
delivery costs a relay a few turns, and so does every route a call passes. -/
def turnBound (state : State) (calls : Nat) : Nat :=
  let deliveries := total (state.upstream.mailboxes.map fun box => box.waiting.length)
  let routes := total (state.runs.map fun run => run.table.routes.length) + catalogSize state
  32 * (deliveries + state.relays.length + (calls + 2) * (routes + 2))

/-- What can be seen from outside. -/
def snapshot (session : Session) : Snapshot where
  running := session.state.running.isSome
  broker := session.state.broker.isStarted
  source := session.state.upstream.isOpen
  sink := session.state.downstream.isOpen
  routes := (session.latest.bind session.state.run?).map fun run =>
    (run.table.routes.zip run.slots).map fun (route, slot) => (route.id, slot.started)
  producers := session.state.downstream.producers

/-- Carries out the instructions of one step, all of them begun together. -/
def perform (session : Session) (instructions : List Instruction) : Session × Outcome :=
  let turns := turnBound session.state instructions.length
  let fuel := turns + total (instructions.map patience)
  let (errands, session, effects) := rounds turns fuel session (instructions.map .pending)
  let running := session.state.running
  let session := if running.isSome then { session with latest := running } else session
  (session, ⟨errands.filterMap Errand.reply?, effects, session.snapshot⟩)

end Session

end TopicRelay
