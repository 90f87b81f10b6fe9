import TopicRelay.Bridge.StopTurn

/-!
# The steps of a bridge

`State.step` makes one move: the turn of a job or of a relay, a new call, something that
others do to the collaborators, or the passing of time.  Any job and any relay that does
not have to wait may move, so the sequences of moves are all the ways in which calls can
interleave, and `State.steps` follows one of them.

A run lasts as long as somebody has hold of it (`State.holds`).  After that it can be
forgotten, and nobody is left who could stop its relays: they take that for the signal.
-/

namespace TopicRelay

set_option autoImplicit false

/-! ## What others do -/

/-- The injected failures that are switched on and off. -/
inductive Fault where
  | sourceOpen
  | sourceClose
  | sinkOpen
  | sinkClose
  | brokerStart
  | brokerStop
  | catalog
  | identityStore
  deriving DecidableEq, Repr

/-- What others do to the collaborators of a bridge. -/
inductive Change where
  | deliver (queue : String) (delivery : Delivery)
  /-- A queue refuses its next consumers, as many as given. -/
  | refuseConsumers (queue : String) (count : Nat)
  | delayConsumers (milliseconds : Nat)
  /-- A topic refuses producers for good. -/
  | failTopic (topic : String)
  | blockTopic (topic : String) (on : Bool)
  | rejectPayloads (topic : String) (on : Bool)
  | switch (fault : Fault) (on : Bool)
  | setNames (names : List String)
  | setPrincipal (principal : Option String)
  /-- The time of day moves on. -/
  | setNow (now : Instant)

namespace State

/-- Switches an injected failure on or off. -/
def switch (state : State) (fault : Fault) (on : Bool) : State :=
  match fault with
  | .sourceOpen => { state with upstream := { state.upstream with failOpen := on } }
  | .sourceClose => { state with upstream := { state.upstream with failClose := on } }
  | .sinkOpen => { state with downstream := { state.downstream with failOpen := on } }
  | .sinkClose => { state with downstream := { state.downstream with failClose := on } }
  | .brokerStart => { state with broker := { state.broker with failStart := on } }
  | .brokerStop => { state with broker := { state.broker with failStop := on } }
  | .catalog => { state with catalog := { state.catalog with failList := on } }
  | .identityStore => { state with directory := { state.directory with unavailable := on } }

/-- Changes what a scripted catalog answers. -/
def rescript (state : State) (names : Option (List String))
    (principal : Option (Option String)) : State :=
  match state.catalog.source with
  | .scripted oldNames oldPrincipal =>
    let source := CatalogSource.scripted (names.getD oldNames) (principal.getD oldPrincipal)
    { state with catalog := { state.catalog with source := source } }
  | .directory => state

/-- The state after others have done something. -/
def change (state : State) : Change → State
  | .deliver queue delivery => { state with upstream := state.upstream.deliver queue delivery }
  | .refuseConsumers queue count =>
    let refusals := state.upstream.refusals.insert queue count
    { state with upstream := { state.upstream with refusals := refusals } }
  | .delayConsumers milliseconds =>
    { state with upstream := { state.upstream with connectDelay := some milliseconds } }
  | .failTopic topic =>
    let topics := Downstream.switchTopic state.downstream.failingTopics topic true
    { state with downstream := { state.downstream with failingTopics := topics } }
  | .blockTopic topic on =>
    let topics := Downstream.switchTopic state.downstream.blockedTopics topic on
    { state with downstream := { state.downstream with blockedTopics := topics } }
  | .rejectPayloads topic on =>
    let topics := Downstream.switchTopic state.downstream.rejectingTopics topic on
    { state with downstream := { state.downstream with rejectingTopics := topics } }
  | .switch fault on => state.switch fault on
  | .setNames names => state.rescript (some names) none
  | .setPrincipal principal => state.rescript none (some principal)
  | .setNow now => { state with now := now }

/-! ## Moves -/

/-- Replaces the phase of a job by what its turn has led to. -/
def setJob (state : State) (job : JobId) (next : Job) : State :=
  { state with jobs := state.jobs.set job next }

/-- The turn of a job; `none` while it has to wait. -/
def jobTurn (state : State) (job : JobId) : Option (State × List Effect) :=
  match state.jobs[job]? with
  | none => none
  | some (.start phase) =>
    (state.startTurn job phase).map fun (phase, state, effects) =>
      (state.setJob job (.start phase), effects)
  | some (.stop phase) =>
    (state.stopTurn job phase).map fun (phase, state, effects) =>
      (state.setJob job (.stop phase), effects)
  | some (.attach topic phase) =>
    (state.attachTurn job topic phase).map fun (phase, state, effects) =>
      (state.setJob job (.attach topic phase), effects)

/-! ## Runs that nobody has hold of -/

/-- Whether somebody has hold of a run: the bridge is in it, the hooks at the broker lead to it,
or a call is busy with it. -/
def holds (state : State) (run : RunId) : Bool :=
  state.running == some run || state.broker.hooks.any (fun hooks => hooks.run == run) ||
    state.jobs.any (Job.holds run)

/-- All relays of a run are told to stop. -/
def tellRelays (state : State) (run : RunId) : State :=
  { state with relays := state.relays.map fun relay =>
      if relay.run = run then { relay with told := true } else relay }

end State

/-! ## Calls -/

/-- What a bridge and its broker are called for. -/
inductive Request where
  | start
  | stop
  /-- A client asks the broker for a topic. -/
  | subscribe (topic : String) (credential : Credential)
  /-- The broker attaches a subscriber without asking who it is. -/
  | attach (topic : String)
  /-- The hook of a run is told about a subscriber, whatever the broker does. -/
  | notify (run : RunId) (topic : String)
  deriving DecidableEq, Repr

/-- The job of a call that has just arrived. -/
def Request.job : Request → Job
  | .start => .start .arriving
  | .stop => .stop .arriving
  | .subscribe topic credential => .attach topic (.presenting credential)
  | .attach topic => .attach topic .entering
  | .notify run topic => .attach topic (.activating run .resolving)

/-- Adds a call. -/
def State.arrive (state : State) (request : Request) : State :=
  { state with jobs := state.jobs ++ [request.job] }

/-- One move of a bridge. -/
inductive Move where
  | job (job : JobId)
  /-- A relay moves; `heed` makes it turn to a signal to stop rather than to a delivery. -/
  | relay (relay : RelayId) (heed : Bool)
  /-- A run that nobody has hold of is forgotten. -/
  | forget (run : RunId)
  | arrive (request : Request)
  | change (change : Change)
  /-- Someone else closes the connection to the queues. -/
  | closeSource
  /-- Someone else closes the connection to the topics. -/
  | closeSink
  /-- Time passes. -/
  | wait (milliseconds : Nat)

namespace State

/-- The state after a move and what it lets others see; `none` if the move has to wait. -/
def step (state : State) : Move → Option (State × List Effect)
  | .job job => state.jobTurn job
  | .relay relay heed => state.relayTurn relay heed
  | .forget run => if state.holds run then none else some (state.tellRelays run, [])
  | .arrive request => some (state.arrive request, [])
  | .change change => some (state.change change, [])
  | .closeSource =>
    let (outcome, upstream) := state.upstream.disconnect
    some ({ state with upstream := upstream }, [.call .sourceClose (succeeded outcome)])
  | .closeSink =>
    let (outcome, downstream) := state.downstream.disconnect
    some ({ state with downstream := downstream }, [.call .sinkClose (succeeded outcome)])
  | .wait milliseconds => some ({ state with clock := state.clock + milliseconds }, [])

/-- The state after several moves and what they let others see. -/
def steps (state : State) : List Move → Option (State × List Effect)
  | [] => some (state, [])
  | move :: moves => do
    let (next, effects) ← state.step move
    let (last, more) ← next.steps moves
    return (last, effects ++ more)

end State

end TopicRelay
