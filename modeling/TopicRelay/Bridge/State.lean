import TopicRelay.Queue.Discovery
import TopicRelay.Route.RouteTable
import TopicRelay.Settings
import TopicRelay.Transport.Broker
import TopicRelay.Transport.Downstream
import TopicRelay.Transport.Upstream

/-!
# The state of a bridge

Everything that is going on at one moment, as plain data: the collaborators of the bridge,
its runs, its relays, and the calls that are under way.

A call is a `Job`.  It advances in turns, and between two turns every other job and every
relay may advance, so a phase says what a job does in its next turn or what it waits for:
the turn at a `Guard`, the end of a delay, or the end of a relay.  Guards are granted in
the order in which they were asked for.
-/

namespace TopicRelay

set_option autoImplicit false

/-- A call is known by the order in which the calls arrived. -/
abbrev JobId : Type := Nat

/-- A relay is known by the order in which the relays were set up. -/
abbrev RelayId : Type := Nat

/-- The position of a route in its table. -/
abbrev Place : Type := Nat

/-! ## Guards -/

/-- What only one job at a time may hold, and the jobs that wait for it in turn. -/
structure Guard where
  holder : Option JobId := none
  waiting : List JobId := []
  deriving DecidableEq, Repr

namespace Guard

/-- Asks for the guard: it is granted at once if nobody holds it. -/
def request (guard : Guard) (job : JobId) : Guard :=
  if guard.holder.isNone then { guard with holder := some job }
  else { guard with waiting := guard.waiting ++ [job] }

/-- Gives the guard up; the job that has waited longest gets it. -/
def release (guard : Guard) : Guard :=
  match guard.waiting with
  | [] => { guard with holder := none }
  | next :: others => ⟨some next, others⟩

/-- Whether a job holds the guard. -/
def heldBy (guard : Guard) (job : JobId) : Bool := guard.holder == some job

end Guard

/-! ## Runs -/

/-- Where one route of a run stands. -/
structure RouteSlot where
  guard : Guard := {}
  /-- The relay of the route; whoever changes it holds the guard. -/
  relay : Option RelayId := none
  started : Bool := false
  deriving DecidableEq, Repr

/-- What a start sets up and a stop shuts down. -/
structure Run where
  principal : String
  table : RouteTable
  /-- Whether routes may still be started. -/
  accepting : Bool := true
  /-- One slot for each route of the table. -/
  slots : List RouteSlot
  deriving DecidableEq, Repr

namespace Run

/-- A run whose routes are all stopped. -/
def fresh (principal : String) (table : RouteTable) : Run where
  principal := principal
  table := table
  slots := table.routes.map fun _ => {}

/-- Whether the route at a place is started. -/
def isStarted (run : Run) (place : Place) : Bool :=
  (run.slots[place]?.map (·.started)).getD false

end Run

/-! ## Relays -/

/-- What a relay does next. -/
inductive RelayPhase where
  /-- Waits for a delivery or for the signal to stop. -/
  | listening
  /-- Sends a payload to the topics that have not had it yet. -/
  | forwarding (messageId payload : String) (topics : List String)
  /-- Waits for a moment, or for the signal to stop. -/
  | backingOff (due : Nat)
  | closingConsumer
  | closingProducers (topics : List String)
  | ended
  deriving DecidableEq, Repr

/-- The way of a route's messages from its mailbox to its topics. -/
structure Relay where
  run : RunId
  place : Place
  route : String
  mailbox : MailboxId
  topics : List String
  /-- Whether the relay has been told to stop. -/
  told : Bool := false
  /-- How long the next failure to receive is waited out, in milliseconds. -/
  backoff : Nat
  phase : RelayPhase := .listening
  deriving DecidableEq, Repr

/-! ## Jobs -/

/-- What the activation of a topic does next; `ahead` are the routes after the present one. -/
inductive ActivationPhase where
  | resolving
  | approaching (ahead : List Place)
  /-- Waits for the guard of a route, or has just been given it. -/
  | queued (place : Place) (ahead : List Place)
  /-- Holds the guard and waits for the connection to the queue. -/
  | connecting (place : Place) (ahead : List Place) (due : Nat)
  /-- Holds the guard and opens a producer for each topic. -/
  | producing (place : Place) (ahead : List Place) (mailbox : MailboxId)
      (opened wanted : List String)
  /-- Holds the guard and closes what it opened. -/
  | undoing (place : Place) (mailbox : MailboxId) (opened : List String)
      (failure : TransportFailure)
  deriving DecidableEq, Repr

/-- What the attachment of a subscriber does next. -/
inductive AttachPhase where
  | presenting (credential : Credential)
  | entering
  | activating (run : RunId) (phase : ActivationPhase)
  | done (result : Except SubscribeFailure Unit)

/-- What a start does next. -/
inductive StartPhase where
  | arriving
  /-- Waits for the guard of the bridge, or has just been given it. -/
  | queued
  | resolving
  | registering (principal : String)
  | openingSource (principal : String) (key : ServiceCredential)
  | openingSink (principal : String) (key : ServiceCredential)
  | closingSource (failure : TransportFailure)
  | discovering (principal : String)
  | installing (run : RunId)
  | startingBroker (run : RunId)
  | releasingSink (failure : StartFailure)
  | releasingSource (failure : StartFailure)
  | done (result : Except StartFailure Unit)

/-- The run that a start is setting up. -/
def StartPhase.run? : StartPhase → Option RunId
  | .installing run | .startingBroker run => some run
  | _ => none

/-- What a stop does next; `ahead` are the routes that are still to be stopped. -/
inductive StopPhase where
  | arriving
  /-- Waits for the guard of the bridge, or has just been given it. -/
  | queued
  | stoppingBroker (run : RunId)
  | approaching (run : RunId) (ahead : List Place)
  /-- Waits for the guard of a route, or has just been given it. -/
  | claiming (run : RunId) (place : Place) (ahead : List Place)
  /-- Waits for a relay to end. -/
  | joining (run : RunId) (place : Place) (relay : RelayId) (ahead : List Place)
  | closingSink
  | closingSource
  | done
  deriving DecidableEq, Repr

/-- The run whose routes a stop is stopping. -/
def StopPhase.run? : StopPhase → Option RunId
  | .stoppingBroker run | .approaching run _ | .claiming run _ _ | .joining run _ _ _ => some run
  | _ => none

/-- A call that is under way. -/
inductive Job where
  | start (phase : StartPhase)
  | stop (phase : StopPhase)
  | attach (topic : String) (phase : AttachPhase)

/-- Whether a call has its answer. -/
def Job.isDone : Job → Bool
  | .start (.done _) | .stop .done | .attach _ (.done _) => true
  | _ => false

/-- Whether a call has hold of a run: it sets the run up, starts routes of it or stops them. -/
def Job.holds (run : RunId) : Job → Bool
  | .start phase => phase.run? == some run
  | .stop phase => phase.run? == some run
  | .attach _ (.activating other _) => other == run
  | .attach _ _ => false

/-! ## Collaborators -/

/-- Who lists the queues and names the service principal. -/
inductive CatalogSource where
  /-- The same answer to every question. -/
  | scripted (names : List String) (principal : Option String)
  /-- The directory. -/
  | directory
  deriving DecidableEq, Repr

/-- The queue catalog. -/
structure Catalog where
  source : CatalogSource
  /-- Whether listing queues fails. -/
  failList : Bool := false
  deriving DecidableEq, Repr

/-! ## States -/

/-- Everything that is going on at one moment. -/
structure State where
  settings : Settings
  catalog : Catalog
  directory : Directory
  upstream : Upstream := {}
  downstream : Downstream := {}
  broker : Broker := {}
  runs : List Run := []
  /-- The run that the bridge is in, if it is running. -/
  running : Option RunId := none
  /-- The guard of the bridge, which a start holds throughout. -/
  guard : Guard := {}
  relays : List Relay := []
  jobs : List Job := []
  /-- Milliseconds since the bridge was set up. -/
  clock : Nat := 0
  /-- The time of day, by which keys are issued and expire. -/
  now : Instant
  /-- The number of secrets that were issued. -/
  issued : Nat := 0

namespace State

/-- The run of a number. -/
def run? (state : State) (run : RunId) : Option Run := state.runs[run]?

/-- The slot of a route of a run. -/
def slot? (state : State) (run : RunId) (place : Place) : Option RouteSlot :=
  (state.run? run).bind fun found => found.slots[place]?

/-- The route at a place of a run. -/
def route? (state : State) (run : RunId) (place : Place) : Option Route :=
  (state.run? run).bind fun found => found.table.routes[place]?

/-- Changes one run. -/
def modifyRun (state : State) (run : RunId) (change : Run → Run) : State :=
  { state with runs := state.runs.modify run change }

/-- Changes the slot of a route. -/
def modifySlot (state : State) (run : RunId) (place : Place) (change : RouteSlot → RouteSlot) :
    State :=
  state.modifyRun run fun found => { found with slots := found.slots.modify place change }

/-- Changes one relay. -/
def modifyRelay (state : State) (relay : RelayId) (change : Relay → Relay) : State :=
  { state with relays := state.relays.modify relay change }

/-- The run that the bridge is in. -/
def runningRun? (state : State) : Option Run := state.running.bind state.run?

/-- The scheme by which queues get their topics. -/
def scheme (state : State) : TopicScheme := ⟨state.settings.appPrefix, state.settings.queueOwner⟩

/-- What the consumer of a route connects as. -/
def subscription (state : State) (route : Route) : Subscription where
  queue := route.id
  durableName := durableName state.settings.applicationTitle route.id
  clientId := clientId state.settings.clientHost

/-- What the catalog answers to the question for the service principal. -/
def currentPrincipal (state : State) : Except CatalogFailure String :=
  match state.catalog.source with
  | .scripted _ (some principal) => .ok principal
  | .scripted _ none => .error ⟨"session user unknown", []⟩
  | .directory => state.directory.currentPrincipal

/-- What the catalog answers to the question for queues. -/
def listQueues (state : State) : Except CatalogFailure (List String) :=
  if state.catalog.failList then .error ⟨"ORA-12541: no listener", []⟩
  else
    match state.catalog.source with
    | .scripted names _ => .ok names
    | .directory =>
      state.directory.listQueues state.settings.queueOwner state.settings.queueKind

end State

/-! ## What a turn shows -/

/-- A call to a collaborator that is written down. -/
inductive Call where
  | currentPrincipal
  | listQueues (owner kind : String)
  | sourceOpen
  | sourceClose
  | sinkOpen
  | sinkClose
  | installHooks
  | brokerStart
  | brokerStop
  deriving DecidableEq, Repr

/-- The words under which a call is written down. -/
def Call.words : Call → String
  | .currentPrincipal => "catalog.current_principal"
  | .listQueues owner kind => "catalog.list_queues " ++ owner ++ " " ++ kind
  | .sourceOpen => "source.open"
  | .sourceClose => "source.close"
  | .sinkOpen => "sink.open"
  | .sinkClose => "sink.close"
  | .installHooks => "broker.install_hooks"
  | .brokerStart => "broker.start"
  | .brokerStop => "broker.stop"

/-- What a turn lets others see. -/
inductive Effect where
  | report (event : Event)
  /-- A collaborator was called, with or without success. -/
  | call (call : Call) (succeeded : Bool)
  | consumerRequested (queue : String)
  | consumerOpened (mailbox : MailboxId)
  | consumerClosed (mailbox : MailboxId)
  | producerRequested (topic : String)
  | producerOpened (topic : String)
  | producerClosed (topic : String)
  | relaySpawned (relay : RelayId)
  | received (relay : RelayId) (delivery : Delivery)
  | sent (relay : RelayId) (topic payload : String)
  | notSent (relay : RelayId) (topic payload : String)

/-- What an answer says about success. -/
def succeeded {ε α : Type} : Except ε α → Bool
  | .ok _ => true
  | .error _ => false

end TopicRelay
