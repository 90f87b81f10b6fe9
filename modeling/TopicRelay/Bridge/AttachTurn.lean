import TopicRelay.Bridge.RelayTurn

/-!
# The turns of an attachment

A subscriber is attached to a topic by starting the routes of that topic that are not
started yet, one after the other in the order of the table.  Each route is started under
its guard: a consumer is connected to the queue, a producer is opened for each topic, and
a relay takes them over.  Where a producer cannot be opened, the producers and the
consumer opened before it are closed again.  The first route that cannot be started ends
the attachment, and routes started before it stay started.
-/

namespace TopicRelay

set_option autoImplicit false

/-- What a turn leads to: a further phase, or the answer. -/
inductive Advance (φ ρ : Type) where
  | next (phase : φ)
  | finish (result : ρ)

namespace State

/-! ## Guards of routes -/

/-- A job asks for the guard of a route. -/
def requestSlot (state : State) (run : RunId) (place : Place) (job : JobId) : State :=
  state.modifySlot run place fun slot => { slot with guard := slot.guard.request job }

/-- The holder gives the guard of a route up. -/
def releaseSlot (state : State) (run : RunId) (place : Place) : State :=
  state.modifySlot run place fun slot => { slot with guard := slot.guard.release }

/-! ## Starting one route -/

/-- What an activation turn yields. -/
abbrev ActivationTurn : Type :=
  Advance ActivationPhase (Except ActivationFailure Unit) × State × List Effect

/-- The route's guard has been given: nothing is left to do if the route has a relay, and
nothing may be done if routes are not started any more. -/
def activationClaims (state : State) (run : RunId) (topic : String) (place : Place)
    (ahead : List Place) (route : Route) (slot : RouteSlot) (accepting : Bool) :
    ActivationTurn :=
  if slot.relay.isSome then
    (.next (.approaching ahead), state.releaseSlot run place,
      [.report (.activationNeedless route.id)])
  else if !accepting then
    (.finish (.error .shuttingDown), state.releaseSlot run place,
      [.report (.activationRefused topic route.id)])
  else
    (.next (.connecting place ahead (state.clock + state.upstream.connectDelay.getD 0)), state,
      [.consumerRequested route.id])

/-- The delay is over: the consumer is connected to the queue. -/
def activationConnects (state : State) (run : RunId) (topic : String) (place : Place)
    (ahead : List Place) (route : Route) : ActivationTurn :=
  match state.upstream.consume (state.subscription route) with
  | (.ok mailbox, upstream) =>
    (.next (.producing place ahead mailbox [] route.topics), { state with upstream := upstream },
      [.consumerOpened mailbox])
  | (.error failure, upstream) =>
    (.finish (.error (.startFailed route.id failure)),
      { state with upstream := upstream }.releaseSlot run place,
      [.report (.activationFailed topic route.id failure)])

/-- A producer is opened for the next topic. -/
def activationProduces (state : State) (place : Place) (ahead : List Place)
    (mailbox : MailboxId) (opened : List String) (topic : String) (wanted : List String) :
    ActivationTurn :=
  match state.downstream.produce topic with
  | .ok downstream =>
    (.next (.producing place ahead mailbox (opened ++ [topic]) wanted),
      { state with downstream := downstream },
      [.producerRequested topic, .producerOpened topic])
  | .error failure =>
    (.next (.undoing place mailbox opened failure), state, [.producerRequested topic])

/-- The relay of a route that has its consumer and its producers. -/
def newRelay (run : RunId) (place : Place) (route : Route) (mailbox : MailboxId) : Relay where
  run := run
  place := place
  route := route.id
  mailbox := mailbox
  topics := route.topics
  backoff := Relay.firstBackoff

/-- All producers are open: a relay takes over. -/
def activationSpawns (state : State) (run : RunId) (topic : String) (place : Place)
    (ahead : List Place) (route : Route) (mailbox : MailboxId) : ActivationTurn :=
  let relay := state.relays.length
  let spawned := { state with relays := state.relays ++ [newRelay run place route mailbox] }
  let started := spawned.modifySlot run place fun slot =>
    { slot with relay := some relay, started := true, guard := slot.guard.release }
  (.next (.approaching ahead), started,
    [.relaySpawned relay, .report (.activationDone topic route.id)])

/-- What was opened is closed again, the producers first. -/
def activationUndoes (state : State) (run : RunId) (topic : String) (place : Place)
    (route : Route) (mailbox : MailboxId) (failure : TransportFailure) :
    List String → ActivationTurn
  | label :: opened =>
    (.next (.undoing place mailbox opened failure),
      { state with downstream := state.downstream.closeProducer label }, [.producerClosed label])
  | [] =>
    (.finish (.error (.startFailed route.id failure)),
      { state with upstream := state.upstream.closeConsumer mailbox }.releaseSlot run place,
      [.consumerClosed mailbox, .report (.activationFailed topic route.id failure)])

/-! ## Starting the routes of a topic -/

/-- Where an activation is, if the place is one of the run. -/
def activationAt (state : State) (run : RunId) (place : Place) :
    Option (Run × Route × RouteSlot) := do
  let found ← state.run? run
  let route ← found.table.routes[place]?
  let slot ← found.slots[place]?
  return (found, route, slot)

/-- The next turn of an activation; `none` while it has to wait. -/
def activationTurn (state : State) (job : JobId) (run : RunId) (topic : String) :
    ActivationPhase → Option ActivationTurn
  | .resolving =>
    match (state.run? run).map fun found => found.table.positions topic with
    | none | some [] =>
      some (.finish (.error (.routeNotFound topic)), state, [.report (.topicUnknown topic)])
    | some (place :: ahead) => some (.next (.approaching (place :: ahead)), state, [])
  | .approaching [] => some (.finish (.ok ()), state, [])
  | .approaching (place :: ahead) => do
    let (_, route, _) ← state.activationAt run place
    return (.next (.queued place ahead), state.requestSlot run place job,
      [.report (.activationStarted topic route.id)])
  | .queued place ahead => do
    let (found, route, slot) ← state.activationAt run place
    if slot.guard.heldBy job then
      return state.activationClaims run topic place ahead route slot found.accepting
    else none
  | .connecting place ahead due => do
    let (_, route, _) ← state.activationAt run place
    if due ≤ state.clock then return state.activationConnects run topic place ahead route
    else none
  | .producing place ahead mailbox opened (label :: wanted) =>
    some (state.activationProduces place ahead mailbox opened label wanted)
  | .producing place ahead mailbox _ [] => do
    let (_, route, _) ← state.activationAt run place
    return state.activationSpawns run topic place ahead route mailbox
  | .undoing place mailbox opened failure => do
    let (_, route, _) ← state.activationAt run place
    return state.activationUndoes run topic place route mailbox failure opened

/-! ## Attaching a subscriber -/

/-- What an attachment does once its activation has made a turn. -/
def attachAfter (run : RunId) :
    Advance ActivationPhase (Except ActivationFailure Unit) → AttachPhase
  | .next phase => .activating run phase
  | .finish (.ok _) => .done (.ok ())
  | .finish (.error failure) => .done (.error (.activation failure))

/-- The next turn of an attachment; `none` while it has to wait. -/
def attachTurn (state : State) (job : JobId) (topic : String) :
    AttachPhase → Option (AttachPhase × State × List Effect)
  | .presenting credential =>
    if !state.broker.isStarted then some (.done (.error .notStarted), state, [])
    else
      match state.broker.authorize state.directory state.now credential .consume with
      | (true, events) => some (.entering, state, events.map .report)
      | (false, events) => some (.done (.error .unauthorized), state, events.map .report)
  | .entering =>
    match state.broker.isStarted, state.broker.hooks with
    | true, some hooks => some (.activating hooks.run .resolving, state, [])
    | _, _ => some (.done (.error .notStarted), state, [])
  | .activating run phase =>
    match state.activationTurn job run topic phase with
    | none => none
    | some (advance, state, effects) => some (attachAfter run advance, state, effects)
  | .done _ => none

end State

end TopicRelay
