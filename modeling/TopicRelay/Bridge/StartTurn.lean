import TopicRelay.Bridge.RelayTurn

/-!
# The turns of a start

A start holds the guard of the bridge throughout.  It resolves the service principal,
issues and registers a key, opens the two connections, discovers the queues, sets up a
run, and installs hooks before it starts the broker, so that no subscriber gets in before
every route can be found.  A start that fails closes the connections it has opened, but
stops no routes: relays that its run may have by then go on until nobody has hold of the run.
-/

namespace TopicRelay

set_option autoImplicit false

namespace State

/-- Gives the guard of the bridge up. -/
def releaseGuard (state : State) : State := { state with guard := state.guard.release }

/-- What a turn of a start yields. -/
abbrev StartTurn : Type := StartPhase × State × List Effect

/-- The start has failed and everything it opened is closed. -/
def startFails (state : State) (failure : StartFailure) (effects : List Effect) : StartTurn :=
  (.done (.error failure), state.releaseGuard, effects ++ [.report (.startFailed failure)])

/-- The report of a part that did not shut down cleanly. -/
def stepReport {ε : Type} [Reported ε] (step : StopStep) : Except ε Unit → List Effect
  | .ok _ => []
  | .error failure => [.report (.stopStepFailed step (Reported.describe failure))]

/-- Closes the connection to the topics and reports it if that fails. -/
def closeSink (state : State) : State × List Effect :=
  let (outcome, downstream) := state.downstream.disconnect
  ({ state with downstream := downstream },
    .call .sinkClose (succeeded outcome) :: stepReport .sink outcome)

/-- Closes the connection to the queues and reports it if that fails. -/
def closeSource (state : State) : State × List Effect :=
  let (outcome, upstream) := state.upstream.disconnect
  ({ state with upstream := upstream },
    .call .sourceClose (succeeded outcome) :: stepReport .source outcome)

/-- The guard has been given: nothing is done if the bridge is running. -/
def startEnters (state : State) : StartTurn :=
  if state.running.isSome then (.done (.error .alreadyStarted), state.releaseGuard, [])
  else
    (.resolving, state,
      [.report (.starting state.settings.queueOwner state.settings.queueKind)])

/-- The catalog is asked for the service principal. -/
def startResolves (state : State) : StartTurn :=
  let answer := state.currentPrincipal
  let call := Effect.call .currentPrincipal (succeeded answer)
  match answer with
  | .ok principal =>
    (.registering principal, state, [call, .report (.principalResolved principal)])
  | .error failure => state.startFails (.servicePrincipal failure) [call]

/-- A key is issued and registered. -/
def startRegisters (state : State) (principal : String) : StartTurn :=
  let key := ServiceCredential.issue principal state.settings.appPrefix
    state.settings.keyValidityMonths.toNat state.now state.issued
  let issued := { state with issued := state.issued + 1 }
  match state.directory.register key with
  | .ok directory =>
    (.openingSource principal key, { issued with directory := directory },
      [.report (.keyIssued principal key.keyName)])
  | .error failure => issued.startFails (.serviceCredential failure) []

/-- The connection to the queues is opened. -/
def startOpensSource (state : State) (principal : String) (key : ServiceCredential) : StartTurn :=
  match state.upstream.connect (clientId state.settings.clientHost) with
  | .ok upstream =>
    (.openingSink principal key, { state with upstream := upstream }, [.call .sourceOpen true])
  | .error failure => state.startFails (.sourceConnect failure) [.call .sourceOpen false]

/-- The connection to the topics is opened. -/
def startOpensSink (state : State) (principal : String) (key : ServiceCredential) : StartTurn :=
  match state.downstream.connect key with
  | (.ok _, downstream) =>
    (.discovering principal, { state with downstream := downstream }, [.call .sinkOpen true])
  | (.error failure, downstream) =>
    (.closingSource failure, { state with downstream := downstream }, [.call .sinkOpen false])

/-- The queues are discovered and a run is set up for them. -/
def startDiscovers (state : State) (principal : String) : StartTurn :=
  let owner := state.settings.queueOwner
  let kind := state.settings.queueKind
  let answer := state.listQueues
  let call := Effect.call (.listQueues owner kind) (succeeded answer)
  match Discovery.run state.scheme owner kind answer with
  | (.error failure, events) =>
    (.releasingSink (.discovery failure), state, call :: events.map .report)
  | (.ok queues, events) =>
    let (table, more) := RouteTable.build state.scheme queues
    (.installing state.runs.length,
      { state with runs := state.runs ++ [Run.fresh principal table] },
      call :: (events ++ more).map .report)

/-- The gate of a run. -/
def gateOf (state : State) (run : RunId) : Gate where
  servicePrincipal := ((state.run? run).map (·.principal)).getD ""
  consumeRole := state.settings.consumeRole

/-- The hooks of a run are installed in place of those that are there. -/
def startInstalls (state : State) (run : RunId) : StartTurn :=
  (.startingBroker run,
    { state with broker := state.broker.install ⟨state.gateOf run, run⟩ },
    [.call .installHooks true])

/-- The broker is started.  If that succeeds the bridge is running; otherwise the run does
not start routes any more. -/
def startStartsBroker (state : State) (run : RunId) : StartTurn :=
  match state.broker.start with
  | .ok broker =>
    let found := (state.run? run).getD (Run.fresh "" {})
    (.done (.ok ()),
      { state with broker := broker, running := some run }.releaseGuard,
      [.call .brokerStart true,
        .report (.started found.table.routes.length found.principal)])
  | .error failure =>
    (.releasingSink (.broker failure),
      state.modifyRun run fun found => { found with accepting := false },
      [.call .brokerStart false])

/-- The next turn of a start; `none` while it has to wait. -/
def startTurn (state : State) (job : JobId) : StartPhase → Option StartTurn
  | .arriving => some (.queued, { state with guard := state.guard.request job }, [])
  | .queued => if state.guard.heldBy job then some state.startEnters else none
  | .resolving => some state.startResolves
  | .registering principal => some (state.startRegisters principal)
  | .openingSource principal key => some (state.startOpensSource principal key)
  | .openingSink principal key => some (state.startOpensSink principal key)
  | .closingSource failure =>
    let (closed, effects) := state.closeSource
    some (closed.startFails (.sinkConnect failure) effects)
  | .discovering principal => some (state.startDiscovers principal)
  | .installing run => some (state.startInstalls run)
  | .startingBroker run => some (state.startStartsBroker run)
  | .releasingSink failure =>
    let (closed, effects) := state.closeSink
    some (.releasingSource failure, closed, effects)
  | .releasingSource failure =>
    let (closed, effects) := state.closeSource
    some (closed.startFails failure effects)
  | .done _ => none

end State

end TopicRelay
