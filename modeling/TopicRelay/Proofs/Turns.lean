import TopicRelay.Proofs.Observation

/-!
# What a turn does

The turns of activations, attachments, stops, starts and relays, each as one relation with
a named case for every thing that a turn may do: what it needs, the phase it leads to, the
state it leaves and what it lets others see.  The theorems whose names end in `cases` say
that there are no other turns, and `step_cases` puts them together for a move, so that a
later proof that goes through the cases of a move never looks into the functions that
make it.
-/

namespace TopicRelay

set_option autoImplicit false

/-! ## Activations -/

/-- The state once a route has been given a relay, and its guard up. -/
def State.spawn (state : State) (run : RunId) (place : Place) (route : Route)
    (mailbox : MailboxId) : State :=
  { state with relays := state.relays ++ [State.newRelay run place route mailbox] }.modifySlot run
    place fun slot =>
      { slot with
        relay := some state.relays.length, started := true, guard := slot.guard.release }

/-- One turn of an activation. -/
inductive Activates (state : State) (job : JobId) (run : RunId) (topic : String) :
    ActivationPhase → Advance ActivationPhase (Except ActivationFailure Unit) → State →
      List Effect → Prop where
  | unknown (nowhere : ∀ table, state.table? run = some table → table.positions topic = []) :
      Activates state job run topic .resolving (.finish (.error (.routeNotFound topic))) state
        [.report (.topicUnknown topic)]
  | resolved {table : RouteTable} {place : Place} {ahead : List Place}
      (found : state.table? run = some table) (positions : table.positions topic = place :: ahead) :
      Activates state job run topic .resolving (.next (.approaching (place :: ahead))) state []
  | completed :
      Activates state job run topic (.approaching []) (.finish (.ok ())) state []
  | asked {place : Place} {ahead : List Place} {route : Route} {slot : RouteSlot}
      (here : state.route? run place = some route) (found : state.slot? run place = some slot) :
      Activates state job run topic (.approaching (place :: ahead)) (.next (.queued place ahead))
        (state.requestSlot run place job) [.report (.activationStarted topic route.id)]
  | needless {place : Place} {ahead : List Place} {route : Route} {slot : RouteSlot}
      {relay : RelayId} (here : state.route? run place = some route)
      (found : state.slot? run place = some slot) (held : slot.guard.holder = some job)
      (occupied : slot.relay = some relay) :
      Activates state job run topic (.queued place ahead) (.next (.approaching ahead))
        (state.releaseSlot run place) [.report (.activationNeedless route.id)]
  | refused {place : Place} {ahead : List Place} {route : Route} {slot : RouteSlot}
      (here : state.route? run place = some route) (found : state.slot? run place = some slot)
      (held : slot.guard.holder = some job) (empty : slot.relay = none)
      (closed : state.accepting? run = some false) :
      Activates state job run topic (.queued place ahead) (.finish (.error .shuttingDown))
        (state.releaseSlot run place) [.report (.activationRefused topic route.id)]
  | claimed {place : Place} {ahead : List Place} {route : Route} {slot : RouteSlot}
      (here : state.route? run place = some route) (found : state.slot? run place = some slot)
      (held : slot.guard.holder = some job) (empty : slot.relay = none)
      (accepts : state.accepting? run = some true) :
      Activates state job run topic (.queued place ahead)
        (.next (.connecting place ahead (state.clock + state.upstream.connectDelay.getD 0))) state
        [.consumerRequested route.id]
  | connected {place : Place} {ahead : List Place} {due : Nat} {route : Route}
      {mailbox : MailboxId} {upstream : Upstream} (here : state.route? run place = some route)
      (consumed : state.upstream.consume (state.subscription route) = (.ok mailbox, upstream)) :
      Activates state job run topic (.connecting place ahead due)
        (.next (.producing place ahead mailbox [] route.topics)) { state with upstream := upstream }
        [.consumerOpened mailbox]
  | unconnected {place : Place} {ahead : List Place} {due : Nat} {route : Route}
      {failure : TransportFailure} {upstream : Upstream}
      (here : state.route? run place = some route)
      (refused : state.upstream.consume (state.subscription route) = (.error failure, upstream)) :
      Activates state job run topic (.connecting place ahead due)
        (.finish (.error (.startFailed route.id failure)))
        ({ state with upstream := upstream }.releaseSlot run place)
        [.report (.activationFailed topic route.id failure)]
  | produced {place : Place} {ahead : List Place} {mailbox : MailboxId}
      {opened wanted : List String} {label : String} {downstream : Downstream}
      (produced : state.downstream.produce label = .ok downstream) :
      Activates state job run topic (.producing place ahead mailbox opened (label :: wanted))
        (.next (.producing place ahead mailbox (opened ++ [label]) wanted))
        { state with downstream := downstream } [.producerRequested label, .producerOpened label]
  | unproduced {place : Place} {ahead : List Place} {mailbox : MailboxId}
      {opened wanted : List String} {label : String} {failure : TransportFailure}
      (refused : state.downstream.produce label = .error failure) :
      Activates state job run topic (.producing place ahead mailbox opened (label :: wanted))
        (.next (.undoing place mailbox opened failure)) state [.producerRequested label]
  | spawned {place : Place} {ahead : List Place} {mailbox : MailboxId} {opened : List String}
      {route : Route} (here : state.route? run place = some route) :
      Activates state job run topic (.producing place ahead mailbox opened [])
        (.next (.approaching ahead))
        (state.spawn run place route mailbox)
        [.relaySpawned state.relays.length, .report (.activationDone topic route.id)]
  | producerUndone {place : Place} {mailbox : MailboxId} {opened : List String}
      {failure : TransportFailure} {label : String} :
      Activates state job run topic (.undoing place mailbox (label :: opened) failure)
        (.next (.undoing place mailbox opened failure))
        { state with downstream := state.downstream.closeProducer label } [.producerClosed label]
  | consumerUndone {place : Place} {mailbox : MailboxId} {failure : TransportFailure}
      {route : Route} (here : state.route? run place = some route) :
      Activates state job run topic (.undoing place mailbox [] failure)
        (.finish (.error (.startFailed route.id failure)))
        ({ state with upstream := state.upstream.closeConsumer mailbox }.releaseSlot run place)
        [.consumerClosed mailbox, .report (.activationFailed topic route.id failure)]

theorem activationAt_eq_some {state : State} {run : RunId} {place : Place} {found : Run}
    {route : Route} {slot : RouteSlot}
    (present : state.activationAt run place = some (found, route, slot)) :
    state.route? run place = some route ∧ state.slot? run place = some slot ∧
      state.accepting? run = some found.accepting := by
  simp only [State.activationAt, Option.bind_eq_bind, Option.bind_eq_some_iff, Option.pure_def,
    Option.some.injEq, Prod.mk.injEq] at present
  obtain ⟨there, inRun, _, atRoute, _, atSlot, rfl, rfl, rfl⟩ := present
  simp [State.route?, State.slot?, State.accepting?, inRun, atRoute, atSlot]

/-- **An activation has no other turns.** -/
theorem activationTurn_cases {state next : State} {job : JobId} {run : RunId} {topic : String}
    {phase : ActivationPhase} {advance : Advance ActivationPhase (Except ActivationFailure Unit)}
    {effects : List Effect}
    (turned : state.activationTurn job run topic phase = some (advance, next, effects)) :
    Activates state job run topic phase advance next effects := by
  cases phase with
  | resolving =>
      have look : (state.run? run).map (fun found => found.table.positions topic) =
          (state.table? run).map (·.positions topic) := by
        simp [State.table?, Option.map_map, Function.comp_def]
      simp only [State.activationTurn, look] at turned
      cases found : state.table? run with
      | none =>
          simp only [found, Option.map_none, Option.some.injEq, Prod.mk.injEq] at turned
          obtain ⟨rfl, rfl, rfl⟩ := turned
          exact .unknown fun table present => by simp [found] at present
      | some table =>
          cases positions : table.positions topic with
          | nil =>
              simp only [found, Option.map_some, positions, Option.some.injEq,
                Prod.mk.injEq] at turned
              obtain ⟨rfl, rfl, rfl⟩ := turned
              exact .unknown fun other present => by simp_all
          | cons place ahead =>
              simp only [found, Option.map_some, positions, Option.some.injEq,
                Prod.mk.injEq] at turned
              obtain ⟨rfl, rfl, rfl⟩ := turned
              exact .resolved found positions
  | approaching places =>
      cases places with
      | nil =>
          simp only [State.activationTurn, Option.some.injEq, Prod.mk.injEq] at turned
          obtain ⟨rfl, rfl, rfl⟩ := turned
          exact .completed
      | cons place ahead =>
          simp only [State.activationTurn, Option.bind_eq_bind, Option.bind_eq_some_iff,
            Option.pure_def, Option.some.injEq, Prod.mk.injEq] at turned
          obtain ⟨⟨found, route, slot⟩, present, rfl, rfl, rfl⟩ := turned
          obtain ⟨here, atSlot, _⟩ := activationAt_eq_some present
          exact .asked here atSlot
  | queued place ahead =>
      simp only [State.activationTurn, Option.bind_eq_bind, Option.bind_eq_some_iff,
        Option.pure_def, Option.ite_none_right_eq_some, Option.some.injEq] at turned
      obtain ⟨⟨found, route, slot⟩, present, held, claimed⟩ := turned
      obtain ⟨here, atSlot, accepting⟩ := activationAt_eq_some present
      rw [Guard.heldBy_iff] at held
      unfold State.activationClaims at claimed
      cases occupied : slot.relay with
      | some relay =>
          simp only [occupied, Option.isSome_some, if_true, Prod.mk.injEq] at claimed
          obtain ⟨rfl, rfl, rfl⟩ := claimed
          exact .needless here atSlot held occupied
      | none =>
          cases accepts : found.accepting with
          | false =>
              simp only [occupied, accepts, Option.isSome_none, Bool.not_false, Bool.false_eq_true,
                if_false, if_true, Prod.mk.injEq] at claimed
              obtain ⟨rfl, rfl, rfl⟩ := claimed
              exact .refused here atSlot held occupied (accepts ▸ accepting)
          | true =>
              simp only [occupied, accepts, Option.isSome_none, Bool.not_true, Bool.false_eq_true,
                if_false, Prod.mk.injEq] at claimed
              obtain ⟨rfl, rfl, rfl⟩ := claimed
              exact .claimed here atSlot held occupied (accepts ▸ accepting)
  | connecting place ahead due =>
      simp only [State.activationTurn, Option.bind_eq_bind, Option.bind_eq_some_iff,
        Option.pure_def, Option.ite_none_right_eq_some, Option.some.injEq] at turned
      obtain ⟨⟨found, route, slot⟩, present, _, connects⟩ := turned
      obtain ⟨here, _, _⟩ := activationAt_eq_some present
      unfold State.activationConnects at connects
      split at connects
      · rename_i mailbox upstream consumed
        obtain ⟨rfl, rfl, rfl⟩ := by simpa only [Prod.mk.injEq] using connects
        exact .connected here consumed
      · rename_i failure upstream refused
        obtain ⟨rfl, rfl, rfl⟩ := by simpa only [Prod.mk.injEq] using connects
        exact .unconnected here refused
  | producing place ahead mailbox opened wanted =>
      cases wanted with
      | nil =>
          simp only [State.activationTurn, Option.bind_eq_bind, Option.bind_eq_some_iff,
            Option.pure_def, Option.some.injEq] at turned
          obtain ⟨⟨found, route, slot⟩, present, spawns⟩ := turned
          obtain ⟨here, _, _⟩ := activationAt_eq_some present
          obtain ⟨rfl, rfl, rfl⟩ := by
            simpa only [State.activationSpawns, Prod.mk.injEq] using spawns
          exact .spawned here
      | cons label wanted =>
          simp only [State.activationTurn, State.activationProduces, Option.some.injEq] at turned
          split at turned
          · rename_i downstream produced
            obtain ⟨rfl, rfl, rfl⟩ := by simpa only [Prod.mk.injEq] using turned
            exact .produced produced
          · rename_i failure refused
            obtain ⟨rfl, rfl, rfl⟩ := by simpa only [Prod.mk.injEq] using turned
            exact .unproduced refused
  | undoing place mailbox opened failure =>
      simp only [State.activationTurn, Option.bind_eq_bind, Option.bind_eq_some_iff,
        Option.pure_def, Option.some.injEq] at turned
      obtain ⟨⟨found, route, slot⟩, present, undoes⟩ := turned
      obtain ⟨here, _, _⟩ := activationAt_eq_some present
      cases opened with
      | nil =>
          obtain ⟨rfl, rfl, rfl⟩ := by
            simpa only [State.activationUndoes, Prod.mk.injEq] using undoes
          exact .consumerUndone here
      | cons label opened =>
          obtain ⟨rfl, rfl, rfl⟩ := by
            simpa only [State.activationUndoes, Prod.mk.injEq] using undoes
          exact .producerUndone

/-! ## Attachments -/

/-- One turn of an attachment. -/
inductive Attaches (state : State) (job : JobId) (topic : String) :
    AttachPhase → AttachPhase → State → List Effect → Prop where
  | tooEarly {credential : Credential} :
      Attaches state job topic (.presenting credential) (.done (.error .notStarted)) state []
  | unauthorized {credential : Credential} {events : List Event} :
      Attaches state job topic (.presenting credential) (.done (.error .unauthorized)) state
        (events.map .report)
  | admitted {credential : Credential} {events : List Event} :
      Attaches state job topic (.presenting credential) .entering state (events.map .report)
  | entered {hooks : Hooks} (started : state.broker.isStarted = true)
      (installed : state.broker.hooks = some hooks) :
      Attaches state job topic .entering (.activating hooks.run .resolving) state []
  | shutOut : Attaches state job topic .entering (.done (.error .notStarted)) state []
  | activated {run : RunId} {phase : ActivationPhase}
      {advance : Advance ActivationPhase (Except ActivationFailure Unit)} {next : State}
      {effects : List Effect} (turn : Activates state job run topic phase advance next effects) :
      Attaches state job topic (.activating run phase) (State.attachAfter run advance) next effects

/-- **An attachment has no other turns.** -/
theorem attachTurn_cases {state next : State} {job : JobId} {topic : String}
    {phase after : AttachPhase} {effects : List Effect}
    (turned : state.attachTurn job topic phase = some (after, next, effects)) :
    Attaches state job topic phase after next effects := by
  cases phase with
  | presenting credential =>
      simp only [State.attachTurn] at turned
      split at turned
      · obtain ⟨rfl, rfl, rfl⟩ := by simpa only [Option.some.injEq, Prod.mk.injEq] using turned
        exact .tooEarly
      · split at turned
        · obtain ⟨rfl, rfl, rfl⟩ := by simpa only [Option.some.injEq, Prod.mk.injEq] using turned
          exact .admitted
        · obtain ⟨rfl, rfl, rfl⟩ := by simpa only [Option.some.injEq, Prod.mk.injEq] using turned
          exact .unauthorized
  | entering =>
      simp only [State.attachTurn] at turned
      split at turned
      · rename_i hooks started installed
        obtain ⟨rfl, rfl, rfl⟩ := by simpa only [Option.some.injEq, Prod.mk.injEq] using turned
        exact .entered started installed
      · obtain ⟨rfl, rfl, rfl⟩ := by simpa only [Option.some.injEq, Prod.mk.injEq] using turned
        exact .shutOut
  | activating run phase =>
      simp only [State.attachTurn] at turned
      split at turned
      · cases turned
      · rename_i advance between shown activated
        obtain ⟨rfl, rfl, rfl⟩ := by simpa only [Option.some.injEq, Prod.mk.injEq] using turned
        exact .activated (activationTurn_cases activated)
  | done result => cases turned

/-! ## Stops -/

/-- The state once a relay has been taken out of its route and told to stop. -/
def State.withdraw (state : State) (run : RunId) (place : Place) (relay : RelayId) : State :=
  (state.modifySlot run place fun slot =>
      { slot with relay := none, guard := slot.guard.release }).modifyRelay relay
    fun found => { found with told := true }

/-- One turn of a stop. -/
inductive Stops (state : State) (job : JobId) :
    StopPhase → StopPhase → State → List Effect → Prop where
  | asked : Stops state job .arriving .queued { state with guard := state.guard.request job } []
  | idle (held : state.guard.holder = some job) (resting : state.running = none) :
      Stops state job .queued .done state.releaseGuard [.report .notRunning]
  | entered {run : RunId} (held : state.guard.holder = some job)
      (running : state.running = some run) :
      Stops state job .queued (.stoppingBroker run)
        ({ state with running := none }.releaseGuard.refuse run) [.report .stopping]
  | brokerStopped {run : RunId} :
      Stops state job (.stoppingBroker run) (.approaching run (state.places run))
        { state with broker := state.broker.stop.2 }
        (.call .brokerStop (succeeded state.broker.stop.1) ::
          State.stepReport .broker state.broker.stop.1)
  | routesDone {run : RunId} : Stops state job (.approaching run []) .closingSink state []
  | routeAsked {run : RunId} {place : Place} {ahead : List Place} :
      Stops state job (.approaching run (place :: ahead)) (.claiming run place ahead)
        (state.requestSlot run place job) []
  | routeIdle {run : RunId} {place : Place} {ahead : List Place} {slot : RouteSlot}
      (found : state.slot? run place = some slot) (held : slot.guard.holder = some job)
      (empty : slot.relay = none) :
      Stops state job (.claiming run place ahead) (.approaching run ahead)
        (state.releaseSlot run place) []
  | routeClaimed {run : RunId} {place : Place} {ahead : List Place} {slot : RouteSlot}
      {relay : RelayId} (found : state.slot? run place = some slot)
      (held : slot.guard.holder = some job) (occupied : slot.relay = some relay) :
      Stops state job (.claiming run place ahead) (.joining run place relay ahead)
        (state.withdraw run place relay) []
  | routeStopped {run : RunId} {place : Place} {relay : RelayId} {ahead : List Place}
      (ended : state.hasEnded relay = true) :
      Stops state job (.joining run place relay ahead) (.approaching run ahead)
        (state.modifySlot run place fun slot => { slot with started := false })
        [.report (.routeStopped (((state.route? run place).map (·.id)).getD ""))]
  | sinkClosed :
      Stops state job .closingSink .closingSource state.closeSink.1 state.closeSink.2
  | sourceClosed :
      Stops state job .closingSource .done state.closeSource.1
        (state.closeSource.2 ++ [.report .stopped])

/-- **A stop has no other turns.** -/
theorem stopTurn_cases {state next : State} {job : JobId} {phase after : StopPhase}
    {effects : List Effect} (turned : state.stopTurn job phase = some (after, next, effects)) :
    Stops state job phase after next effects := by
  cases phase with
  | arriving =>
      obtain ⟨rfl, rfl, rfl⟩ := by
        simpa only [State.stopTurn, Option.some.injEq, Prod.mk.injEq] using turned
      exact .asked
  | queued =>
      simp only [State.stopTurn, Option.ite_none_right_eq_some, Option.some.injEq,
        Guard.heldBy_iff] at turned
      obtain ⟨held, enters⟩ := turned
      unfold State.stopEnters at enters
      split at enters
      · rename_i resting
        obtain ⟨rfl, rfl, rfl⟩ := by simpa only [Prod.mk.injEq] using enters
        exact .idle held resting
      · rename_i run running
        obtain ⟨rfl, rfl, rfl⟩ := by simpa only [Prod.mk.injEq] using enters
        exact .entered held running
  | stoppingBroker run =>
      obtain ⟨rfl, rfl, rfl⟩ := by
        simpa only [State.stopTurn, State.stopStopsBroker, Option.some.injEq,
          Prod.mk.injEq] using turned
      exact .brokerStopped
  | approaching run places =>
      cases places with
      | nil =>
          obtain ⟨rfl, rfl, rfl⟩ := by
            simpa only [State.stopTurn, Option.some.injEq, Prod.mk.injEq] using turned
          exact .routesDone
      | cons place ahead =>
          obtain ⟨rfl, rfl, rfl⟩ := by
            simpa only [State.stopTurn, Option.some.injEq, Prod.mk.injEq] using turned
          exact .routeAsked
  | claiming run place ahead =>
      simp only [State.stopTurn, Option.bind_eq_bind, Option.bind_eq_some_iff, Option.pure_def,
        Option.ite_none_right_eq_some, Option.some.injEq, Guard.heldBy_iff] at turned
      obtain ⟨slot, found, held, claims⟩ := turned
      unfold State.stopClaims at claims
      split at claims
      · rename_i empty
        obtain ⟨rfl, rfl, rfl⟩ := by simpa only [Prod.mk.injEq] using claims
        exact .routeIdle found held empty
      · rename_i relay occupied
        obtain ⟨rfl, rfl, rfl⟩ := by simpa only [Prod.mk.injEq] using claims
        exact .routeClaimed found held occupied
  | joining run place relay ahead =>
      simp only [State.stopTurn, Option.ite_none_right_eq_some, Option.some.injEq] at turned
      obtain ⟨ended, joins⟩ := turned
      obtain ⟨rfl, rfl, rfl⟩ := by simpa only [State.stopJoins, Prod.mk.injEq] using joins
      exact .routeStopped ended
  | closingSink =>
      obtain ⟨rfl, rfl, rfl⟩ := by
        simpa only [State.stopTurn, Option.some.injEq, Prod.mk.injEq] using turned
      exact .sinkClosed
  | closingSource =>
      obtain ⟨rfl, rfl, rfl⟩ := by
        simpa only [State.stopTurn, Option.some.injEq, Prod.mk.injEq] using turned
      exact .sourceClosed
  | done => cases turned

/-! ## Starts -/

/-- The key that a start issues in its turn. -/
def State.freshKey (state : State) (principal : String) : ServiceCredential :=
  .issue principal state.settings.appPrefix state.settings.keyValidityMonths.toNat state.now
    state.issued

/-- One turn of a start. -/
inductive Starts (state : State) (job : JobId) :
    StartPhase → StartPhase → State → List Effect → Prop where
  | asked : Starts state job .arriving .queued { state with guard := state.guard.request job } []
  | needless (held : state.guard.holder = some job) (running : state.running.isSome) :
      Starts state job .queued (.done (.error .alreadyStarted)) state.releaseGuard []
  | entered (held : state.guard.holder = some job) (resting : state.running = none) :
      Starts state job .queued .resolving state
        [.report (.starting state.settings.queueOwner state.settings.queueKind)]
  | resolved {principal : String} (answered : state.currentPrincipal = .ok principal) :
      Starts state job .resolving (.registering principal) state
        [.call .currentPrincipal true, .report (.principalResolved principal)]
  | unresolved {failure : CatalogFailure} :
      Starts state job .resolving (.done (.error (.servicePrincipal failure))) state.releaseGuard
        [.call .currentPrincipal false, .report (.startFailed (.servicePrincipal failure))]
  | registered {principal : String} {directory : Directory}
      (accepted : state.directory.register (state.freshKey principal) = .ok directory) :
      Starts state job (.registering principal)
        (.openingSource principal (state.freshKey principal))
        { state with issued := state.issued + 1, directory := directory }
        [.report (.keyIssued principal (state.freshKey principal).keyName)]
  | unregistered {principal : String} {failure : IdentityFailure} :
      Starts state job (.registering principal) (.done (.error (.serviceCredential failure)))
        { state with issued := state.issued + 1 }.releaseGuard
        [.report (.startFailed (.serviceCredential failure))]
  | sourceOpened {principal : String} {key : ServiceCredential} {upstream : Upstream}
      (connected : state.upstream.connect (clientId state.settings.clientHost) = .ok upstream) :
      Starts state job (.openingSource principal key) (.openingSink principal key)
        { state with upstream := upstream } [.call .sourceOpen true]
  | sourceUnopened {principal : String} {key : ServiceCredential} {failure : TransportFailure} :
      Starts state job (.openingSource principal key) (.done (.error (.sourceConnect failure)))
        state.releaseGuard
        [.call .sourceOpen false, .report (.startFailed (.sourceConnect failure))]
  | sinkOpened {principal : String} {key : ServiceCredential} {downstream : Downstream}
      (connected : state.downstream.connect key = (.ok (), downstream)) :
      Starts state job (.openingSink principal key) (.discovering principal)
        { state with downstream := downstream } [.call .sinkOpen true]
  | sinkUnopened {principal : String} {key : ServiceCredential} {failure : TransportFailure}
      {downstream : Downstream}
      (refused : state.downstream.connect key = (.error failure, downstream)) :
      Starts state job (.openingSink principal key) (.closingSource failure)
        { state with downstream := downstream } [.call .sinkOpen false]
  | sourceGivenUp {failure : TransportFailure} :
      Starts state job (.closingSource failure) (.done (.error (.sinkConnect failure)))
        state.closeSource.1.releaseGuard
        (state.closeSource.2 ++ [.report (.startFailed (.sinkConnect failure))])
  | discovered {principal : String} {names : List String} {reports : List Event}
      (listed : state.listQueues = .ok names) :
      Starts state job (.discovering principal) (.installing state.runs.length)
        (state.addRun (Run.fresh principal
          (RouteTable.build state.scheme (Discovery.gather state.scheme [] names).1).1))
        (.call (.listQueues state.settings.queueOwner state.settings.queueKind) true ::
          reports.map .report)
  | undiscovered {principal : String} {failure : DiscoveryFailure} {outcome : Bool}
      {reports : List Event} :
      Starts state job (.discovering principal) (.releasingSink (.discovery failure)) state
        (.call (.listQueues state.settings.queueOwner state.settings.queueKind) outcome ::
          reports.map .report)
  | installed {run : RunId} :
      Starts state job (.installing run) (.startingBroker run)
        { state with broker := state.broker.install ⟨state.gateOf run, run⟩ }
        [.call .installHooks true]
  | brokerStarted {run : RunId} {broker : Broker} {reports : List Event}
      (started : state.broker.start = .ok broker) :
      Starts state job (.startingBroker run) (.done (.ok ()))
        { state with broker := broker, running := some run }.releaseGuard
        (.call .brokerStart true :: reports.map .report)
  | brokerRefused {run : RunId} {failure : BrokerFailure}
      (refused : state.broker.start = .error failure) :
      Starts state job (.startingBroker run) (.releasingSink (.broker failure))
        (state.refuse run) [.call .brokerStart false]
  | sinkGivenUp {failure : StartFailure} :
      Starts state job (.releasingSink failure) (.releasingSource failure) state.closeSink.1
        state.closeSink.2
  | allGivenUp {failure : StartFailure} :
      Starts state job (.releasingSource failure) (.done (.error failure))
        state.closeSource.1.releaseGuard
        (state.closeSource.2 ++ [.report (.startFailed failure)])

/-- **A start has no other turns.** -/
theorem startTurn_cases {state next : State} {job : JobId} {phase after : StartPhase}
    {effects : List Effect} (turned : state.startTurn job phase = some (after, next, effects)) :
    Starts state job phase after next effects := by
  cases phase with
  | arriving =>
      obtain ⟨rfl, rfl, rfl⟩ := by
        simpa only [State.startTurn, Option.some.injEq, Prod.mk.injEq] using turned
      exact .asked
  | queued =>
      simp only [State.startTurn, Option.ite_none_right_eq_some, Option.some.injEq,
        Guard.heldBy_iff] at turned
      obtain ⟨held, enters⟩ := turned
      unfold State.startEnters at enters
      split at enters
      · rename_i running
        obtain ⟨rfl, rfl, rfl⟩ := by simpa only [Prod.mk.injEq] using enters
        exact .needless held running
      · rename_i resting
        obtain ⟨rfl, rfl, rfl⟩ := by simpa only [Prod.mk.injEq] using enters
        exact .entered held (by simpa using resting)
  | resolving =>
      simp only [State.startTurn, State.startResolves, Option.some.injEq] at turned
      split at turned
      · rename_i principal answer
        obtain ⟨rfl, rfl, rfl⟩ := by simpa only [Prod.mk.injEq] using turned
        rw [answer]
        exact .resolved answer
      · rename_i failure answer
        obtain ⟨rfl, rfl, rfl⟩ := by simpa only [State.startFails, Prod.mk.injEq] using turned
        rw [answer]
        exact .unresolved
  | registering principal =>
      simp only [State.startTurn, State.startRegisters, Option.some.injEq] at turned
      split at turned
      · rename_i directory accepted
        obtain ⟨rfl, rfl, rfl⟩ := by simpa only [Prod.mk.injEq] using turned
        exact .registered accepted
      · obtain ⟨rfl, rfl, rfl⟩ := by simpa only [State.startFails, Prod.mk.injEq] using turned
        exact .unregistered
  | openingSource principal key =>
      simp only [State.startTurn, State.startOpensSource, Option.some.injEq] at turned
      split at turned
      · rename_i upstream connected
        obtain ⟨rfl, rfl, rfl⟩ := by simpa only [Prod.mk.injEq] using turned
        exact .sourceOpened connected
      · obtain ⟨rfl, rfl, rfl⟩ := by simpa only [State.startFails, Prod.mk.injEq] using turned
        exact .sourceUnopened
  | openingSink principal key =>
      simp only [State.startTurn, State.startOpensSink, Option.some.injEq] at turned
      split at turned
      · rename_i downstream connected
        obtain ⟨rfl, rfl, rfl⟩ := by simpa only [Prod.mk.injEq] using turned
        exact .sinkOpened connected
      · rename_i failure downstream refused
        obtain ⟨rfl, rfl, rfl⟩ := by simpa only [Prod.mk.injEq] using turned
        exact .sinkUnopened refused
  | closingSource failure =>
      obtain ⟨rfl, rfl, rfl⟩ := by
        simpa only [State.startTurn, State.startFails, Option.some.injEq,
          Prod.mk.injEq] using turned
      exact .sourceGivenUp
  | discovering principal =>
      simp only [State.startTurn, State.startDiscovers, Option.some.injEq] at turned
      split at turned
      · obtain ⟨rfl, rfl, rfl⟩ := by simpa only [Prod.mk.injEq] using turned
        exact .undiscovered
      · rename_i queues events discovered
        obtain ⟨rfl, rfl, rfl⟩ := by simpa only [Prod.mk.injEq] using turned
        cases answer : state.listQueues with
        | error failure => simp [Discovery.run, answer] at discovered
        | ok names =>
            obtain ⟨rfl, -⟩ := by simpa [Discovery.run, answer] using discovered
            exact .discovered answer
  | installing run =>
      obtain ⟨rfl, rfl, rfl⟩ := by
        simpa only [State.startTurn, State.startInstalls, Option.some.injEq,
          Prod.mk.injEq] using turned
      exact .installed
  | startingBroker run =>
      simp only [State.startTurn, State.startStartsBroker, Option.some.injEq] at turned
      split at turned
      · rename_i broker started
        obtain ⟨rfl, rfl, rfl⟩ := by simpa only [Prod.mk.injEq] using turned
        exact @Starts.brokerStarted state job run broker [_] started
      · rename_i failure refused
        obtain ⟨rfl, rfl, rfl⟩ := by simpa only [Prod.mk.injEq] using turned
        exact .brokerRefused refused
  | releasingSink failure =>
      obtain ⟨rfl, rfl, rfl⟩ := by
        simpa only [State.startTurn, Option.some.injEq, Prod.mk.injEq] using turned
      exact .sinkGivenUp
  | releasingSource failure =>
      obtain ⟨rfl, rfl, rfl⟩ := by
        simpa only [State.startTurn, State.startFails, Option.some.injEq,
          Prod.mk.injEq] using turned
      exact .allGivenUp
  | done result => cases turned

/-! ## Relays -/

/-- A relay that has not closed its consumer yet. -/
def RelayPhase.attends : RelayPhase → Bool
  | .closingProducers _ | .ended => false
  | _ => true

@[simp] theorem attends_forwardingOn (messageId payload : String) (topics : List String) :
    (Relay.forwardingOn messageId payload topics).attends = true := by
  cases topics <;> rfl

/-- One turn of a relay. -/
inductive Forwards (state : State) (relay : RelayId) (found : Relay) :
    State → List Effect → Prop where
  | heeded (told : found.told = true)
      (phase : found.phase = .listening ∨ ∃ due, found.phase = .backingOff due) :
      Forwards state relay found (state.setRelayPhase relay .closingConsumer)
        [.report (.relayStopped found.route)]
  | sourceEnded (phase : found.phase = .listening)
      (ended : state.upstream.peek found.mailbox = .ended) :
      Forwards state relay found (state.setRelayPhase relay .closingConsumer)
        [.report (.queueClosed found.route)]
  | received {message : Message} (phase : found.phase = .listening)
      (peeked : state.upstream.peek found.mailbox = .delivery (.message message)) :
      Forwards state relay found
        ({ state with upstream := state.upstream.takeNext found.mailbox }.modifyRelay relay
          fun old => { old with
            backoff := Relay.firstBackoff
            phase := Relay.forwardingOn message.idText message.payload found.topics })
        [.received relay (.message message),
          .report (.messageReceived found.route message.idText message.payload)]
  | failed {reason : String} (phase : found.phase = .listening)
      (peeked : state.upstream.peek found.mailbox = .delivery (.failure reason)) :
      Forwards state relay found
        ({ state with upstream := state.upstream.takeNext found.mailbox }.setRelayPhase relay
          (.backingOff (state.clock + found.backoff)))
        [.received relay (.failure reason),
          .report (.receiveFailed found.route found.backoff ⟨reason, []⟩)]
  | sentAll {messageId payload : String} (phase : found.phase = .forwarding messageId payload []) :
      Forwards state relay found (state.setRelayPhase relay .listening) []
  | sent {messageId payload topic : String} {topics : List String} {downstream : Downstream}
      (phase : found.phase = .forwarding messageId payload (topic :: topics))
      (accepted : state.downstream.send topic payload = .ok downstream) :
      Forwards state relay found
        ({ state with downstream := downstream }.setRelayPhase relay
          (Relay.forwardingOn messageId payload topics))
        [.sent relay topic payload, .report (.messageSent found.route messageId topic)]
  | notSent {messageId payload topic : String} {topics : List String} {failure : TransportFailure}
      (phase : found.phase = .forwarding messageId payload (topic :: topics))
      (rejected : state.downstream.send topic payload = .error failure) :
      Forwards state relay found
        (state.setRelayPhase relay (Relay.forwardingOn messageId payload topics))
        [.notSent relay topic payload,
          .report (.messageNotSent found.route messageId topic failure)]
  | resumed {due : Nat} (phase : found.phase = .backingOff due) (late : due ≤ state.clock) :
      Forwards state relay found
        (state.modifyRelay relay fun old =>
          { old with backoff := Relay.nextBackoff old.backoff, phase := .listening }) []
  | consumerClosed (phase : found.phase = .closingConsumer) :
      Forwards state relay found
        ({ state with upstream := state.upstream.closeConsumer found.mailbox }.setRelayPhase relay
          (.closingProducers found.topics)) [.consumerClosed found.mailbox]
  | producerClosed {topic : String} {topics : List String}
      (phase : found.phase = .closingProducers (topic :: topics)) :
      Forwards state relay found
        ({ state with downstream := state.downstream.closeProducer topic }.setRelayPhase relay
          (.closingProducers topics)) [.producerClosed topic]
  | ended (phase : found.phase = .closingProducers []) :
      Forwards state relay found (state.setRelayPhase relay .ended) []

theorem relayReceives_cases {state next : State} {relay : RelayId} {found : Relay}
    {effects : List Effect} (phase : found.phase = .listening)
    (receives : state.relayReceives relay found = some (next, effects)) :
    Forwards state relay found next effects := by
  unfold State.relayReceives at receives
  split at receives
  · cases receives
  · rename_i ended
    obtain ⟨rfl, rfl⟩ := by simpa only [Option.some.injEq, Prod.mk.injEq] using receives
    exact .sourceEnded phase ended
  · rename_i message peeked
    obtain ⟨rfl, rfl⟩ := by
      simpa only [message.converted_eq, Option.some.injEq, Prod.mk.injEq] using receives
    exact .received phase peeked
  · rename_i reason peeked
    obtain ⟨rfl, rfl⟩ := by simpa only [Option.some.injEq, Prod.mk.injEq] using receives
    exact .failed phase peeked

/-- **A relay has no other turns.** -/
theorem relayTurn_cases {state next : State} {relay : RelayId} {heed : Bool} {effects : List Effect}
    (turned : state.relayTurn relay heed = some (next, effects)) :
    ∃ found, state.relays[relay]? = some found ∧ Forwards state relay found next effects := by
  unfold State.relayTurn at turned
  split at turned
  · cases turned
  · rename_i found present
    refine ⟨found, present, ?_⟩
    split at turned
    · rename_i phase
      split at turned
      · rename_i heeds
        obtain ⟨rfl, rfl⟩ := by
          simpa only [State.relayHeeds, Option.some.injEq, Prod.mk.injEq] using turned
        exact .heeded (by simp_all) (.inl phase)
      · split at turned
        · rename_i turn receives
          cases turned
          exact relayReceives_cases phase receives
        · split at turned
          · rename_i told
            obtain ⟨rfl, rfl⟩ := by
              simpa only [State.relayHeeds, Option.some.injEq, Prod.mk.injEq] using turned
            exact .heeded told (.inl phase)
          · cases turned
    · rename_i messageId payload phase
      obtain ⟨rfl, rfl⟩ := by simpa only [Option.some.injEq, Prod.mk.injEq] using turned
      exact .sentAll phase
    · rename_i messageId payload topic topics phase
      unfold State.relaySends at turned
      split at turned
      · rename_i downstream accepted
        obtain ⟨rfl, rfl⟩ := by simpa only [Option.some.injEq, Prod.mk.injEq] using turned
        exact .sent phase accepted
      · rename_i failure rejected
        obtain ⟨rfl, rfl⟩ := by simpa only [Option.some.injEq, Prod.mk.injEq] using turned
        exact .notSent phase rejected
    · rename_i due phase
      split at turned
      · rename_i heeds
        obtain ⟨rfl, rfl⟩ := by
          simpa only [State.relayHeeds, Option.some.injEq, Prod.mk.injEq] using turned
        exact .heeded (by simp_all) (.inr ⟨due, phase⟩)
      · split at turned
        · rename_i late
          obtain ⟨rfl, rfl⟩ := by simpa only [Option.some.injEq, Prod.mk.injEq] using turned
          exact .resumed phase late
        · cases turned
    · rename_i phase
      obtain ⟨rfl, rfl⟩ := by simpa only [Option.some.injEq, Prod.mk.injEq] using turned
      exact .consumerClosed phase
    · rename_i phase
      obtain ⟨rfl, rfl⟩ := by simpa only [Option.some.injEq, Prod.mk.injEq] using turned
      exact .ended phase
    · rename_i topic topics phase
      obtain ⟨rfl, rfl⟩ := by simpa only [Option.some.injEq, Prod.mk.injEq] using turned
      exact .producerClosed phase
    · cases turned

/-! ## Moves -/

/-- One move of a bridge. -/
inductive Moves (state : State) : Move → State → List Effect → Prop where
  | start {job : JobId} {phase after : StartPhase} {next : State} {effects : List Effect}
      (present : state.jobs[job]? = some (.start phase))
      (turn : Starts state job phase after next effects) :
      Moves state (.job job) (next.setJob job (.start after)) effects
  | stop {job : JobId} {phase after : StopPhase} {next : State} {effects : List Effect}
      (present : state.jobs[job]? = some (.stop phase))
      (turn : Stops state job phase after next effects) :
      Moves state (.job job) (next.setJob job (.stop after)) effects
  | attach {job : JobId} {topic : String} {phase after : AttachPhase} {next : State}
      {effects : List Effect} (present : state.jobs[job]? = some (.attach topic phase))
      (turn : Attaches state job topic phase after next effects) :
      Moves state (.job job) (next.setJob job (.attach topic after)) effects
  | relay {relay : RelayId} {heed : Bool} {found : Relay} {next : State} {effects : List Effect}
      (present : state.relays[relay]? = some found)
      (turn : Forwards state relay found next effects) :
      Moves state (.relay relay heed) next effects
  | forget {run : RunId} (free : state.holds run = false) :
      Moves state (.forget run) (state.tellRelays run) []
  | arrive {request : Request} : Moves state (.arrive request) (state.arrive request) []
  | change {change : Change} : Moves state (.change change) (state.change change) []
  | closeSource :
      Moves state .closeSource { state with upstream := state.upstream.disconnect.2 }
        [.call .sourceClose (succeeded state.upstream.disconnect.1)]
  | closeSink :
      Moves state .closeSink { state with downstream := state.downstream.disconnect.2 }
        [.call .sinkClose (succeeded state.downstream.disconnect.1)]
  | wait {milliseconds : Nat} :
      Moves state (.wait milliseconds) { state with clock := state.clock + milliseconds } []

/-- **A bridge makes no other moves.** -/
theorem step_cases {state next : State} {move : Move} {effects : List Effect}
    (step : state.step move = some (next, effects)) : Moves state move next effects := by
  cases move with
  | job job =>
      simp only [State.step, State.jobTurn] at step
      split at step
      · cases step
      · rename_i phase present
        obtain ⟨⟨after, between, shown⟩, turned, same⟩ := Option.map_eq_some_iff.mp step
        obtain ⟨rfl, rfl⟩ := by simpa only [Prod.mk.injEq] using same
        exact .start present (startTurn_cases turned)
      · rename_i phase present
        obtain ⟨⟨after, between, shown⟩, turned, same⟩ := Option.map_eq_some_iff.mp step
        obtain ⟨rfl, rfl⟩ := by simpa only [Prod.mk.injEq] using same
        exact .stop present (stopTurn_cases turned)
      · rename_i topic phase present
        obtain ⟨⟨after, between, shown⟩, turned, same⟩ := Option.map_eq_some_iff.mp step
        obtain ⟨rfl, rfl⟩ := by simpa only [Prod.mk.injEq] using same
        exact .attach present (attachTurn_cases turned)
  | relay relay heed =>
      obtain ⟨found, present, turn⟩ := relayTurn_cases step
      exact .relay present turn
  | forget run =>
      simp only [State.step] at step
      split at step
      · cases step
      · rename_i free
        obtain ⟨rfl, rfl⟩ := by simpa only [Option.some.injEq, Prod.mk.injEq] using step
        exact .forget (by simpa using free)
  | arrive request =>
      obtain ⟨rfl, rfl⟩ := by simpa only [State.step, Option.some.injEq, Prod.mk.injEq] using step
      exact .arrive
  | change change =>
      obtain ⟨rfl, rfl⟩ := by simpa only [State.step, Option.some.injEq, Prod.mk.injEq] using step
      exact .change
  | closeSource =>
      obtain ⟨rfl, rfl⟩ := by simpa only [State.step, Option.some.injEq, Prod.mk.injEq] using step
      exact .closeSource
  | closeSink =>
      obtain ⟨rfl, rfl⟩ := by simpa only [State.step, Option.some.injEq, Prod.mk.injEq] using step
      exact .closeSink
  | wait milliseconds =>
      obtain ⟨rfl, rfl⟩ := by simpa only [State.step, Option.some.injEq, Prod.mk.injEq] using step
      exact .wait

/-! ## What turns leave alone -/

/-- The jobs, the guard of the bridge, its run and what its runs are like are the same. -/
structure LeavesBridge (state next : State) : Prop where
  jobs : next.jobs = state.jobs
  guard : next.guard = state.guard
  running : next.running = state.running
  accepting? : ∀ run, next.accepting? run = state.accepting? run
  table? : ∀ run, next.table? run = state.table? run

theorem LeavesBridge.of_runs {state next : State} (jobs : next.jobs = state.jobs)
    (guard : next.guard = state.guard) (running : next.running = state.running)
    (runs : next.runs = state.runs) : LeavesBridge state next where
  jobs := jobs
  guard := guard
  running := running
  accepting? := fun _ => State.accepting?_congr runs
  table? := fun _ => State.table?_congr runs

theorem LeavesBridge.of_modifySlot {state next : State} {run : RunId} {place : Place}
    {change : RouteSlot → RouteSlot} (leaves : LeavesBridge state next) :
    LeavesBridge state (next.modifySlot run place change) where
  jobs := leaves.jobs
  guard := leaves.guard
  running := leaves.running
  accepting? := fun run => by rw [State.accepting?_modifySlot, leaves.accepting?]
  table? := fun run => by rw [State.table?_modifySlot, leaves.table?]

theorem LeavesBridge.of_modifyRelay {state next : State} {relay : RelayId}
    {change : Relay → Relay} (leaves : LeavesBridge state next) :
    LeavesBridge state (next.modifyRelay relay change) :=
  ⟨leaves.jobs, leaves.guard, leaves.running, leaves.accepting?, leaves.table?⟩

/-- There are as many runs as before. -/
theorem LeavesBridge.lt_iff {state next : State} {run : RunId} (leaves : LeavesBridge state next) :
    run < next.runs.length ↔ run < state.runs.length := by
  rw [← State.accepting?_isSome_iff, ← State.accepting?_isSome_iff, leaves.accepting?]

theorem Activates.leavesBridge {state next : State} {job : JobId} {run : RunId} {topic : String}
    {phase : ActivationPhase} {advance : Advance ActivationPhase (Except ActivationFailure Unit)}
    {effects : List Effect} (turn : Activates state job run topic phase advance next effects) :
    LeavesBridge state next := by
  cases turn
  case asked => exact .of_modifySlot (.of_runs rfl rfl rfl rfl)
  case needless => exact .of_modifySlot (.of_runs rfl rfl rfl rfl)
  case refused => exact .of_modifySlot (.of_runs rfl rfl rfl rfl)
  case unconnected => exact .of_modifySlot (.of_runs rfl rfl rfl rfl)
  case spawned => exact .of_modifySlot (.of_runs rfl rfl rfl rfl)
  case consumerUndone => exact .of_modifySlot (.of_runs rfl rfl rfl rfl)
  all_goals exact .of_runs rfl rfl rfl rfl

theorem Attaches.leavesBridge {state next : State} {job : JobId} {topic : String}
    {phase after : AttachPhase} {effects : List Effect}
    (turn : Attaches state job topic phase after next effects) : LeavesBridge state next := by
  cases turn
  case activated turn => exact turn.leavesBridge
  all_goals exact .of_runs rfl rfl rfl rfl

theorem Forwards.leavesBridge {state next : State} {relay : RelayId} {found : Relay}
    {effects : List Effect} (turn : Forwards state relay found next effects) :
    LeavesBridge state next := by
  cases turn <;> exact .of_runs rfl rfl rfl rfl

/-- Something has happened to the collaborators that neither starts, stops, opens nor closes
anything; the queue side has had a delivery at most. -/
structure FromOutside (state next : State) : Prop where
  jobs : next.jobs = state.jobs
  relays : next.relays = state.relays
  runs : next.runs = state.runs
  guard : next.guard = state.guard
  running : next.running = state.running
  broker : next.broker.isStarted = state.broker.isStarted
  sink : next.downstream.isOpen = state.downstream.isOpen
  producers : next.downstream.producers = state.downstream.producers
  upstream : (∃ queue delivery, next.upstream = state.upstream.deliver queue delivery) ∨
    next.upstream.isOpen = state.upstream.isOpen ∧
      next.upstream.mailboxes = state.upstream.mailboxes ∧
        next.upstream.queues = state.upstream.queues

/-- Whatever others do, they do it to the collaborators. -/
theorem change_fromOutside (state : State) (change : Change) :
    FromOutside state (state.change change) := by
  cases change with
  | deliver queue delivery =>
      exact ⟨rfl, rfl, rfl, rfl, rfl, rfl, rfl, rfl, .inl ⟨_, _, rfl⟩⟩
  | switch fault on =>
      cases fault <;> exact ⟨rfl, rfl, rfl, rfl, rfl, rfl, rfl, rfl, .inr ⟨rfl, rfl, rfl⟩⟩
  | setNames names =>
      simp only [State.change, State.rescript]
      split <;> exact ⟨rfl, rfl, rfl, rfl, rfl, rfl, rfl, rfl, .inr ⟨rfl, rfl, rfl⟩⟩
  | setPrincipal principal =>
      simp only [State.change, State.rescript]
      split <;> exact ⟨rfl, rfl, rfl, rfl, rfl, rfl, rfl, rfl, .inr ⟨rfl, rfl, rfl⟩⟩
  | _ => exact ⟨rfl, rfl, rfl, rfl, rfl, rfl, rfl, rfl, .inr ⟨rfl, rfl, rfl⟩⟩

theorem change_leavesBridge (state : State) (change : Change) :
    LeavesBridge state (state.change change) := by
  have outside := change_fromOutside state change
  exact .of_runs outside.jobs outside.guard outside.running outside.runs

theorem Starts.jobs {state next : State} {job : JobId} {phase after : StartPhase}
    {effects : List Effect} (turn : Starts state job phase after next effects) :
    next.jobs = state.jobs := by
  cases turn <;> rfl

theorem Stops.jobs {state next : State} {job : JobId} {phase after : StopPhase}
    {effects : List Effect} (turn : Stops state job phase after next effects) :
    next.jobs = state.jobs := by
  cases turn <;> rfl

/-- A report, or a call of a collaborator that is written down. -/
def Effect.isPlain : Effect → Bool
  | .report _ | .call _ _ => true
  | _ => false

theorem all_isPlain_reports (events : List Event) :
    (events.map Effect.report).all Effect.isPlain = true := by
  simp [Effect.isPlain]

theorem all_isPlain_stepReport {ε : Type} [Reported ε] (step : StopStep)
    (outcome : Except ε Unit) : (State.stepReport step outcome).all Effect.isPlain = true := by
  cases outcome <;> rfl

/-- Starts do nothing to consumers, producers and relays. -/
theorem Starts.plain {state next : State} {job : JobId} {phase after : StartPhase}
    {effects : List Effect} (turn : Starts state job phase after next effects) :
    effects.all Effect.isPlain = true := by
  cases turn <;>
    simp only [State.closeSource, State.closeSink, List.all_cons, List.all_append, List.all_nil,
      all_isPlain_reports, all_isPlain_stepReport, Effect.isPlain, Bool.and_true]

/-- Stops do nothing to consumers and producers but by way of relays. -/
theorem Stops.plain {state next : State} {job : JobId} {phase after : StopPhase}
    {effects : List Effect} (turn : Stops state job phase after next effects) :
    effects.all Effect.isPlain = true := by
  cases turn <;>
    simp only [State.closeSource, State.closeSink, List.all_cons, List.all_append, List.all_nil,
      all_isPlain_stepReport, Effect.isPlain, Bool.and_true]

/-! ## The jobs after a move -/

namespace Moves

variable {state next : State} {move : Move} {effects : List Effect} {id : JobId} {found : Job}

/-- A job that does not have the move stays in its phase. -/
theorem jobs_of_ne (moved : Moves state move next effects)
    (present : state.jobs[id]? = some found) (still : move ≠ .job id) :
    next.jobs[id]? = some found := by
  cases moved with
  | @start job _ _ _ _ _ turn =>
      have different : id ≠ job := fun same => still (by rw [same])
      exact (State.jobs_setJob_of_ne different).trans (turn.jobs ▸ present)
  | @stop job _ _ _ _ _ turn =>
      have different : id ≠ job := fun same => still (by rw [same])
      exact (State.jobs_setJob_of_ne different).trans (turn.jobs ▸ present)
  | @attach job _ _ _ _ _ _ turn =>
      have different : id ≠ job := fun same => still (by rw [same])
      exact (State.jobs_setJob_of_ne different).trans (turn.leavesBridge.jobs ▸ present)
  | relay _ turn => exact turn.leavesBridge.jobs ▸ present
  | arrive => exact getElem?_concat_eq_some.mpr (.inl present)
  | change => exact (change_leavesBridge state _).jobs ▸ present
  | _ => exact present

/-- A job was in its phase before, has had the move, or has just arrived. -/
theorem jobs_origin (moved : Moves state move next effects)
    (present : next.jobs[id]? = some found) :
    state.jobs[id]? = some found ∨ move = .job id ∨
      ∃ request, move = .arrive request ∧ found = request.job := by
  cases moved with
  | start _ turn =>
      rcases State.jobs_setJob present with ⟨rfl, _⟩ | ⟨_, before⟩
      · exact .inr (.inl rfl)
      · exact .inl (turn.jobs ▸ before)
  | stop _ turn =>
      rcases State.jobs_setJob present with ⟨rfl, _⟩ | ⟨_, before⟩
      · exact .inr (.inl rfl)
      · exact .inl (turn.jobs ▸ before)
  | attach _ turn =>
      rcases State.jobs_setJob present with ⟨rfl, _⟩ | ⟨_, before⟩
      · exact .inr (.inl rfl)
      · exact .inl (turn.leavesBridge.jobs ▸ before)
  | relay _ turn => exact .inl (turn.leavesBridge.jobs ▸ present)
  | @arrive request =>
      rcases getElem?_concat_eq_some.mp present with before | ⟨_, rfl⟩
      · exact .inl before
      · exact .inr (.inr ⟨request, rfl, rfl⟩)
  | change => exact .inl ((change_leavesBridge state _).jobs ▸ present)
  | _ => exact .inl present

/-- The move of a start is one of its turns. -/
theorem of_start {phase : StartPhase} (moved : Moves state (.job id) next effects)
    (present : state.jobs[id]? = some (.start phase)) :
    ∃ after middle, Starts state id phase after middle effects ∧
      next = middle.setJob id (.start after) := by
  cases moved with
  | start there turn =>
      cases present.symm.trans there
      exact ⟨_, _, turn, rfl⟩
  | stop there _ => cases present.symm.trans there
  | attach there _ => cases present.symm.trans there

/-- The move of a stop is one of its turns. -/
theorem of_stop {phase : StopPhase} (moved : Moves state (.job id) next effects)
    (present : state.jobs[id]? = some (.stop phase)) :
    ∃ after middle, Stops state id phase after middle effects ∧
      next = middle.setJob id (.stop after) := by
  cases moved with
  | stop there turn =>
      cases present.symm.trans there
      exact ⟨_, _, turn, rfl⟩
  | start there _ => cases present.symm.trans there
  | attach there _ => cases present.symm.trans there

/-- The move of an attachment is one of its turns. -/
theorem of_attach {topic : String} {phase : AttachPhase}
    (moved : Moves state (.job id) next effects)
    (present : state.jobs[id]? = some (.attach topic phase)) :
    ∃ after middle, Attaches state id topic phase after middle effects ∧
      next = middle.setJob id (.attach topic after) := by
  cases moved with
  | attach there turn =>
      cases present.symm.trans there
      exact ⟨_, _, turn, rfl⟩
  | start there _ => cases present.symm.trans there
  | stop there _ => cases present.symm.trans there

/-- A start that has had the move has made one of its turns. -/
theorem to_start {after : StartPhase} (moved : Moves state (.job id) next effects)
    (present : next.jobs[id]? = some (.start after)) :
    ∃ phase middle, state.jobs[id]? = some (.start phase) ∧
      Starts state id phase after middle effects ∧ next = middle.setJob id (.start after) := by
  cases moved with
  | start there turn =>
      cases (State.jobs_setJob_self (turn.jobs ▸ there)).symm.trans present
      exact ⟨_, _, there, turn, rfl⟩
  | stop there turn => cases (State.jobs_setJob_self (turn.jobs ▸ there)).symm.trans present
  | attach there turn =>
      cases (State.jobs_setJob_self (turn.leavesBridge.jobs ▸ there)).symm.trans present

/-- A stop that has had the move has made one of its turns. -/
theorem to_stop {after : StopPhase} (moved : Moves state (.job id) next effects)
    (present : next.jobs[id]? = some (.stop after)) :
    ∃ phase middle, state.jobs[id]? = some (.stop phase) ∧
      Stops state id phase after middle effects ∧ next = middle.setJob id (.stop after) := by
  cases moved with
  | stop there turn =>
      cases (State.jobs_setJob_self (turn.jobs ▸ there)).symm.trans present
      exact ⟨_, _, there, turn, rfl⟩
  | start there turn => cases (State.jobs_setJob_self (turn.jobs ▸ there)).symm.trans present
  | attach there turn =>
      cases (State.jobs_setJob_self (turn.leavesBridge.jobs ▸ there)).symm.trans present

/-- An attachment that has had the move has made one of its turns. -/
theorem to_attach {topic : String} {after : AttachPhase}
    (moved : Moves state (.job id) next effects)
    (present : next.jobs[id]? = some (.attach topic after)) :
    ∃ phase middle, state.jobs[id]? = some (.attach topic phase) ∧
      Attaches state id topic phase after middle effects ∧
        next = middle.setJob id (.attach topic after) := by
  cases moved with
  | attach there turn =>
      cases (State.jobs_setJob_self (turn.leavesBridge.jobs ▸ there)).symm.trans present
      exact ⟨_, _, there, turn, rfl⟩
  | start there turn => cases (State.jobs_setJob_self (turn.jobs ▸ there)).symm.trans present
  | stop there turn => cases (State.jobs_setJob_self (turn.jobs ▸ there)).symm.trans present

/-- The routes of a run never change. -/
theorem table? {run : RunId} {table : RouteTable} (moved : Moves state move next effects)
    (found : state.table? run = some table) : next.table? run = some table := by
  have bound : run < state.runs.length := by
    obtain ⟨_, present, _⟩ := Option.map_eq_some_iff.mp found
    exact State.run?_isSome_iff.mp (by simp [present])
  cases moved with
  | start _ turn =>
      cases turn with
      | discovered => exact (State.table?_addRun_of_lt bound).trans found
      | brokerRefused _ => exact State.table?_refuse.trans found
      | _ => exact found
  | stop _ turn =>
      cases turn with
      | entered _ _ => exact State.table?_refuse.trans found
      | routeAsked => exact (State.table?_modifySlot _).trans found
      | routeIdle _ _ _ => exact (State.table?_modifySlot _).trans found
      | routeClaimed _ _ _ => exact (State.table?_modifySlot _).trans found
      | routeStopped _ => exact (State.table?_modifySlot _).trans found
      | _ => exact found
  | attach _ turn => exact (turn.leavesBridge.table? run).trans found
  | relay _ turn => exact (turn.leavesBridge.table? run).trans found
  | change => exact ((change_leavesBridge state _).table? run).trans found
  | _ => exact found

theorem route? {run : RunId} {place : Place} {route : Route}
    (moved : Moves state move next effects) (here : state.route? run place = some route) :
    next.route? run place = some route := by
  obtain ⟨table, found, atPlace⟩ := State.route?_eq_some_iff.mp here
  exact State.route?_eq_some_iff.mpr ⟨table, moved.table? found, atPlace⟩

/-- A run that was there has got no other routes. -/
theorem route?_origin {run : RunId} {place : Place} {route : Route}
    (moved : Moves state move next effects) (bound : run < state.runs.length)
    (here : next.route? run place = some route) : state.route? run place = some route := by
  obtain ⟨found, present⟩ := Option.isSome_iff_exists.mp (State.run?_isSome_iff.mpr bound)
  have old : state.table? run = some found.table := by simp [State.table?, present]
  obtain ⟨table, there, atPlace⟩ := State.route?_eq_some_iff.mp here
  cases (moved.table? old).symm.trans there
  exact State.route?_eq_some_iff.mpr ⟨_, old, atPlace⟩

end Moves

end TopicRelay
