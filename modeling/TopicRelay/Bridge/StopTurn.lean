import TopicRelay.Bridge.AttachTurn
import TopicRelay.Bridge.StartTurn

/-!
# The turns of a stop

A stop takes the run out of the bridge under the bridge's guard and lets the guard go at
once.  It then refuses further routes, stops the broker, stops one route after the other,
waiting for each relay to end, and closes the two connections.  A part that does not shut
down cleanly is reported, and the remaining parts are shut down all the same.
-/

namespace TopicRelay

set_option autoImplicit false

namespace State

/-- What a turn of a stop yields. -/
abbrev StopTurn : Type := StopPhase × State × List Effect

/-- The guard has been given: the run is taken out, if there is one, and starts no more
routes. -/
def stopEnters (state : State) : StopTurn :=
  match state.running with
  | none => (.done, state.releaseGuard, [.report .notRunning])
  | some run =>
    (.stoppingBroker run,
      { state with running := none }.releaseGuard.modifyRun run fun found =>
        { found with accepting := false },
      [.report .stopping])

/-- The places of the routes of a run. -/
def places (state : State) (run : RunId) : List Place :=
  List.range (((state.run? run).map fun found => found.slots.length).getD 0)

/-- The broker is stopped. -/
def stopStopsBroker (state : State) (run : RunId) : StopTurn :=
  let (outcome, broker) := state.broker.stop
  (.approaching run (state.places run), { state with broker := broker },
    .call .brokerStop (succeeded outcome) :: stepReport .broker outcome)

/-- The guard of a route has been given: its relay, if it has one, is taken out and told to
stop. -/
def stopClaims (state : State) (run : RunId) (place : Place) (ahead : List Place)
    (slot : RouteSlot) : StopTurn :=
  match slot.relay with
  | none => (.approaching run ahead, state.releaseSlot run place, [])
  | some relay =>
    let emptied := state.modifySlot run place fun slot =>
      { slot with relay := none, guard := slot.guard.release }
    (.joining run place relay ahead,
      emptied.modifyRelay relay fun found => { found with told := true }, [])

/-- Whether a relay has ended. -/
def hasEnded (state : State) (relay : RelayId) : Bool :=
  match state.relays[relay]? with
  | some found => found.phase == .ended
  | none => true

/-- The relay of a route has ended, so the route is stopped. -/
def stopJoins (state : State) (run : RunId) (place : Place) (ahead : List Place) : StopTurn :=
  let id := ((state.route? run place).map (·.id)).getD ""
  (.approaching run ahead,
    state.modifySlot run place fun slot => { slot with started := false },
    [.report (.routeStopped id)])

/-- The next turn of a stop; `none` while it has to wait. -/
def stopTurn (state : State) (job : JobId) : StopPhase → Option StopTurn
  | .arriving => some (.queued, { state with guard := state.guard.request job }, [])
  | .queued => if state.guard.heldBy job then some state.stopEnters else none
  | .stoppingBroker run => some (state.stopStopsBroker run)
  | .approaching _ [] => some (.closingSink, state, [])
  | .approaching run (place :: ahead) =>
    some (.claiming run place ahead, state.requestSlot run place job, [])
  | .claiming run place ahead => do
    let slot ← state.slot? run place
    if slot.guard.heldBy job then return state.stopClaims run place ahead slot else none
  | .joining run place relay ahead =>
    if state.hasEnded relay then some (state.stopJoins run place ahead) else none
  | .closingSink =>
    let (closed, effects) := state.closeSink
    some (.closingSource, closed, effects)
  | .closingSource =>
    let (closed, effects) := state.closeSource
    some (.done, closed, effects ++ [.report .stopped])
  | .done => none

end State

end TopicRelay
