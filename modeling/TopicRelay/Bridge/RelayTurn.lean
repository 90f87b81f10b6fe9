import TopicRelay.Bridge.State

/-!
# The turns of a relay

A relay takes one delivery after the other out of its mailbox and sends the payload of
each message to all topics of its route; a message that cannot be written is dropped.
After a failure to receive it waits, twice as long after each failure in a row up to five
seconds, and a message that is received makes the next wait short again.  It ends when it
is told to stop while it listens or waits, or when its mailbox has ended, and then closes
its consumer and its producers.
-/

namespace TopicRelay

set_option autoImplicit false

namespace Relay

/-- How long the first failure to receive is waited out, in milliseconds. -/
def firstBackoff : Nat := 100

/-- How long a failure to receive is waited out at most, in milliseconds. -/
def lastBackoff : Nat := 5000

/-- The wait after the next failure in a row. -/
def nextBackoff (backoff : Nat) : Nat := min (backoff * 2) lastBackoff

/-- What a relay does once a payload has gone to some of its topics. -/
def forwardingOn (messageId payload : String) : List String → RelayPhase
  | [] => .listening
  | topic :: topics => .forwarding messageId payload (topic :: topics)

end Relay

namespace State

/-- Puts a relay into a phase. -/
def setRelayPhase (state : State) (relay : RelayId) (phase : RelayPhase) : State :=
  state.modifyRelay relay fun found => { found with phase := phase }

/-- The relay heeds the signal to stop. -/
def relayHeeds (state : State) (relay : RelayId) (found : Relay) : State × List Effect :=
  (state.setRelayPhase relay .closingConsumer, [.report (.relayStopped found.route)])

/-- The relay takes the next delivery, if there is one. -/
def relayReceives (state : State) (relay : RelayId) (found : Relay) :
    Option (State × List Effect) :=
  match state.upstream.peek found.mailbox with
  | .nothingYet => none
  | .ended =>
    some (state.setRelayPhase relay .closingConsumer, [.report (.queueClosed found.route)])
  | .delivery (.message message) =>
    let taken := { state with upstream := state.upstream.takeNext found.mailbox }
    let (phase, event) :=
      match message.converted with
      | .ok payload =>
        (Relay.forwardingOn message.idText payload found.topics,
          Event.messageReceived found.route message.idText payload)
      | .error reason =>
        (.listening, Event.conversionFailed found.route message.idText reason)
    some (taken.modifyRelay relay fun found =>
        { found with backoff := Relay.firstBackoff, phase := phase },
      [.received relay (.message message), .report event])
  | .delivery (.failure reason) =>
    let taken := { state with upstream := state.upstream.takeNext found.mailbox }
    some (taken.setRelayPhase relay (.backingOff (state.clock + found.backoff)),
      [.received relay (.failure reason),
        .report (.receiveFailed found.route found.backoff ⟨reason, []⟩)])

/-- The relay sends a payload to the next of its topics. -/
def relaySends (state : State) (relay : RelayId) (found : Relay)
    (messageId payload topic : String) (topics : List String) : State × List Effect :=
  let phase := Relay.forwardingOn messageId payload topics
  match state.downstream.send topic payload with
  | .ok downstream =>
    ({ state with downstream := downstream }.setRelayPhase relay phase,
      [.sent relay topic payload, .report (.messageSent found.route messageId topic)])
  | .error failure =>
    (state.setRelayPhase relay phase,
      [.notSent relay topic payload,
        .report (.messageNotSent found.route messageId topic failure)])

/-- The next turn of a relay; `none` while it has to wait.  Where both the signal to stop and
something else are there, `heed` says which of the two the relay turns to. -/
def relayTurn (state : State) (relay : RelayId) (heed : Bool) : Option (State × List Effect) :=
  match state.relays[relay]? with
  | none => none
  | some found =>
    match found.phase with
    | .listening =>
      if found.told && heed then some (state.relayHeeds relay found)
      else
        match state.relayReceives relay found with
        | some turn => some turn
        | none => if found.told then some (state.relayHeeds relay found) else none
    | .forwarding _ _ [] => some (state.setRelayPhase relay .listening, [])
    | .forwarding messageId payload (topic :: topics) =>
      some (state.relaySends relay found messageId payload topic topics)
    | .backingOff due =>
      if found.told && (heed || state.clock < due) then some (state.relayHeeds relay found)
      else if due ≤ state.clock then
        some (state.modifyRelay relay fun found =>
          { found with backoff := Relay.nextBackoff found.backoff, phase := .listening }, [])
      else none
    | .closingConsumer =>
      let closed := { state with upstream := state.upstream.closeConsumer found.mailbox }
      some (closed.setRelayPhase relay (.closingProducers found.topics),
        [.consumerClosed found.mailbox])
    | .closingProducers [] => some (state.setRelayPhase relay .ended, [])
    | .closingProducers (topic :: topics) =>
      let closed := { state with downstream := state.downstream.closeProducer topic }
      some (closed.setRelayPhase relay (.closingProducers topics), [.producerClosed topic])
    | .ended => none

end State

end TopicRelay
