import TopicRelay.Access.Gate
import TopicRelay.Table

/-!
# The broker

The broker that subscribers talk to.  Its acceptors say where it can be reached, and its
hooks ask the bridge who may do what and tell the bridge whom a topic has gained.
-/

namespace TopicRelay

set_option autoImplicit false

/-- One listener of the broker. -/
structure Acceptor where
  name : String
  parameters : Table String := []
  deriving DecidableEq, Repr

namespace Acceptor

/-- The parameter that names the host of a listener. -/
def hostParameter : String := "host"

/-- Sets a parameter. -/
def withParameter (acceptor : Acceptor) (name value : String) : Acceptor :=
  { acceptor with parameters := acceptor.parameters.insert name value }

/-- Whether clients on the network can reach the listener. -/
def isNetwork (acceptor : Acceptor) : Bool := acceptor.parameters.has hostParameter

end Acceptor

/-- A run of the bridge is known by the order in which the runs were set up. -/
abbrev RunId : Type := Nat

/-- The gate that the broker asks, and the run of the bridge that it tells about
subscribers. -/
structure Hooks where
  gate : Gate
  run : RunId
  deriving DecidableEq, Repr

/-- The broker. -/
structure Broker where
  isStarted : Bool := false
  hooks : Option Hooks := none
  acceptors : List Acceptor := []
  protocols : Names := []
  failStart : Bool := false
  failStop : Bool := false
  deriving DecidableEq, Repr

namespace Broker

/-- Installs hooks in place of those that are there. -/
def install (broker : Broker) (hooks : Hooks) : Broker := { broker with hooks := some hooks }

/-- Starts the broker, which needs hooks. -/
def start (broker : Broker) : Except BrokerFailure Broker :=
  if broker.failStart then .error ⟨"acceptor port already in use"⟩
  else if broker.hooks.isNone then .error ⟨"broker started without security hooks"⟩
  else .ok { broker with isStarted := true }

/-- Stops the broker, whatever is reported about it. -/
def stop (broker : Broker) : Except BrokerFailure Unit × Broker :=
  (if broker.failStop then .error ⟨"acceptor artemis did not shut down cleanly"⟩ else .ok (),
    { broker with isStarted := false })

/-- Whether a client may act, by the gate of the installed hooks; without hooks it may not. -/
def authorize (broker : Broker) (directory : Directory) (now : Instant)
    (credential : Credential) (action : Action) : Bool × List Event :=
  match broker.hooks with
  | some hooks => hooks.gate.check directory now credential action
  | none => (false, [])

/-- Where clients on the network can reach the broker. -/
def endpoints (broker : Broker) : List (Table String) :=
  if broker.isStarted then (broker.acceptors.filter (·.isNetwork)).map (·.parameters) else []

end Broker

end TopicRelay
