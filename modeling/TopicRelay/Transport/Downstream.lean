import TopicRelay.Access.ServiceKey
import TopicRelay.Failure

/-!
# The topic side

Topics held in memory.  A producer is opened for a topic and sends payloads to it; the
payloads are kept in the order in which they were sent.  The switches inject failures:
a connection that cannot be opened or does not close cleanly, topics that refuse
producers, and topics that refuse payloads.
-/

namespace TopicRelay

set_option autoImplicit false

/-- The connection to the topics. -/
structure Downstream where
  isOpen : Bool := false
  /-- The key the connection was opened with. -/
  credential : Option ServiceCredential := none
  /-- Every key that was ever presented to open the connection, whether it did or not. -/
  presented : List ServiceCredential := []
  /-- Every topic a producer was ever opened for. -/
  connectedTopics : List String := []
  /-- The topics of the open producers. -/
  producers : List String := []
  /-- Every payload that was sent, with its topic. -/
  sent : List (String × String) := []
  /-- Topics that refuse producers for good. -/
  failingTopics : List String := []
  /-- Topics that refuse producers for the time being. -/
  blockedTopics : List String := []
  /-- Topics that refuse payloads. -/
  rejectingTopics : List String := []
  failOpen : Bool := false
  failClose : Bool := false
  deriving Repr

namespace Downstream

/-- Opens the connection with a key. -/
def connect (downstream : Downstream) (key : ServiceCredential) :
    Except TransportFailure Unit × Downstream :=
  let downstream := { downstream with presented := downstream.presented ++ [key] }
  if downstream.failOpen then
    (.error ⟨"downstream broker refused connection", []⟩, downstream)
  else (.ok (), { downstream with credential := some key, isOpen := true })

/-- Closes the connection, whatever is reported about it. -/
def disconnect (downstream : Downstream) : Except TransportFailure Unit × Downstream :=
  (if downstream.failClose then .error ⟨"downstream connection did not close cleanly", []⟩
    else .ok (), { downstream with isOpen := false })

/-- Opens a producer for a topic. -/
def produce (downstream : Downstream) (topic : String) : Except TransportFailure Downstream :=
  if downstream.blockedTopics.contains topic then
    .error ⟨"producer blocked", ["quota exceeded"]⟩
  else if !downstream.isOpen then .error ⟨"downstream connection is not open", []⟩
  else if downstream.failingTopics.contains topic then
    .error ⟨"unable to create producer for " ++ topic, []⟩
  else
    .ok { downstream with
      connectedTopics := downstream.connectedTopics ++ [topic]
      producers := downstream.producers ++ [topic] }

/-- Sends a payload to a topic. -/
def send (downstream : Downstream) (topic payload : String) :
    Except TransportFailure Downstream :=
  if downstream.rejectingTopics.contains topic then .error ⟨"broker rejected message", []⟩
  else .ok { downstream with sent := downstream.sent ++ [(topic, payload)] }

/-- Closes a producer of a topic. -/
def closeProducer (downstream : Downstream) (topic : String) : Downstream :=
  { downstream with producers := downstream.producers.erase topic }

/-- The payloads sent to a topic. -/
def payloads (downstream : Downstream) (topic : String) : List String :=
  (downstream.sent.filter fun entry => entry.1 == topic).map (·.2)

/-- Switches a topic in a list of topics on or off. -/
def switchTopic (topics : List String) (topic : String) (on : Bool) : List String :=
  if on then topic :: topics else topics.filter fun other => other != topic

end Downstream

end TopicRelay
