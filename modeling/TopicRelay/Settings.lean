/-!
# Settings of the bridge

Whose queues are relayed, what the topics begin with, and under which names the bridge
and its consumers are known.
-/

namespace TopicRelay

set_option autoImplicit false

/-- The settings that a bridge is created with. -/
structure Settings where
  appPrefix : String := "CDA"
  applicationTitle : String := "CWMS Data API"
  queueOwner : String := "CWMS_20"
  queueKind : String := "NORMAL_QUEUE"
  consumeRole : String := "CWMS Users"
  clientHost : String := "localhost"
  keyValidityMonths : UInt32 := 3
  deriving DecidableEq, Repr

namespace Settings

/-- The settings with another owner of queues. -/
def withQueueOwner (settings : Settings) (owner : String) : Settings :=
  { settings with queueOwner := owner }

/-- The settings with another role that may consume. -/
def withConsumeRole (settings : Settings) (role : String) : Settings :=
  { settings with consumeRole := role }

/-- The settings with another name of the host. -/
def withClientHost (settings : Settings) (host : String) : Settings :=
  { settings with clientHost := host }

end Settings

end TopicRelay
