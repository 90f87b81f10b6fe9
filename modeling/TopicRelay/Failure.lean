import TopicRelay.Text.Quoted

/-!
# Failures

What can go wrong, one type for each collaborator and one for each activity, together
with the text a failure is reported with and the failures behind it.  `Reported.chain`
lists the text of a failure and the texts of its causes, the outermost first.
-/

namespace TopicRelay

set_option autoImplicit false

/-- A failure with a text of its own and the texts of the failures behind it. -/
class Reported (ε : Type) where
  /-- The text of the failure itself. -/
  describe : ε → String
  /-- The texts of the failures behind it, the nearest first. -/
  causes : ε → List String

/-- The text of a failure and the texts of its causes. -/
def Reported.chain {ε : Type} [Reported ε] (failure : ε) : List String :=
  Reported.describe failure :: Reported.causes failure

/-- A message, followed by the nearest cause if there is one. -/
def withCause (message : String) (causes : List String) : String :=
  match causes with
  | [] => message
  | cause :: _ => message ++ ": " ++ cause

/-! ## Collaborators -/

/-- The queue catalog could not answer. -/
structure CatalogFailure where
  message : String
  behind : List String := []
  deriving DecidableEq, Repr

instance : Reported CatalogFailure where
  describe failure := "catalog query failed: " ++ withCause failure.message failure.behind
  causes failure := failure.behind

/-- A connection to the queues or to the topics failed. -/
structure TransportFailure where
  message : String
  behind : List String := []
  deriving DecidableEq, Repr

instance : Reported TransportFailure where
  describe failure := "transport failure: " ++ withCause failure.message failure.behind
  causes failure := failure.behind

/-- The identity store did not accept a name and a secret, or could not answer. -/
inductive IdentityFailure where
  | unknownPrincipal (name : String)
  | invalidSecret (name : String)
  | unavailable (message : String)
  deriving DecidableEq, Repr

/-- What the identity store says. -/
def IdentityFailure.message : IdentityFailure → String
  | .unknownPrincipal name => "unknown principal '" ++ name ++ "'"
  | .invalidSecret name => "invalid secret presented for '" ++ name ++ "'"
  | .unavailable message => message

instance : Reported IdentityFailure where
  describe failure := "identity store: " ++ failure.message
  causes _ := []

/-- The broker could not be started or stopped. -/
structure BrokerFailure where
  message : String
  deriving DecidableEq, Repr

instance : Reported BrokerFailure where
  describe failure := "broker runtime failure: " ++ failure.message
  causes _ := []

/-- The failure as diagnostics show it. -/
def BrokerFailure.diagnostic (failure : BrokerFailure) : String :=
  "BrokerError(" ++ Text.quoted failure.message ++ ")"

/-! ## Activities -/

/-- The queues of an owner could not be listed. -/
structure DiscoveryFailure where
  owner : String
  kind : String
  query : CatalogFailure
  deriving DecidableEq, Repr

instance : Reported DiscoveryFailure where
  describe failure :=
    "unable to discover " ++ failure.kind ++ " queues owned by " ++ failure.owner
  causes failure := Reported.chain failure.query

/-- A subscriber's topic could not be served. -/
inductive ActivationFailure where
  /-- No route publishes the topic. -/
  | routeNotFound (topic : String)
  /-- No more routes are started. -/
  | shuttingDown
  /-- A route of the topic could not open its connections and stays stopped. -/
  | startFailed (route : String) (failure : TransportFailure)
  deriving DecidableEq, Repr

/-- Whether the topic itself is at fault. -/
def ActivationFailure.isRouteNotFound : ActivationFailure → Bool
  | .routeNotFound _ => true
  | _ => false

instance : Reported ActivationFailure where
  describe
    | .routeNotFound topic => "queue does not exist: " ++ topic
    | .shuttingDown => "bridge is shutting down"
    | .startFailed route _ => "unable to start route " ++ route
  causes
    | .startFailed _ failure => Reported.chain failure
    | _ => []

/-- A name and a secret did not lead to a principal. -/
inductive AuthenticationFailure where
  | rejected (failure : IdentityFailure)
  | storeUnavailable (failure : IdentityFailure)
  deriving DecidableEq, Repr

instance : Reported AuthenticationFailure where
  describe
    | .rejected _ => "credential rejected"
    | .storeUnavailable _ => "identity store unavailable"
  causes
    | .rejected failure | .storeUnavailable failure => Reported.chain failure

/-- The bridge could not be started. -/
inductive StartFailure where
  | alreadyStarted
  | servicePrincipal (failure : CatalogFailure)
  | serviceCredential (failure : IdentityFailure)
  | sourceConnect (failure : TransportFailure)
  | sinkConnect (failure : TransportFailure)
  | discovery (failure : DiscoveryFailure)
  | broker (failure : BrokerFailure)
  deriving DecidableEq, Repr

instance : Reported StartFailure where
  describe
    | .alreadyStarted => "bridge is already started"
    | .servicePrincipal _ => "unable to resolve the service principal"
    | .serviceCredential _ => "unable to register the service credential"
    | .sourceConnect _ => "unable to connect to the upstream source"
    | .sinkConnect _ => "unable to connect to the downstream broker"
    | .discovery _ => "queue discovery failed"
    | .broker _ => "unable to start the downstream broker"
  causes
    | .alreadyStarted => []
    | .servicePrincipal failure => Reported.chain failure
    | .serviceCredential failure => Reported.chain failure
    | .sourceConnect failure | .sinkConnect failure => Reported.chain failure
    | .discovery failure => Reported.chain failure
    | .broker failure => Reported.chain failure

/-- A subscriber could not be attached to a topic. -/
inductive SubscribeFailure where
  | notStarted
  | unauthorized
  | activation (failure : ActivationFailure)
  deriving DecidableEq, Repr

instance : Reported SubscribeFailure where
  describe
    | .notStarted => "broker is not started"
    | .unauthorized => "not authorized to consume"
    | .activation failure => Reported.describe failure
  causes
    | .activation failure => Reported.chain failure
    | _ => []

end TopicRelay
