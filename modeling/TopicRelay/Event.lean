import TopicRelay.Access.ServiceKey
import TopicRelay.Failure

/-!
# Events

What the parts of the bridge report while they work.  `Event.record` gives the component,
the name, the level and the fields under which an event is written down.
-/

namespace TopicRelay

set_option autoImplicit false

/-- How much an event matters. -/
inductive Level where
  | debug
  | info
  | warn
  | error
  deriving DecidableEq, Repr

/-- The value of a field of an event. -/
inductive FieldValue where
  | text (value : String)
  | count (value : Nat)
  | key (name : KeyName)
  deriving DecidableEq, Repr

/-- An event as it is written down. -/
structure EventRecord where
  component : String
  name : String
  level : Level
  fields : List (String × FieldValue)
  deriving DecidableEq, Repr

/-- The parts that a stop shuts down one after the other. -/
inductive StopStep where
  | broker
  | sink
  | source
  deriving DecidableEq, Repr

/-- The word for a part in events. -/
def StopStep.word : StopStep → String
  | .broker => "broker"
  | .sink => "sink"
  | .source => "source"

/-- What happened. -/
inductive Event where
  /-- A queue's name does not conform, so its topic is the name itself. -/
  | nameTakenVerbatim (queue : String)
  | discoveryStarted (owner kind : String)
  | discoveryDone (owner : String) (queues : Nat)
  | discoveryFailed (owner kind : String) (failure : CatalogFailure)
  | queueRepeated (queue : String)
  | routeRegistered (route : String) (topics : List String)
  | routesRegistered (routes topics : Nat)
  | routeStopped (route : String)
  | topicUnknown (topic : String)
  | activationStarted (topic route : String)
  | activationDone (topic route : String)
  | activationNeedless (route : String)
  | activationRefused (topic route : String)
  | activationFailed (topic route : String) (failure : TransportFailure)
  | messageReceived (route messageId payload : String)
  /-- A message that cannot be written is dropped. -/
  | conversionFailed (route messageId reason : String)
  | messageSent (route messageId topic : String)
  | messageNotSent (route messageId topic : String) (failure : TransportFailure)
  | receiveFailed (route : String) (backoff : Nat) (failure : TransportFailure)
  | queueClosed (route : String)
  | relayStopped (route : String)
  | authenticated (principal : String)
  | notAuthenticated (principal : String) (failure : IdentityFailure)
  | denied (principal : String) (action : Action) (reason : Denial)
  | starting (owner kind : String)
  | principalResolved (principal : String)
  | keyIssued (principal : String) (key : KeyName)
  | started (routes : Nat) (principal : String)
  | startFailed (failure : StartFailure)
  | stopping
  /-- A stop found nothing to stop. -/
  | notRunning
  | stopStepFailed (step : StopStep) (message : String)
  | stopped
  deriving DecidableEq, Repr

namespace Event

/-- A text field. -/
def field (name value : String) : String × FieldValue := (name, .text value)

/-- A numeric field. -/
def countField (name : String) (value : Nat) : String × FieldValue := (name, .count value)

/-- The field of a failure's text. -/
def failureField {ε : Type} [Reported ε] (failure : ε) : String × FieldValue :=
  field "err" (Reported.describe failure)

/-- The text of the nearest cause of a failure, empty if it has none. -/
def causeText {ε : Type} [Reported ε] (failure : ε) : String :=
  (Reported.causes failure).headD ""

/-- How an event is written down. -/
def record : Event → EventRecord
  | .nameTakenVerbatim queue =>
    ⟨"naming", "naming_fallback_verbatim", .info,
      [field "queue" queue, field "reason" "pattern_mismatch"]⟩
  | .discoveryStarted owner kind =>
    ⟨"queue_catalog", "discovery_start", .info, [field "owner" owner, field "kind" kind]⟩
  | .discoveryDone owner queues =>
    ⟨"queue_catalog", "discovery_ok", .info,
      [field "owner" owner, countField "queue_count" queues]⟩
  | .discoveryFailed owner kind failure =>
    ⟨"queue_catalog", "discovery_failed", .error,
      [field "owner" owner, field "kind" kind, failureField failure]⟩
  | .queueRepeated queue =>
    ⟨"queue_catalog", "discovery_duplicate_queue", .warn, [field "queue" queue]⟩
  | .routeRegistered route topics =>
    ⟨"route_registry", "route_registered", .debug,
      [field "route_id" route, field "topics" (String.intercalate "," topics)]⟩
  | .routesRegistered routes topics =>
    ⟨"route_registry", "registry_build_ok", .info,
      [countField "route_count" routes, countField "topic_count" topics]⟩
  | .routeStopped route =>
    ⟨"route_registry", "route_stop", .info, [field "route_id" route]⟩
  | .topicUnknown topic =>
    ⟨"route_activation", "route_not_found", .warn, [field "topic" topic]⟩
  | .activationStarted topic route =>
    ⟨"route_activation", "route_activate_start", .debug,
      [field "topic" topic, field "route_id" route]⟩
  | .activationDone topic route =>
    ⟨"route_activation", "route_activate_ok", .info,
      [field "topic" topic, field "route_id" route]⟩
  | .activationNeedless route =>
    ⟨"route_activation", "route_activate_noop", .debug,
      [field "route_id" route, field "reason" "already_started"]⟩
  | .activationRefused topic route =>
    ⟨"route_activation", "route_activate_rejected_shutdown", .info,
      [field "topic" topic, field "route_id" route]⟩
  | .activationFailed topic route failure =>
    ⟨"route_activation", "route_activate_failed", .warn,
      [field "topic" topic, field "route_id" route, failureField failure]⟩
  | .messageReceived route messageId payload =>
    ⟨"relay_worker", "relay_receive", .debug,
      [field "route_id" route, field "msg_id" messageId, field "payload" payload]⟩
  | .conversionFailed route messageId reason =>
    ⟨"relay_worker", "relay_convert_failed", .warn,
      [field "route_id" route, field "msg_id" messageId, field "err" reason]⟩
  | .messageSent route messageId topic =>
    ⟨"relay_worker", "relay_send_ok", .debug,
      [field "route_id" route, field "msg_id" messageId, field "topic" topic]⟩
  | .messageNotSent route messageId topic failure =>
    ⟨"relay_worker", "relay_send_failed", .warn,
      [field "route_id" route, field "msg_id" messageId, field "topic" topic,
        failureField failure]⟩
  | .receiveFailed route backoff failure =>
    ⟨"relay_worker", "relay_source_failed", .warn,
      [field "route_id" route, countField "backoff_ms" backoff, failureField failure]⟩
  | .queueClosed route =>
    ⟨"relay_worker", "relay_source_closed", .info, [field "route_id" route]⟩
  | .relayStopped route =>
    ⟨"relay_worker", "relay_stopped", .info,
      [field "route_id" route, field "reason" "shutdown_signal"]⟩
  | .authenticated principal =>
    ⟨"access_gate", "authenticate_ok", .debug, [field "principal" principal]⟩
  | .notAuthenticated principal failure =>
    ⟨"access_gate", "authenticate_failed", .warn,
      [field "principal" principal, failureField failure]⟩
  | .denied principal action reason =>
    ⟨"access_gate", "authorize_denied", .info,
      [field "principal" principal, field "action" action.word, field "reason" reason.word]⟩
  | .starting owner kind =>
    ⟨"bridge", "bridge_start", .info, [field "owner" owner, field "kind" kind]⟩
  | .principalResolved principal =>
    ⟨"bridge", "service_principal_resolved", .info, [field "principal" principal]⟩
  | .keyIssued principal key =>
    ⟨"bridge", "service_key_issued", .info,
      [field "principal" principal, ("key_name", .key key)]⟩
  | .started routes principal =>
    ⟨"bridge", "bridge_start_ok", .info,
      [countField "route_count" routes, field "service_principal" principal]⟩
  | .startFailed failure =>
    ⟨"bridge", "bridge_start_failed", .error,
      [failureField failure, field "cause" (causeText failure)]⟩
  | .stopping => ⟨"bridge", "bridge_stop", .info, []⟩
  | .notRunning => ⟨"bridge", "bridge_stop", .debug, []⟩
  | .stopStepFailed step message =>
    ⟨"bridge", "bridge_stop_step_failed", .warn,
      [field "step" step.word, field "err" message]⟩
  | .stopped => ⟨"bridge", "bridge_stop_ok", .info, []⟩

end Event

end TopicRelay
