import TopicRelay.Access.Directory
import TopicRelay.Event
import TopicRelay.Text.Ascii

/-!
# The access gate

What the broker asks before it lets a client act.  The service principal may send and
administer, and whoever has the consumer role may consume.  Every refusal is reported,
and a name and a secret that do not lead to a principal are refused everything.
-/

namespace TopicRelay

set_option autoImplicit false

/-- Who may send and administer, and the role that may consume. -/
structure Gate where
  servicePrincipal : String
  consumeRole : String
  deriving DecidableEq, Repr

namespace Gate

/-- The reason for denying an action to a client that goes by a name and was found to be a
principal, if there is one. -/
def denial? (gate : Gate) (name : String) (principal : Option Principal) (action : Action) :
    Option Denial :=
  match principal, action with
  | none, _ => some .notAuthenticated
  | some principal, .consume =>
    if principal.hasRole gate.consumeRole then none else some .missingRole
  | some _, .send | some _, .administer =>
    if Text.equalsIgnoringCase name gate.servicePrincipal then none
    else some .notServicePrincipal

/-- Whether a client may act, and the report of a refusal. -/
def authorize (gate : Gate) (name : String) (principal : Option Principal) (action : Action) :
    Bool × List Event :=
  match gate.denial? name principal action with
  | none => (true, [])
  | some reason => (false, [.denied name action reason])

/-- The principal of a credential at an instant, and the report of the attempt. -/
def authenticate (directory : Directory) (now : Instant) (credential : Credential) :
    Except AuthenticationFailure Principal × List Event :=
  match directory.validate now credential with
  | .ok principal => (.ok principal, [.authenticated credential.principal])
  | .error failure =>
    let outcome : AuthenticationFailure :=
      match failure with
      | .unavailable _ => .storeUnavailable failure
      | .unknownPrincipal _ | .invalidSecret _ => .rejected failure
    (.error outcome, [.notAuthenticated credential.principal failure])

/-- Whether a credential leads to a principal that may act. -/
def check (gate : Gate) (directory : Directory) (now : Instant) (credential : Credential)
    (action : Action) : Bool × List Event :=
  match authenticate directory now credential with
  | (.ok principal, events) =>
    let (allowed, more) := gate.authorize credential.principal (some principal) action
    (allowed, events ++ more)
  | (.error _, events) => (false, events)

end Gate

end TopicRelay
