import TopicRelay.Table

/-!
# Principals, secrets and actions

Who a client is, what proves it, and what a client may ask the broker for.
-/

namespace TopicRelay

set_option autoImplicit false

/-- What a client presents to prove its name.  A secret that was issued is known by its
serial number; it differs from every other issued secret and from every chosen one. -/
inductive Secret where
  | chosen (content : String)
  | issued (serial : Nat)
  deriving DecidableEq, Repr

/-- A name and the secret that is meant to prove it. -/
structure Credential where
  principal : String
  secret : Secret
  deriving DecidableEq, Repr

/-- A named client and its roles. -/
structure Principal where
  name : String
  roles : Names
  deriving DecidableEq, Repr

/-- Whether a principal has a role. -/
def Principal.hasRole (principal : Principal) (role : String) : Bool :=
  principal.roles.contains role

/-- What a client may ask the broker for. -/
inductive Action where
  | consume
  | send
  | administer
  deriving DecidableEq, Repr

/-- The word for an action in events. -/
def Action.word : Action → String
  | .consume => "consume"
  | .send => "send"
  | .administer => "administer"

/-- Why an action is denied. -/
inductive Denial where
  | notAuthenticated
  | notServicePrincipal
  | missingRole
  deriving DecidableEq, Repr

/-- The word for a denial in events. -/
def Denial.word : Denial → String
  | .notAuthenticated => "not_authenticated"
  | .notServicePrincipal => "not_service_principal"
  | .missingRole => "missing_role"

end TopicRelay
