import TopicRelay.Access.ServiceKey
import TopicRelay.Failure

/-!
# The directory

A document that names queues, principals and the service principal, together with the
service keys registered since.  It answers the two questions a bridge has: which queues
there are, and whether a name and a secret belong together.

A service key accepts its own principal's name until it expires; otherwise the first row
of a name decides.  A key that is registered under the name of another one replaces it.
-/

namespace TopicRelay

set_option autoImplicit false

/-- A row of the queue catalog. -/
structure QueueRow where
  owner : String
  name : String
  kind : String
  deriving DecidableEq, Repr

/-- A principal with its password. -/
structure PrincipalRow where
  name : String
  password : String
  roles : List String
  deriving DecidableEq, Repr

/-- What a directory is set up from. -/
structure DirectoryDocument where
  servicePrincipal : Option String := none
  queues : List QueueRow := []
  principals : List PrincipalRow := []
  deriving DecidableEq, Repr

/-- A registered service key. -/
structure RegisteredKey where
  principal : String
  secret : Secret
  expiresAt : Instant
  deriving DecidableEq, Repr

/-- A document and the keys registered since, or nothing while it is unavailable. -/
structure Directory where
  document : DirectoryDocument
  keys : Table RegisteredKey := []
  unavailable : Bool := false
  deriving DecidableEq, Repr

/-- Whether a key accepts a name and a secret at an instant. -/
def RegisteredKey.accepts (key : RegisteredKey) (now : Instant) (credential : Credential) :
    Bool :=
  key.principal == credential.principal && key.secret == credential.secret
    && now.isBefore key.expiresAt

namespace Directory

/-! ## The queue catalog -/

/-- The queues of an owner and a kind, each under its full name, in the order of the rows. -/
def listQueues (directory : Directory) (owner kind : String) :
    Except CatalogFailure (List String) :=
  if directory.unavailable then .error ⟨"catalog connection unavailable", []⟩
  else
    let rows := directory.document.queues.filter fun row => row.owner == owner && row.kind == kind
    .ok (rows.map fun row => row.owner ++ "." ++ row.name)

/-- The principal that the bridge acts as. -/
def currentPrincipal (directory : Directory) : Except CatalogFailure String :=
  if directory.unavailable then .error ⟨"catalog connection unavailable", []⟩
  else
    match directory.document.servicePrincipal with
    | some principal => .ok principal
    | none => .error ⟨"catalog document names no service principal", []⟩

/-! ## The identity store -/

/-- What an unavailable identity store answers. -/
def unavailableFailure : IdentityFailure := .unavailable "identity store unavailable"

/-- The first row of a name. -/
def row? (directory : Directory) (name : String) : Option PrincipalRow :=
  directory.document.principals.find? fun row => row.name == name

/-- The roles in the first row of a name; none without a row. -/
def rolesOf (directory : Directory) (name : String) : List String :=
  match directory.row? name with
  | some row => row.roles
  | none => []

/-- The principal that a name and a secret lead to at an instant. -/
def validate (directory : Directory) (now : Instant) (credential : Credential) :
    Except IdentityFailure Principal :=
  if directory.unavailable then .error unavailableFailure
  else if directory.keys.any fun entry => entry.2.accepts now credential then
    .ok ⟨credential.principal, Names.ofList (directory.rolesOf credential.principal)⟩
  else
    match directory.row? credential.principal with
    | some row =>
      if Secret.chosen row.password = credential.secret then
        .ok ⟨row.name, Names.ofList row.roles⟩
      else .error (.invalidSecret credential.principal)
    | none => .error (.unknownPrincipal credential.principal)

/-- Registers a service key under its name. -/
def register (directory : Directory) (key : ServiceCredential) :
    Except IdentityFailure Directory :=
  if directory.unavailable then .error unavailableFailure
  else
    let entry : RegisteredKey := ⟨key.principal, key.secret, key.expiresAt⟩
    .ok { directory with keys := directory.keys.insert key.keyName.toText entry }

/-- The names of the registered keys, in order. -/
def keyNames (directory : Directory) : Names := directory.keys.names

end Directory

end TopicRelay
