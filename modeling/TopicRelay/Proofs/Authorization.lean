import Mathlib.Data.List.Forall2
import TopicRelay.Bridge.State
import TopicRelay.Proofs.Registrations

/-!
# Who may act

A client that asks the broker for something is looked up among the stored keys and among the
rows of the document, and then judged by the gate: the service principal may send and administer,
whatever the case of its letters, and whoever has the role of consumers may consume.  Names are
compared exactly in the directory, and only the first row of a name counts.

`Broker.authorize_installed_iff` says for every document, every sequence of registrations and
every gate exactly who is let in, in terms of the attempts and the rows alone.
-/

namespace TopicRelay

set_option autoImplicit false

/-! ## Equal up to case -/

namespace Text

/-- Two characters are equal, or the two cases of one of the letters A to Z. -/
def SameLetter (left right : Char) : Prop :=
  left = right ∨ ∃ place < 26,
    left.toNat = 'A'.toNat + place ∧ right.toNat = 'a'.toNat + place ∨
      left.toNat = 'a'.toNat + place ∧ right.toNat = 'A'.toNat + place

/-- Two texts have the same letters in each place, apart from the case of A to Z. -/
def SameUpToCase (left right : String) : Prop :=
  List.Forall₂ SameLetter left.toList right.toList

theorem toNat_toLower (char : Char) :
    char.toLower.toNat =
      if 'A'.toNat ≤ char.toNat ∧ char.toNat ≤ 'Z'.toNat then char.toNat + 32 else char.toNat := by
  unfold Char.toLower
  have bounds : (char.val ≥ 'A'.val ∧ char.val ≤ 'Z'.val) ↔
      'A'.toNat ≤ char.toNat ∧ char.toNat ≤ 'Z'.toNat := by
    simp only [ge_iff_le, UInt32.le_iff_toNat_le, Char.toNat]
  by_cases upper : char.val ≥ 'A'.val ∧ char.val ≤ 'Z'.val
  · have small : char.val.toNat ≤ 90 := UInt32.le_iff_toNat_le.mp upper.2
    rw [dif_pos upper, if_pos (bounds.mp upper), Char.toNat, UInt32.toNat_add]
    exact Nat.mod_eq_of_lt (show char.val.toNat + 32 < 2 ^ 32 by omega)
  · rw [dif_neg upper, if_neg (mt bounds.mpr upper)]

theorem toLower_eq_iff {left right : Char} :
    left.toLower = right.toLower ↔ SameLetter left right := by
  have upper : 'A'.toNat = 65 := rfl
  have lower : 'a'.toNat = 97 := rfl
  have last : 'Z'.toNat = 90 := rfl
  rw [SameLetter, ← Char.toNat_inj, ← Char.toNat_inj, toNat_toLower, toNat_toLower, upper, lower,
    last]
  constructor
  · intro same
    by_cases equal : left.toNat = right.toNat
    · exact .inl equal
    · split at same <;> split at same
      · omega
      · exact .inr ⟨left.toNat - 65, by omega, .inl (by omega)⟩
      · exact .inr ⟨right.toNat - 65, by omega, .inr (by omega)⟩
      · omega
  · rintro (equal | ⟨place, small, ⟨first, second⟩ | ⟨first, second⟩⟩) <;>
      split <;> split <;> omega

theorem equalsIgnoringCase_iff_sameUpToCase {left right : String} :
    equalsIgnoringCase left right = true ↔ SameUpToCase left right := by
  rw [equalsIgnoringCase_iff, foldCase, foldCase, SameUpToCase, ← List.forall₂_eq_eq_eq]
  simp only [List.forall₂_map_left_iff, List.forall₂_map_right_iff, toLower_eq_iff]

end Text

/-! ## Looking up clients -/

/-- The first row of a name in a document. -/
def DirectoryDocument.FirstRow (document : DirectoryDocument) (name : String)
    (row : PrincipalRow) : Prop :=
  ∃ earlier later, document.principals = earlier ++ row :: later ∧ row.name = name ∧
    ∀ other ∈ earlier, other.name ≠ name

/-- A name and its secret belong together: by a stored key that has not expired, or by the
password in the first row of the name. -/
def Credential.Valid (credential : Credential) (document : DirectoryDocument)
    (attempts : List Registration) (now : Instant) : Prop :=
  (∃ key, Registration.Stored attempts key ∧ key.principal = credential.principal ∧
      key.secret = credential.secret ∧ now.isBefore key.expiresAt = true) ∨
    ∃ row, document.FirstRow credential.principal row ∧ .chosen row.password = credential.secret

theorem DirectoryDocument.FirstRow.named {document : DirectoryDocument} {name : String}
    {row : PrincipalRow} (first : document.FirstRow name row) : row.name = name := by
  obtain ⟨_, _, _, named, _⟩ := first
  exact named

theorem RegisteredKey.accepts_iff {key : RegisteredKey} {now : Instant} {credential : Credential} :
    key.accepts now credential = true ↔ key.principal = credential.principal ∧
      key.secret = credential.secret ∧ now.isBefore key.expiresAt = true := by
  simp [RegisteredKey.accepts, and_assoc]

namespace Directory

theorem row?_eq_some_iff {directory : Directory} {name : String} {row : PrincipalRow} :
    directory.row? name = some row ↔ directory.document.FirstRow name row := by
  rw [row?, List.find?_eq_some_iff_append, DirectoryDocument.FirstRow]
  constructor
  · rintro ⟨named, earlier, later, whole, others⟩
    exact ⟨earlier, later, whole, by simpa using named, by simpa using others⟩
  · rintro ⟨earlier, later, whole, named, others⟩
    exact ⟨by simpa using named, earlier, later, whole, by simpa using others⟩

/-- A principal is found where the directory is available and the name and the secret belong
together; its roles are those of the first row, whichever way it was found. -/
theorem validate_eq_ok_iff {directory : Directory} {now : Instant} {credential : Credential}
    {principal : Principal} :
    directory.validate now credential = .ok principal ↔
      directory.unavailable = false ∧
      ((∃ entry ∈ directory.keys, entry.2.accepts now credential = true) ∨
        ∃ row, directory.row? credential.principal = some row ∧
          .chosen row.password = credential.secret) ∧
      principal =
        ⟨credential.principal, Names.ofList (directory.rolesOf credential.principal)⟩ := by
  rw [validate]
  cases unavailable : directory.unavailable
  case true => simp [unavailableFailure]
  case false =>
    rw [if_neg Bool.false_ne_true]
    by_cases accepted : directory.keys.any fun entry => entry.2.accepts now credential
    · have known := List.any_eq_true.mp accepted
      rw [if_pos accepted, Except.ok.injEq]
      exact ⟨fun same => ⟨rfl, .inl known, same.symm⟩, fun found => found.2.2.symm⟩
    · have unknown : ¬∃ entry ∈ directory.keys, entry.2.accepts now credential = true :=
        fun known => accepted (List.any_eq_true.mpr known)
      rw [if_neg accepted, rolesOf]
      cases found : directory.row? credential.principal with
      | none => simp [unknown]
      | some row =>
          have named : row.name = credential.principal := (row?_eq_some_iff.mp found).named
          by_cases fits : Secret.chosen row.password = credential.secret
          · simp only [if_pos fits, Except.ok.injEq, named]
            exact ⟨fun same => ⟨trivial, .inr ⟨row, rfl, fits⟩, same.symm⟩,
              fun found => found.2.2.symm⟩
          · simp [unknown, fits]

/-- Some key of a directory accepts a credential where one that is stored does. -/
theorem accepts_afterAll_iff {document : DirectoryDocument} {attempts : List Registration}
    {now : Instant} {credential : Credential} :
    (∃ entry ∈ (afterAll document attempts).keys, entry.2.accepts now credential = true) ↔
      ∃ key, Registration.Stored attempts key ∧ key.principal = credential.principal ∧
        key.secret = credential.secret ∧ now.isBefore key.expiresAt = true := by
  simp only [mem_keys_afterAll]
  constructor
  · rintro ⟨_, ⟨key, stored, rfl⟩, accepted⟩
    exact ⟨key, stored, RegisteredKey.accepts_iff.mp accepted⟩
  · rintro ⟨key, stored, accepted⟩
    exact ⟨_, ⟨key, stored, rfl⟩, RegisteredKey.accepts_iff.mpr accepted⟩

theorem row?_afterAll (document : DirectoryDocument) (attempts : List Registration)
    {name : String} {row : PrincipalRow} :
    (afterAll document attempts).row? name = some row ↔ document.FirstRow name row := by
  rw [row?_eq_some_iff, document_afterAll]

/-- The credentials that a directory validates are the valid ones, while it is available. -/
theorem validate_afterAll_iff {document : DirectoryDocument} {attempts : List Registration}
    {unavailable : Bool} {now : Instant} {credential : Credential} {principal : Principal} :
    ({ afterAll document attempts with unavailable := unavailable }).validate now credential =
        .ok principal ↔
      unavailable = false ∧ credential.Valid document attempts now ∧
      principal = ⟨credential.principal,
        Names.ofList ((afterAll document attempts).rolesOf credential.principal)⟩ := by
  rw [validate_eq_ok_iff, Credential.Valid, ← accepts_afterAll_iff]
  simp only [← row?_afterAll document attempts]
  exact Iff.rfl

/-- The roles of a name are those that its first row lists. -/
theorem mem_rolesOf_iff {directory : Directory} {name role : String} :
    role ∈ directory.rolesOf name ↔
      ∃ row, directory.document.FirstRow name row ∧ role ∈ row.roles := by
  simp only [← row?_eq_some_iff, rolesOf]
  cases directory.row? name <;> simp

end Directory

/-! ## The decision -/

namespace Gate

/-- Whom the gate lets do what, once the name of a client is proved. -/
def Permits (gate : Gate) (document : DirectoryDocument) (name : String) : Action → Prop
  | .consume => ∃ row, document.FirstRow name row ∧ gate.consumeRole ∈ row.roles
  | .send | .administer => Text.SameUpToCase name gate.servicePrincipal

/-- A check grants what is not denied to the principal that is found. -/
theorem check_iff {gate : Gate} {directory : Directory} {now : Instant} {credential : Credential}
    {action : Action} :
    (gate.check directory now credential action).1 = true ↔
      ∃ principal, directory.validate now credential = .ok principal ∧
        gate.denial? credential.principal (some principal) action = none := by
  rw [check, authenticate]
  cases directory.validate now credential with
  | error failure => simp
  | ok principal =>
      simp only [authorize, Except.ok.injEq, exists_eq_left']
      cases gate.denial? credential.principal (some principal) action <;> simp

/-- Nobody but the service principal is granted anything except to consume. -/
theorem sameUpToCase_of_check {gate : Gate} {directory : Directory} {now : Instant}
    {credential : Credential} {action : Action} (granted :
      (gate.check directory now credential action).1 = true) (owner : action ≠ .consume) :
    Text.SameUpToCase credential.principal gate.servicePrincipal := by
  obtain ⟨principal, _, allowed⟩ := check_iff.mp granted
  rw [← Text.equalsIgnoringCase_iff_sameUpToCase]
  cases action with
  | consume => exact absurd rfl owner
  | send | administer => simpa [denial?] using allowed

theorem denial?_eq_none_iff {gate : Gate} {directory : Directory} {name : String}
    {action : Action} :
    gate.denial? name (some ⟨name, Names.ofList (directory.rolesOf name)⟩) action = none ↔
      gate.Permits directory.document name action := by
  cases action with
  | consume =>
      have role : Principal.hasRole ⟨name, Names.ofList (directory.rolesOf name)⟩
          gate.consumeRole = true ↔ gate.Permits directory.document name .consume := by
        rw [Principal.hasRole, List.contains_iff_mem, Names.mem_ofList, Directory.mem_rolesOf_iff,
          Permits]
      simp [denial?, ← role]
  | send | administer =>
      simp [denial?, Permits, Text.equalsIgnoringCase_iff_sameUpToCase]

end Gate

/-- **Who may act.**  Once a gate is installed, exactly those may act whose name and secret
belong together while the directory is available, and whom the gate permits the action; and in
every state only the service principal may send or administer. -/
theorem Broker.authorize_installed_iff (document : DirectoryDocument)
    (attempts : List Registration) (unavailable : Bool) (broker : Broker) (gate : Gate)
    (run : RunId) (now : Instant) (credential : Credential) (action : Action) :
    (((broker.install ⟨gate, run⟩).authorize
          { Directory.afterAll document attempts with unavailable := unavailable }
          now credential action).1 = true ↔
        unavailable = false ∧ credential.Valid document attempts now ∧
          gate.Permits document credential.principal action) ∧
      ∀ (state : State) (instant : Instant) (other : Credential) (deed : Action),
        (state.broker.authorize state.directory instant other deed).1 = true → deed ≠ .consume →
        ∃ hooks, state.broker.hooks = some hooks ∧
          Text.SameUpToCase other.principal hooks.gate.servicePrincipal := by
  constructor
  · rw [authorize, install]
    dsimp only
    rw [Gate.check_iff]
    constructor
    · rintro ⟨principal, validated, allowed⟩
      obtain ⟨available, valid, rfl⟩ := Directory.validate_afterAll_iff.mp validated
      rw [Gate.denial?_eq_none_iff, Directory.document_afterAll] at allowed
      exact ⟨available, valid, allowed⟩
    · rintro ⟨available, valid, permitted⟩
      refine ⟨_, Directory.validate_afterAll_iff.mpr ⟨available, valid, rfl⟩, ?_⟩
      rwa [Gate.denial?_eq_none_iff, Directory.document_afterAll]
  · intro state instant other deed granted owner
    rw [authorize] at granted
    cases installed : state.broker.hooks with
    | none => simp [installed] at granted
    | some hooks =>
        rw [installed] at granted
        exact ⟨hooks, rfl, Gate.sameUpToCase_of_check granted owner⟩

/-- A document with two rows of one name, of which only the second lists a role. -/
def DirectoryDocument.namesakes : DirectoryDocument where
  principals := [⟨"ann", "first", []⟩, ⟨"ann", "second", ["users"]⟩, ⟨"bob", "third", ["users"]⟩]

/-- Two keys of one name are registered one after the other. -/
def Registration.renewal : List Registration :=
  [⟨⟨"relay", ⟨"key", 1⟩, .issued 0, ⟨0, 0⟩, ⟨9, 0⟩⟩, true⟩,
    ⟨⟨"relay", ⟨"key", 1⟩, .issued 1, ⟨1, 0⟩, ⟨9, 0⟩⟩, true⟩]

/-- The renewed key may send, for a service principal that is written in capitals; the key that it
replaces is no longer valid.  Of two rows of a name the second proves nothing. -/
theorem renewed_key_may_send :
    Credential.Valid ⟨"relay", .issued 1⟩ .namesakes Registration.renewal ⟨2, 0⟩ ∧
      ¬Credential.Valid ⟨"relay", .issued 0⟩ .namesakes Registration.renewal ⟨2, 0⟩ ∧
      ¬Credential.Valid ⟨"ann", .chosen "second"⟩ .namesakes Registration.renewal ⟨2, 0⟩ ∧
      Text.SameUpToCase "relay" "RELAY" := by
  let gate : Gate := ⟨"RELAY", "users"⟩
  have decided := fun credential action =>
    Broker.authorize_installed_iff .namesakes Registration.renewal false {} gate 0 ⟨2, 0⟩ credential
      action
  obtain ⟨-, valid, permitted⟩ := (decided ⟨"relay", .issued 1⟩ .send).1.mp (by decide +kernel)
  refine ⟨valid, fun replaced => ?_, fun second => ?_, ?_⟩
  · have granted := (decided ⟨"relay", .issued 0⟩ .send).1.mpr ⟨rfl, replaced, permitted⟩
    exact absurd granted (by decide +kernel)
  · have authenticated : (Directory.afterAll .namesakes Registration.renewal).validate ⟨2, 0⟩
        ⟨"ann", .chosen "second"⟩ = .ok ⟨"ann", []⟩ :=
      Directory.validate_afterAll_iff.mpr ⟨rfl, second, rfl⟩
    exact absurd authenticated (by decide +kernel)
  · let state : State :=
      { settings := {}, catalog := ⟨.directory, false⟩, now := ⟨2, 0⟩
        directory := .afterAll .namesakes Registration.renewal
        broker := { hooks := some ⟨gate, 0⟩ } }
    obtain ⟨hooks, installed, same⟩ := (decided ⟨"relay", .issued 1⟩ .send).2 state ⟨2, 0⟩
      ⟨"relay", .issued 1⟩ .send (by decide +kernel) (by decide)
    cases installed
    exact same

end TopicRelay
