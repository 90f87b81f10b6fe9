import TopicRelay.Proofs.Authorization

/-!
# What a service key is lost to

The name of a key is written from the prefix of the application in lower case, a mark and the
millisecond of its issue.  A prefix may contain the mark, digits and signs, but a number has no
underscore, so the last underscore of a name is where its number begins: the name determines the
prefix and the millisecond (`ServiceCredential.toText_keyName_issue_inj`).

Keys are issued and registered one after the other.  A secret belongs to one of them, so what a
directory answers to the secret depends on whether this key is still stored, and it is lost only to
a later key of the same prefix and millisecond (`Directory.validate_issued_iff`).
-/

namespace TopicRelay

set_option autoImplicit false

/-! ## Numbers in decimal digits -/

namespace KeyName

/-- The sign and the digits of a number, as characters. -/
theorem toList_decimal (value : Int) :
    (decimal value).toList =
      (if value < 0 then ['-'] else []) ++ Nat.toDigits 10 value.natAbs := by
  rw [decimal, String.toList_append, String.toList_ofList]
  split <;> rfl

theorem not_mem_toDigits {char : Char} (other : char.isDigit = false) (value : Nat) :
    char ∉ Nat.toDigits 10 value := by
  intro among
  rw [Nat.isDigit_of_mem_toDigits (by decide) (by decide) among] at other
  cases other

/-- A number is written without an underscore. -/
theorem underscore_not_mem_decimal (value : Int) : '_' ∉ (decimal value).toList := by
  rw [toList_decimal, List.mem_append, not_or]
  refine ⟨?_, not_mem_toDigits rfl _⟩
  split <;> decide

theorem natAbs_eq_of_toDigits {left right : Int}
    (same : Nat.toDigits 10 left.natAbs = Nat.toDigits 10 right.natAbs) :
    left.natAbs = right.natAbs := by
  simpa using congrArg (fun digits => Nat.ofDigitChars 10 digits 0) same

/-- Different numbers are written differently. -/
theorem decimal_inj {left right : Int} : decimal left = decimal right ↔ left = right := by
  refine ⟨fun same => ?_, congrArg decimal⟩
  have written := congrArg String.toList same
  rw [toList_decimal, toList_decimal] at written
  -- A digit is no sign, so a number with a sign is not one without.
  have signed : ∀ {value other : Int},
      Nat.toDigits 10 value.natAbs ≠ '-' :: Nat.toDigits 10 other.natAbs := by
    intro value other equal
    exact not_mem_toDigits rfl value.natAbs (equal ▸ List.mem_cons_self ..)
  by_cases below : left < 0 <;> by_cases under : right < 0
  · rw [if_pos below, if_pos under] at written
    have := natAbs_eq_of_toDigits (List.append_cancel_left written)
    omega
  · rw [if_pos below, if_neg under] at written
    exact absurd written.symm signed
  · rw [if_neg below, if_pos under] at written
    exact absurd written signed
  · rw [if_neg below, if_neg under] at written
    have := natAbs_eq_of_toDigits (List.append_cancel_left written)
    omega

end KeyName

/-! ## Names of keys -/

/-- Two texts that are cut at their last separator. -/
theorem append_separator_inj {α : Type} {separator : α} {left right tail rest : List α}
    (lone : separator ∉ tail) (alone : separator ∉ rest) :
    left ++ separator :: tail = right ++ separator :: rest ↔ left = right ∧ tail = rest := by
  constructor
  · intro same
    rcases List.append_eq_append_iff.mp same with ⟨between, whole, cut⟩ | ⟨between, whole, cut⟩
    · cases between with
      | nil => simpa [eq_comm, whole] using cut
      | cons first between =>
          obtain ⟨-, after⟩ := List.cons_eq_cons.mp cut
          exact absurd (by simp [after]) lone
    · cases between with
      | nil => simpa [whole] using cut.symm
      | cons first between =>
          obtain ⟨-, after⟩ := List.cons_eq_cons.mp cut
          exact absurd (by simp [after]) alone
  · rintro ⟨rfl, rfl⟩
    rfl

/-- The number of nanoseconds since the start of 1970. -/
def Instant.nanoseconds (instant : Instant) : Int :=
  instant.seconds * 1000000000 + instant.nanos

/-- Milliseconds are rounded down, also before 1970. -/
theorem Instant.milliseconds_eq (instant : Instant) :
    instant.milliseconds = instant.nanoseconds / 1000000 := by
  rw [milliseconds, nanoseconds]
  omega

/-- **The name of a key determines the prefix in lower case and the millisecond.** -/
theorem ServiceCredential.toText_keyName_issue_inj {principal other : String}
    {appPrefix appOther : String} {months monthsOther : Nat} {now later : Instant}
    {serial serialOther : Nat} :
    (issue principal appPrefix months now serial).keyName.toText =
        (issue other appOther monthsOther later serialOther).keyName.toText ↔
      Text.lowercase appPrefix = Text.lowercase appOther ∧
        now.nanoseconds / 1000000 = later.nanoseconds / 1000000 := by
  have mark : KeyName.mark.toList = "_bridge_invm".toList ++ ['_'] := rfl
  have written : ∀ (principal appPrefix : String) (months : Nat) (now : Instant) (serial : Nat),
      (issue principal appPrefix months now serial).keyName.toText.toList =
        ((Text.lowercase appPrefix).toList ++ "_bridge_invm".toList) ++
          '_' :: (KeyName.decimal now.milliseconds).toList := by
    intro principal appPrefix months now serial
    simp [issue, KeyName.toText, mark]
  rw [← String.toList_inj, written, written,
    append_separator_inj (KeyName.underscore_not_mem_decimal _)
      (KeyName.underscore_not_mem_decimal _),
    List.append_left_inj, String.toList_inj, String.toList_inj, KeyName.decimal_inj,
    Instant.milliseconds_eq, Instant.milliseconds_eq]

/-! ## Issuing and registering keys -/

/-- A key is issued, and the directory is asked to register it while it is available or not. -/
structure Issuance where
  principal : String
  appPrefix : String
  months : Nat
  issuedAt : Instant
  /-- The secret that is drawn for the key. -/
  serial : Nat
  available : Bool
  deriving DecidableEq, Repr

namespace Issuance

/-- The key that is issued. -/
def key (issuance : Issuance) : ServiceCredential :=
  .issue issuance.principal issuance.appPrefix issuance.months issuance.issuedAt issuance.serial

/-- The attempt to register the key. -/
def registration (issuance : Issuance) : Registration := ⟨issuance.key, issuance.available⟩

/-- Two keys were issued for one prefix, up to case, and in one millisecond. -/
def SameSlot (left right : Issuance) : Prop :=
  Text.lowercase left.appPrefix = Text.lowercase right.appPrefix ∧
    left.issuedAt.nanoseconds / 1000000 = right.issuedAt.nanoseconds / 1000000

theorem toText_keyName_eq_iff {left right : Issuance} :
    left.key.keyName.toText = right.key.keyName.toText ↔ left.SameSlot right :=
  ServiceCredential.toText_keyName_issue_inj

/-- No secret is drawn twice. -/
def Distinct (issuances : List Issuance) : Prop :=
  issuances.Pairwise fun left right => left.serial ≠ right.serial

variable {issuances : List Issuance} {issuance other : Issuance}

/-- Of keys with different secrets, only one has a given secret. -/
theorem Distinct.eq_of_serial (distinct : Distinct issuances) {index place : Nat}
    (issued : issuances[index]? = some issuance) (also : issuances[place]? = some other)
    (same : other.serial = issuance.serial) : place = index := by
  obtain ⟨bound, here⟩ := List.getElem?_eq_some_iff.mp issued
  obtain ⟨limit, there⟩ := List.getElem?_eq_some_iff.mp also
  rcases Nat.lt_trichotomy place index with before | equal | after
  · exact absurd (here ▸ there ▸ same)
      (List.pairwise_iff_getElem.mp distinct place index limit bound before)
  · exact equal
  · exact absurd (here ▸ there ▸ same.symm)
      (List.pairwise_iff_getElem.mp distinct index place bound limit after)

/-- A key with the secret of one that was issued is stored exactly if it is the one that was
issued, was registered, and was not replaced since. -/
theorem Distinct.stored_iff (distinct : Distinct issuances) {index : Nat}
    (issued : issuances[index]? = some issuance) {key : ServiceCredential}
    (secret : key.secret = .issued issuance.serial) :
    Registration.Stored (issuances.map registration) key ↔
      key = issuance.key ∧ issuance.available = true ∧
        ∀ other ∈ issuances.drop (index + 1), other.available = true →
          ¬issuance.SameSlot other := by
  constructor
  · rintro ⟨earlier, later, whole, kept⟩
    obtain ⟨before, rest, rfl, rfl, split⟩ := List.map_eq_append_iff.mp whole
    obtain ⟨stored, after, rfl, here, rfl⟩ := List.map_eq_cons_iff.mp split
    obtain ⟨rfl, available⟩ : stored.key = key ∧ stored.available = true := by
      simpa [registration] using here
    -- The secret tells where in the sequence the key was issued.
    obtain rfl : before.length = index := by
      have place : (before ++ stored :: after)[before.length]? = some stored := by simp
      exact distinct.eq_of_serial issued place
        (by simpa [key, ServiceCredential.issue] using secret)
    obtain rfl : stored = issuance := by simpa using issued
    refine ⟨rfl, available, fun other among stays same => ?_⟩
    have next : other ∈ after := by simpa using among
    exact kept other.registration (List.mem_map_of_mem next) stays
      (toText_keyName_eq_iff.mpr same).symm
  · rintro ⟨rfl, available, kept⟩
    obtain ⟨bound, here⟩ := List.getElem?_eq_some_iff.mp issued
    refine ⟨(issuances.take index).map registration, (issuances.drop (index + 1)).map registration,
      ?_, ?_⟩
    · have whole : issuances = issuances.take index ++ issuance :: issuances.drop (index + 1) := by
        rw [← here, List.getElem_cons_drop, List.take_append_drop]
      conv_lhs => rw [whole]
      simp [registration, available]
    · intro _ among stays same
      obtain ⟨other, next, rfl⟩ := List.mem_map.mp among
      exact kept other next stays (toText_keyName_eq_iff.mp same.symm)

end Issuance

/-- Whether a secret proves a name to a directory. -/
def Directory.Proves (directory : Directory) (now : Instant) (name : String) (secret : Secret) :
    Prop :=
  ∃ principal, directory.validate now ⟨name, secret⟩ = .ok principal

/-- **A service key is lost only to a key of the same name.**  The secret of an issued key proves a
name exactly while the directory is available, if the key was registered, the name is the one of its
principal, the key has not expired, and no key of its prefix and millisecond was registered
since.  (No row has such a secret for its password, see `Secret`.)  And the name of a key says which
prefix and millisecond these are. -/
theorem Directory.validate_issued_iff (document : DirectoryDocument) (issuances : List Issuance)
    (distinct : Issuance.Distinct issuances) (unavailable : Bool) (now : Instant) :
    (∀ (index : Nat) (issuance : Issuance) (name : String), issuances[index]? = some issuance →
      (Proves { afterAll document (issuances.map Issuance.registration) with
          unavailable := unavailable } now name issuance.key.secret ↔
        unavailable = false ∧ issuance.available = true ∧ name = issuance.principal ∧
          now.isBefore issuance.key.expiresAt = true ∧
            ∀ later ∈ issuances.drop (index + 1), later.available = true →
              ¬issuance.SameSlot later)) ∧
    ∀ left right : Issuance,
      left.key.keyName.toText = right.key.keyName.toText ↔ left.SameSlot right := by
  refine ⟨fun index issuance name issued => ?_, fun _ _ => Issuance.toText_keyName_eq_iff⟩
  simp only [Proves, validate_afterAll_iff, Credential.Valid]
  constructor
  · rintro ⟨principal, available, ⟨key, stored, named, secret, unexpired⟩ | ⟨row, _, chosen⟩, _⟩
    · obtain ⟨rfl, registered, kept⟩ := (distinct.stored_iff issued secret).mp stored
      exact ⟨available, registered, named.symm, unexpired, kept⟩
    · cases chosen
  · rintro ⟨available, registered, rfl, unexpired, kept⟩
    have stored := (distinct.stored_iff issued rfl).mpr ⟨rfl, registered, kept⟩
    exact ⟨_, available, .inl ⟨_, stored, rfl, rfl, unexpired⟩, rfl⟩

/-- Three keys: the second is issued in the millisecond of the first, before 1970, for the prefix in
another case; the third, whose prefix contains the mark, finds the directory unavailable. -/
def Issuance.renewals : List Issuance :=
  [⟨"relay", "CDA", 3, ⟨-1, 998000001⟩, 0, true⟩, ⟨"relay", "cda", 3, ⟨-1, 998999999⟩, 1, true⟩,
    ⟨"relay", "cda_bridge_invm_-2", 3, ⟨-1, 998999999⟩, 2, false⟩]

/-- The second key has taken the place of the first, for its own principal and until it expires. -/
theorem renewed_key_replaces_first :
    Issuance.Distinct Issuance.renewals ∧
      let directory := { Directory.afterAll {} (Issuance.renewals.map Issuance.registration) with
        unavailable := false }
      directory.Proves ⟨0, 0⟩ "relay" (.issued 1) ∧ ¬directory.Proves ⟨0, 0⟩ "Relay" (.issued 1) ∧
        ¬directory.Proves ⟨8000000, 0⟩ "relay" (.issued 1) ∧
          ¬directory.Proves ⟨0, 0⟩ "relay" (.issued 0) ∧
            ¬directory.Proves ⟨0, 0⟩ "relay" (.issued 2) := by
  have distinct : Issuance.Distinct Issuance.renewals := by
    simp [Issuance.Distinct, Issuance.renewals]
  have decided := fun now =>
    (Directory.validate_issued_iff {} Issuance.renewals distinct false now).1
  refine ⟨distinct, ?_, fun proved => ?_, fun proved => ?_, fun proved => ?_, fun proved => ?_⟩
  · refine (decided ⟨0, 0⟩ 1 _ "relay" rfl).mpr ⟨rfl, rfl, rfl, by decide +kernel, ?_⟩
    simp [Issuance.renewals]
  · obtain ⟨_, _, named, _⟩ := (decided ⟨0, 0⟩ 1 _ "Relay" rfl).mp proved
    exact absurd named (by decide)
  · obtain ⟨_, _, _, unexpired, _⟩ := (decided ⟨8000000, 0⟩ 1 _ "relay" rfl).mp proved
    exact absurd unexpired (by decide +kernel)
  · obtain ⟨_, _, _, _, kept⟩ := (decided ⟨0, 0⟩ 0 _ "relay" rfl).mp proved
    exact kept _ (List.mem_cons_self ..) rfl ⟨by decide +kernel, rfl⟩
  · obtain ⟨_, registered, _⟩ := (decided ⟨0, 0⟩ 2 _ "relay" rfl).mp proved
    cases registered

end TopicRelay
