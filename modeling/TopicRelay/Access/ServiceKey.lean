import TopicRelay.Access.Principal
import TopicRelay.Text.Lowercase
import TopicRelay.Text.Quoted
import TopicRelay.Time.Calendar

/-!
# Service credentials

The key under which the bridge connects to its own broker.  A key's name is made of the
application's prefix in lower case and of the millisecond of its issue, and it is valid
for some calendar months.
-/

namespace TopicRelay

set_option autoImplicit false

/-- The name of a service key: a stem that stands for the application, and the millisecond
in which the key was issued. -/
structure KeyName where
  stem : String
  issued : Int
  deriving DecidableEq, Repr

namespace KeyName

/-- What every stem ends in. -/
def mark : String := "_bridge_invm_"

/-- An integer in decimal digits. -/
def decimal (value : Int) : String :=
  (if value < 0 then "-" else "") ++ String.ofList (Nat.toDigits 10 value.natAbs)

/-- The name as it is stored. -/
def toText (name : KeyName) : String := name.stem ++ decimal name.issued

end KeyName

/-- A key issued to the bridge itself. -/
structure ServiceCredential where
  principal : String
  keyName : KeyName
  secret : Secret
  issuedAt : Instant
  expiresAt : Instant
  deriving DecidableEq, Repr

namespace ServiceCredential

/-- A key issued at an instant for some months, or to the end of time if they go beyond it. -/
def issue (principal appPrefix : String) (months : Nat) (now : Instant) (serial : Nat) :
    ServiceCredential where
  principal := principal
  keyName := ⟨Text.lowercase appPrefix ++ KeyName.mark, now.milliseconds⟩
  secret := .issued serial
  issuedAt := now
  expiresAt := (now.addMonths? months).getD Instant.greatest

/-- The name and the secret of the key. -/
def credential (key : ServiceCredential) : Credential := ⟨key.principal, key.secret⟩

/-- The key as diagnostics show it; the secret stays out. -/
def diagnostic (key : ServiceCredential) : String :=
  "ServiceCredential \x7b principal_name: " ++ Text.quoted key.principal ++ ", key_name: "
    ++ Text.quoted key.keyName.toText ++ ", expires_at: " ++ key.expiresAt.toText ++ ", .. \x7d"

end ServiceCredential

/-- A client's credential as diagnostics show it; the secret stays out. -/
def Credential.diagnostic (credential : Credential) : String :=
  "Credential \x7b principal_name: " ++ Text.quoted credential.principal ++ ", .. \x7d"

end TopicRelay
