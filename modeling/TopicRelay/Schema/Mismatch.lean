import TopicRelay.Text.Quoted

/-!
# Mismatches

Why a text does not denote what is looked for: it is not well formed, it holds a value of
another kind, or the members of a record are not the ones that the record has.
`Mismatch.message` is the text such a fault is reported with.
-/

namespace TopicRelay

set_option autoImplicit false

/-- What stands in a text, as far as it matters where something else is looked for. -/
inductive Finding where
  /-- The value that is none, under the word that it goes by. -/
  | nothing (word : String)
  | boolean (value : Bool)
  | integer (value : Int)
  /-- A number that is not an integer, as it is shown. -/
  | real (shown : String)
  | text (value : String)
  | sequence
  | map
  deriving DecidableEq, Repr

/-- Why a text does not denote what is looked for; `φ` says how a text may be flawed in
itself. -/
inductive Mismatch (φ : Type) where
  | flawed (flaw : φ)
  /-- A value of another kind. -/
  | misplaced (found : Finding) (expected : String)
  /-- An integer that is too small or too large. -/
  | outOfRange (value : Int) (expected : String)
  /-- A list with too few elements for the record it stands for. -/
  | tooShort (length : Nat) (title : String) (elements : Nat)
  | unknownField (name : String) (known : List String)
  | missingField (name : String)
  | repeatedField (name : String)
  deriving DecidableEq, Repr

/-- A word between the marks that set it off in messages. -/
def marked (word : String) : String := "`" ++ word ++ "`"

/-- The value as messages show it. -/
def Finding.describe : Finding → String
  | .nothing word => word
  | .boolean value => "boolean " ++ marked (if value then "true" else "false")
  | .integer value => "integer " ++ marked (toString value)
  | .real shown => "floating point " ++ marked shown
  | .text value => "string " ++ Text.quoted value
  | .sequence => "sequence"
  | .map => "map"

/-- What a record is called in messages. -/
def recordTitle (title : String) : String := "struct " ++ title

namespace Mismatch

/-- The known names, as a choice of one, of two or of several. -/
def choice : List String → String
  | [] => "there are no fields"
  | [name] => "expected " ++ marked name
  | [first, second] => "expected " ++ marked first ++ " or " ++ marked second
  | names => "expected one of " ++ String.intercalate ", " (names.map marked)

/-- The text that the fault is reported with, given the texts of flaws. -/
def message {φ : Type} (flawText : φ → String) : Mismatch φ → String
  | .flawed flaw => flawText flaw
  | .misplaced found expected =>
    "invalid type: " ++ found.describe ++ ", expected " ++ expected
  | .outOfRange value expected =>
    "invalid value: " ++ (Finding.integer value).describe ++ ", expected " ++ expected
  | .tooShort length title elements =>
    "invalid length " ++ toString length ++ ", expected " ++ recordTitle title ++ " with "
      ++ toString elements ++ (if elements = 1 then " element" else " elements")
  | .unknownField name known => "unknown field " ++ marked name ++ ", " ++ choice known
  | .missingField name => "missing field " ++ marked name
  | .repeatedField name => "duplicate field " ++ marked name

end Mismatch

end TopicRelay
