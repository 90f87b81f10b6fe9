import TopicRelay.Json.Reader
import TopicRelay.Schema.Record

/-!
# Records and other values in JSON texts

JSON as a dialect.  A natural number is written as an integer; numbers that are written as
reals are none, even if they are whole.  `Json.read` reads a whole text for what is looked
for and finds the first fault of the text from the left, whatever kind of fault it is.
-/

namespace TopicRelay

set_option autoImplicit false

namespace Json

/-- What a number is where something else is looked for. -/
def findNumber : Number → Finding
  | .integer value => .integer value
  | .real value => .real value.compactText

/-- The natural number below `2 ^ bits` that a number stands for. -/
def readCount (bits : Nat) : Number → Except (Mismatch Flaw) Nat
  | .integer value =>
    if 0 ≤ value ∧ value.toNat < Nat.pow 2 bits then .ok value.toNat
    else .error (.outOfRange value (Dialect.countTitle bits))
  | .real value => .error (.misplaced (findNumber (.real value)) (Dialect.countTitle bits))

/-- The dialect of JSON texts. -/
def dialect : Dialect Number Flaw where
  nothingWord := "null"
  findNumber value := .ok (findNumber value)
  readCount := readCount
  notNumber := none
  surplus := some .malformed

/-- Reads a whole text for what is looked for. -/
def read {α : Type} (reads : Reads Number Flaw α) (input : List Char) :
    Except (Mismatch Flaw) α := do
  let (outline, ending) := readOutline maxDepth input
  let value ← reads outline
  checkEnding ending
  return value

end Json

end TopicRelay
