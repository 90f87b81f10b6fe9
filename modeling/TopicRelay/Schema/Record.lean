import TopicRelay.Json.Outline
import TopicRelay.Schema.Mismatch

/-!
# Reading outlines for what is looked for

A `Dialect` says what the values of a notation are called and how natural numbers are read
from it.  On top of it stand readers for texts, bounded numbers, optional values, sequences
and records, each of which walks an outline from left to right and stops at the first
mismatch.

A record is a map from the names of its fields, in any order, each at most once and no other
names; or it is the list of the values of its fields in the order of their declaration.  A
field that is not required may be left out, and then keeps the value that it has in the
record the reading starts from.
-/

namespace TopicRelay

set_option autoImplicit false

/-- How a notation with numbers `ν` and flaws `φ` presents its values. -/
structure Dialect (ν φ : Type) where
  /-- The word for the value that is none. -/
  nothingWord : String
  /-- What a number is where something else is looked for. -/
  findNumber : ν → Except φ Finding
  /-- The natural number below `2 ^ bits` that a number stands for. -/
  readCount : Nat → ν → Except (Mismatch φ) Nat
  /-- The flaw of any other value where a natural number is looked for, if that is one. -/
  notNumber : Option φ
  /-- The flaw of a list with more elements than the record has fields, if that is one. -/
  surplus : Option φ

/-- A reader of values of a type. -/
abbrev Reads (ν φ α : Type) : Type := Outline ν φ → Except (Mismatch φ) α

/-- A field of a record: its name, whether it must be there, and how its value is put into the
record. -/
structure Field (ν φ δ : Type) where
  name : String
  required : Bool
  fill : Outline ν φ → δ → Except (Mismatch φ) δ

/-- A field whose value is read and then set. -/
def Field.of {ν φ α δ : Type} (name : String) (required : Bool) (read : Reads ν φ α)
    (set : α → δ → δ) : Field ν φ δ where
  name := name
  required := required
  fill outline record :=
    match read outline with
    | .ok value => .ok (set value record)
    | .error mismatch => .error mismatch

/-- Reads every item in order. -/
def readEach {ν φ α : Type} (read : Reads ν φ α) :
    List (Outline ν φ) → Except (Mismatch φ) (List α)
  | [] => .ok []
  | item :: items => do
    let value ← read item
    let values ← readEach read items
    return value :: values

/-- The mismatch of a flaw in the place where a list or a map ends, if there is one. -/
def checkEnding {φ : Type} : Option φ → Except (Mismatch φ) Unit
  | none => .ok ()
  | some flaw => .error (.flawed flaw)

/-! ## Records -/

namespace Field

variable {ν φ δ : Type}

/-- Fills a record from members in order, and gives the names that have occurred. -/
def fillMembers (fields : List (Field ν φ δ)) (seen : List String) (record : δ) :
    List (String × Outline ν φ) → Except (Mismatch φ) (List String × δ)
  | [] => .ok (seen, record)
  | (name, value) :: members =>
    match fields.find? fun field => field.name == name with
    | none => .error (.unknownField name (fields.map (·.name)))
    | some field =>
      if seen.contains name then .error (.repeatedField name)
      else
        match field.fill value record with
        | .error mismatch => .error mismatch
        | .ok record => fillMembers fields (name :: seen) record members

/-- The first field that must be there and has not occurred. -/
def missing? (fields : List (Field ν φ δ)) (seen : List String) : Option String :=
  (fields.find? fun field => field.required && !seen.contains field.name).map (·.name)

/-- Fills a record from a map. -/
def fillMap (fields : List (Field ν φ δ)) (record : δ) (members : List (String × Outline ν φ))
    (ending : Option φ) : Except (Mismatch φ) δ := do
  let (seen, record) ← fillMembers fields [] record members
  checkEnding ending
  match missing? fields seen with
  | some name => .error (.missingField name)
  | none => return record

/-- Fills a record from a list, whose item at `position` belongs to the first of the fields. -/
def fillList (surplus : Option φ) (title : String) (total position : Nat)
    (ending : Option φ) (record : δ) :
    List (Field ν φ δ) → List (Outline ν φ) → Except (Mismatch φ) δ
  | [], [] => do
    checkEnding ending
    return record
  | [], _ :: _ => do
    checkEnding surplus
    return record
  | field :: fields, item :: items =>
    match field.fill item record with
    | .error mismatch => .error mismatch
    | .ok record => fillList surplus title total (position + 1) ending record fields items
  | field :: fields, [] => do
    checkEnding ending
    if field.required then .error (.tooShort position title total)
    else fillList surplus title total (position + 1) ending record fields []

end Field

/-! ## Readers -/

namespace Dialect

variable {ν φ α δ : Type}

/-- The mismatch of a value where something else is looked for. -/
def misplaced (dialect : Dialect ν φ) (expected : String) : Outline ν φ → Mismatch φ
  | .null => .misplaced (.nothing dialect.nothingWord) expected
  | .boolean value => .misplaced (.boolean value) expected
  | .number value =>
    match dialect.findNumber value with
    | .ok found => .misplaced found expected
    | .error flaw => .flawed flaw
  | .text value => .misplaced (.text value) expected
  | .array _ _ => .misplaced .sequence expected
  | .object _ _ => .misplaced .map expected
  | .broken flaw => .flawed flaw

/-- Reads a text. -/
def text (dialect : Dialect ν φ) : Reads ν φ String
  | .text value => .ok value
  | outline => .error (dialect.misplaced "a string" outline)

/-- What a natural number below `2 ^ bits` is called in messages. -/
def countTitle (bits : Nat) : String := "u" ++ toString bits

/-- Reads a natural number below `2 ^ bits`. -/
def count (dialect : Dialect ν φ) (bits : Nat) : Reads ν φ Nat
  | .number value => dialect.readCount bits value
  | outline =>
    match dialect.notNumber with
    | some flaw => .error (.flawed flaw)
    | none => .error (dialect.misplaced (countTitle bits) outline)

/-- Reads what may be none. -/
def optional (_ : Dialect ν φ) (read : Reads ν φ α) : Reads ν φ (Option α)
  | .null => .ok none
  | outline => (read outline).map some

/-- Reads a sequence. -/
def sequence (dialect : Dialect ν φ) (read : Reads ν φ α) : Reads ν φ (List α)
  | .array items ending => do
    let values ← readEach read items
    checkEnding ending
    return values
  | outline => .error (dialect.misplaced "a sequence" outline)

/-- Reads a record, starting from a record that holds what fields keep if they are left out. -/
def record (dialect : Dialect ν φ) (title : String) (fields : List (Field ν φ δ)) (start : δ) :
    Reads ν φ δ
  | .object members ending => Field.fillMap fields start members ending
  | .array items ending =>
    Field.fillList dialect.surplus title fields.length 0 ending start fields items
  | outline => .error (dialect.misplaced (recordTitle title) outline)

end Dialect

end TopicRelay
