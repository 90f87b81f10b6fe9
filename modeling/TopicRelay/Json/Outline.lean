import TopicRelay.Json.Value

/-!
# Texts read as far as they go

A text is read from left to right into an `Outline`: the tree of the values it
denotes, cut off at the first place where it is not well formed.  Whoever looks for
values of certain kinds walks the outline in the same order and so meets the first
fault of the text, be it a flaw of the text itself or a value of another kind than
the one looked for.

An outline without a flaw is a JSON value (`Outline.complete`), and every JSON value is
an outline (`Outline.ofJson`).  The types of its numbers and of its flaws are parameters,
because notations differ in what a number may look like and in what may go wrong.
-/

namespace TopicRelay

set_option autoImplicit false

/-- Why a text is not well formed. -/
inductive Flaw where
  /-- The text ends where more of it is needed. -/
  | unfinished
  /-- The text goes on in a way that the notation does not have. -/
  | malformed
  deriving DecidableEq, Repr

/-- A text read as far as it goes. -/
inductive Outline (ν φ : Type) where
  | null
  | boolean (value : Bool)
  | number (value : ν)
  | text (value : String)
  /-- The items up to the closing bracket, or up to the flaw that stands in its place. -/
  | array (items : List (Outline ν φ)) (ending : Option φ)
  /-- The members up to the closing brace, or up to the flaw that stands in its place. -/
  | object (members : List (String × Outline ν φ)) (ending : Option φ)
  /-- No value can be read here. -/
  | broken (flaw : φ)

namespace Outline

/-! ## The value of an outline without flaws -/

/-- `value`, unless there is a flaw. -/
def unlessFlawed {α φ : Type} (ending : Option φ) (value : α) : Except φ α :=
  match ending with
  | none => .ok value
  | some flaw => .error flaw

mutual
/-- The value, or the first flaw. -/
def complete : Outline Json.Number Flaw → Except Flaw Json
  | .null => .ok .null
  | .boolean value => .ok (.boolean value)
  | .number value => .ok (.number value)
  | .text value => .ok (.text value)
  | .array items ending => do
    let values ← completeItems items
    unlessFlawed ending (.array values)
  | .object members ending => do
    let values ← completeMembers members
    unlessFlawed ending (Json.record values)
  | .broken flaw => .error flaw

/-- The values of the items, or the first flaw. -/
def completeItems : List (Outline Json.Number Flaw) → Except Flaw (List Json)
  | [] => .ok []
  | item :: items => do
    let value ← complete item
    let values ← completeItems items
    return value :: values

/-- The values of the members, or the first flaw. -/
def completeMembers : List (String × Outline Json.Number Flaw) → Except Flaw (List (String × Json))
  | [] => .ok []
  | (name, item) :: members => do
    let value ← complete item
    let values ← completeMembers members
    return (name, value) :: values
end

/-! ## The outline of a value -/

mutual
/-- The outline of a value. -/
def ofJson : Json → Outline Json.Number Flaw
  | .null => .null
  | .boolean value => .boolean value
  | .number value => .number value
  | .text value => .text value
  | .array items => .array (ofItems items) none
  | .object members => .object (ofMembers members) none

/-- The outlines of several values. -/
def ofItems : List Json → List (Outline Json.Number Flaw)
  | [] => []
  | item :: items => ofJson item :: ofItems items

/-- The outlines of the values of several members. -/
def ofMembers : List (String × Json) → List (String × Outline Json.Number Flaw)
  | [] => []
  | (name, value) :: members => (name, ofJson value) :: ofMembers members
end

end Outline

end TopicRelay
