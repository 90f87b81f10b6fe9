/-!
# Lists kept in the order of their names

`Names` are sets of texts as strictly increasing lists, and a `Table` holds one value
for each of its names, in the same order.  Inserting keeps the order, so two lists with
the same members are equal.
-/

namespace TopicRelay

set_option autoImplicit false

/-! ## Sets of names -/

/-- A strictly increasing list of texts. -/
abbrev Names : Type := List String

namespace Names

/-- Adds a name unless it is there already. -/
def insert (name : String) : Names → Names
  | [] => [name]
  | other :: names =>
    if name < other then name :: other :: names
    else if name = other then other :: names
    else other :: insert name names

/-- The set of the names in a list. -/
def ofList (names : List String) : Names := names.foldr insert []

theorem mem_insert {name other : String} {names : Names} :
    other ∈ insert name names ↔ other = name ∨ other ∈ names := by
  induction names with
  | nil => simp [insert]
  | cons head tail ih =>
    rw [insert]
    split
    · simp
    · split
      · rename_i equal
        subst equal
        simp
      · simp only [List.mem_cons, ih]
        exact ⟨fun h => by rcases h with h | h | h <;> simp [h],
          fun h => by rcases h with h | h | h <;> simp [h]⟩

theorem mem_ofList {name : String} {names : List String} :
    name ∈ ofList names ↔ name ∈ names := by
  induction names with
  | nil => simp [ofList]
  | cons head tail ih =>
    have step : ofList (head :: tail) = insert head (ofList tail) := rfl
    rw [step, mem_insert, ih, List.mem_cons]

end Names

/-! ## Tables -/

/-- Values under names, in strictly increasing order of the names. -/
abbrev Table (α : Type) : Type := List (String × α)

namespace Table

variable {α : Type}

/-- Puts a value under a name, in place of the one that is there. -/
def insert (name : String) (value : α) : Table α → Table α
  | [] => [(name, value)]
  | (other, old) :: table =>
    if name < other then (name, value) :: (other, old) :: table
    else if name = other then (name, value) :: table
    else (other, old) :: insert name value table

/-- The table of these entries; the last of several values under one name counts. -/
def ofEntries (entries : List (String × α)) : Table α :=
  entries.foldl (fun table entry => insert entry.1 entry.2 table) []

/-- The value under a name. -/
def get? (table : Table α) (name : String) : Option α := List.lookup name table

/-- Whether there is a value under a name. -/
def has (table : Table α) (name : String) : Bool := (table.get? name).isSome

/-- The names that have a value. -/
def names (table : Table α) : Names := table.map (·.1)

theorem get?_insert_self (table : Table α) (name : String) (value : α) :
    (table.insert name value).get? name = some value := by
  induction table with
  | nil => simp [insert, get?]
  | cons entry table ih =>
    obtain ⟨other, old⟩ := entry
    rw [insert]
    split
    · simp [get?]
    · split
      · simp [get?]
      · rename_i different
        have apart : (name == other) = false := beq_false_of_ne different
        simpa only [get?, List.lookup_cons, apart] using ih

theorem get?_insert_of_ne (table : Table α) {name other : String} (value : α)
    (different : other ≠ name) : (table.insert name value).get? other = table.get? other := by
  have apart : (other == name) = false := beq_false_of_ne different
  induction table with
  | nil => simp [insert, get?, List.lookup_cons, apart]
  | cons entry table ih =>
    obtain ⟨there, old⟩ := entry
    rw [insert]
    split
    · simp only [get?, List.lookup_cons, apart]
    · split
      · rename_i same
        subst same
        simp only [get?, List.lookup_cons, apart]
      · simp only [get?, List.lookup_cons] at ih ⊢
        rw [ih]

end Table

end TopicRelay
