import TopicRelay.Proofs.JsonGrammar
import TopicRelay.Proofs.Registrations

/-!
# Values that JSON writes and keeps

A value is plain if its numbers are integers that keep all their digits and its objects are made
from their members.  The text of a plain value is one that the grammar has for it
(`Json.render_spelled`), and the outline of a plain value has that value again
(`Outline.complete_ofJson`).
-/

namespace TopicRelay

set_option autoImplicit false

/-- A value that is built from `null`, booleans, integers that keep all their digits, and texts. -/
inductive Json.Plain : Json → Prop where
  | null : Plain .null
  | boolean (value : Bool) : Plain (.boolean value)
  | integer {value : Int} : Json.Exact value → Plain (Json.integer value)
  | text (value : String) : Plain (.text value)
  | array {items : List Json} : (∀ item ∈ items, Plain item) → Plain (.array items)
  | record {members : List (String × Json)} : (∀ member ∈ members, Plain member.2) →
      Plain (Json.record members)

/-! ## Writing values -/

namespace Json

theorem padded_self (text : List Char) : Padded text text := by
  have around : Padded text ([] ++ text ++ []) := .blanks blank_nil blank_nil
  simpa using around

theorem memberText_render (name : String) (value : List Char) :
    MemberText name value (renderText name ++ ':' :: value) := by
  have member : MemberText name value ([] ++ renderText name ++ [] ++ ':' :: value) :=
    .colon blank_nil (renderText_spelled name) blank_nil (padded_self value)
  simpa using member

theorem renderItems_spelled {items : List Json} (some : items ≠ [])
    (each : ∀ item ∈ items, Spells (Outline.ofJson item) item.render) :
    SpellsItems (Outline.ofItems items) (renderItems items) := by
  match items, some with
  | [item], _ => exact .last (each item (List.mem_cons_self ..)) (padded_self _)
  | item :: next :: items, _ =>
      obtain ⟨first, others⟩ := List.forall_mem_cons.mp each
      exact .more first (padded_self _) (renderItems_spelled (List.cons_ne_nil _ _) others)

theorem renderMembers_spelled {members : List (String × Json)} (some : members ≠ [])
    (each : ∀ member ∈ members, Spells (Outline.ofJson member.2) member.2.render) :
    SpellsMembers (Outline.ofMembers members) (renderMembers members) := by
  match members, some with
  | [(name, value)], _ =>
      exact .last (each _ (List.mem_cons_self ..)) (memberText_render name value.render)
  | (name, value) :: next :: members, _ =>
      obtain ⟨first, others⟩ := List.forall_mem_cons.mp each
      exact .more first (memberText_render name value.render)
        (renderMembers_spelled (List.cons_ne_nil _ _) others)

theorem render_array_spelled {items : List Json}
    (each : ∀ item ∈ items, Spells (Outline.ofJson item) item.render) :
    Spells (Outline.ofJson (.array items)) (render (.array items)) := by
  rw [Outline.ofJson, render]
  cases items with
  | nil => exact .emptyArray blank_nil
  | cons item items => exact .array (renderItems_spelled (List.cons_ne_nil _ _) each)

theorem render_object_spelled {members : List (String × Json)}
    (each : ∀ member ∈ members, Spells (Outline.ofJson member.2) member.2.render) :
    Spells (Outline.ofJson (.object members)) (render (.object members)) := by
  rw [Outline.ofJson, render]
  cases members with
  | nil => exact .emptyObject blank_nil
  | cons member members => exact .object (renderMembers_spelled (List.cons_ne_nil _ _) each)

/-- **A plain value is written by the grammar.** -/
theorem render_spelled {value : Json} (plain : value.Plain) :
    Spells (Outline.ofJson value) value.render := by
  induction plain with
  | null => exact .null
  | boolean value =>
      cases value with
      | true => exact .yes
      | false => exact .no
  | integer exact => exact .number (spellsNumber_integer exact)
  | text value => exact .text (renderText_spelled value)
  | array _ ih => exact render_array_spelled ih
  | record _ ih =>
      exact render_object_spelled fun member among => ih member (Table.mem_of_mem_ofEntries among)

end Json

/-! ## The value of what is read -/

namespace Outline

theorem ofItems_eq_map (items : List Json) : ofItems items = items.map ofJson := by
  induction items with
  | nil => rfl
  | cons item items ih => simp [ofItems, ih]

theorem ofMembers_eq_map (members : List (String × Json)) :
    ofMembers members = members.map fun member => (member.1, ofJson member.2) := by
  induction members with
  | nil => rfl
  | cons member members ih => simp [ofMembers, ih]

theorem completeItems_ofItems {items : List Json}
    (each : ∀ item ∈ items, (ofJson item).complete = .ok item) :
    completeItems (ofItems items) = .ok items := by
  induction items with
  | nil => rfl
  | cons item items ih =>
      obtain ⟨first, others⟩ := List.forall_mem_cons.mp each
      simp only [ofItems, completeItems, first, ih others]
      rfl

theorem completeMembers_ofMembers {members : List (String × Json)}
    (each : ∀ member ∈ members, (ofJson member.2).complete = .ok member.2) :
    completeMembers (ofMembers members) = .ok members := by
  induction members with
  | nil => rfl
  | cons member members ih =>
      obtain ⟨first, others⟩ := List.forall_mem_cons.mp each
      simp only [ofMembers, completeMembers, first, ih others]
      rfl

/-- The outline of a plain value has that value. -/
theorem complete_ofJson {value : Json} (plain : value.Plain) :
    (ofJson value).complete = .ok value := by
  induction plain with
  | array _ ih =>
      simp only [ofJson, complete, completeItems_ofItems ih]
      rfl
  | @record members _ ih =>
      have each := completeMembers_ofMembers fun member among =>
        ih member (Table.mem_of_mem_ofEntries among)
      simp only [Json.record, ofJson, complete, each]
      have same : Json.record (Table.ofEntries members) = Json.record members :=
        congrArg Json.object (Table.ofEntries_of_ordered (Table.ordered_ofEntries members))
      exact congrArg Except.ok same
  | _ => rfl

end Outline

end TopicRelay
