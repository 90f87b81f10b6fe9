import Mathlib.Data.List.Induction
import Mathlib.Data.String.Basic
import TopicRelay.Access.Directory

/-!
# The keys that a directory holds

A table keeps its names in strictly increasing order, so what is put under a name takes the
place of the one value that was there (`Table.mem_insert`).  Keys are registered one after the
other, and an attempt that finds the directory unavailable registers nothing.  A key is stored
from then on until another one is registered under its name: the keys of a directory are those
that the attempts have left stored (`Directory.mem_keys_afterAll`).
-/

namespace TopicRelay

set_option autoImplicit false

/-! ## Tables in order -/

namespace Table

variable {α : Type}

/-- The names of a table are strictly increasing. -/
def Ordered (table : Table α) : Prop := table.Pairwise fun left right => left.1 < right.1

/-- A value is put under its name in place of the one that is there. -/
theorem mem_insert {table : Table α} (ordered : table.Ordered) {name : String} {value : α}
    {entry : String × α} :
    entry ∈ table.insert name value ↔ entry = (name, value) ∨ entry ∈ table ∧ entry.1 ≠ name := by
  induction table with
  | nil => simp [insert]
  | cons first table ih =>
      obtain ⟨other, old⟩ := first
      obtain ⟨least, rest⟩ := List.pairwise_cons.mp ordered
      have beyond : ∀ {bound : String}, bound ≤ other → ∀ later ∈ table, later.1 ≠ bound :=
        fun below later among => (lt_of_le_of_lt below (least later among)).ne'
      rw [insert]
      split
      · rename_i smaller
        have apart : ∀ later ∈ (other, old) :: table, later.1 ≠ name := by
          intro later among
          rcases List.mem_cons.mp among with rfl | after
          · exact smaller.ne'
          · exact beyond smaller.le later after
        rw [List.mem_cons]
        exact or_congr_right ⟨fun among => ⟨among, apart entry among⟩, And.left⟩
      · split
        · rename_i same
          subst same
          rw [List.mem_cons, List.mem_cons]
          refine or_congr_right ⟨fun among => ⟨.inr among, beyond le_rfl entry among⟩, ?_⟩
          rintro ⟨rfl | among, different⟩
          · exact absurd rfl different
          · exact among
        · rename_i different
          rw [List.mem_cons, ih rest, List.mem_cons]
          constructor
          · rintro (rfl | rfl | ⟨among, apart⟩)
            · exact .inr ⟨.inl rfl, Ne.symm different⟩
            · exact .inl rfl
            · exact .inr ⟨.inr among, apart⟩
          · rintro (rfl | ⟨rfl | among, apart⟩)
            · exact .inr (.inl rfl)
            · exact .inl rfl
            · exact .inr (.inr ⟨among, apart⟩)

theorem Ordered.insert {table : Table α} (ordered : table.Ordered) (name : String) (value : α) :
    (table.insert name value).Ordered := by
  induction table with
  | nil => exact List.pairwise_singleton _ _
  | cons first table ih =>
      obtain ⟨other, old⟩ := first
      obtain ⟨least, rest⟩ := List.pairwise_cons.mp ordered
      rw [Table.insert]
      split
      · rename_i smaller
        refine List.pairwise_cons.mpr ⟨fun later among => ?_, ordered⟩
        rcases List.mem_cons.mp among with rfl | after
        · exact smaller
        · exact lt_trans smaller (least later after)
      · split
        · rename_i same
          exact List.pairwise_cons.mpr ⟨fun later among => same ▸ least later among, rest⟩
        · rename_i notSmaller different
          have greater : other < name := lt_of_le_of_ne (not_lt.mp notSmaller) (Ne.symm different)
          refine List.pairwise_cons.mpr ⟨fun later among => ?_, ih rest⟩
          rcases (mem_insert rest).mp among with rfl | ⟨old, _⟩
          · exact greater
          · exact least later old

theorem ofEntries_concat (entries : List (String × α)) (last : String × α) :
    ofEntries (entries ++ [last]) = (ofEntries entries).insert last.1 last.2 := by
  simp [ofEntries]

theorem ordered_ofEntries (entries : List (String × α)) : (ofEntries entries).Ordered := by
  induction entries using List.reverseRecOn with
  | nil => exact List.Pairwise.nil
  | append_singleton entries last ih =>
      rw [ofEntries_concat]
      exact ih.insert last.1 last.2

/-- A table holds nothing but its entries. -/
theorem mem_of_mem_ofEntries {entries : List (String × α)} {entry : String × α}
    (among : entry ∈ ofEntries entries) : entry ∈ entries := by
  induction entries using List.reverseRecOn with
  | nil => cases among
  | append_singleton entries last ih =>
      rw [ofEntries_concat, mem_insert (ordered_ofEntries entries)] at among
      rw [List.mem_append, List.mem_singleton]
      rcases among with rfl | ⟨earlier, _⟩
      · exact .inr rfl
      · exact .inl (ih earlier)

theorem insert_last {table : Table α} {name : String} {value : α}
    (greatest : ∀ entry ∈ table, entry.1 < name) :
    table.insert name value = table ++ [(name, value)] := by
  induction table with
  | nil => rfl
  | cons first table ih =>
      obtain ⟨smaller, later⟩ := List.forall_mem_cons.mp greatest
      rw [insert, if_neg smaller.not_gt, if_neg smaller.ne', ih later]
      rfl

/-- A table is the table of its entries. -/
theorem ofEntries_of_ordered {table : Table α} (ordered : table.Ordered) :
    ofEntries table = table := by
  induction table using List.reverseRecOn with
  | nil => rfl
  | append_singleton table last ih =>
      obtain ⟨earlier, _, greatest⟩ := List.pairwise_append.mp ordered
      rw [ofEntries_concat, ih earlier]
      exact insert_last fun entry among => greatest entry among last (List.mem_singleton.mpr rfl)

theorem insert_perm {table : Table α} {name : String} (value : α) (absent : name ∉ table.names) :
    (table.insert name value).Perm ((name, value) :: table) := by
  induction table with
  | nil => exact .refl _
  | cons first table ih =>
      obtain ⟨other, old⟩ := first
      have different : name ≠ other := fun same => absent (same ▸ List.mem_cons_self ..)
      have later : name ∉ table.map (·.1) := fun among => absent (List.mem_cons_of_mem _ among)
      rw [insert, if_neg different]
      split
      · exact .refl _
      · exact ((ih later).cons _).trans (.swap ..)

/-- The entries of a table are in another order only, if their names are different. -/
theorem ofEntries_perm {entries : List (String × α)} (different : (entries.map (·.1)).Nodup) :
    (ofEntries entries).Perm entries := by
  induction entries using List.reverseRecOn with
  | nil => exact .refl _
  | append_singleton entries last ih =>
      rw [List.map_append, List.nodup_append] at different
      obtain ⟨earlier, _, apart⟩ := different
      have absent : last.1 ∉ (ofEntries entries).names := by
        intro among
        obtain ⟨entry, there, same⟩ := List.mem_map.mp among
        have before : last.1 ∈ entries.map (·.1) :=
          List.mem_map.mpr ⟨entry, mem_of_mem_ofEntries there, same⟩
        exact apart _ before _ (by simp) rfl
      rw [ofEntries_concat]
      exact (insert_perm last.2 absent).trans
        (((ih earlier).cons _).trans (List.perm_append_singleton last entries).symm)

end Table

/-! ## Registering keys -/

/-- An attempt to register a key, and whether the directory was available. -/
structure Registration where
  key : ServiceCredential
  available : Bool

/-- What a directory holds of a key. -/
def ServiceCredential.registered (key : ServiceCredential) : RegisteredKey :=
  ⟨key.principal, key.secret, key.expiresAt⟩

namespace Directory

/-- The directory after an attempt, which has no effect where the key is refused. -/
def attempt (directory : Directory) (registration : Registration) : Directory :=
  let asked := { directory with unavailable := !registration.available }
  match asked.register registration.key with
  | .ok registered => registered
  | .error _ => asked

/-- The directory of a document after some attempts. -/
def afterAll (document : DirectoryDocument) (attempts : List Registration) : Directory :=
  attempts.foldl attempt { document := document }

theorem attempt_eq (directory : Directory) (registration : Registration) :
    directory.attempt registration =
      { directory with
        unavailable := !registration.available
        keys := if registration.available then
            directory.keys.insert registration.key.keyName.toText registration.key.registered
          else directory.keys } := by
  cases available : registration.available <;>
    simp [attempt, register, available, ServiceCredential.registered]

theorem afterAll_concat (document : DirectoryDocument) (attempts : List Registration)
    (last : Registration) :
    afterAll document (attempts ++ [last]) = (afterAll document attempts).attempt last := by
  simp [afterAll]

theorem document_afterAll (document : DirectoryDocument) (attempts : List Registration) :
    (afterAll document attempts).document = document := by
  induction attempts using List.reverseRecOn with
  | nil => rfl
  | append_singleton attempts last ih => rw [afterAll_concat, attempt_eq, ih]

theorem ordered_afterAll (document : DirectoryDocument) (attempts : List Registration) :
    (afterAll document attempts).keys.Ordered := by
  induction attempts using List.reverseRecOn with
  | nil => exact List.Pairwise.nil
  | append_singleton attempts last ih =>
      rw [afterAll_concat, attempt_eq]
      dsimp only
      split
      · exact ih.insert _ _
      · exact ih

end Directory

/-- A key has been registered, and none under its name since. -/
def Registration.Stored (attempts : List Registration) (key : ServiceCredential) : Prop :=
  ∃ earlier later, attempts = earlier ++ ⟨key, true⟩ :: later ∧
    ∀ other ∈ later, other.available = true → other.key.keyName.toText ≠ key.keyName.toText

namespace Registration

theorem not_stored_nil (key : ServiceCredential) : ¬Stored [] key := by
  rintro ⟨earlier, later, whole, _⟩
  simp at whole

/-- A key that is stored after one more attempt is the new one, or was stored before and has not
been replaced. -/
theorem stored_concat {attempts : List Registration} {last : Registration}
    {key : ServiceCredential} :
    Stored (attempts ++ [last]) key ↔
      last = ⟨key, true⟩ ∨ Stored attempts key ∧
        (last.available = true → last.key.keyName.toText ≠ key.keyName.toText) := by
  constructor
  · rintro ⟨earlier, later, whole, kept⟩
    cases later using List.reverseRecOn with
    | nil => exact .inl (List.append_singleton_inj.mp whole).2
    | append_singleton others other =>
        rw [← List.cons_append, ← List.append_assoc] at whole
        obtain ⟨rfl, rfl⟩ := List.append_singleton_inj.mp whole
        exact .inr ⟨⟨earlier, others, rfl, fun one among => kept one (by simp [among])⟩,
          kept last (by simp)⟩
  · rintro (rfl | ⟨⟨earlier, later, rfl, kept⟩, replaces⟩)
    · exact ⟨attempts, [], rfl, by simp⟩
    · refine ⟨earlier, later ++ [last], by simp, fun other among => ?_⟩
      rcases List.mem_append.mp among with before | new
      · exact kept other before
      · cases List.mem_singleton.mp new
        exact replaces

end Registration

/-- **The keys of a directory are those that are stored.** -/
theorem Directory.mem_keys_afterAll (document : DirectoryDocument) (attempts : List Registration)
    (entry : String × RegisteredKey) :
    entry ∈ (afterAll document attempts).keys ↔
      ∃ key, Registration.Stored attempts key ∧ entry = (key.keyName.toText, key.registered) := by
  induction attempts using List.reverseRecOn generalizing entry with
  | nil => simp [afterAll, Registration.not_stored_nil]
  | append_singleton attempts last ih =>
      simp only [Registration.stored_concat]
      rw [afterAll_concat, attempt_eq]
      obtain ⟨key, available⟩ := last
      cases available with
      | false => simpa using ih entry
      | true =>
          rw [if_pos rfl, Table.mem_insert (ordered_afterAll document attempts), ih]
          constructor
          · rintro (rfl | ⟨⟨other, stored, rfl⟩, different⟩)
            · exact ⟨key, .inl rfl, rfl⟩
            · exact ⟨other, .inr ⟨stored, fun _ => Ne.symm different⟩, rfl⟩
          · rintro ⟨other, same | ⟨stored, kept⟩, rfl⟩
            · cases same
              exact .inl rfl
            · exact .inr ⟨⟨other, stored, rfl⟩, Ne.symm (kept rfl)⟩

end TopicRelay
