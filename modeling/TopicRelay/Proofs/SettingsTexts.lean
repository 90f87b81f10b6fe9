import TopicRelay.Proofs.JsonWriting
import TopicRelay.Settings.Document

/-!
# Settings read from texts

A JSON object may give any of the settings, in any order and each in any way to write it.  Each
setting then has the value that is given or keeps its default (`Settings.ofJsonText_declared`).  A
name that is no setting's, or that has occurred before, is refused wherever it stands and whatever
stands around it (`Settings.ofJsonText_offends`).  `Settings.read_as_written` puts the two together,
and says that settings are read back from every object that gives all of them.
-/

namespace TopicRelay

set_option autoImplicit false

namespace Settings

/-! ## The settings as members -/

/-- The settings under their names, in the order of their declaration. -/
def entries (settings : Settings) : List (String × Json) := [
  ("app_prefix", .text settings.appPrefix),
  ("application_title", .text settings.applicationTitle),
  ("queue_owner", .text settings.queueOwner),
  ("queue_kind", .text settings.queueKind),
  ("consume_role", .text settings.consumeRole),
  ("client_host", .text settings.clientHost),
  ("service_key_validity_months", Json.integer settings.keyValidityMonths.toNat)]

/-- The names of the settings. -/
def names : List String := (fields Json.dialect).map (·.name)

/-- The settings as members of an outline. -/
def outlines (settings : Settings) : List (String × Outline Json.Number Flaw) :=
  Outline.ofMembers settings.entries

theorem names_entries (settings : Settings) : settings.entries.map (·.1) = names := rfl

theorem names_outlines (settings : Settings) : settings.outlines.map (·.1) = names := rfl

theorem outlines_inj {settings other : Settings} (same : settings.outlines = other.outlines) :
    settings = other := by
  simp only [outlines, entries, Outline.ofMembers, Outline.ofJson, Json.integer, List.cons.injEq,
    Prod.mk.injEq, Outline.text.injEq, Outline.number.injEq, Json.Number.integer.injEq,
    Int.natCast_inj, UInt32.toNat_inj, true_and, and_true] at same
  cases settings
  cases other
  simp_all

/-- A value of the type that is declared for a setting. -/
inductive Declared : String → Outline Json.Number Flaw → Prop where
  | text {name : String} (value : String) : name ∈ ["app_prefix", "application_title",
      "queue_owner", "queue_kind", "consume_role", "client_host"] → Declared name (.text value)
  | months (value : UInt32) :
      Declared "service_key_validity_months" (.number (.integer value.toNat))

theorem declared_outlines (settings : Settings) :
    ∀ member ∈ settings.outlines, Declared member.1 member.2 := by
  intro member among
  simp only [outlines, entries, Outline.ofMembers, Outline.ofJson, List.mem_cons, List.not_mem_nil,
    or_false] at among
  rcases among with rfl | rfl | rfl | rfl | rfl | rfl | rfl
  case inr.inr.inr.inr.inr.inr => exact .months _
  all_goals exact .text _ (by simp)

/-! ## Filling in what is given -/

/-- A value of the declared type is put under its name, and nothing else changes. -/
theorem find?_declared {name : String} {value : Outline Json.Number Flaw}
    (declared : Declared name value) (settings : Settings) :
    ∃ field, (fields Json.dialect).find? (fun field => field.name == name) = some field ∧
      ∃ next, field.fill value settings = .ok next ∧
        next.outlines = settings.outlines.map fun entry =>
          (entry.1, if entry.1 = name then value else entry.2) := by
  cases declared with
  | text value among =>
      simp only [List.mem_cons, List.not_mem_nil, or_false] at among
      rcases among with rfl | rfl | rfl | rfl | rfl | rfl <;>
        exact ⟨_, rfl, _, rfl, by simp [outlines, entries, Outline.ofMembers, Outline.ofJson]⟩
  | months value =>
      have fits : 0 ≤ (value.toNat : Int) ∧ (value.toNat : Int).toNat < Nat.pow 2 32 :=
        ⟨Int.natCast_nonneg _, value.toNat_lt⟩
      have read : Json.dialect.count 32 (.number (.integer value.toNat)) = .ok value.toNat :=
        if_pos fits
      refine ⟨_, rfl, { settings with keyValidityMonths := value }, ?_, ?_⟩
      · simp only [Field.of, read, UInt32.ofNat_toNat]
      · simp [outlines, entries, Outline.ofMembers, Outline.ofJson, Json.integer]

/-- The members of a text are all of settings, with values of the declared types, and each name
occurs once. -/
structure Proper (members : List (String × Outline Json.Number Flaw)) : Prop where
  different : (members.map (·.1)).Nodup
  declared : ∀ member ∈ members, Declared member.1 member.2

/-- What the settings are if some of them are given. -/
def Given (settings : Settings) (members : List (String × Outline Json.Number Flaw))
    (next : Settings) : Prop :=
  next.outlines = settings.outlines.map fun entry =>
    (entry.1, (members.lookup entry.1).getD entry.2)

theorem fillMembers_proper {members : List (String × Outline Json.Number Flaw)}
    (proper : Proper members) {seen : List String} (fresh : ∀ member ∈ members, member.1 ∉ seen)
    (settings : Settings) :
    ∃ occurred next, Field.fillMembers (fields Json.dialect) seen settings members =
      .ok (occurred, next) ∧ Given settings members next := by
  induction members generalizing seen settings with
  | nil => exact ⟨seen, settings, rfl, by simp [Given]⟩
  | cons member members ih =>
      obtain ⟨name, value⟩ := member
      obtain ⟨apart, different⟩ := List.nodup_cons.mp proper.different
      obtain ⟨declared, others⟩ := List.forall_mem_cons.mp proper.declared
      obtain ⟨new, later⟩ := List.forall_mem_cons.mp fresh
      obtain ⟨field, found, middle, filled, changed⟩ := find?_declared declared settings
      have elsewhere : ∀ member ∈ members, member.1 ≠ name :=
        fun member among same => apart (List.mem_map.mpr ⟨member, among, same⟩)
      have still : ∀ member ∈ members, member.1 ∉ name :: seen := by
        intro member among repeated
        rcases List.mem_cons.mp repeated with same | again
        · exact elsewhere member among same
        · exact later member among again
      obtain ⟨occurred, next, read, given⟩ := ih ⟨different, others⟩ still middle
      refine ⟨occurred, next, ?_, ?_⟩
      · simp only [Field.fillMembers, found, filled]
        rw [if_neg (by simpa using new), read]
      · rw [Given, given, changed, List.map_map]
        refine List.map_congr_left fun entry _ => ?_
        by_cases same : entry.1 = name
        · have absent : members.lookup name = none := by
            rw [List.lookup_eq_none_iff]
            intro member among
            exact bne_iff_ne.mpr (elsewhere member among).symm
          simp [same, absent]
        · simp [List.lookup_cons, same, beq_false_of_ne same]

/-- No setting has to be given. -/
theorem missing?_eq_none (occurred : List String) :
    Field.missing? (fields Json.dialect) occurred = none := by
  simp [Field.missing?, fields, textField, Field.of]

/-! ## Reading what is proper -/

section

variable {members others : List (String × Outline Json.Number Flaw)} {inner : List Char}
  {text : String}

theorem lookup_eq_some_iff_mem (different : (members.map (·.1)).Nodup) {name : String}
    {value : Outline Json.Number Flaw} :
    members.lookup name = some value ↔ (name, value) ∈ members := by
  induction members with
  | nil => simp
  | cons member members ih =>
      obtain ⟨first, old⟩ := member
      obtain ⟨apart, others⟩ := List.nodup_cons.mp different
      rw [List.lookup_cons, List.mem_cons, Prod.mk.injEq]
      by_cases same : name = first
      · subst same
        have absent : (name, value) ∉ members :=
          fun among => apart (List.mem_map.mpr ⟨_, among, rfl⟩)
        simp [absent, eq_comm]
      · simp [same, beq_false_of_ne same, ih others]

theorem lookup_perm (different : (members.map (·.1)).Nodup) (moved : members.Perm others)
    (name : String) : members.lookup name = others.lookup name := by
  have alike : (others.map (·.1)).Nodup := (moved.map _).nodup_iff.mp different
  refine Option.ext fun value => ?_
  rw [lookup_eq_some_iff_mem different, lookup_eq_some_iff_mem alike, moved.mem_iff]

theorem Proper.perm (proper : Proper members) (moved : members.Perm others) : Proper others :=
  ⟨(moved.map _).nodup_iff.mp proper.different,
    fun member among => proper.declared member (moved.mem_iff.mpr among)⟩

/-- The values of settings are not nested. -/
theorem Proper.nesting_eq (proper : Proper members) : Outline.nestingMembers members = 0 := by
  have declared := proper.declared
  clear proper
  induction members with
  | nil => rfl
  | cons member members ih =>
      obtain ⟨name, value⟩ := member
      obtain ⟨first, others⟩ := List.forall_mem_cons.mp declared
      rw [Outline.nestingMembers, ih others]
      cases first <;> rfl

/-- **Every setting has the value that is given or keeps its default.** -/
theorem ofJsonText_declared (proper : Proper members)
    (spelled : Json.Spells (.object members none) inner)
    (around : Json.Padded inner text.toList) :
    ∃ settings, ofJsonText text = .ok settings ∧ Given {} members settings := by
  have deep : (Outline.object members none : Outline Json.Number Flaw).nesting ≤
      Json.maxDepth := by
    rw [Outline.nesting, proper.nesting_eq]
    decide
  have read := Json.readOutline_spelled spelled around deep
  have fresh : ∀ member ∈ members, member.1 ∉ [] := fun _ _ => List.not_mem_nil
  obtain ⟨occurred, settings, filled, given⟩ := fillMembers_proper proper fresh {}
  refine ⟨settings, ?_, given⟩
  simp only [ofJsonText, Json.read, read, reader, Dialect.record, Field.fillMap, filled,
    checkEnding, missing?_eq_none, bind, Except.bind]
  rfl

/-- Members in another order are read in the same way. -/
theorem ofJsonText_perm {spelled : List Char} {settings : Settings} {other : String}
    (given : Given {} members settings) (proper : Proper members) (moved : members.Perm others)
    (written : Json.Spells (.object others none) spelled)
    (around : Json.Padded spelled other.toList) : ofJsonText other = .ok settings := by
  obtain ⟨again, read, same⟩ := ofJsonText_declared (proper.perm moved) written around
  have alike : again = settings := by
    apply outlines_inj
    rw [same, given]
    simp only [lookup_perm proper.different moved]
  rw [read, alike]

theorem proper_outlines (settings : Settings) : Proper settings.outlines where
  different := by
    rw [names_outlines]
    decide
  declared := declared_outlines settings

theorem given_outlines (settings : Settings) : Given {} settings.outlines settings := rfl

theorem plain_entries (settings : Settings) : ∀ member ∈ settings.entries, member.2.Plain := by
  intro member among
  simp only [entries, List.mem_cons, List.not_mem_nil, or_false] at among
  rcases among with rfl | rfl | rfl | rfl | rfl | rfl | rfl
  case inr.inr.inr.inr.inr.inr =>
    refine .integer ⟨by omega, ?_⟩
    have small := settings.keyValidityMonths.toNat_lt
    omega
  all_goals exact .text _

/-- **Settings are read back** from every object that gives all of them. -/
theorem ofJsonText_entries {entries : List (String × Json)} {settings : Settings}
    (moved : entries.Perm settings.entries) :
    ofJsonText (Json.object entries).compact = .ok settings := by
  have outlined : settings.outlines.Perm (Outline.ofMembers entries) := by
    rw [outlines, Outline.ofMembers_eq_map, Outline.ofMembers_eq_map]
    exact (moved.map _).symm
  have spelled : Json.Spells (Outline.ofJson (.object entries)) (Json.object entries).render :=
    Json.render_object_spelled fun member among =>
      Json.render_spelled (plain_entries settings member (moved.mem_iff.mp among))
  refine ofJsonText_perm (given_outlines settings) (proper_outlines settings) outlined spelled ?_
  rw [Json.compact, String.toList_ofList]
  exact Json.padded_self _

end

/-! ## Names that are refused -/

/-- What may stand where a value is looked for: a text, a text with half a pair of units, a number,
or anything that begins like none of them, as arrays, objects and words do. -/
inductive AnyValue : List Char → Prop where
  | text {value : String} {text : List Char} : Json.SpellsText value text → AnyValue text
  | lone {text : List Char} : Json.LoneUnit text → AnyValue ('"' :: text)
  | number {value : Option Json.Number} {text : List Char} : Json.SpellsNumber value text →
      AnyValue text
  | other {first : Char} {more : List Char} : Json.isBlank first = false → first ≠ '"' →
      first ≠ '-' → first.isDigit = false → AnyValue (first :: more)

/-- Members with any values and a comma after each, and their names. -/
inductive Opening : List String → List Char → Prop where
  | none : Opening [] []
  | member {name : String} {names : List String} {value member rest : List Char} :
      AnyValue value → Json.MemberText name value member → Opening names rest →
      Opening (name :: names) (member ++ ',' :: rest)

/-- The text of a name that no setting has or that has occurred among others, or a text with half a
pair of units. -/
inductive Offends (occurred : List String) : List Char → Prop where
  | unknown {name : String} {text : List Char} : Json.SpellsText name text → name ∉ names →
      Offends occurred text
  | repeated {name : String} {text : List Char} : Json.SpellsText name text → name ∈ occurred →
      Offends occurred text
  | lone {text : List Char} : Json.LoneUnit text → Offends occurred ('"' :: text)

/-- A value that no setting has. -/
def Unfit (value : Outline Json.Number Flaw) : Prop :=
  ∀ field ∈ fields Json.dialect, ∀ settings, ∃ mismatch, field.fill value settings = .error mismatch

/-- Whether an outline is a text or a number, as the values of all settings are. -/
def isScalar : Outline Json.Number Flaw → Bool
  | .text _ | .number _ => true
  | _ => false

theorem unfit_of_not_scalar {value : Outline Json.Number Flaw} (other : isScalar value = false) :
    Unfit value := by
  obtain ⟨left, refused⟩ : ∃ mismatch, Json.dialect.text value = .error mismatch := by
    cases value with
    | text => cases other
    | _ => exact ⟨_, rfl⟩
  obtain ⟨right, uncounted⟩ : ∃ mismatch, Json.dialect.count 32 value = .error mismatch := by
    cases value with
    | number => cases other
    | _ => exact ⟨_, rfl⟩
  intro field among settings
  simp only [fields, textField, List.mem_cons, List.not_mem_nil, or_false] at among
  rcases among with rfl | rfl | rfl | rfl | rfl | rfl | rfl
  case inr.inr.inr.inr.inr.inr => exact ⟨right, by simp only [Field.of, uncounted]⟩
  all_goals exact ⟨left, by simp only [Field.of, refused]⟩

/-- Either the first member is refused or the others are filled in after it. -/
theorem fillMembers_cons (seen : List String) (settings : Settings) (name : String)
    (value : Outline Json.Number Flaw) (members : List (String × Outline Json.Number Flaw)) :
    (∃ mismatch, Field.fillMembers (fields Json.dialect) seen settings ((name, value) :: members) =
      .error mismatch) ∨
    (name ∈ names ∧ name ∉ seen ∧ ¬Unfit value ∧ ∃ next,
      Field.fillMembers (fields Json.dialect) seen settings ((name, value) :: members) =
        Field.fillMembers (fields Json.dialect) (name :: seen) next members) := by
  rw [Field.fillMembers]
  cases found : (fields Json.dialect).find? fun field => field.name == name with
  | none => exact .inl ⟨_, rfl⟩
  | some field =>
      have among := List.mem_of_find?_eq_some found
      have named : field.name = name := by simpa using List.find?_some found
      by_cases repeated : seen.contains name = true
      · exact .inl ⟨_, if_pos repeated⟩
      · cases filled : field.fill value settings with
        | error mismatch => exact .inl ⟨mismatch, by simp only [if_neg repeated, filled]⟩
        | ok next =>
            refine .inr ⟨List.mem_map.mpr ⟨field, among, named⟩, by simpa using repeated, ?_,
              next, by simp only [if_neg repeated, filled]⟩
            intro unfit
            obtain ⟨mismatch, refused⟩ := unfit field among settings
            cases filled.symm.trans refused

/-- The members that have been read are refused, or the text is flawed where they end. -/
def Refused (seen : List String) (settings : Settings)
    (read : List (String × Outline Json.Number Flaw) × Option Flaw × Option (List Char)) : Prop :=
  (∃ mismatch, Field.fillMembers (fields Json.dialect) seen settings read.1 = .error mismatch) ∨
    ∃ flaw, read.2.1 = some flaw

/-- A value that no setting has is refused, whatever comes after it. -/
theorem refused_of_unfit {seen : List String} {settings : Settings} {name : String}
    {element : List Char → Json.Reading} {budget : Nat} {reading : Json.Reading}
    (unfit : Unfit reading.1 ∨ name ∉ names ∨ name ∈ seen) :
    Refused seen settings (Json.afterMember element budget name reading) := by
  obtain ⟨more, first⟩ := Json.afterMember_first element budget name reading
  rw [Refused, first]
  rcases fillMembers_cons seen settings name reading.1 more with refused | ⟨known, new, fit, _⟩
  · exact .inl refused
  · rcases unfit with unfit | unknown | repeated
    · exact absurd unfit fit
    · exact absurd known unknown
    · exact absurd repeated new

theorem unfit_word {word input : List Char} {value : Outline Json.Number Flaw}
    (unfit : Unfit value) : Unfit (Json.readWord word value input).1 := by
  fun_induction Json.readWord word value input with
  | case1 => exact unfit
  | case2 => exact unfit_of_not_scalar rfl
  | case3 _ _ _ ih => exact ih
  | case4 => exact unfit_of_not_scalar rfl

theorem unfit_array (element : List Char → Json.Reading) (input : List Char) :
    Unfit (Json.readArray element input).1 := by
  unfold Json.readArray
  split <;> exact unfit_of_not_scalar rfl

theorem unfit_object (element : List Char → Json.Reading) (input : List Char) :
    Unfit (Json.readObject element input).1 := by
  unfold Json.readObject
  split <;> exact unfit_of_not_scalar rfl

/-- What begins otherwise is neither read as a text nor as a number. -/
theorem unfit_other {nested : Option (List Char → Json.Reading)} {first : Char} {more : List Char}
    (dark : Json.isBlank first = false) (quote : first ≠ '"') (minus : first ≠ '-')
    (digit : first.isDigit = false) : Unfit (Json.readElement nested (first :: more)).1 := by
  simp only [Json.readElement, Json.skipBlank_cons dark]
  split
  case h_1 => exact unfit_of_not_scalar rfl
  case h_2 | h_3 | h_4 => exact unfit_word (unfit_of_not_scalar rfl)
  case h_5 same =>
    cases same
    exact absurd rfl quote
  case h_6 same =>
    cases same
    exact absurd rfl minus
  case h_7 =>
    cases nested with
    | none => exact unfit_of_not_scalar rfl
    | some element => exact unfit_array element _
  case h_8 =>
    cases nested with
    | none => exact unfit_of_not_scalar rfl
    | some element => exact unfit_object element _
  case h_9 same =>
    cases same
    rw [digit]
    exact unfit_of_not_scalar rfl

/-- A value is read up to where it ends, or it is one that no setting has. -/
theorem readValue_any {value padded rest : List Char} {depth : Nat} (any : AnyValue value)
    (around : Json.Padded value padded) (ends : Json.EndsNumber rest) :
    Unfit (Json.readValue depth (padded ++ rest)).1 ∨
      ∃ outline after, Json.Blank after ∧
        Json.readValue depth (padded ++ rest) = (outline, some (after ++ rest)) := by
  obtain ⟨nested, same⟩ := Json.readValue_eq depth
  obtain ⟨after, back, skipped⟩ := Json.readValue_around around depth rest
  rw [skipped, same]
  cases any with
  | text spelled => exact .inr ⟨_, after, back, Json.readElement_text spelled _⟩
  | @number number _ spelled =>
      rw [Json.readElement_number spelled (ends.after_blank back)]
      cases number with
      | some number => exact .inr ⟨_, after, back, rfl⟩
      | none => exact .inl (unfit_of_not_scalar rfl)
  | @lone text lone =>
      obtain ⟨flaw, refused⟩ := Json.readText_lone (lone.append (after ++ rest))
      have read : Json.readElement nested ('"' :: text ++ (after ++ rest)) = Json.stopAt flaw := by
        simp [Json.readElement, Json.skipBlank_cons, Json.isBlank, refused]
      rw [read]
      exact .inl (unfit_of_not_scalar rfl)
  | other dark quote minus digit => exact .inl (unfit_other dark quote minus digit)

theorem Offends.mono {occurred others : List String} {text : List Char}
    (offends : Offends occurred text) (within : ∀ name ∈ occurred, name ∈ others) :
    Offends others text := by
  cases offends with
  | unknown text absent => exact .unknown text absent
  | repeated text again => exact .repeated text (within _ again)
  | lone lone => exact .lone lone

/-- **What offends is refused,** wherever it stands among members and whatever comes after it. -/
theorem readMembers_offends {occurred : List String} {opening : List Char}
    (opens : Opening occurred opening) {seen : List String} {settings : Settings}
    {depth budget : Nat} {blank spelled rest : List Char} (enough : occurred.length < budget)
    (blanks : Json.Blank blank) (offends : Offends (occurred ++ seen) spelled) :
    Refused seen settings (Json.readMembers (Json.readValue depth) budget
      (opening ++ (blank ++ spelled ++ rest))) := by
  induction opens generalizing seen settings budget with
  | none =>
      obtain ⟨budget, rfl⟩ := Nat.exists_eq_succ_of_ne_zero (Nat.ne_zero_of_lt enough)
      cases offends with
      | unknown text absent =>
          rw [List.nil_append, Json.readMembers_name _ blanks text]
          exact refused_of_unfit (.inr (.inl absent))
      | repeated text again =>
          rw [List.nil_append, Json.readMembers_name _ blanks text]
          exact refused_of_unfit (.inr (.inr again))
      | lone lone =>
          obtain ⟨flaw, refused⟩ := Json.readText_lone (lone.append rest)
          refine .inr ⟨flaw, ?_⟩
          simp [Json.readMembers, Json.skipBlank_append blanks, Json.skipBlank_cons, Json.isBlank,
            refused]
  | @member name names value member opening any text _ ih =>
      obtain ⟨budget, rfl⟩ := Nat.exists_eq_succ_of_ne_zero (Nat.ne_zero_of_lt enough)
      obtain ⟨padded, around, read⟩ := Json.readMembers_member (Json.readValue depth) text budget
        (',' :: (opening ++ (blank ++ spelled ++ rest)))
      rw [List.append_assoc, List.cons_append, read]
      rcases readValue_any any around (Json.endsNumber_comma _) with
        unfit | ⟨outline, after, gap, found⟩
      · exact refused_of_unfit (.inl unfit)
      · simp only [found, Json.afterMember, Json.skipBlank_append gap, Json.skipBlank_comma]
        rcases fillMembers_cons seen settings name outline _ with refused | ⟨_, _, _, next, goesOn⟩
        · exact .inl refused
        · have moved : Offends (names ++ name :: seen) spelled := by
            refine offends.mono fun other among => ?_
            simp only [List.mem_append, List.mem_cons] at among ⊢
            tauto
          have behind : Refused (name :: seen) next _ := ih (Nat.lt_of_succ_lt_succ enough) moved
          rw [Refused, goesOn]
          exact behind

theorem Opening.length_le {occurred : List String} {opening : List Char}
    (opens : Opening occurred opening) : occurred.length ≤ opening.length := by
  induction opens with
  | none => exact Nat.le_refl 0
  | member _ _ _ ih =>
      simp only [List.length_append, List.length_cons]
      omega

theorem Offends.front {occurred : List String} {spelled : List Char}
    (offends : Offends occurred spelled) : ∃ more, spelled = '"' :: more := by
  cases offends with
  | unknown text | repeated text =>
      cases text
      exact ⟨_, rfl⟩
  | lone => exact ⟨_, rfl⟩

theorem refused_record {members : List (String × Outline Json.Number Flaw)} {ending : Option Flaw}
    {rest : Option (List Char)} (refused : Refused [] {} (members, ending, rest)) :
    ∃ mismatch, reader Json.dialect (.object members ending) = .error mismatch := by
  simp only [reader, Dialect.record, Field.fillMap, bind, Except.bind]
  cases filled : Field.fillMembers (fields Json.dialect) [] {} members with
  | error mismatch => exact ⟨mismatch, rfl⟩
  | ok result =>
      rcases refused with ⟨mismatch, failed⟩ | ⟨flaw, flawed⟩
      · cases filled.symm.trans failed
      · cases flawed
        exact ⟨_, rfl⟩

/-- **A text is refused from the first name on that offends.** -/
theorem ofJsonText_offends {occurred : List String} {before opening blank spelled rest : List Char}
    {text : String} (front : Json.Blank before) (opens : Opening occurred opening)
    (blanks : Json.Blank blank) (offends : Offends occurred spelled)
    (begins : text.toList = before ++ '\x7b' :: (opening ++ (blank ++ spelled ++ rest))) :
    ∃ mismatch, ofJsonText text = .error mismatch := by
  generalize inside : opening ++ (blank ++ spelled ++ rest) = input at begins
  have quote : ∃ more, Json.skipBlank input = '"' :: more := by
    subst inside
    cases opens with
    | none =>
        obtain ⟨more, rfl⟩ := offends.front
        simp only [List.nil_append, List.append_assoc, List.cons_append,
          Json.skipBlank_append blanks]
        exact ⟨_, Json.skipBlank_cons (by decide) _⟩
    | member _ member _ =>
        rw [List.append_assoc]
        exact member.front _
  obtain ⟨more, first⟩ := quote
  have enough : occurred.length < input.length + 1 := by
    have := opens.length_le
    have whole := congrArg List.length inside
    simp only [List.length_append] at whole
    omega
  have offended : Refused [] {} (Json.readMembers (Json.readValue 126) (input.length + 1) input) :=
    inside ▸ readMembers_offends opens (inside ▸ enough) blanks
      (offends.mono fun name among => by simpa using among)
  generalize found : Json.readMembers (Json.readValue 126) (input.length + 1) input = read
    at offended
  obtain ⟨members, ending, last⟩ := read
  have object : Json.readValue Json.maxDepth text.toList = (.object members ending, last) := by
    rw [begins, Json.readValue_blank front]
    show Json.readElement (some (Json.readValue 126)) ('\x7b' :: input) = _
    simp [Json.readElement, Json.skipBlank_cons, Json.isBlank, Json.readObject, first, found]
  obtain ⟨mismatch, refused⟩ := refused_record offended
  refine ⟨mismatch, ?_⟩
  obtain ⟨after, outline⟩ : ∃ after, Json.readOutline Json.maxDepth text.toList =
      (.object members ending, after) := by
    rw [Json.readOutline, object]
    cases last <;> exact ⟨_, rfl⟩
  simp only [ofJsonText, Json.read, outline, refused, bind, Except.bind]

theorem anyValue_of_spells {value : Outline Json.Number Flaw} {text : List Char}
    (spelled : Json.Spells value text) : AnyValue text := by
  cases spelled with
  | number number => exact .number number
  | text quoted => exact .text quoted
  | _ => exact .other (by decide) (by decide) (by decide) (by decide)

/-- An object begins with the members before any one of them. -/
theorem opens_before {earlier later : List (String × Outline Json.Number Flaw)} {name : String}
    {value : Outline Json.Number Flaw} {inner : List Char}
    (spelled : Json.SpellsMembers (earlier ++ (name, value) :: later) inner) :
    ∃ opening blank spelled rest, Opening (earlier.map (·.1)) opening ∧ Json.Blank blank ∧
      Json.SpellsText name spelled ∧ inner = opening ++ (blank ++ spelled ++ rest) := by
  generalize whole : earlier ++ (name, value) :: later = members at spelled
  induction earlier generalizing inner members with
  | nil =>
      obtain ⟨text, member, behind, own, rfl⟩ : ∃ text member behind,
          Json.MemberText name text member ∧ inner = member ++ behind := by
        subst whole
        cases spelled with
        | last _ member => exact ⟨_, _, [], member, (List.append_nil _).symm⟩
        | more _ member _ => exact ⟨_, _, _, member, rfl⟩
      cases own with
      | @colon before written between padded blanks named _ _ =>
          exact ⟨[], before, written, between ++ ':' :: padded ++ behind, .none, blanks, named,
            by simp⟩
  | cons first earlier ih =>
      cases spelled with
      | last => simp at whole
      | more value member others =>
          obtain ⟨rfl, rest⟩ := List.cons.inj whole
          obtain ⟨opening, blank, spelled, rest, opens, blanks, named, rfl⟩ := ih _ rest others
          exact ⟨_, blank, spelled, rest, .member (anyValue_of_spells value) member opens, blanks,
            named, by simp⟩

theorem spelled_members {members : List (String × Outline Json.Number Flaw)} {inner : List Char}
    (spelled : Json.Spells (.object members none) inner) (some : members ≠ []) :
    ∃ text, Json.SpellsMembers members text ∧ inner = '\x7b' :: text ++ ['\x7d'] := by
  cases spelled with
  | emptyObject => exact absurd rfl some
  | object members => exact ⟨_, members, rfl⟩

/-- **Settings are read from any object that gives them.**  Let the members of a JSON object be
settings with values of the declared types, each once, in any order, with any blanks between them
and any escapes in their texts.  Then each setting has the value that is given or keeps its default,
and the order of the members makes no difference.  An object with a name that no setting has, or
with one that has occurred before, is refused, and so is every text that begins like it up to the
end of that name: the members before it may have any values, and whatever comes after it makes no
difference.  And settings are read back from every text that gives all of them, such as the ones
they are written in. -/
theorem read_as_written :
    (∀ {members : List (String × Outline Json.Number Flaw)} {inner : List Char} {text : String},
      Proper members → Json.Spells (.object members none) inner →
      Json.Padded inner text.toList →
      ∃ settings, ofJsonText text = .ok settings ∧ Given {} members settings ∧
        ∀ {others : List (String × Outline Json.Number Flaw)} {spelled : List Char}
          {other : String}, members.Perm others → Json.Spells (.object others none) spelled →
          Json.Padded spelled other.toList → ofJsonText other = .ok settings) ∧
    (∀ {earlier later : List (String × Outline Json.Number Flaw)} {name : String}
      {value : Outline Json.Number Flaw} {inner : List Char} {text : String},
      Json.Spells (.object (earlier ++ (name, value) :: later) none) inner →
      Json.Padded inner text.toList → name ∉ names ∨ name ∈ earlier.map (·.1) →
      ∃ mismatch, ofJsonText text = .error mismatch) ∧
    (∀ {occurred : List String} {before opening blank spelled rest : List Char} {text : String},
      Json.Blank before → Opening occurred opening → Json.Blank blank → Offends occurred spelled →
      text.toList = before ++ '\x7b' :: (opening ++ (blank ++ spelled ++ rest)) →
      ∃ mismatch, ofJsonText text = .error mismatch) ∧
    ∀ settings : Settings,
      (∀ {members : List (String × Outline Json.Number Flaw)} {inner : List Char} {text : String},
        members.Perm settings.outlines → Json.Spells (.object members none) inner →
        Json.Padded inner text.toList → ofJsonText text = .ok settings) ∧
      ofJsonText (Json.object settings.entries).compact = .ok settings ∧
      ofJsonText settings.toJson.compact = .ok settings := by
  refine ⟨?_, ?_, fun front opens blanks offends begins =>
    ofJsonText_offends front opens blanks offends begins, fun settings => ⟨?_, ?_, ?_⟩⟩
  · intro members inner text proper spelled around
    obtain ⟨settings, read, given⟩ := ofJsonText_declared proper spelled around
    exact ⟨settings, read, given, ofJsonText_perm given proper⟩
  · intro earlier later name value inner text spelled around offending
    obtain ⟨members, written, rfl⟩ := spelled_members spelled (by simp)
    obtain ⟨opening, blank, named, rest, opens, blanks, spells, rfl⟩ := opens_before written
    have offends : Offends (earlier.map (·.1)) named :=
      offending.elim (.unknown spells) (.repeated spells)
    generalize input : text.toList = chars at around
    cases around with
    | @blanks before after front back =>
        have begins : text.toList = before ++
            '\x7b' :: (opening ++ (blank ++ named ++ (rest ++ '\x7d' :: after))) := by simp [input]
        exact ofJsonText_offends front opens blanks offends begins
  · intro members inner text moved spelled around
    exact ofJsonText_perm (given_outlines settings) (proper_outlines settings) moved.symm spelled
      around
  · exact ofJsonText_entries (.refl _)
  · exact ofJsonText_entries (Table.ofEntries_perm (names_entries settings ▸ by decide))

/-- Two settings are given, one of them with an escape; a name that is misspelled is refused. -/
theorem owner_and_months_are_read :
    ofJsonText "\x7b\"service_key_validity_months\" : 12,\"queue_owner\":\"\\u004fWNER\"\x7d\n" =
      .ok { queueOwner := "OWNER", keyValidityMonths := 12 } ∧
    ∃ mismatch, ofJsonText "\x7b\"queue_ownr\": \"OWNER\"\x7d" = .error mismatch := by
  have space : Json.Blank [' '] := by simp [Json.Blank]
  have newline : Json.Blank ['\n'] := by simp [Json.Blank]
  have zero : Json.HexDigit 0 '0' := .inl rfl
  have four : Json.HexDigit 4 '4' := .inl rfl
  have fifteen : Json.HexDigit 15 'f' := .inl rfl
  have units : Json.HexUnit 'O'.toNat ['0', '0', '4', 'f'] := .digits zero zero four fifteen
  have owner : Json.SpellsText "OWNER" _ :=
    .quoted (.cons (.unit units) (Json.flatMap_escapeChar_spelled ['W', 'N', 'E', 'R']))
  have months : Json.MemberText "service_key_validity_months" (Json.renderInteger 12) _ :=
    .colon Json.blank_nil (Json.renderText_spelled _) space (.blanks space Json.blank_nil)
  have given : Json.Spells (.object [("service_key_validity_months", .number (.integer 12)),
      ("queue_owner", .text "OWNER")] none) _ :=
    .object (.more (.number (Json.spellsNumber_integer (by decide))) months
      (.last (.text owner) (Json.memberText_render "queue_owner" _)))
  have proper : Proper [("service_key_validity_months", .number (.integer 12)),
      ("queue_owner", .text "OWNER")] := by
    refine ⟨by decide, fun member among => ?_⟩
    simp only [List.mem_cons, List.not_mem_nil, or_false] at among
    rcases among with rfl | rfl
    · exact .months 12
    · exact .text _ (by decide)
  have around : ∀ inner, Json.Padded inner (String.ofList ([] ++ inner ++ ['\n'])).toList := by
    intro inner
    rw [String.toList_ofList]
    exact .blanks Json.blank_nil newline
  obtain ⟨settings, read, same, _⟩ := read_as_written.1 proper given (around _)
  have known : settings = { queueOwner := "OWNER", keyValidityMonths := 12 } :=
    outlines_inj (same.trans rfl)
  have offends : Offends [] (Json.renderText "queue_ownr") :=
    .unknown (Json.renderText_spelled _) (by decide)
  have begins : "\x7b\"queue_ownr\": \"OWNER\"\x7d".toList = [] ++ '\x7b' ::
      ([] ++ ([] ++ Json.renderText "queue_ownr" ++ ": \"OWNER\"\x7d".toList)) := rfl
  exact ⟨known ▸ read, read_as_written.2.2.1 Json.blank_nil .none Json.blank_nil offends begins⟩

end Settings

end TopicRelay
