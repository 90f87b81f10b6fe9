import TopicRelay.Proofs.JsonTokens

/-!
# The grammar of JSON

The texts that write a value, with any blanks between its tokens and with the members of its objects
in the order in which they are listed.  The reader gets back the value that was written
(`readValue_spelled`), if it may go as deep as the value is nested; and from texts and numbers it
gets nothing but what they say, however deep it may go.
-/

namespace TopicRelay

set_option autoImplicit false

/-! ## Nesting -/

namespace Outline

variable {ν φ : Type}

mutual
/-- How many arrays and objects stand inside each other. -/
def nesting : Outline ν φ → Nat
  | .array items _ => nestingItems items + 1
  | .object members _ => nestingMembers members + 1
  | _ => 0

/-- The deepest nesting of some items. -/
def nestingItems : List (Outline ν φ) → Nat
  | [] => 0
  | item :: items => max (nesting item) (nestingItems items)

/-- The deepest nesting of the values of some members. -/
def nestingMembers : List (String × Outline ν φ) → Nat
  | [] => 0
  | (_, value) :: members => max (nesting value) (nestingMembers members)
end

end Outline

namespace Json

/-! ## The grammar -/

/-- A text with blanks around it. -/
inductive Padded (text : List Char) : List Char → Prop where
  | blanks {before after : List Char} : Blank before → Blank after →
      Padded text (before ++ text ++ after)

/-- The text of a member, from the name to the blanks after the value. -/
inductive MemberText (name : String) (value : List Char) : List Char → Prop where
  | colon {before spelled between padded : List Char} : Blank before → SpellsText name spelled →
      Blank between → Padded value padded →
      MemberText name value (before ++ spelled ++ between ++ ':' :: padded)

mutual
/-- The ways to write a value. -/
inductive Spells : Outline Number Flaw → List Char → Prop where
  | null : Spells .null ['n', 'u', 'l', 'l']
  | yes : Spells (.boolean true) ['t', 'r', 'u', 'e']
  | no : Spells (.boolean false) ['f', 'a', 'l', 's', 'e']
  | number {value : Number} {text : List Char} : SpellsNumber (some value) text →
      Spells (.number value) text
  | text {value : String} {text : List Char} : SpellsText value text → Spells (.text value) text
  | emptyArray {blank : List Char} : Blank blank → Spells (.array [] none) ('[' :: blank ++ [']'])
  | array {items : List (Outline Number Flaw)} {text : List Char} : SpellsItems items text →
      Spells (.array items none) ('[' :: text ++ [']'])
  | emptyObject {blank : List Char} : Blank blank →
      Spells (.object [] none) ('\x7b' :: blank ++ ['\x7d'])
  | object {members : List (String × Outline Number Flaw)} {text : List Char} :
      SpellsMembers members text → Spells (.object members none) ('\x7b' :: text ++ ['\x7d'])

/-- The ways to write items, one at least, with commas between them. -/
inductive SpellsItems : List (Outline Number Flaw) → List Char → Prop where
  | last {item : Outline Number Flaw} {text padded : List Char} : Spells item text →
      Padded text padded → SpellsItems [item] padded
  | more {item : Outline Number Flaw} {items : List (Outline Number Flaw)}
      {text padded rest : List Char} : Spells item text → Padded text padded →
      SpellsItems items rest → SpellsItems (item :: items) (padded ++ ',' :: rest)

/-- The ways to write members, one at least, with commas between them. -/
inductive SpellsMembers : List (String × Outline Number Flaw) → List Char → Prop where
  | last {name : String} {value : Outline Number Flaw} {text member : List Char} :
      Spells value text → MemberText name text member → SpellsMembers [(name, value)] member
  | more {name : String} {value : Outline Number Flaw}
      {members : List (String × Outline Number Flaw)} {text member rest : List Char} :
      Spells value text → MemberText name text member → SpellsMembers members rest →
      SpellsMembers ((name, value) :: members) (member ++ ',' :: rest)
end

/-! ## What texts begin with -/

/-- A character that values begin with. -/
def Begins (char : Char) : Prop := isBlank char = false ∧ char ≠ ']' ∧ char ≠ '\x7d'

theorem begins_of_isDigit {char : Char} (digit : char.isDigit = true) : Begins char := by
  refine ⟨?_, ?_, ?_⟩
  · rw [Bool.eq_false_iff, ne_eq, isBlank_iff]
    intro among
    simp only [List.mem_cons, List.not_mem_nil, or_false] at among
    rcases among with rfl | rfl | rfl | rfl <;> exact absurd digit (by decide)
  · rintro rfl
    exact absurd digit (by decide)
  · rintro rfl
    exact absurd digit (by decide)

theorem SpellsNumeral.front {numeral : Numeral} {text : List Char}
    (spelled : SpellsNumeral numeral text) :
    ∃ first more, text = first :: more ∧ first.isDigit = true := by
  cases spelled with
  | @parts _ whole behind mark _ _ digits _ _ _ =>
      obtain ⟨first, more, rfl⟩ := List.exists_cons_of_ne_nil digits.1
      exact ⟨first, more ++ behind ++ mark, by simp, digits.2 first (List.mem_cons_self ..)⟩

theorem SpellsNumber.front {value : Option Number} {text : List Char}
    (spelled : SpellsNumber value text) : ∃ first more, text = first :: more ∧ Begins first := by
  cases spelled with
  | positive _ numeral =>
      obtain ⟨first, more, rfl, digit⟩ := numeral.front
      exact ⟨first, more, rfl, begins_of_isDigit digit⟩
  | negative _ numeral => exact ⟨'-', _, rfl, by decide, by decide, by decide⟩

theorem Spells.front {value : Outline Number Flaw} {text : List Char}
    (spelled : Spells value text) : ∃ first more, text = first :: more ∧ Begins first := by
  cases spelled with
  | number number => exact number.front
  | text text =>
      cases text
      exact ⟨_, _, rfl, by decide, by decide, by decide⟩
  | _ => exact ⟨_, _, rfl, by decide, by decide, by decide⟩

/-! ## Reading values -/

theorem endsNumber_nil : EndsNumber [] := by simp [EndsNumber]

theorem endsNumber_cons {char : Char} (other : char ∈ [' ', '\t', '\n', '\r', ',', ']', '\x7d'])
    (rest : List Char) : EndsNumber (char :: rest) := by
  have all : ∀ char ∈ [' ', '\t', '\n', '\r', ',', ']', '\x7d'],
      char.isDigit = false ∧ char ∉ ['.', 'e', 'E'] := by simp
  intro first front
  cases front
  exact all _ other

theorem endsNumber_comma (rest : List Char) : EndsNumber (',' :: rest) :=
  endsNumber_cons (by decide) rest

theorem endsNumber_bracket (rest : List Char) : EndsNumber (']' :: rest) :=
  endsNumber_cons (by decide) rest

theorem endsNumber_brace (rest : List Char) : EndsNumber ('\x7d' :: rest) :=
  endsNumber_cons (by decide) rest

theorem EndsNumber.after_blank {blank rest : List Char} (blanks : Blank blank)
    (ends : EndsNumber rest) : EndsNumber (blank ++ rest) := by
  cases blank with
  | nil => exact ends
  | cons char blank =>
      refine endsNumber_cons ?_ _
      have among := blanks char (List.mem_cons_self ..)
      simp only [List.mem_cons, List.not_mem_nil, or_false] at among
      rcases among with rfl | rfl | rfl | rfl <;> decide

section

variable {nested : Option (List Char → Reading)}

theorem skipBlank_comma (rest : List Char) : skipBlank (',' :: rest) = ',' :: rest :=
  skipBlank_cons rfl rest

theorem readElement_blank {blank : List Char} (blanks : Blank blank) (input : List Char) :
    readElement nested (blank ++ input) = readElement nested input := by
  simp only [readElement, skipBlank_append blanks]

theorem readValue_eq (depth : Nat) : ∃ nested, readValue depth = readElement nested := by
  cases depth <;> exact ⟨_, rfl⟩

theorem readValue_blank {depth : Nat} {blank : List Char} (blanks : Blank blank)
    (input : List Char) : readValue depth (blank ++ input) = readValue depth input := by
  obtain ⟨nested, same⟩ := readValue_eq depth
  rw [same, readElement_blank blanks]

/-- **A text is read as what it says,** at any depth. -/
theorem readElement_text {value : String} {text : List Char} (spelled : SpellsText value text)
    (rest : List Char) : readElement nested (text ++ rest) = (.text value, some rest) := by
  cases spelled with
  | quoted spells =>
      have read := readText_spelled spells rest
      simp [readElement, skipBlank_cons, isBlank, read]

theorem readNumber_spelled {numeral : Numeral} {text rest : List Char}
    (spelled : SpellsNumeral numeral text) (ends : EndsNumber rest) :
    readNumber numeral.negative (text ++ rest) =
      numeral.toNumber.elim (stopAt .malformed) fun value => (.number value, some rest) := by
  simp only [readNumber, readNumeral_spelled spelled ends]
  cases numeral.toNumber <;> rfl

theorem readElement_digit {first : Char} (digit : first.isDigit = true) (more : List Char) :
    readElement nested (first :: more) = readNumber false (first :: more) := by
  simp only [readElement, skipBlank_cons (begins_of_isDigit digit).1]
  split
  case h_9 same =>
    cases same
    exact if_pos digit
  all_goals
    rename_i same
    cases same <;> exact absurd digit (by decide)

/-- **A number is read as what it says,** at any depth, and refused if it is too large. -/
theorem readElement_number {value : Option Number} {text rest : List Char}
    (spelled : SpellsNumber value text) (ends : EndsNumber rest) :
    readElement nested (text ++ rest) =
      value.elim (stopAt .malformed) fun value => (.number value, some rest) := by
  cases spelled with
  | negative below spelled =>
      rw [← readNumber_spelled spelled ends, below]
      simp [readElement, skipBlank_cons, isBlank]
  | positive above spelled =>
      rw [← readNumber_spelled spelled ends, above]
      obtain ⟨first, more, rfl, digit⟩ := spelled.front
      exact readElement_digit digit _

/-- What is made of the value of a member and of what comes after it. -/
def afterMember (element : List Char → Reading) (budget : Nat) (name : String) :
    Reading → List (String × Outline Number Flaw) × Option Flaw × Option (List Char)
  | (value, none) => ([(name, value)], none, none)
  | (value, some rest) =>
    match skipBlank rest with
    | [] => ([(name, value)], some .unfinished, none)
    | '\x7d' :: rest => ([(name, value)], none, some rest)
    | ',' :: rest =>
      let (members, ending, rest) := readMembers element budget rest
      ((name, value) :: members, ending, rest)
    | _ => ([(name, value)], some .malformed, none)

theorem afterMember_first (element : List Char → Reading) (budget : Nat) (name : String)
    (reading : Reading) :
    ∃ more, (afterMember element budget name reading).1 = (name, reading.1) :: more := by
  match reading with
  | (value, none) => exact ⟨[], rfl⟩
  | (value, some rest) =>
      simp only [afterMember]
      split <;> exact ⟨_, rfl⟩

theorem readMembers_name {name : String} {before spelled : List Char}
    (element : List Char → Reading) (blanks : Blank before)
    (spells : SpellsText name spelled) (budget : Nat) (rest : List Char) :
    readMembers element (budget + 1) (before ++ spelled ++ rest) =
      afterMember element budget name (readMemberValue element rest) := by
  cases spells with
  | quoted spells =>
      have read := readText_spelled spells rest
      simp [readMembers, skipBlank_append blanks, skipBlank_cons, isBlank, read]
      rfl

theorem readMembers_member {name : String} {value member : List Char}
    (element : List Char → Reading) (text : MemberText name value member) (budget : Nat)
    (rest : List Char) :
    ∃ padded, Padded value padded ∧ readMembers element (budget + 1) (member ++ rest) =
      afterMember element budget name (element (padded ++ rest)) := by
  cases text with
  | @colon before spelled between padded blanks spells space around =>
      refine ⟨padded, around, ?_⟩
      have value : readMemberValue element (between ++ ':' :: (padded ++ rest)) =
          element (padded ++ rest) := by
        simp [readMemberValue, skipBlank_append space, skipBlank_cons, isBlank]
      have read := readMembers_name element blanks spells budget
        (between ++ ':' :: (padded ++ rest))
      rw [value] at read
      simpa using read

/-- Blanks before a value are skipped, and those after it are left to be skipped. -/
theorem readValue_around {text padded : List Char} (around : Padded text padded) (depth : Nat)
    (rest : List Char) :
    ∃ after, Blank after ∧
      readValue depth (padded ++ rest) = readValue depth (text ++ (after ++ rest)) := by
  cases around with
  | @blanks before after front back =>
      refine ⟨after, back, ?_⟩
      rw [List.append_assoc, List.append_assoc, readValue_blank front]

theorem readValue_padded {depth : Nat} {value : Outline Number Flaw} {text padded rest : List Char}
    (reads : ∀ {rest}, EndsNumber rest → readValue depth (text ++ rest) = (value, some rest))
    (around : Padded text padded) (ends : EndsNumber rest) :
    ∃ after, Blank after ∧ readValue depth (padded ++ rest) = (value, some (after ++ rest)) := by
  obtain ⟨after, back, skipped⟩ := readValue_around around depth rest
  exact ⟨after, back, skipped.trans (reads (ends.after_blank back))⟩

end

/-! ## Reading what is nested -/

theorem Padded.front {value : Outline Number Flaw} {text padded : List Char}
    (around : Padded text padded) (spelled : Spells value text) (rest : List Char) :
    ∃ first more, skipBlank (padded ++ rest) = first :: more ∧ first ≠ ']' := by
  cases around with
  | blanks front back =>
      obtain ⟨first, more, rfl, dark, other, _⟩ := spelled.front
      rw [List.append_assoc, List.append_assoc, skipBlank_append front, List.cons_append,
        skipBlank_cons dark]
      exact ⟨_, _, rfl, other⟩

theorem SpellsItems.front {items : List (Outline Number Flaw)} {text : List Char}
    (spelled : SpellsItems items text) (rest : List Char) :
    ∃ first more, skipBlank (text ++ rest) = first :: more ∧ first ≠ ']' := by
  cases spelled with
  | last item around => exact around.front item rest
  | more item around _ =>
      rw [List.append_assoc]
      exact around.front item _

theorem MemberText.front {name : String} {value member : List Char}
    (text : MemberText name value member) (rest : List Char) :
    ∃ more, skipBlank (member ++ rest) = '"' :: more := by
  cases text with
  | colon front spells =>
      cases spells with
      | quoted =>
          simp only [List.append_assoc, List.cons_append, skipBlank_append front]
          exact ⟨_, skipBlank_cons (by decide) _⟩

theorem SpellsMembers.front {members : List (String × Outline Number Flaw)} {text : List Char}
    (spelled : SpellsMembers members text) (rest : List Char) :
    ∃ more, skipBlank (text ++ rest) = '"' :: more := by
  cases spelled with
  | last _ member => exact member.front rest
  | more _ member _ =>
      rw [List.append_assoc]
      exact member.front _

/-- Every item takes a character at least. -/
theorem SpellsItems.length_le : ∀ {items : List (Outline Number Flaw)} {text : List Char},
    SpellsItems items text → items.length ≤ text.length
  | _, _, .last item (.blanks _ _) => by
      obtain ⟨first, more, rfl, _⟩ := item.front
      simp only [List.length_append, List.length_cons, List.length_nil]
      omega
  | _, _, .more _ _ items => by
      have shorter := items.length_le
      simp only [List.length_append, List.length_cons]
      omega

/-- Every member takes a character at least. -/
theorem SpellsMembers.length_le : ∀ {members : List (String × Outline Number Flaw)}
    {text : List Char}, SpellsMembers members text → members.length ≤ text.length
  | _, _, .last _ (.colon _ _ _ _) => by
      simp only [List.length_append, List.length_cons, List.length_nil]
      omega
  | _, _, .more _ _ members => by
      have shorter := members.length_le
      simp only [List.length_append, List.length_cons]
      omega

theorem readArray_items {element : List Char → Reading} {items : List (Outline Number Flaw)}
    {text rest : List Char} (spelled : SpellsItems items text)
    (read : readItems element (text ++ ']' :: rest).length (text ++ ']' :: rest) =
      (items, none, some rest)) :
    readArray element (text ++ ']' :: rest) = (.array items none, some rest) := by
  obtain ⟨first, more, front, other⟩ := spelled.front (']' :: rest)
  simp only [readArray, front]
  split
  · rename_i same
    cases same
    exact absurd rfl other
  · rename_i same
    cases same
  · rw [read]

theorem readObject_members {element : List Char → Reading}
    {members : List (String × Outline Number Flaw)} {text rest : List Char}
    (spelled : SpellsMembers members text)
    (read : readMembers element ((text ++ '\x7d' :: rest).length + 1) (text ++ '\x7d' :: rest) =
      (members, none, some rest)) :
    readObject element (text ++ '\x7d' :: rest) = (.object members none, some rest) := by
  obtain ⟨more, front⟩ := spelled.front ('\x7d' :: rest)
  simp only [readObject, front, read]
  rfl

mutual
/-- **Whatever has been written is read back,** if it is not nested too deep. -/
theorem readValue_spelled : ∀ {value : Outline Number Flaw} {text : List Char} {depth : Nat}
    {rest : List Char}, Spells value text → value.nesting ≤ depth → EndsNumber rest →
    readValue depth (text ++ rest) = (value, some rest)
  | _, _, depth, _, .null, _, _ => by cases depth <;> rfl
  | _, _, depth, _, .yes, _, _ => by cases depth <;> rfl
  | _, _, depth, _, .no, _, _ => by cases depth <;> rfl
  | _, _, depth, _, .number digits, _, ends => by
      cases depth <;> exact readElement_number digits ends
  | _, _, depth, rest, .text quoted, _, _ => by
      cases depth <;> exact readElement_text quoted rest
  | _, _, depth + 1, rest, .emptyArray blank, _, _ => by
      simp [readValue, readElement, skipBlank_cons, isBlank, readArray, skipBlank_append blank]
  | _, _, depth + 1, rest, @Spells.array _ inside items, deep, _ => by
      simp only [Outline.nesting, Nat.add_le_add_iff_right] at deep
      have enough : _ ≤ (inside ++ ']' :: rest).length :=
        Nat.le_trans items.length_le (List.length_append ▸ Nat.le_add_right ..)
      have read := readArray_items items (readItems_spelled items deep enough)
      simpa [readValue, readElement, skipBlank_cons, isBlank] using read
  | _, _, depth + 1, rest, .emptyObject blank, _, _ => by
      simp [readValue, readElement, skipBlank_cons, isBlank, readObject, skipBlank_append blank]
  | _, _, depth + 1, rest, @Spells.object _ inside members, deep, _ => by
      simp only [Outline.nesting, Nat.add_le_add_iff_right] at deep
      have enough : _ ≤ (inside ++ '\x7d' :: rest).length + 1 :=
        Nat.le_trans members.length_le (List.length_append ▸ by omega)
      have read := readObject_members members (readMembers_spelled members deep enough)
      simpa [readValue, readElement, skipBlank_cons, isBlank] using read

theorem readItems_spelled : ∀ {items : List (Outline Number Flaw)} {text : List Char}
    {depth budget : Nat} {rest : List Char}, SpellsItems items text →
    Outline.nestingItems items ≤ depth → items.length ≤ budget →
    readItems (readValue depth) budget (text ++ ']' :: rest) = (items, none, some rest)
  | _, _, _, 0, _, .last _ _, _, long | _, _, _, 0, _, .more _ _ _, _, long => by cases long
  | _, _, depth, budget + 1, rest, .last item around, deep, long => by
      simp only [Outline.nestingItems, Nat.max_le] at deep
      obtain ⟨after, blank, read⟩ := readValue_padded (readValue_spelled item deep.1) around
        (endsNumber_bracket rest)
      simp only [readItems, read, skipBlank_append blank]
      rfl
  | _, _, depth, budget + 1, rest, @SpellsItems.more _ _ _ _ others item around items, deep,
      long => by
      simp only [Outline.nestingItems, Nat.max_le] at deep
      obtain ⟨after, blank, read⟩ := readValue_padded (readValue_spelled item deep.1) around
        (endsNumber_comma (others ++ ']' :: rest))
      have more : readItems (readValue depth) budget (others ++ ']' :: rest) =
          (_, none, some rest) := readItems_spelled items deep.2 (Nat.le_of_succ_le_succ long)
      obtain ⟨first, behind, front, other⟩ := items.front (']' :: rest)
      rw [List.append_assoc, List.cons_append]
      simp only [readItems, read, skipBlank_append blank, skipBlank_comma, front]
      split
      · rename_i same
        cases same
        exact absurd rfl other
      · rw [more]

theorem readMembers_spelled : ∀ {members : List (String × Outline Number Flaw)} {text : List Char}
    {depth budget : Nat} {rest : List Char}, SpellsMembers members text →
    Outline.nestingMembers members ≤ depth → members.length ≤ budget →
    readMembers (readValue depth) budget (text ++ '\x7d' :: rest) = (members, none, some rest)
  | _, _, _, 0, _, .last _ _, _, long | _, _, _, 0, _, .more _ _ _, _, long => by cases long
  | _, _, depth, budget + 1, rest, .last value member, deep, long => by
      simp only [Outline.nestingMembers, Nat.max_le] at deep
      obtain ⟨padded, around, named⟩ := readMembers_member (readValue depth) member budget
        ('\x7d' :: rest)
      obtain ⟨after, blank, read⟩ := readValue_padded (readValue_spelled value deep.1) around
        (endsNumber_brace rest)
      simp only [named, read, afterMember, skipBlank_append blank]
      rfl
  | _, _, depth, budget + 1, rest, @SpellsMembers.more _ _ _ _ _ others value member members, deep,
      long => by
      simp only [Outline.nestingMembers, Nat.max_le] at deep
      obtain ⟨padded, around, named⟩ := readMembers_member (readValue depth) member budget
        (',' :: (others ++ '\x7d' :: rest))
      obtain ⟨after, blank, read⟩ := readValue_padded (readValue_spelled value deep.1) around
        (endsNumber_comma (others ++ '\x7d' :: rest))
      have more : readMembers (readValue depth) budget (others ++ '\x7d' :: rest) =
          (_, none, some rest) := readMembers_spelled members deep.2 (Nat.le_of_succ_le_succ long)
      rw [List.append_assoc, List.cons_append, named]
      simp only [read, afterMember, skipBlank_append blank, skipBlank_comma, more]
end

/-! ## Reading a whole text -/

/-- What the grammar writes is read, with blanks around it. -/
theorem readOutline_spelled {value : Outline Number Flaw} {text padded : List Char} {depth : Nat}
    (spelled : Spells value text) (around : Padded text padded) (deep : value.nesting ≤ depth) :
    readOutline depth padded = (value, none) := by
  obtain ⟨after, blank, read⟩ :=
    readValue_padded (readValue_spelled spelled deep) around endsNumber_nil
  have last : skipBlank (after ++ []) = [] := skipBlank_append blank []
  rw [List.append_nil] at read
  simp only [readOutline, read, last, if_true]

/-- A text writes one value only. -/
theorem Spells.unique {value other : Outline Number Flaw} {text : List Char}
    (spelled : Spells value text) (again : Spells other text) : value = other := by
  have left := readValue_spelled spelled (Nat.le_max_left _ other.nesting) endsNumber_nil
  have right := readValue_spelled again (Nat.le_max_right value.nesting _) endsNumber_nil
  rw [left] at right
  cases right
  rfl

end Json

end TopicRelay
