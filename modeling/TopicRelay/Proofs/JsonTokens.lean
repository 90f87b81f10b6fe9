import Mathlib.Tactic.SplitIfs
import TopicRelay.Json.Reader

/-!
# Texts and numbers of JSON

How JSON writes texts and numbers, and what the reader makes of them.  A text is written one
character after the other.  Each stands for itself, for a letter after a backslash, or for the one
or two sixteen-bit units that the character has; half of a pair of units writes no character.  A
number is written in decimal digits.

`readText_spelled` and `readNumeral_spelled` say that whatever is written so is read back, up to
where it ends, and `readText_lone` that a text with half a pair is refused.
-/

namespace TopicRelay

set_option autoImplicit false

namespace Json

/-! ## Blanks -/

/-- Spaces, tabs and ends of lines. -/
def Blank (text : List Char) : Prop := ∀ char ∈ text, char ∈ [' ', '\t', '\n', '\r']

theorem blank_nil : Blank [] := by simp [Blank]

theorem isBlank_iff {char : Char} : isBlank char = true ↔ char ∈ [' ', '\t', '\n', '\r'] := by
  simp only [isBlank, Bool.or_eq_true, beq_iff_eq, List.mem_cons, List.not_mem_nil, or_false]
  grind

theorem skipBlank_append {blank : List Char} (blanks : Blank blank) (rest : List Char) :
    skipBlank (blank ++ rest) = skipBlank rest :=
  List.dropWhile_append_of_pos fun char among => isBlank_iff.mpr (blanks char among)

@[simp] theorem skipBlank_nil : skipBlank [] = [] := rfl

theorem skipBlank_cons {char : Char} (dark : isBlank char = false) (rest : List Char) :
    skipBlank (char :: rest) = char :: rest := by
  simp [skipBlank, dark]

/-! ## Characters -/

/-- A hexadecimal digit in lower or upper case. -/
def HexDigit (value : Nat) (digit : Char) : Prop :=
  "0123456789abcdef".toList[value]? = some digit ∨ "0123456789ABCDEF".toList[value]? = some digit

instance (value : Nat) (digit : Char) : Decidable (HexDigit value digit) :=
  inferInstanceAs (Decidable (_ ∨ _))

/-- Four hexadecimal digits of a sixteen-bit unit. -/
inductive HexUnit : Nat → List Char → Prop where
  | digits {a b c d : Nat} {first second third fourth : Char} : HexDigit a first →
      HexDigit b second → HexDigit c third → HexDigit d fourth →
      HexUnit (a * 0x1000 + b * 0x100 + c * 0x10 + d) [first, second, third, fourth]

/-- The letters after a backslash and what they stand for. -/
def letterEscapes : List (Char × Char) :=
  [('"', '"'), ('\\', '\\'), ('/', '/'), ('b', '\x08'), ('f', '\x0c'), ('n', '\n'), ('r', '\r'),
    ('t', '\t')]

/-- A unit that begins a pair. -/
def Leading (unit : Nat) : Prop := 0xD800 ≤ unit ∧ unit ≤ 0xDBFF

/-- A unit that ends a pair. -/
def Trailing (unit : Nat) : Prop := 0xDC00 ≤ unit ∧ unit ≤ 0xDFFF

/-- The ways to write a character inside a text. -/
inductive SpellsChar : Char → List Char → Prop where
  | itself {char : Char} : char ≠ '"' → char ≠ '\\' → 0x20 ≤ char.toNat → SpellsChar char [char]
  | letter {letter char : Char} : (letter, char) ∈ letterEscapes →
      SpellsChar char ['\\', letter]
  | unit {char : Char} {digits : List Char} : HexUnit char.toNat digits →
      SpellsChar char ('\\' :: 'u' :: digits)
  | pair {char : Char} {leading trailing : Nat} {first second : List Char} :
      Leading leading → Trailing trailing → HexUnit leading first → HexUnit trailing second →
      char.toNat = 0x10000 + (leading - 0xD800) * 0x400 + (trailing - 0xDC00) →
      SpellsChar char ('\\' :: 'u' :: first ++ '\\' :: 'u' :: second)

/-- The ways to write several characters inside a text. -/
inductive SpellsChars : List Char → List Char → Prop where
  | nil : SpellsChars [] []
  | cons {char : Char} {content piece spelled : List Char} : SpellsChar char piece →
      SpellsChars content spelled → SpellsChars (char :: content) (piece ++ spelled)

/-- The ways to write a text, with its quotes. -/
inductive SpellsText : String → List Char → Prop where
  | quoted {text : String} {spelled : List Char} : SpellsChars text.toList spelled →
      SpellsText text ('"' :: spelled ++ ['"'])

/-- What begins like a text, after the opening quote, and then has half a pair of units, however it
may go on. -/
inductive LoneUnit : List Char → Prop where
  | trailing {unit : Nat} {content spelled digits rest : List Char} : SpellsChars content spelled →
      Trailing unit → HexUnit unit digits → LoneUnit (spelled ++ ('\\' :: 'u' :: digits ++ rest))
  | leading {unit : Nat} {content spelled digits rest : List Char} : SpellsChars content spelled →
      Leading unit → HexUnit unit digits →
      (∀ {next digits more after}, rest ++ more = '\\' :: 'u' :: digits ++ after →
        HexUnit next digits → ¬Trailing next) →
      LoneUnit (spelled ++ ('\\' :: 'u' :: digits ++ rest))

/-! ## Reading texts -/

theorem hexValue?_of_hexDigit {value : Nat} {digit : Char} (spelled : HexDigit value digit) :
    hexValue? digit = some value := by
  have small : value < 16 := by
    rcases spelled with there | there <;>
      · obtain ⟨bound, _⟩ := List.getElem?_eq_some_iff.mp there
        exact bound
  have all : ∀ value : Fin 16,
      hexValue? ("0123456789abcdef".toList[value.val]?.getD ' ') = some value.val ∧
        hexValue? ("0123456789ABCDEF".toList[value.val]?.getD ' ') = some value.val := by decide
  rcases spelled with there | there
  · have read := (all ⟨value, small⟩).1
    rwa [there] at read
  · have read := (all ⟨value, small⟩).2
    rwa [there] at read

theorem hexDigit_of_hexValue? {value : Nat} {digit : Char} (read : hexValue? digit = some value) :
    HexDigit value digit := by
  have all : ∀ code : Fin 103, ∀ value ∈ hexValue? (Char.ofNat code.val),
      HexDigit value (Char.ofNat code.val) := by decide
  have small : digit.toNat < 103 := by
    have within : ∀ {last : Char}, digit ≤ last → digit.toNat ≤ last.toNat := id
    unfold hexValue? at read
    split at read
    · exact Nat.lt_of_le_of_lt (within ‹_ ∧ _›.2) (by decide)
    · split at read
      · exact Nat.lt_of_le_of_lt (within ‹_ ∧ _›.2) (by decide)
      · split at read
        · exact Nat.lt_of_le_of_lt (within ‹_ ∧ _›.2) (by decide)
        · cases read
  have named := all ⟨digit.toNat, small⟩ value
  rw [Char.ofNat_toNat] at named
  exact named read

theorem hexUnit?_of_hexUnit {unit : Nat} {first second third fourth : Char}
    (spelled : HexUnit unit [first, second, third, fourth]) :
    hexUnit? first second third fourth = some unit := by
  cases spelled with
  | digits first second third fourth =>
      simp only [hexUnit?, hexValue?_of_hexDigit first, hexValue?_of_hexDigit second,
        hexValue?_of_hexDigit third, hexValue?_of_hexDigit fourth, Option.bind_eq_bind,
        Option.bind_some, Option.pure_def, Option.some.injEq]
      omega

theorem hexUnit_of_hexUnit? {unit : Nat} {first second third fourth : Char}
    (read : hexUnit? first second third fourth = some unit) :
    HexUnit unit [first, second, third, fourth] := by
  simp only [hexUnit?, Option.bind_eq_bind, Option.bind_eq_some_iff, Option.pure_def,
    Option.some.injEq] at read
  obtain ⟨a, former, b, second, c, third, d, fourth, rfl⟩ := read
  have same : ((a * 16 + b) * 16 + c) * 16 + d = a * 0x1000 + b * 0x100 + c * 0x10 + d := by omega
  rw [same]
  exact .digits (hexDigit_of_hexValue? former) (hexDigit_of_hexValue? second)
    (hexDigit_of_hexValue? third) (hexDigit_of_hexValue? fourth)

theorem HexUnit.four {unit : Nat} {digits : List Char} (spelled : HexUnit unit digits) :
    ∃ first second third fourth, digits = [first, second, third, fourth] := by
  cases spelled
  exact ⟨_, _, _, _, rfl⟩

theorem isLeading_iff {unit : Nat} : isLeading unit = true ↔ Leading unit := by
  simp [isLeading, Leading]

theorem isTrailing_iff {unit : Nat} : isTrailing unit = true ↔ Trailing unit := by
  simp [isTrailing, Trailing]

theorem joinUnits_eq {char : Char} {leading trailing : Nat}
    (whole : char.toNat = 0x10000 + (leading - 0xD800) * 0x400 + (trailing - 0xDC00)) :
    joinUnits leading trailing = char := by
  rw [joinUnits, ← whole, Char.ofNat_toNat]

theorem Leading.not_isTrailing {unit : Nat} (leads : Leading unit) : isTrailing unit = false := by
  rw [Bool.eq_false_iff, ne_eq, isTrailing_iff]
  simp only [Leading, Trailing] at leads ⊢
  omega

/-- A character is no half of a pair. -/
theorem toNat_not_half (char : Char) : ¬Leading char.toNat ∧ ¬Trailing char.toNat := by
  have valid : char.toNat < 0xD800 ∨ 0xDFFF < char.toNat ∧ char.toNat < 0x110000 := char.valid
  simp only [Leading, Trailing]
  omega

/-- A character that has been written is read. -/
theorem readText_char {char : Char} {piece : List Char} (spelled : SpellsChar char piece)
    (rest : List Char) : readText none (piece ++ rest) = withChar char (readText none rest) := by
  cases spelled with
  | itself quote backslash visible =>
      have shown : ¬char.toNat < 32 := by omega
      simp [readText, quote, backslash, shown]
  | @letter letter _ among =>
      simp only [letterEscapes, List.mem_cons, Prod.mk.injEq, List.not_mem_nil, or_false] at among
      rcases among with ⟨rfl, rfl⟩ | ⟨rfl, rfl⟩ | ⟨rfl, rfl⟩ | ⟨rfl, rfl⟩ | ⟨rfl, rfl⟩ |
        ⟨rfl, rfl⟩ | ⟨rfl, rfl⟩ | ⟨rfl, rfl⟩ <;> simp [readText, simpleEscape?]
  | unit digits =>
      obtain ⟨first, second, third, fourth, rfl⟩ := digits.four
      have notLeading : isLeading char.toNat = false := by
        simpa [← isLeading_iff] using (toNat_not_half char).1
      have notTrailing : isTrailing char.toNat = false := by
        simpa [← isTrailing_iff] using (toNat_not_half char).2
      simp [readText, hexUnit?_of_hexUnit digits, notLeading, notTrailing]
  | @pair _ leading trailing _ _ leads trails former latter whole =>
      obtain ⟨first, second, third, fourth, rfl⟩ := former.four
      obtain ⟨fifth, sixth, seventh, eighth, rfl⟩ := latter.four
      simp [readText, hexUnit?_of_hexUnit former, hexUnit?_of_hexUnit latter, leads.not_isTrailing,
        isLeading_iff.mpr leads, isTrailing_iff.mpr trails, joinUnits_eq whole]

/-- What has been read of a text comes before the rest of it. -/
theorem readText_chars {content spelled : List Char} (spells : SpellsChars content spelled)
    (rest : List Char) :
    readText none (spelled ++ rest) = content.foldr withChar (readText none rest) := by
  induction spells with
  | nil => rfl
  | cons first _ ih =>
      rw [List.append_assoc, readText_char first, ih]
      rfl

theorem foldr_withChar_ok (content more rest : List Char) :
    content.foldr withChar (.ok (more, rest)) = .ok (content ++ more, rest) := by
  induction content with
  | nil => rfl
  | cons char content ih => rw [List.foldr_cons, ih]; rfl

theorem foldr_withChar_error (content : List Char) (flaw : Flaw) :
    content.foldr withChar (.error flaw) = .error flaw := by
  induction content with
  | nil => rfl
  | cons char content ih => rw [List.foldr_cons, ih]; rfl

/-- **A text that has been written is read,** up to its closing quote. -/
theorem readText_spelled {content spelled : List Char} (spells : SpellsChars content spelled)
    (rest : List Char) : readText none (spelled ++ '"' :: rest) = .ok (content, rest) := by
  have closing : readText none ('"' :: rest) = .ok ([], rest) := by simp [readText]
  rw [readText_chars spells, closing, foldr_withChar_ok, List.append_nil]

/-- A unit that begins a pair is refused if no unit comes next that ends it. -/
theorem readText_pending (leading : Nat) {rest : List Char}
    (unpaired : ∀ {unit digits after}, rest = '\\' :: 'u' :: digits ++ after →
      HexUnit unit digits → ¬Trailing unit) :
    ∃ flaw, readText (some leading) rest = .error flaw := by
  generalize waiting : some leading = pending
  fun_cases readText pending rest with
  | case2 first second third fourth _ unit _ units trails =>
      exact absurd (isTrailing_iff.mp trails) (unpaired rfl (hexUnit_of_hexUnit? units))
  | case4 | case5 | case6 | case9 => cases waiting
  | case13 | case14 | case15 =>
      exact absurd (Option.isSome_iff_exists.mpr ⟨_, waiting.symm⟩) ‹¬Option.isSome _ = true›
  | _ => exact ⟨_, rfl⟩

theorem LoneUnit.append {text : List Char} (lone : LoneUnit text) (more : List Char) :
    LoneUnit (text ++ more) := by
  cases lone with
  | trailing spells trails digits =>
      rw [List.append_assoc, List.append_assoc]
      exact .trailing spells trails digits
  | leading spells leads digits unpaired =>
      rw [List.append_assoc, List.append_assoc]
      refine .leading spells leads digits fun same => ?_
      rw [List.append_assoc] at same
      exact unpaired same

/-- **A text with half a pair is refused.** -/
theorem readText_lone {text : List Char} (lone : LoneUnit text) :
    ∃ flaw, readText none text = .error flaw := by
  cases lone with
  | @trailing unit content spelled digits rest spells trails former =>
      obtain ⟨first, second, third, fourth, rfl⟩ := former.four
      have refused : readText none ('\\' :: 'u' :: [first, second, third, fourth] ++ rest) =
          .error .malformed := by
        simp [readText, hexUnit?_of_hexUnit former, isTrailing_iff.mpr trails]
      exact ⟨_, by rw [readText_chars spells, refused, foldr_withChar_error]⟩
  | @leading unit content spelled digits rest spells leads former unpaired =>
      obtain ⟨first, second, third, fourth, rfl⟩ := former.four
      obtain ⟨flaw, refused⟩ : ∃ flaw, readText (some unit) rest = .error flaw :=
        readText_pending unit fun same => unpaired ((List.append_nil rest).trans same)
      have waits : readText none ('\\' :: 'u' :: [first, second, third, fourth] ++ rest) =
          .error flaw := by
        simp [readText, hexUnit?_of_hexUnit former, leads.not_isTrailing, isLeading_iff.mpr leads,
          refused]
      exact ⟨_, by rw [readText_chars spells, waits, foldr_withChar_error]⟩

/-! ## Writing texts -/

theorem hexDigit_spelled {value : Nat} (small : value < 16) : HexDigit value (hexDigit value) := by
  have all : ∀ value : Fin 16, HexDigit value.val (hexDigit value.val) := by decide
  exact all ⟨value, small⟩

/-- A character below 256 as a unit. -/
theorem unit_spelled {char : Char} (small : char.toNat < 256) :
    SpellsChar char
      ['\\', 'u', '0', '0', hexDigit (char.toNat / 16), hexDigit (char.toNat % 16)] := by
  have high : HexDigit (char.toNat / 16) (hexDigit (char.toNat / 16)) :=
    hexDigit_spelled (by omega)
  have low : HexDigit (char.toNat % 16) (hexDigit (char.toNat % 16)) := hexDigit_spelled (by omega)
  have zero : HexDigit 0 '0' := .inl rfl
  have units := HexUnit.digits zero zero high low
  rw [show 0 * 0x1000 + 0 * 0x100 + char.toNat / 16 * 0x10 + char.toNat % 16 = char.toNat by omega]
    at units
  exact .unit units

theorem escapeChar_spelled (char : Char) : SpellsChar char (escapeChar char) := by
  have letters : ∀ {letter meaning : Char}, char = meaning → (letter, meaning) ∈ letterEscapes →
      SpellsChar char ['\\', letter] := by
    rintro letter _ rfl among
    exact .letter among
  unfold escapeChar
  split_ifs with quote backslash backspace formFeed newLine carriageReturn tab control
  · exact letters quote (by decide)
  · exact letters backslash (by decide)
  · exact letters backspace (by decide)
  · exact letters formFeed (by decide)
  · exact letters newLine (by decide)
  · exact letters carriageReturn (by decide)
  · exact letters tab (by decide)
  · exact unit_spelled (by omega)
  · exact .itself quote backslash (by omega)

theorem flatMap_escapeChar_spelled (content : List Char) :
    SpellsChars content (content.flatMap escapeChar) := by
  induction content with
  | nil => exact .nil
  | cons char content ih => exact .cons (escapeChar_spelled char) ih

theorem renderText_spelled (text : String) : SpellsText text (renderText text) :=
  .quoted (flatMap_escapeChar_spelled text.toList)

/-! ## Numbers -/

/-- Decimal digits, one at least. -/
def Digits (text : List Char) : Prop := text ≠ [] ∧ ∀ char ∈ text, char.isDigit = true

/-- The ways to write what is behind the point of a number. -/
inductive SpellsFraction : Option (List Char) → List Char → Prop where
  | none : SpellsFraction none []
  | point {digits : List Char} : Digits digits → SpellsFraction (some digits) ('.' :: digits)

/-- The ways to write the power of ten of a number. -/
inductive SpellsPower : Option Int → List Char → Prop where
  | none : SpellsPower none []
  | plain {mark : Char} {digits : List Char} : mark ∈ ['e', 'E'] → Digits digits →
      SpellsPower (some (Nat.ofDigitChars 10 digits 0)) (mark :: digits)
  | plus {mark : Char} {digits : List Char} : mark ∈ ['e', 'E'] → Digits digits →
      SpellsPower (some (Nat.ofDigitChars 10 digits 0)) (mark :: '+' :: digits)
  | minus {mark : Char} {digits : List Char} : mark ∈ ['e', 'E'] → Digits digits →
      SpellsPower (some (-Nat.ofDigitChars 10 digits 0)) (mark :: '-' :: digits)

/-- The ways to write a number without its sign.  No digit comes after a zero at the front. -/
inductive SpellsNumeral : Numeral → List Char → Prop where
  | parts {negative : Bool} {whole behind mark : List Char} {fraction : Option (List Char)}
      {power : Option Int} : Digits whole → (whole.head? = some '0' → whole = ['0']) →
      SpellsFraction fraction behind → SpellsPower power mark →
      SpellsNumeral ⟨negative, whole, fraction, power⟩ (whole ++ behind ++ mark)

/-- What cannot be more of a number. -/
def EndsNumber (rest : List Char) : Prop :=
  ∀ char ∈ rest.head?, char.isDigit = false ∧ char ∉ ['.', 'e', 'E']

theorem digitsValue_eq (digits : List Char) :
    digitsValue digits = Nat.ofDigitChars 10 digits 0 := by
  rw [digitsValue, Nat.ofDigitChars_eq_foldl]
  simp only [Nat.mul_comm]
  rfl

/-- Digits are read up to what is no digit. -/
theorem readDigits_append {digits rest : List Char} (spelled : Digits digits)
    (ends : ∀ char ∈ rest.head?, char.isDigit = false) :
    readDigits (digits ++ rest) = .ok (digits, rest) := by
  have taken : (digits ++ rest).takeWhile Char.isDigit = digits := by
    rw [List.takeWhile_append_of_pos spelled.2]
    cases rest with
    | nil => simp
    | cons char rest => simp [ends char rfl]
  have dropped : (digits ++ rest).dropWhile Char.isDigit = rest := by
    rw [List.dropWhile_append_of_pos spelled.2]
    cases rest with
    | nil => rfl
    | cons char rest => simp [ends char rfl]
  obtain ⟨first, more, rfl⟩ := List.exists_cons_of_ne_nil spelled.1
  simp only [readDigits, spanDigits, taken, dropped]

/-- No digit comes at the front of a point, a power, or what cannot be more of a number. -/
theorem SpellsPower.ends {power : Option Int} {mark rest : List Char}
    (spelled : SpellsPower power mark) (ends : EndsNumber rest) :
    ∀ char ∈ (mark ++ rest).head?, char.isDigit = false ∧ char ≠ '.' := by
  have marks : ∀ {mark : Char}, mark ∈ ['e', 'E'] → mark.isDigit = false ∧ mark ≠ '.' := by
    simp
  cases spelled with
  | none =>
      intro char among
      have := ends char among
      grind
  | plain among | plus among | minus among => simpa using marks among

theorem SpellsFraction.ends {fraction : Option (List Char)} {behind rest : List Char}
    (spelled : SpellsFraction fraction behind)
    (ends : ∀ char ∈ rest.head?, char.isDigit = false ∧ char ≠ '.') :
    ∀ char ∈ (behind ++ rest).head?, char.isDigit = false := by
  cases spelled with
  | none => exact fun char among => (ends char among).1
  | point => simp

theorem readPower_append {power : Option Int} {mark rest : List Char}
    (spelled : SpellsPower power mark) (ends : EndsNumber rest) :
    readPower (mark ++ rest) = .ok (power, rest) := by
  have stops : ∀ char ∈ rest.head?, char.isDigit = false := fun char among => (ends char among).1
  have marks : ∀ {mark : Char}, mark ∈ ['e', 'E'] → mark = 'e' ∨ mark = 'E' := by simp
  cases spelled with
  | none =>
      cases rest with
      | nil => rfl
      | cons char rest =>
          have other := (ends char rfl).2
          simp only [List.mem_cons, List.not_mem_nil, or_false, not_or] at other
          simp [readPower, other]
  | @plain mark digits among spelled =>
      obtain ⟨first, more, rfl⟩ := List.exists_cons_of_ne_nil spelled.1
      have digit : first.isDigit = true := spelled.2 first (List.mem_cons_self ..)
      have unsigned : splitSign (first :: (more ++ rest)) = (false, first :: (more ++ rest)) := by
        unfold splitSign
        split
        · cases ‹_ = _›
          exact absurd digit (by decide)
        · cases ‹_ = _›
          exact absurd digit (by decide)
        · rfl
      have read := readDigits_append spelled stops
      rw [List.cons_append] at read
      simp only [readPower, List.cons_append, if_pos (marks among), unsigned, read, digitsValue_eq]
      rfl
  | plus among spelled | minus among spelled =>
      have read := readDigits_append spelled stops
      simp only [readPower, List.cons_append, if_pos (marks among), splitSign, read,
        digitsValue_eq]
      rfl

theorem readFraction_append {fraction : Option (List Char)} {behind rest : List Char}
    (spelled : SpellsFraction fraction behind)
    (ends : ∀ char ∈ rest.head?, char.isDigit = false ∧ char ≠ '.') :
    readFraction (behind ++ rest) = .ok (fraction, rest) := by
  cases spelled with
  | none =>
      unfold readFraction
      split
      · exact absurd rfl (ends '.' (by simp_all)).2
      · rfl
  | point spelled =>
      have read := readDigits_append spelled fun char among => (ends char among).1
      simp only [readFraction, List.cons_append, read]
      rfl

theorem readWhole_append {whole rest : List Char} (spelled : Digits whole)
    (short : whole.head? = some '0' → whole = ['0'])
    (ends : ∀ char ∈ rest.head?, char.isDigit = false) :
    readWhole (whole ++ rest) = .ok (whole, rest) := by
  simp only [readWhole, readDigits_append spelled ends, bind, Except.bind]
  split
  · rename_i long
    cases long
    cases short rfl
  · rename_i same
    cases same
    rfl

/-- **A number that has been written is read,** up to where it ends. -/
theorem readNumeral_spelled {numeral : Numeral} {text rest : List Char}
    (spelled : SpellsNumeral numeral text) (ends : EndsNumber rest) :
    readNumeral numeral.negative (text ++ rest) = .ok (numeral, rest) := by
  obtain ⟨digits, short, behind, mark⟩ := spelled
  have markEnds := mark.ends ends
  simp only [readNumeral, List.append_assoc, readWhole_append digits short (behind.ends markEnds),
    readFraction_append behind markEnds, readPower_append mark ends, bind, Except.bind]
  rfl

/-- The ways to write a number with its sign; no number is meant if it would be too large. -/
inductive SpellsNumber : Option Number → List Char → Prop where
  | positive {numeral : Numeral} {text : List Char} : numeral.negative = false →
      SpellsNumeral numeral text → SpellsNumber numeral.toNumber text
  | negative {numeral : Numeral} {text : List Char} : numeral.negative = true →
      SpellsNumeral numeral text → SpellsNumber numeral.toNumber ('-' :: text)

/-! ## Integers -/

theorem le_ofDigitChars (digits : List Char) (value : Nat) :
    value ≤ Nat.ofDigitChars 10 digits value := by
  rw [Nat.ofDigitChars_eq_ofDigitChars_zero]
  have positive : 0 < 10 ^ digits.length := Nat.pow_pos (by decide)
  have := Nat.le_mul_of_pos_left value positive
  omega

/-- Digits are all kept if their number is not too large. -/
theorem absorb_eq {digits : List Char} {value : Nat}
    (small : Nat.ofDigitChars 10 digits value ≤ maxInteger) :
    absorb value digits = (Nat.ofDigitChars 10 digits value, []) := by
  induction digits generalizing value with
  | nil => rfl
  | cons digit digits ih =>
      rw [Nat.ofDigitChars_cons, Nat.mul_comm] at small ⊢
      have fits : ¬maxInteger < value * 10 + (digit.toNat - 48) :=
        Nat.not_lt.mpr (Nat.le_trans (le_ofDigitChars digits _) small)
      rw [absorb, if_neg fits]
      exact ih small

theorem absorb_toDigits {value : Nat} (small : value ≤ maxInteger) :
    absorb 0 (Nat.toDigits 10 value) = (value, []) := by
  have same : Nat.ofDigitChars 10 (Nat.toDigits 10 value) 0 = value :=
    Nat.ofDigitChars_ten_toDigits
  rw [absorb_eq (same.symm ▸ small), same]

/-- Only zero is written with a zero at the front. -/
theorem toDigits_eq_zero (value : Nat) (zero : (Nat.toDigits 10 value).head? = some '0') :
    Nat.toDigits 10 value = ['0'] := by
  induction value using Nat.strongRecOn with
  | ind value ih =>
      rcases Nat.lt_or_ge value 10 with small | large
      · rw [Nat.toDigits_of_lt_base small] at zero ⊢
        simpa using zero
      · have some : Nat.toDigits 10 (value / 10) ≠ [] := Nat.toDigits_ne_nil
        obtain ⟨first, more, front⟩ := List.exists_cons_of_ne_nil some
        rw [Nat.toDigits_of_base_le (by decide) large, front] at zero
        have short := ih (value / 10) (by omega) (by rw [front]; exact zero)
        have none : value / 10 = 0 := by
          have same : Nat.ofDigitChars 10 (Nat.toDigits 10 (value / 10)) 0 = value / 10 :=
            Nat.ofDigitChars_ten_toDigits
          rw [← same, short]
          rfl
        omega

theorem spellsNumeral_toDigits (negative : Bool) (value : Nat) :
    SpellsNumeral ⟨negative, Nat.toDigits 10 value, none, none⟩ (Nat.toDigits 10 value) := by
  have digits : Digits (Nat.toDigits 10 value) :=
    ⟨Nat.toDigits_ne_nil, fun _ among => Nat.isDigit_of_mem_toDigits (by decide) (by decide) among⟩
  have spelled : SpellsNumeral ⟨negative, Nat.toDigits 10 value, none, none⟩
      (Nat.toDigits 10 value ++ [] ++ []) := .parts digits (toDigits_eq_zero value) .none .none
  simpa using spelled

/-- The integers that keep all their digits, from `-2 ^ 63` to `2 ^ 64 - 1`. -/
def Exact (value : Int) : Prop := -9223372036854775808 ≤ value ∧ value ≤ 18446744073709551615

instance (value : Int) : Decidable (Exact value) := inferInstanceAs (Decidable (_ ∧ _))

/-- **An integer is written in its digits.** -/
theorem spellsNumber_integer {value : Int} (exact : Exact value) :
    SpellsNumber (some (.integer value)) (renderInteger value) := by
  obtain ⟨least, greatest⟩ := exact
  cases value with
  | ofNat value =>
      have small : value ≤ maxInteger := Int.ofNat_le.mp greatest
      have read : Numeral.toNumber ⟨false, Nat.toDigits 10 value, none, none⟩ =
          some (.integer value) := by simp [Numeral.toNumber, absorb_toDigits small]
      exact read ▸ .positive rfl (spellsNumeral_toDigits false value)
  | negSucc value =>
      have small : value + 1 ≤ maxNegated := by simp [maxNegated]; omega
      have fits : value + 1 ≤ maxInteger := by simp [maxInteger]; omega
      have read : Numeral.toNumber ⟨true, Nat.toDigits 10 (value + 1), none, none⟩ =
          some (.integer (.negSucc value)) := by
        simp [Numeral.toNumber, absorb_toDigits fits, small, Int.negSucc_eq]
      exact read ▸ .negative rfl (spellsNumeral_toDigits true (value + 1))

end Json

end TopicRelay
