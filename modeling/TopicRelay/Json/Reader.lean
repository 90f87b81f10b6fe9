import TopicRelay.Json.Outline

/-!
# Reading JSON

The grammar of JSON as readers of characters.  `readOutline` reads a text as far as it
goes, `parse` reads a whole value.

An integer literal from `-2^63` to `2^64 - 1` keeps all its digits; `-0`, a literal with
a fraction or an exponent, and every other integer become binary64.  Nesting deeper than
a bound is refused.
-/

namespace TopicRelay

set_option autoImplicit false

namespace Json

/-! ## Characters -/

/-- The four characters that may stand between tokens. -/
def isBlank (char : Char) : Bool :=
  char == ' ' || char == '\n' || char == '\t' || char == '\r'

/-- What follows the blanks at the front. -/
def skipBlank (input : List Char) : List Char := input.dropWhile isBlank

/-- The value of a hexadecimal digit. -/
def hexValue? (char : Char) : Option Nat :=
  if '0' ≤ char ∧ char ≤ '9' then some (char.toNat - 48)
  else if 'a' ≤ char ∧ char ≤ 'f' then some (char.toNat - 87)
  else if 'A' ≤ char ∧ char ≤ 'F' then some (char.toNat - 55)
  else none

/-- The number written by four hexadecimal digits. -/
def hexUnit? (first second third fourth : Char) : Option Nat := do
  let first ← hexValue? first
  let second ← hexValue? second
  let third ← hexValue? third
  let fourth ← hexValue? fourth
  return ((first * 16 + second) * 16 + third) * 16 + fourth

/-- Whether a sixteen-bit unit is the first half of a character beyond U+FFFF. -/
def isLeading (unit : Nat) : Bool := 0xD800 ≤ unit && unit ≤ 0xDBFF

/-- Whether a sixteen-bit unit is the second half of a character beyond U+FFFF. -/
def isTrailing (unit : Nat) : Bool := 0xDC00 ≤ unit && unit ≤ 0xDFFF

/-- The character of two halves. -/
def joinUnits (leading trailing : Nat) : Char :=
  Char.ofNat (0x10000 + (leading - 0xD800) * 0x400 + (trailing - 0xDC00))

/-- The character that a letter after a backslash stands for. -/
def simpleEscape? (char : Char) : Option Char :=
  if char = '"' then some '"'
  else if char = '\\' then some '\\'
  else if char = '/' then some '/'
  else if char = 'b' then some '\x08'
  else if char = 'f' then some '\x0c'
  else if char = 'n' then some '\n'
  else if char = 'r' then some '\r'
  else if char = 't' then some '\t'
  else none

/-! ## Texts -/

/-- The flaw of a `\u` that fewer than four characters follow: the text ends too early
only if fewer than four bytes are left of it. -/
def shortEscapeFlaw (rest : List Char) : Flaw :=
  if (String.ofList rest).utf8ByteSize < 4 then .unfinished else .malformed

/-- Puts a character in front of a text that was read. -/
def withChar (char : Char) :
    Except Flaw (List Char × List Char) → Except Flaw (List Char × List Char)
  | .ok (content, rest) => .ok (char :: content, rest)
  | .error flaw => .error flaw

/-- Reads what follows an opening quote up to the closing one.  `pending` is a leading half
that has been read and still needs its trailing half. -/
def readText (pending : Option Nat) : List Char → Except Flaw (List Char × List Char)
  | '\\' :: 'u' :: first :: second :: third :: fourth :: rest =>
    match hexUnit? first second third fourth, pending with
    | none, _ => .error .malformed
    | some unit, some leading =>
      if isTrailing unit then withChar (joinUnits leading unit) (readText none rest)
      else .error .malformed
    | some unit, none =>
      if isTrailing unit then .error .malformed
      else if isLeading unit then readText (some unit) rest
      else withChar (Char.ofNat unit) (readText none rest)
  | '\\' :: 'u' :: rest => .error (shortEscapeFlaw rest)
  | ['\\'] => .error .unfinished
  | '\\' :: char :: rest =>
    match pending, simpleEscape? char with
    | none, some meaning => withChar meaning (readText none rest)
    | _, _ => .error .malformed
  | [] => .error .unfinished
  | char :: rest =>
    if pending.isSome then .error .malformed
    else if char = '"' then .ok ([], rest)
    else if char.toNat < 32 then .error .malformed
    else withChar char (readText none rest)

/-! ## Numbers -/

/-- The decimal digits at the front, and what follows them. -/
def spanDigits (input : List Char) : List Char × List Char :=
  (input.takeWhile Char.isDigit, input.dropWhile Char.isDigit)

/-- The greatest integer that keeps all its digits, `2 ^ 64 - 1`. -/
def maxInteger : Nat := 18446744073709551615

/-- The magnitude of the least integer that keeps all its digits, `2 ^ 63`. -/
def maxNegated : Nat := 9223372036854775808

/-- Appends digits to a number while it stays within `maxInteger`; also the digits left over. -/
def absorb (value : Nat) : List Char → Nat × List Char
  | [] => (value, [])
  | digit :: digits =>
    let longer := value * 10 + (digit.toNat - 48)
    if maxInteger < longer then (value, digit :: digits) else absorb longer digits

/-- The parts of a number literal. -/
structure Numeral where
  negative : Bool
  whole : List Char
  fraction : Option (List Char)
  power : Option Int
  deriving Repr

/-- The real number of a literal.  Digits beyond `maxInteger` only count as zeros before the
point and not at all after it. -/
def Numeral.toReal (numeral : Numeral) : Option Binary64 :=
  let (whole, skipped) := absorb 0 numeral.whole
  let fraction := numeral.fraction.getD []
  let (digits, ignored) := absorb whole fraction
  let taken := fraction.length - ignored.length
  let scale := (skipped.length : Int) - taken + numeral.power.getD 0
  Binary64.scaledDecimal numeral.negative digits scale

/-- The number of a literal; `none` if it is too large. -/
def Numeral.toNumber (numeral : Numeral) : Option Number :=
  let (whole, skipped) := absorb 0 numeral.whole
  if numeral.fraction.isNone && numeral.power.isNone && skipped.isEmpty then
    if numeral.negative then
      if 0 < whole ∧ whole ≤ maxNegated then some (.integer (-whole))
      else numeral.toReal.map .real
    else some (.integer whole)
  else numeral.toReal.map .real

/-- The value of a run of digits. -/
def digitsValue (digits : List Char) : Nat :=
  digits.foldl (fun value digit => value * 10 + (digit.toNat - 48)) 0

/-- Digits of which there must be one at least. -/
def readDigits (input : List Char) : Except Flaw (List Char × List Char) :=
  match spanDigits input with
  | ([], []) => .error .unfinished
  | ([], _) => .error .malformed
  | (digits, rest) => .ok (digits, rest)

/-- The digits before the point: a zero alone, or digits that do not start with zero. -/
def readWhole (input : List Char) : Except Flaw (List Char × List Char) := do
  match ← readDigits input with
  | ('0' :: _ :: _, _) => .error .malformed
  | (digits, rest) => .ok (digits, rest)

/-- A point and digits, if there is a point. -/
def readFraction (input : List Char) : Except Flaw (Option (List Char) × List Char) :=
  match input with
  | '.' :: rest => do
    let (digits, rest) ← readDigits rest
    return (some digits, rest)
  | _ => .ok (none, input)

/-- The sign in front of an exponent, and what follows it. -/
def splitSign : List Char → Bool × List Char
  | '+' :: rest => (false, rest)
  | '-' :: rest => (true, rest)
  | input => (false, input)

/-- The exponent, if there is one. -/
def readPower (input : List Char) : Except Flaw (Option Int × List Char) :=
  match input with
  | char :: rest =>
    if char = 'e' ∨ char = 'E' then do
      let (negative, rest) := splitSign rest
      let (digits, rest) ← readDigits rest
      let power : Int := digitsValue digits
      return (some (if negative then -power else power), rest)
    else .ok (none, input)
  | [] => .ok (none, input)

/-- A literal whose sign has been read. -/
def readNumeral (negative : Bool) (input : List Char) : Except Flaw (Numeral × List Char) := do
  let (whole, rest) ← readWhole input
  let (fraction, rest) ← readFraction rest
  let (power, rest) ← readPower rest
  return (⟨negative, whole, fraction, power⟩, rest)

/-! ## Values -/

/-- What a reader of one value gives: the outline, and the rest of the text unless the
outline ends in a flaw. -/
abbrev Reading : Type := Outline Number Flaw × Option (List Char)

/-- A reading that stops here. -/
def stopAt (flaw : Flaw) : Reading := (.broken flaw, none)

/-- Reads the rest of one of the three words. -/
def readWord (word : List Char) (value : Outline Number Flaw) (input : List Char) : Reading :=
  match word, input with
  | [], rest => (value, some rest)
  | _ :: _, [] => stopAt .unfinished
  | expected :: word, char :: rest =>
    if char = expected then readWord word value rest else stopAt .malformed

/-- Reads a number whose sign has been read. -/
def readNumber (negative : Bool) (input : List Char) : Reading :=
  match readNumeral negative input with
  | .error flaw => stopAt flaw
  | .ok (numeral, rest) =>
    match numeral.toNumber with
    | some value => (.number value, some rest)
    | none => stopAt .malformed

/-- Items and the comma or bracket after each; `budget` bounds their number. -/
def readItems (element : List Char → Reading) : Nat → List Char →
    List (Outline Number Flaw) × Option Flaw × Option (List Char)
  | 0, _ => ([], some .malformed, none)
  | budget + 1, input =>
    match element input with
    | (item, none) => ([item], none, none)
    | (item, some rest) =>
      match skipBlank rest with
      | [] => ([item], some .unfinished, none)
      | ']' :: rest => ([item], none, some rest)
      | ',' :: rest =>
        match skipBlank rest with
        | ']' :: _ => ([item], some .malformed, none)
        | _ =>
          let (items, ending, rest) := readItems element budget rest
          (item :: items, ending, rest)
      | _ => ([item], some .malformed, none)

/-- An array whose bracket has been read. -/
def readArray (element : List Char → Reading) (input : List Char) : Reading :=
  match skipBlank input with
  | ']' :: rest => (.array [] none, some rest)
  | [] => (.array [] (some .unfinished), none)
  | _ =>
    let (items, ending, rest) := readItems element input.length input
    (.array items ending, rest)

/-- The value of a member, after its colon. -/
def readMemberValue (element : List Char → Reading) (input : List Char) : Reading :=
  match skipBlank input with
  | [] => stopAt .unfinished
  | ':' :: rest => element rest
  | _ => stopAt .malformed

/-- Members and the comma or brace after each; `budget` bounds their number. -/
def readMembers (element : List Char → Reading) : Nat → List Char →
    List (String × Outline Number Flaw) × Option Flaw × Option (List Char)
  | 0, _ => ([], some .malformed, none)
  | budget + 1, input =>
    match skipBlank input with
    | [] => ([], some .unfinished, none)
    | '"' :: rest =>
      match readText none rest with
      | .error flaw => ([], some flaw, none)
      | .ok (name, rest) =>
        match readMemberValue element rest with
        | (value, none) => ([(String.ofList name, value)], none, none)
        | (value, some rest) =>
          match skipBlank rest with
          | [] => ([(String.ofList name, value)], some .unfinished, none)
          | '\x7d' :: rest => ([(String.ofList name, value)], none, some rest)
          | ',' :: rest =>
            let (members, ending, rest) := readMembers element budget rest
            ((String.ofList name, value) :: members, ending, rest)
          | _ => ([(String.ofList name, value)], some .malformed, none)
    | _ => ([], some .malformed, none)

/-- An object whose brace has been read. -/
def readObject (element : List Char → Reading) (input : List Char) : Reading :=
  match skipBlank input with
  | '\x7d' :: rest => (.object [] none, some rest)
  | _ =>
    let (members, ending, rest) := readMembers element (input.length + 1) input
    (.object members ending, rest)

/-- Reads one value; `nested` reads the values inside it, if more nesting is allowed. -/
def readElement (nested : Option (List Char → Reading)) (input : List Char) : Reading :=
  match skipBlank input with
  | [] => stopAt .unfinished
  | 'n' :: rest => readWord ['u', 'l', 'l'] .null rest
  | 't' :: rest => readWord ['r', 'u', 'e'] (.boolean true) rest
  | 'f' :: rest => readWord ['a', 'l', 's', 'e'] (.boolean false) rest
  | '"' :: rest =>
    match readText none rest with
    | .ok (content, rest) => (.text (String.ofList content), some rest)
    | .error flaw => stopAt flaw
  | '-' :: rest => readNumber true rest
  | '[' :: rest =>
    match nested with
    | some element => readArray element rest
    | none => stopAt .malformed
  | '\x7b' :: rest =>
    match nested with
    | some element => readObject element rest
    | none => stopAt .malformed
  | char :: rest => if char.isDigit then readNumber false (char :: rest) else stopAt .malformed

/-- Reads one value in which at most `depth` arrays and objects stand inside each other. -/
def readValue : Nat → List Char → Reading
  | 0 => readElement none
  | depth + 1 => readElement (some (readValue depth))

/-- The nesting that texts from outside may have. -/
def maxDepth : Nat := 127

/-- The outline of a text and the flaw, if any, of what follows the value. -/
def readOutline (depth : Nat) (input : List Char) : Outline Number Flaw × Option Flaw :=
  match readValue depth input with
  | (outline, none) => (outline, none)
  | (outline, some rest) => (outline, if skipBlank rest = [] then none else some .malformed)

/-- The value that a text denotes, or the first flaw of the text. -/
def parse (depth : Nat) (input : List Char) : Except Flaw Json := do
  let (outline, ending) := readOutline depth input
  let value ← outline.complete
  Outline.unlessFlawed ending value

end Json

end TopicRelay
