import TopicRelay.Json.Reader

/-!
# Numerals of JSON5

JSON5 writes numbers with a sign, in hexadecimal digits, with a point at either end, and has
words for infinity and for the number that is undefined.  A numeral is kept as it is written,
because what it stands for depends on what is looked for: an integer has to fit into 64 bits,
any other number is rounded to binary64, and hexadecimal digits take no sign.
-/

namespace TopicRelay

set_option autoImplicit false

namespace Json5

/-- Why a literal stands for nothing. -/
inductive Misreading where
  /-- A trailing half of a character stands where none can. -/
  | strayTrailing
  /-- A leading half of a character stands at the end of a text. -/
  | missingTrailing
  | notHexadecimal
  | notInteger
  | notNumber
  | tooLarge
  deriving DecidableEq, Repr

/-- The text a misreading is reported with. -/
def Misreading.message : Misreading → String
  | .strayTrailing => "unexpected unicode trail surrogate"
  | .missingTrailing => "missing unicode trail surrogate"
  | .notHexadecimal => "error parsing hex"
  | .notInteger => "error parsing integer"
  | .notNumber => "error parsing number"
  | .tooLarge => "error parsing number: too large"

/-- The sign in front of a numeral. -/
inductive Sign where
  | unwritten
  | plus
  | minus
  deriving DecidableEq, Repr

/-- What follows the sign. -/
inductive Magnitude where
  | hexadecimal (digits : List Char)
  /-- Digits before the point, digits after it if there is one, and the exponent. -/
  | decimal (whole : List Char) (fraction : Option (List Char)) (power : Option Int)
  | infinity
  | undefined
  deriving DecidableEq, Repr

/-- A number as it is written. -/
structure Numeral where
  sign : Sign
  magnitude : Magnitude
  deriving DecidableEq, Repr

/-- A binary64 number, an infinity, or the number that is undefined. -/
inductive Quantity where
  | finite (value : Binary64)
  | infinite (negative : Bool)
  | undefined
  deriving DecidableEq, Repr

namespace Quantity

/-- The quantity as messages show it. -/
def shown : Quantity → String
  | .finite value => value.positionalText
  | .infinite true => "-inf"
  | .infinite false => "inf"
  | .undefined => "NaN"

/-- The nearest natural number below `2 ^ bits` towards zero; the undefined number counts as
zero. -/
def clamped (bits : Nat) : Quantity → Nat
  | .finite value =>
    let (numerator, denominator) := value.toQuotient
    if value.negative then 0 else min (numerator / denominator) (Nat.pow 2 bits - 1)
  | .infinite negative => if negative then 0 else Nat.pow 2 bits - 1
  | .undefined => 0

end Quantity

/-! ## What numerals stand for -/

/-- The number written by hexadecimal digits. -/
def hexNumber (digits : List Char) : Nat :=
  digits.foldl (fun value digit => value * 16 + (Json.hexValue? digit).getD 0) 0

/-- The number written by hexadecimal digits, which has to fit into 32 bits. -/
def readHexNumber (digits : List Char) : Except Misreading Nat :=
  if hexNumber digits < Nat.pow 2 32 then .ok (hexNumber digits) else .error .notHexadecimal

namespace Numeral

/-- Whether a numeral is read as an integer where any value may stand.  It is if it shows
neither a point nor an exponent, and digits that are taken for an exponent or words that are
taken for digits because of a sign are counted in. -/
def isInteger (numeral : Numeral) : Bool :=
  match numeral.magnitude with
  | .hexadecimal digits =>
    numeral.sign == .unwritten || !(digits.contains 'e' || digits.contains 'E')
  | .decimal _ fraction power => fraction.isNone && power.isNone
  | .infinity | .undefined => numeral.sign == .plus

/-- The integer of a numeral that is read as one. -/
def toInteger (numeral : Numeral) : Except Misreading Int :=
  match numeral.sign, numeral.magnitude with
  | .unwritten, .hexadecimal digits => do
    let value ← readHexNumber digits
    return value
  | sign, .decimal whole none none =>
    let value := Json.digitsValue whole
    if sign = .minus then
      if value ≤ Json.maxNegated then .ok (-value) else .error .notInteger
    else if value < Json.maxNegated then .ok value
    else .error .notInteger
  | _, _ => .error .notInteger

/-- The quantity of a numeral. -/
def toQuantity (numeral : Numeral) : Except Misreading Quantity :=
  match numeral.sign, numeral.magnitude with
  | .unwritten, .hexadecimal digits => do
    let value ← readHexNumber digits
    match Binary64.nearestDecimal false value 0 with
    | some rounded => return .finite rounded
    | none => .error .tooLarge
  | _, .hexadecimal _ => .error .notNumber
  | sign, .decimal whole fraction power =>
    let fraction := fraction.getD []
    let digits := Json.digitsValue (whole ++ fraction)
    let scale := power.getD 0 - fraction.length
    match Binary64.nearestDecimal (sign == .minus) digits scale with
    | some rounded => .ok (.finite rounded)
    | none => .error .tooLarge
  | .plus, .infinity | .plus, .undefined => .error .tooLarge
  | sign, .infinity => .ok (.infinite (sign == .minus))
  | _, .undefined => .ok .undefined

end Numeral

/-! ## Reading numerals -/

/-- Splits a sign off. -/
def splitSign : List Char → Sign × List Char
  | '+' :: rest => (.plus, rest)
  | '-' :: rest => (.minus, rest)
  | input => (.unwritten, input)

/-- Splits a word off, if it stands at the front. -/
def stripWord? : List Char → List Char → Option (List Char)
  | [], rest => some rest
  | expected :: word, char :: rest => if char = expected then stripWord? word rest else none
  | _ :: _, [] => none

/-- An exponent, if a whole one stands at the front. -/
def readPower (input : List Char) : Option Int × List Char :=
  match input with
  | [] => (none, input)
  | char :: rest =>
    if char = 'e' ∨ char = 'E' then
      let (sign, rest) := splitSign rest
      match Json.spanDigits rest with
      | ([], _) => (none, input)
      | (digits, rest) =>
        let power : Int := Json.digitsValue digits
        (some (if sign = .minus then -power else power), rest)
    else (none, input)

/-- The digits of a whole number: zero, or digits that do not start with it. -/
def readWhole (input : List Char) : List Char × List Char :=
  match input with
  | '0' :: rest => (['0'], rest)
  | _ => Json.spanDigits input

/-- Decimal digits with or without a point. -/
def readDecimal? (input : List Char) : Option (Magnitude × List Char) :=
  let (whole, rest) := readWhole input
  match rest with
  | '.' :: rest =>
    let (fraction, rest) := Json.spanDigits rest
    if whole.isEmpty && fraction.isEmpty then none
    else
      let (power, rest) := readPower rest
      some (.decimal whole (some fraction) power, rest)
  | _ =>
    if whole.isEmpty then none
    else
      let (power, rest) := readPower rest
      some (.decimal whole none power, rest)

/-- Whether a character is a hexadecimal digit. -/
def isHexDigit (char : Char) : Bool := (Json.hexValue? char).isSome

/-- Hexadecimal digits after their mark. -/
def readHexadecimal? (input : List Char) : Option (Magnitude × List Char) :=
  match input with
  | '0' :: mark :: rest =>
    let digits := rest.takeWhile isHexDigit
    if (mark = 'x' ∨ mark = 'X') ∧ digits ≠ [] then
      some (.hexadecimal digits, rest.dropWhile isHexDigit)
    else none
  | _ => none

/-- The word for infinity. -/
def infinityWord : List Char := ['I', 'n', 'f', 'i', 'n', 'i', 't', 'y']

/-- The word for the number that is undefined. -/
def undefinedWord : List Char := ['N', 'a', 'N']

/-- A magnitude. -/
def readMagnitude? (input : List Char) : Option (Magnitude × List Char) :=
  readHexadecimal? input
    <|> readDecimal? input
    <|> (stripWord? infinityWord input).map (Magnitude.infinity, ·)
    <|> (stripWord? undefinedWord input).map (Magnitude.undefined, ·)

/-- A numeral. -/
def readNumeral? (input : List Char) : Option (Numeral × List Char) :=
  let (sign, rest) := splitSign input
  (readMagnitude? rest).map fun (magnitude, rest) => (⟨sign, magnitude⟩, rest)

end Json5

end TopicRelay
