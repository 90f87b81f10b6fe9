import TopicRelay.Json5.Text
import TopicRelay.Schema.Record

/-!
# Reading JSON5

The grammar of JSON5 as readers of characters.  Comments and every blank of the character
standard may stand between tokens, and a comma may follow the last item or member.

A text either follows the grammar as a whole or is not read at all; a text that does is an
outline whose only flaws are literals that stand for nothing.  `Json5.read` reads a whole text
for what is looked for.
-/

namespace TopicRelay

set_option autoImplicit false

namespace Json5

/-! ## Between tokens -/

/-- Whether a character may stand between tokens. -/
def isBlank (char : Char) : Bool :=
  isLineEnd char || ['\t', '\x0b', '\x0c', ' ', '\xa0', '\u1680', '\u202f', '\u205f', '\u3000',
    '\ufeff'].contains char || ('\u2000' ≤ char && char ≤ '\u200a')

/-- What follows the end of a comment between stars. -/
def afterComment? : List Char → Option (List Char)
  | '*' :: '/' :: rest => some rest
  | _ :: rest => afterComment? rest
  | [] => none

/-- What follows a line. -/
def afterLine (input : List Char) : List Char := input.dropWhile fun char => !isLineEnd char

/-- What follows the blanks and comments at the front; each takes at least one character of
the budget. -/
def skip : Nat → List Char → List Char
  | 0, input => input
  | budget + 1, '/' :: '/' :: rest => skip budget (afterLine rest)
  | budget + 1, '/' :: '*' :: rest =>
    match afterComment? rest with
    | some rest => skip budget rest
    | none => '/' :: '*' :: rest
  | budget + 1, char :: rest => if isBlank char then skip budget rest else char :: rest
  | _, [] => []

/-- What follows the blanks and comments at the front. -/
def skipBlank (input : List Char) : List Char := skip input.length input

/-! ## Values -/

/-- The outline of a JSON5 text. -/
abbrev Tree : Type := Outline Numeral Misreading

/-- A reader of one value, which gives its outline and the rest of the text. -/
abbrev Element : Type := List Char → Option (Tree × List Char)

/-- The outline of a text that stands between quotes. -/
def textTree (pieces : List Piece) : Tree :=
  match assemble pieces with
  | .ok content => .text (String.ofList content)
  | .error misreading => .broken misreading

/-- Items up to the bracket that closes them; `budget` bounds their number. -/
def readItems (element : Element) : Nat → List Char → Option (List Tree × List Char)
  | 0, _ => none
  | budget + 1, input =>
    match skipBlank input with
    | ']' :: rest => some ([], rest)
    | input => do
      let (item, rest) ← element input
      match skipBlank rest with
      | ']' :: rest => return ([item], rest)
      | ',' :: rest =>
        let (items, rest) ← readItems element budget rest
        return (item :: items, rest)
      | _ => none

/-- The name of a member: an identifier, or a text between quotes. -/
def readName? (input : List Char) : Option (List Piece × List Char) :=
  match readIdentifier? input with
  | some found => some found
  | none =>
    match input with
    | '"' :: rest => readPieces '"' rest
    | '\'' :: rest => readPieces '\'' rest
    | _ => none

/-- The members of an outline.  The first name that stands for nothing ends them. -/
def joinMember (name : Except Misreading (List Char)) (value : Tree)
    (members : List (String × Tree) × Option Misreading) :
    List (String × Tree) × Option Misreading :=
  match name with
  | .ok name => ((String.ofList name, value) :: members.1, members.2)
  | .error misreading => ([], some misreading)

/-- Members up to the brace that closes them; `budget` bounds their number. -/
def readMembers (element : Element) :
    Nat → List Char → Option ((List (String × Tree) × Option Misreading) × List Char)
  | 0, _ => none
  | budget + 1, input =>
    match skipBlank input with
    | '\x7d' :: rest => some (([], none), rest)
    | input => do
      let (pieces, rest) ← readName? input
      match skipBlank rest with
      | ':' :: rest =>
        let (value, rest) ← element (skipBlank rest)
        match skipBlank rest with
        | '\x7d' :: rest => return (joinMember (assemble pieces) value ([], none), rest)
        | ',' :: rest =>
          let (members, rest) ← readMembers element budget rest
          return (joinMember (assemble pieces) value members, rest)
        | _ => none
      | _ => none

/-- Reads one value without blanks in front; `nested` reads the values inside it. -/
def readElement (nested : Element) (input : List Char) : Option (Tree × List Char) :=
  match input with
  | 'n' :: rest => (stripWord? ['u', 'l', 'l'] rest).map (Outline.null, ·)
  | 't' :: rest => (stripWord? ['r', 'u', 'e'] rest).map (Outline.boolean true, ·)
  | 'f' :: rest => (stripWord? ['a', 'l', 's', 'e'] rest).map (Outline.boolean false, ·)
  | '"' :: rest => (readPieces '"' rest).map fun (pieces, rest) => (textTree pieces, rest)
  | '\'' :: rest => (readPieces '\'' rest).map fun (pieces, rest) => (textTree pieces, rest)
  | '[' :: rest => do
    let (items, rest) ← readItems nested (rest.length + 1) rest
    return (.array items none, rest)
  | '\x7b' :: rest => do
    let ((members, ending), rest) ← readMembers nested (rest.length + 1) rest
    return (.object members ending, rest)
  | input => (readNumeral? input).map fun (numeral, rest) => (.number numeral, rest)

/-- Reads one value in which at most `depth` arrays and objects stand inside each other. -/
def readValue : Nat → Element
  | 0 => readElement fun _ => none
  | depth + 1 => readElement (readValue depth)

/-- The outline of a text; `none` if the text does not follow the grammar. -/
def readOutline? (input : List Char) : Option Tree := do
  let (outline, rest) ← readValue input.length (skipBlank input)
  if skipBlank rest = [] then return outline else none

/-! ## Values of a kind -/

/-- What a numeral is where something else is looked for. -/
def findNumber (numeral : Numeral) : Except Misreading Finding :=
  if numeral.isInteger then numeral.toInteger.map .integer
  else numeral.toQuantity.map fun quantity => .real quantity.shown

/-- The natural number below `2 ^ bits` that is nearest to a numeral towards zero. -/
def readCount (bits : Nat) (numeral : Numeral) : Except (Mismatch Misreading) Nat :=
  match numeral.toQuantity with
  | .ok quantity => .ok (quantity.clamped bits)
  | .error misreading => .error (.flawed misreading)

/-- The dialect of JSON5 texts. -/
def dialect : Dialect Numeral Misreading where
  nothingWord := "unit value"
  findNumber := findNumber
  readCount := readCount
  notNumber := some .notNumber
  surplus := none

/-- Why a JSON5 text does not denote what is looked for. -/
inductive Failure where
  | ungrammatical
  | mismatch (mismatch : Mismatch Misreading)
  deriving DecidableEq, Repr

/-- Reads a whole text for what is looked for. -/
def read {α : Type} (reads : Reads Numeral Misreading α) (input : List Char) :
    Except Failure α :=
  match readOutline? input with
  | none => .error .ungrammatical
  | some outline => (reads outline).mapError .mismatch

end Json5

end TopicRelay
