import TopicRelay.Json5.Numeral
import TopicRelay.Text.Identifier

/-!
# Texts of JSON5

A text stands between single or double quotes, a name of a member may stand without any.
Both are made of pieces: a character as it is or after a backslash, or the number of a
sixteen-bit unit.  `assemble` puts the pieces together; only there two units become one
character, and a half of a character without its other half is a misreading of the text.
-/

namespace TopicRelay

set_option autoImplicit false

namespace Json5

/-- One piece of a text. -/
inductive Piece where
  /-- A character that is written as another one. -/
  | char (meaning : Char) (written : Char)
  | unit (value : Nat)
  deriving DecidableEq, Repr

/-- The misreading of a leading half that this piece follows, unless the piece is the other
half. -/
def Piece.afterLeading : Piece → Misreading
  | .char _ written => if isHexDigit written then .strayTrailing else .notHexadecimal
  | .unit _ => .strayTrailing

/-- The text of some pieces. -/
def assemble : List Piece → Except Misreading (List Char)
  | [] => .ok []
  | .char meaning _ :: pieces => do
    let rest ← assemble pieces
    return meaning :: rest
  | [.unit value] =>
    if Json.isTrailing value then .error .strayTrailing
    else if Json.isLeading value then .error .missingTrailing
    else .ok [Char.ofNat value]
  | .unit value :: .unit next :: pieces =>
    if Json.isTrailing value then .error .strayTrailing
    else if Json.isLeading value then
      if Json.isTrailing next then do
        let rest ← assemble pieces
        return Json.joinUnits value next :: rest
      else .error .strayTrailing
    else do
      let rest ← assemble (.unit next :: pieces)
      return Char.ofNat value :: rest
  | .unit value :: .char meaning written :: pieces =>
    if Json.isTrailing value then .error .strayTrailing
    else if Json.isLeading value then .error (Piece.char meaning written).afterLeading
    else do
      let rest ← assemble pieces
      return Char.ofNat value :: meaning :: rest

/-! ## Reading pieces -/

/-- The four characters that end a line. -/
def isLineEnd (char : Char) : Bool :=
  char == '\n' || char == '\r' || char == '\u2028' || char == '\u2029'

/-- What a character after a backslash stands for. -/
def escapeMeaning (char : Char) : Char :=
  if char = 'b' then '\x08'
  else if char = 'f' then '\x0c'
  else if char = 'n' then '\n'
  else if char = 'r' then '\r'
  else if char = 't' then '\t'
  else if char = 'v' then '\x0b'
  else if char = '0' then '\x00'
  else char

/-- Puts a piece in front of those that were read. -/
def withPiece (piece : Piece) (read : Option (List Piece × List Char)) :
    Option (List Piece × List Char) :=
  read.map fun (pieces, rest) => (piece :: pieces, rest)

/-- Reads what follows an opening quote up to the closing one. -/
def readPieces (quote : Char) : List Char → Option (List Piece × List Char)
  | '\\' :: '\r' :: '\n' :: rest => readPieces quote rest
  | '\\' :: 'u' :: first :: second :: third :: fourth :: rest =>
    match Json.hexUnit? first second third fourth with
    | some value => withPiece (.unit value) (readPieces quote rest)
    | none => none
  | '\\' :: 'x' :: first :: second :: rest =>
    match Json.hexUnit? '0' '0' first second with
    | some value => withPiece (.unit value) (readPieces quote rest)
    | none => none
  | '\\' :: char :: rest =>
    if isLineEnd char then readPieces quote rest
    else if char = 'u' ∨ char = 'x' ∨ ('1' ≤ char ∧ char ≤ '9') then none
    else withPiece (.char (escapeMeaning char) char) (readPieces quote rest)
  | char :: rest =>
    if char = quote then some ([], rest)
    else if char = '\\' ∨ isLineEnd char then none
    else withPiece (.char char char) (readPieces quote rest)
  | [] => none

/-! ## Identifiers -/

/-- Whether a character may start an identifier. -/
def startsIdentifier (char : Char) : Bool := char == '$' || char == '_' || Text.isLetter char

/-- Whether a character may stand inside an identifier. -/
def continuesIdentifier (char : Char) : Bool :=
  startsIdentifier char || Text.isIdentifierExtra char

/-- The pieces at the front that continue an identifier, and what follows them. -/
def readIdentifierRest : List Char → List Piece × List Char
  | '\\' :: 'u' :: first :: second :: third :: fourth :: rest =>
    match Json.hexUnit? first second third fourth with
    | some value =>
      let (pieces, rest) := readIdentifierRest rest
      (.unit value :: pieces, rest)
    | none => ([], '\\' :: 'u' :: first :: second :: third :: fourth :: rest)
  | char :: rest =>
    if continuesIdentifier char then
      let (pieces, rest) := readIdentifierRest rest
      (.char char char :: pieces, rest)
    else ([], char :: rest)
  | [] => ([], [])

/-- An identifier. -/
def readIdentifier? (input : List Char) : Option (List Piece × List Char) :=
  match readIdentifierRest input with
  | (.char char written :: pieces, rest) =>
    if startsIdentifier char then some (.char char written :: pieces, rest) else none
  | (.unit value :: pieces, rest) => some (.unit value :: pieces, rest)
  | ([], _) => none

end Json5

end TopicRelay
