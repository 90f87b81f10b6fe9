import TopicRelay.Number.Shortest
import TopicRelay.Table

/-!
# JSON values and their compact text

A value is `null`, a boolean, a number, a text, an array or an object.  An integer
keeps all its digits; every other number is binary64.  The members of an object are
a `Table`, so they stand in strictly increasing order of their names, which is the order
they are written in, and a repeated name keeps its last value.

`Json.render` writes a value without blanks.  Inside a text only the quote, the
backslash and the control characters below U+0020 are escaped.
-/

namespace TopicRelay

set_option autoImplicit false

namespace Json

/-- A number: an exact integer, or a binary64 number. -/
inductive Number where
  | integer (value : Int)
  | real (value : Binary64)
  deriving DecidableEq, Repr

end Json

/-- A JSON value. -/
inductive Json where
  | null
  | boolean (value : Bool)
  | number (value : Json.Number)
  | text (value : String)
  | array (items : List Json)
  | object (members : List (String × Json))
  deriving Repr

namespace Json

/-- The integer `value` as a JSON value. -/
def integer (value : Int) : Json := .number (.integer value)

/-! ## Members of an object -/

/-- An object from members in any order; the last of several members of one name counts. -/
def record (members : List (String × Json)) : Json := .object (Table.ofEntries members)

/-- The member of the given name, if the value is an object that has one. -/
def member? (value : Json) (name : String) : Option Json :=
  match value with
  | .object members => Table.get? members name
  | _ => none

/-! ## Compact text -/

/-- The lower-case hexadecimal digit of a number below sixteen. -/
def hexDigit (value : Nat) : Char :=
  if value < 10 then Char.ofNat (48 + value) else Char.ofNat (87 + value)

/-- How one character is written inside a text. -/
def escapeChar (char : Char) : List Char :=
  if char = '"' then ['\\', '"']
  else if char = '\\' then ['\\', '\\']
  else if char = '\x08' then ['\\', 'b']
  else if char = '\x0c' then ['\\', 'f']
  else if char = '\n' then ['\\', 'n']
  else if char = '\r' then ['\\', 'r']
  else if char = '\t' then ['\\', 't']
  else if char.toNat < 32 then
    ['\\', 'u', '0', '0', hexDigit (char.toNat / 16), hexDigit (char.toNat % 16)]
  else [char]

/-- A text between quotes. -/
def renderText (text : String) : List Char := '"' :: text.toList.flatMap escapeChar ++ ['"']

/-- The decimal digits of an integer, after a minus sign where it is negative. -/
def renderInteger : Int → List Char
  | .ofNat value => Nat.toDigits 10 value
  | .negSucc value => '-' :: Nat.toDigits 10 (value + 1)

/-- The text of a number. -/
def renderNumber : Number → List Char
  | .integer value => renderInteger value
  | .real value => value.compactText.toList

mutual
/-- The value without blanks. -/
def render : Json → List Char
  | .null => ['n', 'u', 'l', 'l']
  | .boolean true => ['t', 'r', 'u', 'e']
  | .boolean false => ['f', 'a', 'l', 's', 'e']
  | .number value => renderNumber value
  | .text value => renderText value
  | .array items => '[' :: renderItems items ++ [']']
  | .object members => '\x7b' :: renderMembers members ++ ['\x7d']

/-- Items with commas between them. -/
def renderItems : List Json → List Char
  | [] => []
  | [item] => render item
  | item :: next :: items => render item ++ ',' :: renderItems (next :: items)

/-- Members with commas between them, each name before a colon. -/
def renderMembers : List (String × Json) → List Char
  | [] => []
  | [(name, value)] => renderText name ++ ':' :: render value
  | (name, value) :: next :: members =>
    renderText name ++ ':' :: render value ++ ',' :: renderMembers (next :: members)
end

/-- The compact text of a value. -/
def compact (value : Json) : String := String.ofList value.render

end Json

end TopicRelay
