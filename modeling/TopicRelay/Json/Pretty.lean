import TopicRelay.Json.Value

/-!
# JSON values on several lines

`Json.pretty` writes a value for people to read: every item and every member on a line of its
own, two blanks deeper than the brackets around it, and a blank after the colon of a member.
Empty arrays and objects stay on one line.
-/

namespace TopicRelay

set_option autoImplicit false

namespace Json

/-- The start of a line at a depth. -/
def lineStart (depth : Nat) : List Char := '\n' :: List.replicate (2 * depth) ' '

mutual
/-- The value on lines at a depth. -/
def renderPretty (depth : Nat) : Json → List Char
  | .array [] => ['[', ']']
  | .array (item :: items) =>
    '[' :: renderPrettyItems (depth + 1) (item :: items) ++ lineStart depth ++ [']']
  | .object [] => ['\x7b', '\x7d']
  | .object (member :: members) =>
    '\x7b' :: renderPrettyMembers (depth + 1) (member :: members) ++ lineStart depth ++ ['\x7d']
  | value => value.render

/-- Items on lines of their own. -/
def renderPrettyItems (depth : Nat) : List Json → List Char
  | [] => []
  | [item] => lineStart depth ++ renderPretty depth item
  | item :: next :: items =>
    lineStart depth ++ renderPretty depth item ++ ',' :: renderPrettyItems depth (next :: items)

/-- Members on lines of their own. -/
def renderPrettyMembers (depth : Nat) : List (String × Json) → List Char
  | [] => []
  | [(name, value)] =>
    lineStart depth ++ renderText name ++ ':' :: ' ' :: renderPretty depth value
  | (name, value) :: next :: members =>
    lineStart depth ++ renderText name ++ ':' :: ' ' :: renderPretty depth value
      ++ ',' :: renderPrettyMembers depth (next :: members)
end

/-- The text of a value for people to read. -/
def pretty (value : Json) : String := String.ofList (value.renderPretty 0)

end Json

end TopicRelay
