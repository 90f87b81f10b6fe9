import TopicRelay.Json.Value

/-!
# Messages

A message of a queue is a text or a set of named values, and may have an identifier.
`Message.payload` is what subscribers get: a text as it is, named values as one JSON
object.  Whoever wants to publish a message has to convert it first (`Message.converted`),
which might be refused for named values; but every JSON value can be written
(`Message.converted_eq`).
-/

namespace TopicRelay

set_option autoImplicit false

/-- The content of a message. -/
inductive MessageBody where
  /-- Named values, in the order of the names. -/
  | values (members : Table Json)
  | text (content : String)
  deriving Repr

/-- A message of a queue. -/
structure Message where
  id : Option String := none
  body : MessageBody
  deriving Repr

namespace Message

/-- The text that is published on topics. -/
def payload (message : Message) : String :=
  match message.body with
  | .values members => (Json.object members).compact
  | .text content => content

/-- The text that is published on topics, or why the message cannot be written. -/
def converted (message : Message) : Except String String :=
  match message.body with
  | .values members => .ok (Json.object members).compact
  | .text content => .ok content

/-- Every message can be written. -/
theorem converted_eq (message : Message) : message.converted = .ok message.payload := by
  unfold converted payload
  split <;> rfl

/-- The identifier in events. -/
def idText (message : Message) : String := message.id.getD "none"

end Message

end TopicRelay
