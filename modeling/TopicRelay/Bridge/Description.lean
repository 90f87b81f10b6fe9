import TopicRelay.Bridge.Session

/-!
# The document that clients are given

Where the broker can be reached, which protocols it speaks, and which topics there are.
-/

namespace TopicRelay

set_option autoImplicit false

/-- Texts as a JSON array. -/
def Json.texts (values : List String) : Json := .array (values.map .text)

/-- A table of texts as a JSON object. -/
def Json.textTable (table : Table String) : Json :=
  Json.record (table.map fun (name, value) => (name, .text value))

/-- The document as a JSON value. -/
def Description.toJson (description : Description) : Json :=
  Json.record [
    ("endpoints", .array (description.endpoints.map Json.textTable)),
    ("protocols", Json.texts description.protocols),
    ("topics", Json.texts description.topics)]

end TopicRelay
