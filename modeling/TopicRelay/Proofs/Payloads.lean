import TopicRelay.Proofs.JsonWriting
import TopicRelay.Proofs.Observation

/-!
# Payloads say what the message says

A message of named values is published as one JSON object.  If its values are plain, nothing is
lost: every object in the payload has its names in order (`Outline.Holds.ordered`), and reading the
payload gives the message back (`Message.payload_reads_back`).
-/

namespace TopicRelay

set_option autoImplicit false

namespace Outline

/-! ## The order of names -/

/-- What stands inside an outline, however deep. -/
inductive Holds (outer : Outline Json.Number Flaw) : Outline Json.Number Flaw → Prop where
  | self : Holds outer outer
  | item {items : List (Outline Json.Number Flaw)} {ending : Option Flaw}
      {item : Outline Json.Number Flaw} : Holds outer (.array items ending) → item ∈ items →
      Holds outer item
  | member {members : List (String × Outline Json.Number Flaw)} {ending : Option Flaw}
      {member : String × Outline Json.Number Flaw} : Holds outer (.object members ending) →
      member ∈ members → Holds outer member.2

/-- Whatever stands inside a plain value is plain. -/
theorem Holds.plain {value : Json} (plain : value.Plain) {inner : Outline Json.Number Flaw}
    (inside : Holds (ofJson value) inner) : ∃ part : Json, part.Plain ∧ inner = ofJson part := by
  induction inside with
  | self => exact ⟨value, plain, rfl⟩
  | item _ among ih =>
      obtain ⟨part, parts, same⟩ := ih
      cases parts with
      | array each =>
          cases same
          rw [ofItems_eq_map, List.mem_map] at among
          obtain ⟨item, there, rfl⟩ := among
          exact ⟨item, each item there, rfl⟩
      | _ => cases same
  | member _ among ih =>
      obtain ⟨part, parts, same⟩ := ih
      cases parts with
      | record each =>
          cases same
          rw [ofMembers_eq_map, List.mem_map] at among
          obtain ⟨member, there, rfl⟩ := among
          exact ⟨member.2, each member (Table.mem_of_mem_ofEntries there), rfl⟩
      | _ => cases same

/-- **Every object of a plain value has its names in order.** -/
theorem Holds.ordered {value : Json} (plain : value.Plain)
    {members : List (String × Outline Json.Number Flaw)} {ending : Option Flaw}
    (inside : Holds (ofJson value) (.object members ending)) : Table.Ordered members := by
  obtain ⟨part, parts, same⟩ := inside.plain plain
  cases parts with
  | record =>
      cases same
      rw [ofMembers_eq_map]
      exact List.pairwise_map.mpr (Table.ordered_ofEntries _)
  | _ => cases same

end Outline

/-! ## Messages -/

/-- A message of named values that are all plain. -/
def Message.Plain (message : Message) (members : Table Json) : Prop :=
  message.body = .values members ∧ (Json.object members).Plain

namespace Message

variable {message other : Message} {members others : Table Json}

theorem toList_payload (plain : message.Plain members) :
    message.payload.toList = (Json.object members).render := by
  simp only [payload, plain.1, Json.compact, String.toList_ofList]

theorem payload_outline (plain : message.Plain members) {depth : Nat}
    (deep : (Outline.ofJson (.object members)).nesting ≤ depth) :
    Json.readOutline depth message.payload.toList = (Outline.ofJson (.object members), none) := by
  rw [toList_payload plain]
  exact Json.readOutline_spelled (Json.render_spelled plain.2) (Json.padded_self _) deep

theorem parse_payload (plain : message.Plain members) {depth : Nat}
    (deep : (Outline.ofJson (.object members)).nesting ≤ depth) :
    Json.parse depth message.payload.toList = .ok (.object members) := by
  simp only [Json.parse, payload_outline plain deep, Outline.complete_ofJson plain.2]
  rfl

/-- Messages with the same payload have the same values. -/
theorem body_eq_of_payload_eq (plain : message.Plain members) (alike : other.Plain others)
    (same : message.payload = other.payload) : message.body = other.body := by
  have left := parse_payload plain (Nat.le_max_left _ (Outline.ofJson (.object others)).nesting)
  have right := parse_payload alike (Nat.le_max_right (Outline.ofJson (.object members)).nesting _)
  rw [same, right] at left
  cases left
  rw [plain.1, alike.1]

/-- **Payloads say what the message says.**  Let all named values of a message be built from `null`,
booleans, integers from `-2 ^ 63` to `2 ^ 64 - 1`, texts, arrays and objects.  Then the message can
be converted, the grammar of JSON reads these values in the payload and no others, every object in
it has its names in strictly increasing order, and the reader gets the values back unless it has to
go deeper than it may.  So another such message with the same payload has the same values.  And
there is no message of these that a relay does not send: if it takes the message up, it goes on to
send the payload to all its topics. -/
theorem payload_reads_back (plain : message.Plain members) :
    message.converted = .ok message.payload ∧
    (∀ outline, Json.Spells outline message.payload.toList ↔
      outline = Outline.ofJson (.object members)) ∧
    (∀ inside ending, (Outline.ofJson (.object members)).Holds (.object inside ending) →
      inside.Pairwise fun earlier later => earlier.1 < later.1) ∧
    (∀ depth, (Outline.ofJson (.object members)).nesting ≤ depth →
      Json.parse depth message.payload.toList = .ok (.object members)) ∧
    (∀ {other others}, Plain other others → other.payload = message.payload →
      other.body = message.body ∧ (other.id = message.id → other = message)) ∧
    ∀ {state : State} {relay : RelayId} {found : Relay}, state.relays[relay]? = some found →
      found.phase = .listening →
      state.upstream.peek found.mailbox = .delivery (.message message) →
      ∃ next effects, state.relayTurn relay false = some (next, effects) ∧
        (next.relays[relay]?).map (·.phase) =
          some (Relay.forwardingOn message.idText message.payload found.topics) := by
  have written : Json.Spells (Outline.ofJson (.object members)) message.payload.toList := by
    rw [toList_payload plain]
    exact Json.render_spelled plain.2
  refine ⟨message.converted_eq,
    fun outline => ⟨fun spelled => spelled.unique written, fun same => same ▸ written⟩,
    fun _ _ inside => inside.ordered plain.2, fun _ deep => parse_payload plain deep, ?_, ?_⟩
  · intro other others alike same
    have body := body_eq_of_payload_eq alike plain same
    refine ⟨body, fun id => ?_⟩
    cases other
    cases message
    cases id
    cases body
    rfl
  · intro state relay found present phase waits
    have turned : state.relayTurn relay false = state.relayReceives relay found := by
      simp only [State.relayTurn, present, phase, Bool.and_false]
      simp only [State.relayReceives, waits]
      rfl
    simp only [turned, State.relayReceives, waits, message.converted_eq, Option.some.injEq,
      Prod.mk.injEq]
    refine ⟨_, _, ⟨rfl, rfl⟩, ?_⟩
    rw [State.relays_modifyRelay_self (by exact present)]
    rfl

end Message

/-- Nested values, among them a text that has to be escaped. -/
def Message.nestedValues : List (String × Json) := [
  ("ts_code", Json.integer 1234),
  ("office_id", .text "S\"K"),
  ("rows", .array [Json.integer (-9223372036854775808), .record []])]

theorem Message.nestedValues_plain : ∀ member ∈ nestedValues, member.2.Plain := by
  intro member among
  simp only [nestedValues, List.mem_cons, List.not_mem_nil, or_false] at among
  rcases among with rfl | rfl | rfl
  · exact .integer (by decide)
  · exact .text _
  · refine .array fun item inside => ?_
    simp only [List.mem_cons, List.not_mem_nil, or_false] at inside
    rcases inside with rfl | rfl
    · exact .integer (by decide)
    · exact .record (by simp)

theorem nested_values_read_back :
    let message : Message := ⟨none, .values (Table.ofEntries Message.nestedValues)⟩
    message.payload = "\x7b\"office_id\":\"S\\\"K\",\"rows\":[-9223372036854775808,\x7b\x7d]," ++
        "\"ts_code\":1234\x7d" ∧
      Json.parse Json.maxDepth message.payload.toList = .ok (Json.record Message.nestedValues) := by
  have plain : Message.Plain ⟨none, .values (Table.ofEntries Message.nestedValues)⟩
      (Table.ofEntries Message.nestedValues) := ⟨rfl, .record Message.nestedValues_plain⟩
  exact ⟨by rfl, (Message.payload_reads_back plain).2.2.2.1 _ (by decide)⟩

end TopicRelay
