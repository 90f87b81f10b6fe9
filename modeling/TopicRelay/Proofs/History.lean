import Mathlib.Data.List.Induction
import TopicRelay.Bridge.Session

/-!
# Histories

A history is everything that has happened to a bridge since some first state: one
occurrence for each move that was made, in order, and the state that the moves have led to.
Any job and any relay that does not have to wait may make the next move, so the histories
of a bridge are all the ways in which its calls can interleave.

`State.record` follows a list of moves and writes the history down;
`History.iff_record` says that histories are exactly what it writes, and
`record_eq_steps` that it agrees with `State.steps`.  A property that every move keeps
holds after every history (`History.preserves`).
-/

namespace TopicRelay

set_option autoImplicit false

/-- A move that was made: the states before and after it, and what it let others see. -/
structure Occurrence where
  before : State
  move : Move
  after : State
  effects : List Effect

/-- What has happened since a first state, and the state that it has led to. -/
inductive History (first : State) : List Occurrence → State → Prop where
  | start : History first [] first
  | move {past : List Occurrence} {now next : State} {move : Move} {effects : List Effect} :
      History first past now → now.step move = some (next, effects) →
        History first (past ++ [⟨now, move, next, effects⟩]) next

/-- A bridge that nothing has been asked of yet. -/
structure State.Unused (state : State) : Prop where
  runs : state.runs = []
  running : state.running = none
  guard : state.guard = {}
  relays : state.relays = []
  jobs : state.jobs = []
  queues : state.upstream.queues = []
  mailboxes : state.upstream.mailboxes = []
  sourceClosed : state.upstream.isOpen = false
  sinkClosed : state.downstream.isOpen = false
  producers : state.downstream.producers = []
  brokerStopped : state.broker.isStarted = false

/-- Every session begins with an unused bridge if its broker is not started. -/
theorem Session.create_unused (settings : Settings) (catalog : Catalog) (directory : Directory)
    {broker : Broker} (now : Instant) (stopped : broker.isStarted = false) :
    (Session.create settings catalog directory broker now).state.Unused :=
  ⟨rfl, rfl, rfl, rfl, rfl, rfl, rfl, rfl, rfl, rfl, stopped⟩

/-- An unused bridge whose catalog lists some queues. -/
def State.scripted (names : List String) : State :=
  (Session.create {} ⟨.scripted names (some "SERVICE"), false⟩ { document := {} } {} ⟨0, 0⟩).state

theorem State.scripted_unused (names : List String) : (State.scripted names).Unused :=
  Session.create_unused _ _ _ _ rfl

/-- A start arrives and makes its turns with nothing between them. -/
def startMoves (job : JobId) : List Move := .arrive .start :: List.replicate 9 (.job job)

/-! ## Putting histories together and taking them apart -/

namespace History

variable {first middle now : State} {past later : List Occurrence}

/-- A history goes on with a history of the state that it has led to. -/
theorem append (history : History first past middle) (rest : History middle later now) :
    History first (past ++ later) now := by
  induction rest with
  | start => simpa using history
  | move _ step ih =>
      rw [← List.append_assoc]
      exact .move ih step

/-- A history of one move. -/
theorem single {next : State} {move : Move} {effects : List Effect}
    (step : now.step move = some (next, effects)) :
    History now [⟨now, move, next, effects⟩] next :=
  .move .start step

/-- A history can be cut anywhere. -/
theorem split (history : History first (past ++ later) now) :
    ∃ middle, History first past middle ∧ History middle later now := by
  induction later using List.reverseRecOn generalizing now with
  | nil => exact ⟨now, by simpa using history, .start⟩
  | append_singleton earlier last ih =>
      rw [← List.append_assoc] at history
      generalize whole : past ++ earlier ++ [last] = occurrences at history
      cases history with
      | start => simp at whole
      | move before step =>
          obtain ⟨rfl, rfl⟩ := List.append_singleton_inj.mp whole
          obtain ⟨middle, left, right⟩ := ih before
          exact ⟨middle, left, .move right step⟩

/-- What a history says about one of its moves. -/
theorem occurrence {occurrence : Occurrence}
    (history : History first (past ++ occurrence :: later) now) :
    History first past occurrence.before ∧
      occurrence.before.step occurrence.move = some (occurrence.after, occurrence.effects) ∧
        History occurrence.after later now := by
  obtain ⟨middle, left, right⟩ := history.split
  rw [← List.singleton_append] at right
  obtain ⟨next, one, rest⟩ := right.split
  generalize only : [occurrence] = occurrences at one
  cases one with
  | start => simp at only
  | @move earlier _ _ _ _ before step =>
      obtain ⟨empty, same⟩ := List.append_singleton_inj.mp
        (show [] ++ [occurrence] = earlier ++ _ from only)
      subst same
      cases before with
      | start => exact ⟨left, step, rest⟩
      | move => simp at empty

/-- A property that every move keeps holds after every history. -/
theorem preserves {P : State → Prop} (history : History first past now) (initial : P first)
    (keeps : ∀ {before after : State} {move : Move} {effects : List Effect}, P before →
      before.step move = some (after, effects) → P after) : P now := by
  induction history with
  | start => exact initial
  | move _ step ih => exact keeps ih step

end History

/-! ## Following a list of moves -/

/-- Follows some moves and writes down what happens; `none` if one of them has to wait. -/
def State.record (state : State) : List Move → Option (List Occurrence × State)
  | [] => some ([], state)
  | move :: moves => do
    let (next, effects) ← state.step move
    let (later, last) ← next.record moves
    return (⟨state, move, next, effects⟩ :: later, last)

theorem record_cons_eq_some {state last : State} {move : Move} {moves : List Move}
    {past : List Occurrence} (recorded : state.record (move :: moves) = some (past, last)) :
    ∃ next effects later, state.step move = some (next, effects) ∧
      next.record moves = some (later, last) ∧ past = ⟨state, move, next, effects⟩ :: later := by
  simp only [State.record, Option.bind_eq_bind, Option.bind_eq_some_iff, Option.pure_def,
    Option.some.injEq, Prod.mk.injEq, Prod.exists] at recorded
  obtain ⟨next, effects, step, later, _, rest, rfl, rfl⟩ := recorded
  exact ⟨next, effects, later, step, rest, rfl⟩

theorem record_append {state middle last : State} {moves more : List Move}
    {past later : List Occurrence} (recorded : state.record moves = some (past, middle))
    (rest : middle.record more = some (later, last)) :
    state.record (moves ++ more) = some (past ++ later, last) := by
  induction moves generalizing state past with
  | nil =>
      simp only [State.record, Option.some.injEq, Prod.mk.injEq] at recorded
      obtain ⟨rfl, rfl⟩ := recorded
      simpa using rest
  | cons move moves ih =>
      obtain ⟨next, effects, tail, step, followed, rfl⟩ := record_cons_eq_some recorded
      simp [State.record, step, ih followed]

/-- The moves that are written down are those that are followed. -/
theorem map_move_of_record {state last : State} {moves : List Move} {past : List Occurrence}
    (recorded : state.record moves = some (past, last)) : past.map (·.move) = moves := by
  induction moves generalizing state past with
  | nil =>
      simp only [State.record, Option.some.injEq, Prod.mk.injEq] at recorded
      obtain ⟨rfl, rfl⟩ := recorded
      rfl
  | cons move moves ih =>
      obtain ⟨next, effects, later, step, followed, rfl⟩ := record_cons_eq_some recorded
      rw [List.map_cons, ih followed]

theorem move_mem_of_record {state last : State} {moves : List Move} {past : List Occurrence}
    (recorded : state.record moves = some (past, last)) {occurrence : Occurrence}
    (among : occurrence ∈ past) : occurrence.move ∈ moves :=
  map_move_of_record recorded ▸ List.mem_map_of_mem among

/-- What is written down is a history. -/
theorem History.of_record {first now : State} {moves : List Move} {past : List Occurrence}
    (recorded : first.record moves = some (past, now)) : History first past now := by
  induction moves generalizing first past with
  | nil =>
      simp only [State.record, Option.some.injEq, Prod.mk.injEq] at recorded
      obtain ⟨rfl, rfl⟩ := recorded
      exact .start
  | cons move moves ih =>
      obtain ⟨next, effects, later, step, followed, rfl⟩ := record_cons_eq_some recorded
      exact (History.single step).append (ih followed)

/-- Histories are exactly what is written down when some moves are followed. -/
theorem History.iff_record {first now : State} {past : List Occurrence} :
    History first past now ↔ ∃ moves, first.record moves = some (past, now) := by
  constructor
  · intro history
    induction history with
    | start => exact ⟨[], rfl⟩
    | @move _ _ _ move _ _ step ih =>
        obtain ⟨moves, recorded⟩ := ih
        exact ⟨moves ++ [move], record_append recorded (by simp [State.record, step])⟩
  · rintro ⟨moves, recorded⟩
    exact .of_record recorded

/-- Some moves that can be made, and what has been checked of their history. -/
theorem History.exists_of_record (first : State) (moves : List Move)
    (check : List Occurrence → State → Bool)
    (checked : (first.record moves).any (fun (past, now) => check past now) = true) :
    ∃ past now, History first past now ∧ check past now = true := by
  obtain ⟨⟨past, now⟩, recorded, passed⟩ := (Option.any_eq_true ..).mp checked
  exact ⟨past, now, .of_record recorded, passed⟩

/-- Following moves leads where `State.steps` leads, with the same effects. -/
theorem record_eq_steps (state : State) (moves : List Move) :
    (state.record moves).map (fun (past, last) => (last, past.flatMap (·.effects))) =
      state.steps moves := by
  induction moves generalizing state with
  | nil => rfl
  | cons move moves ih =>
      simp only [State.record, State.steps]
      cases step : state.step move with
      | none => rfl
      | some result =>
          obtain ⟨next, effects⟩ := result
          simp only [Option.bind_eq_bind, Option.bind_some, ← ih next]
          cases next.record moves <;> rfl

end TopicRelay
