import TopicRelay.Proofs.Setup

/-!
# What a call has called so far

A start asks for the principal, opens the connection to the queues and then the one to the topics,
lists the queues, installs the hooks and starts the broker; a stop stops the broker, closes the
connection to the topics and then the one to the queues.  How far a call has come says how many of
these it has made: `StartPhase.progress` as long as nothing has failed, `StopPhase.progress`
whatever fails.  `History.traced` says so of every history, whatever happens between the turns.
-/

namespace TopicRelay

set_option autoImplicit false

/-! ## What is written down -/

/-- The call that an effect writes down, and whether it succeeded. -/
def Effect.call? : Effect → Option (Call × Bool)
  | .call made outcome => some (made, outcome)
  | _ => none

/-- The calls among some effects. -/
def calls (effects : List Effect) : List (Call × Bool) := effects.filterMap Effect.call?

/-- A move is the turn of a call. -/
def Occurrence.isCallTurn (job : JobId) (occurrence : Occurrence) : Bool :=
  match occurrence.move with
  | .job id => id == job
  | _ => false

/-- The calls of a history, in the order in which they were made. -/
def callLog (past : List Occurrence) : List (Call × Bool) :=
  past.flatMap fun occurrence => calls occurrence.effects

/-- The calls that were made in the turns of one job. -/
def callsOf (job : JobId) (past : List Occurrence) : List (Call × Bool) :=
  callLog (past.filter (·.isCallTurn job))

@[simp] theorem calls_nil : calls [] = [] := rfl

@[simp] theorem calls_report (event : Event) (effects : List Effect) :
    calls (.report event :: effects) = calls effects := rfl

@[simp] theorem calls_call (call : Call) (outcome : Bool) (effects : List Effect) :
    calls (.call call outcome :: effects) = (call, outcome) :: calls effects := rfl

@[simp] theorem calls_append (left right : List Effect) :
    calls (left ++ right) = calls left ++ calls right := List.filterMap_append

@[simp] theorem calls_reports (events : List Event) : calls (events.map .report) = [] := by
  simp [calls, Effect.call?]

@[simp] theorem calls_stepReport {ε : Type} [Reported ε] (step : StopStep)
    (outcome : Except ε Unit) : calls (State.stepReport step outcome) = [] := by
  cases outcome <;> rfl

theorem callLog_concat (past : List Occurrence) (last : Occurrence) :
    callLog (past ++ [last]) = callLog past ++ calls last.effects := by
  simp [callLog]

theorem callsOf_concat (job : JobId) (past : List Occurrence) (last : Occurrence) :
    callsOf job (past ++ [last]) =
      callsOf job past ++ if last.isCallTurn job then calls last.effects else [] := by
  rw [callsOf, callsOf, List.filter_append, List.filter_singleton]
  cases last.isCallTurn job with
  | false => simp
  | true => exact callLog_concat _ _

theorem callsOf_concat_own {job : JobId} (past : List Occurrence) {last : Occurrence}
    (own : last.isCallTurn job = true) :
    callsOf job (past ++ [last]) = callsOf job past ++ calls last.effects := by
  rw [callsOf_concat, if_pos own]

theorem callsOf_concat_other {job : JobId} (past : List Occurrence) {last : Occurrence}
    (other : last.isCallTurn job = false) : callsOf job (past ++ [last]) = callsOf job past := by
  rw [callsOf_concat, other]
  simp

/-- Calls that attach subscribers write nothing down. -/
theorem Attaches.calls_eq_nil {state next : State} {job : JobId} {topic : String}
    {phase after : AttachPhase} {effects : List Effect}
    (turn : Attaches state job topic phase after next effects) : calls effects = [] := by
  cases turn with
  | activated turn => cases turn <;> rfl
  | _ => simp

/-- Relays write nothing down. -/
theorem Forwards.calls_eq_nil {state next : State} {relay : RelayId} {found : Relay}
    {effects : List Effect} (turn : Forwards state relay found next effects) :
    calls effects = [] := by
  cases turn <;> rfl

/-! ## How far a call has come -/

/-- The calls of a start before it starts the broker. -/
def startCalls (owner kind : String) : List (Call × Bool) :=
  [(.currentPrincipal, true), (.sourceOpen, true), (.sinkOpen, true), (.listQueues owner kind, true),
    (.installHooks, true)]

/-- The calls of a stop that has taken a run out. -/
def stopCalls : List Call := [.brokerStop, .sinkClose, .sourceClose]

/-- How many of its calls a start has made, as long as none has failed. -/
def StartPhase.progress : StartPhase → Option Nat
  | .arriving | .queued | .resolving => some 0
  | .registering _ | .openingSource _ _ => some 1
  | .openingSink _ _ => some 2
  | .discovering _ => some 3
  | .installing _ => some 4
  | .startingBroker _ => some 5
  | _ => none

/-- How many of its calls a stop has made since it has taken a run out. -/
def StopPhase.progress : StopPhase → Option Nat
  | .arriving | .queued => none
  | .stoppingBroker _ => some 0
  | .approaching _ _ | .claiming _ _ _ | .joining _ _ _ _ | .closingSink => some 1
  | .closingSource => some 2
  | .done => some 3

/-- A stop has had the turn in which it takes a run out. -/
def Occurrence.TakesRun (job : JobId) (occurrence : Occurrence) : Prop :=
  occurrence.move = .job job ∧ occurrence.before.jobs[job]? = some (.stop .queued) ∧
    occurrence.before.running.isSome = true

section

variable {state next : State} {job : JobId} {effects : List Effect}

/-- A turn of a start that goes on makes the next of its calls, or none. -/
theorem Starts.progress {phase after : StartPhase} {count : Nat}
    (turn : Starts state job phase after next effects) (goes : after.progress = some count) :
    ∃ before, phase.progress = some before ∧
      (startCalls state.settings.queueOwner state.settings.queueKind).take count =
        (startCalls state.settings.queueOwner state.settings.queueKind).take before ++
          calls effects := by
  cases turn <;> cases goes <;> exact ⟨_, rfl, by simp [startCalls]⟩

/-- A turn of a stop makes the next of its calls, or none, or it takes the run out. -/
theorem Stops.progress {phase after : StopPhase} (turn : Stops state job phase after next effects) :
    (phase.hasSource = true ∧ ∃ before count, phase.progress = some before ∧
      after.progress = some count ∧
        stopCalls.take count = stopCalls.take before ++ (calls effects).map Prod.fst) ∨
    phase.progress = none ∧ calls effects = [] ∧
      (after.hasSource = false ∧ (phase = .queued → state.running = none) ∨
        phase = .queued ∧ state.running.isSome = true ∧ after.progress = some 0) := by
  cases turn with
  | asked => exact .inr ⟨rfl, rfl, .inl ⟨rfl, by rintro ⟨⟩⟩⟩
  | idle _ resting => exact .inr ⟨rfl, rfl, .inl ⟨rfl, fun _ => resting⟩⟩
  | entered _ running => exact .inr ⟨rfl, rfl, .inr ⟨rfl, by simp [running], rfl⟩⟩
  | sinkClosed => exact .inl ⟨rfl, _, _, rfl, rfl, by simp [stopCalls, State.closeSink]⟩
  | sourceClosed => exact .inl ⟨rfl, _, _, rfl, rfl, by simp [stopCalls, State.closeSource]⟩
  | _ => exact .inl ⟨rfl, _, _, rfl, rfl, by simp [stopCalls]⟩

end

theorem Occurrence.isCallTurn_iff {job : JobId} {occurrence : Occurrence} :
    occurrence.isCallTurn job = true ↔ occurrence.move = .job job := by
  unfold isCallTurn
  split <;> simp_all

/-- A job that has arrived stays. -/
theorem Moves.job_isSome {state next : State} {move : Move} {effects : List Effect} {id : JobId}
    (moved : Moves state move next effects) (present : (state.jobs[id]?).isSome = true) :
    (next.jobs[id]?).isSome = true := by
  obtain ⟨found, there⟩ := Option.isSome_iff_exists.mp present
  by_cases mine : move = .job id
  · subst mine
    cases moved with
    | start was turn =>
        exact Option.isSome_of_eq_some (State.jobs_setJob_self (turn.jobs ▸ was))
    | stop was turn =>
        exact Option.isSome_of_eq_some (State.jobs_setJob_self (turn.jobs ▸ was))
    | attach was turn =>
        exact Option.isSome_of_eq_some (State.jobs_setJob_self (turn.leavesBridge.jobs ▸ was))
  · exact Option.isSome_of_eq_some (moved.jobs_of_ne there mine)

/-- A job has no turns before it has arrived. -/
theorem History.turnless {first now : State} {past : List Occurrence} {job : JobId}
    (history : History first past now) (absent : now.jobs[job]? = none) :
    ∀ occurrence ∈ past, occurrence.isCallTurn job = false := by
  induction history with
  | start => simp
  | @move past now next move effects before step ih =>
      have moved := step_cases step
      have earlier : now.jobs[job]? = none := by
        by_contra present
        have kept := moved.job_isSome (Option.isSome_iff_ne_none.mpr present)
        simp [absent] at kept
      intro occurrence among
      rcases List.mem_append.mp among with old | last
      · exact ih earlier occurrence old
      · cases List.mem_singleton.mp last
        rw [← Bool.not_eq_true, Occurrence.isCallTurn_iff]
        rintro rfl
        obtain ⟨found, present, _⟩ := moved.inFlight
        simp [earlier] at present

/-- What the jobs of a bridge have called so far. -/
structure Traced (past : List Occurrence) (state : State) : Prop where
  start : ∀ {job : JobId} {phase : StartPhase} {count : Nat},
    state.jobs[job]? = some (.start phase) → phase.progress = some count →
      callsOf job past =
        (startCalls state.settings.queueOwner state.settings.queueKind).take count
  stop : ∀ {job : JobId} {phase : StopPhase}, state.jobs[job]? = some (.stop phase) →
    ((∃ occurrence ∈ past, occurrence.TakesRun job) ∧ ∃ count, phase.progress = some count ∧
      (callsOf job past).map Prod.fst = stopCalls.take count) ∨
    (¬∃ occurrence ∈ past, occurrence.TakesRun job) ∧ callsOf job past = [] ∧
      phase.hasSource = false

/-- A job that has just arrived has called nothing and taken nothing. -/
theorem History.callsOf_eq_nil {first now : State} {past : List Occurrence} {job : JobId}
    (history : History first past now) (absent : now.jobs[job]? = none) :
    callsOf job past = [] ∧ ¬∃ occurrence ∈ past, occurrence.TakesRun job := by
  have turnless := history.turnless absent
  constructor
  · rw [callsOf, List.filter_eq_nil_iff.mpr fun occurrence among => by simp [turnless _ among]]
    rfl
  · rintro ⟨occurrence, among, own, _⟩
    have turn := Occurrence.isCallTurn_iff.mpr own
    simp [turnless _ among] at turn

namespace Traced

variable {first state next : State} {past : List Occurrence} {job : JobId} {move : Move}
  {effects : List Effect}

theorem of_unused (unused : state.Unused) : Traced [] state where
  start := fun present => by simp [unused.jobs] at present
  stop := fun present => by simp [unused.jobs] at present

/-- What is said of the calls of a start after a move. -/
theorem start_step {phase : StartPhase} {count : Nat} (traced : Traced past state)
    (history : History first past state) (moved : Moves state move next effects)
    (present : next.jobs[job]? = some (.start phase)) (goes : phase.progress = some count) :
    callsOf job (past ++ [⟨state, move, next, effects⟩]) =
      (startCalls next.settings.queueOwner next.settings.queueKind).take count := by
  rw [moved.settings]
  by_cases mine : move = .job job
  · subst mine
    obtain ⟨before, middle, was, turn, rfl⟩ := moved.to_start present
    obtain ⟨made, had, whole⟩ := turn.progress goes
    rw [whole, callsOf_concat_own _ (Occurrence.isCallTurn_iff.mpr rfl), traced.start was had]
  · have other : (Occurrence.mk state move next effects).isCallTurn job = false := by
      rwa [← Bool.not_eq_true, Occurrence.isCallTurn_iff]
    rw [callsOf_concat_other _ other]
    cases was : state.jobs[job]? with
    | some found =>
        cases (moved.jobs_of_ne was mine).symm.trans present
        exact traced.start was goes
    | none =>
        rcases moved.jobs_origin present with old | own | ⟨request, rfl, arrived⟩
        · simp [was] at old
        · exact absurd own mine
        · cases request <;> cases arrived
          cases goes
          exact (history.callsOf_eq_nil was).1

/-- What is said of the calls of a stop after a move. -/
theorem stop_step {phase : StopPhase} (traced : Traced past state)
    (history : History first past state) (moved : Moves state move next effects)
    (present : next.jobs[job]? = some (.stop phase)) :
    ((∃ occurrence ∈ past ++ [⟨state, move, next, effects⟩], occurrence.TakesRun job) ∧
      ∃ count, phase.progress = some count ∧
        (callsOf job (past ++ [⟨state, move, next, effects⟩])).map Prod.fst =
          stopCalls.take count) ∨
    (¬∃ occurrence ∈ past ++ [⟨state, move, next, effects⟩], occurrence.TakesRun job) ∧
      callsOf job (past ++ [⟨state, move, next, effects⟩]) = [] ∧ phase.hasSource = false := by
  by_cases mine : move = .job job
  · subst mine
    obtain ⟨before, middle, was, turn, rfl⟩ := moved.to_stop present
    rw [callsOf_concat_own _ (Occurrence.isCallTurn_iff.mpr rfl)]
    rcases turn.progress with ⟨busy, made, count, had, goes, whole⟩ | ⟨fresh, silent, taken⟩
    · rcases traced.stop was with ⟨⟨occurrence, among, takes⟩, same, progress, calls⟩ | ⟨_, _, idle⟩
      · cases had.symm.trans progress
        exact .inl ⟨⟨occurrence, List.mem_append_left _ among, takes⟩, count, goes, by
          rw [List.map_append, calls, whole]⟩
      · simp [busy] at idle
    · rcases traced.stop was with ⟨_, same, progress, _⟩ | ⟨untaken, none, _⟩
      · simp [fresh] at progress
      · rw [none, silent]
        rcases taken with ⟨idle, resting⟩ | ⟨rfl, running, goes⟩
        · refine .inr ⟨?_, rfl, idle⟩
          rintro ⟨occurrence, among, takes⟩
          rcases List.mem_append.mp among with old | last
          · exact untaken ⟨occurrence, old, takes⟩
          · cases List.mem_singleton.mp last
            obtain ⟨_, queued, runs⟩ := takes
            cases was.symm.trans queued
            rw [resting rfl] at runs
            cases runs
        · exact .inl ⟨⟨_, List.mem_append_right _ (List.mem_singleton_self _), rfl, was, running⟩,
            0, goes, rfl⟩
  · have other : (Occurrence.mk state move next effects).isCallTurn job = false := by
      rwa [← Bool.not_eq_true, Occurrence.isCallTurn_iff]
    have takes : (∃ occurrence ∈ past ++ [⟨state, move, next, effects⟩],
        occurrence.TakesRun job) ↔ ∃ occurrence ∈ past, occurrence.TakesRun job := by
      simp [Occurrence.TakesRun, mine]
    rw [callsOf_concat_other _ other, takes]
    cases was : state.jobs[job]? with
    | some found =>
        cases (moved.jobs_of_ne was mine).symm.trans present
        exact traced.stop was
    | none =>
        rcases moved.jobs_origin present with old | own | ⟨request, rfl, arrived⟩
        · simp [was] at old
        · exact absurd own mine
        · cases request <;> cases arrived
          obtain ⟨silent, taken⟩ := history.callsOf_eq_nil was
          exact .inr ⟨taken, silent, rfl⟩

end Traced

/-- The invariant holds after every history. -/
theorem History.traced {first now : State} {past : List Occurrence}
    (history : History first past now) (unused : first.Unused) : Traced past now := by
  induction history with
  | start => exact .of_unused unused
  | move before step ih =>
      have moved := step_cases step
      exact ⟨ih.start_step before moved, ih.stop_step before moved⟩

end TopicRelay
