import TopicRelay.Proofs.Marks
import TopicRelay.Proofs.Overlap
import TopicRelay.Proofs.Setup

/-!
# What a bridge that runs has

A bridge that is in a run has the hooks of the run installed at its broker
(`History.hooks_of_running`).  And its broker is started, unless a stop that was still under way
when the bridge was started has stopped it (`History.broker_started`).
-/

namespace TopicRelay

set_option autoImplicit false

/-! ## The hooks -/

/-- The broker of a bridge that is in a run has the hooks of the run. -/
theorem History.hooks_of_running {first now : State} {past : List Occurrence} {run : RunId}
    (history : History first past now) (unused : first.Unused)
    (running : now.running = some run) : ∃ gate, now.broker.hooks = some ⟨gate, run⟩ := by
  induction history with
  | start => simp [unused.running] at running
  | @move past now next move effects before step ih =>
      have moved := step_cases step
      have life := before.lifecycle unused
      have kept : next.running = now.running → ∃ gate, next.broker.hooks = some ⟨gate, run⟩ := by
        intro same
        rcases moved.hooks_cases with hooks | ⟨job, other, _, present, _⟩
        · rw [hooks]
          exact ih (same.symm.trans running)
        · -- A start that installs hooks is under way, and then the bridge is in no run.
          simp [same, life.resting ⟨_, present, rfl⟩] at running
      cases moved with
      | start present turn =>
          cases turn with
          | brokerStarted started =>
              cases running
              cases Broker.start_eq_ok started
              exact (before.setup unused).installed present
          | _ => exact kept rfl
      | stop present turn =>
          cases turn with
          | entered _ _ => cases running
          | _ => exact kept rfl
      | attach _ turn => exact kept turn.leavesBridge.running
      | relay _ turn => exact kept turn.leavesBridge.running
      | change => exact kept (change_leavesBridge _ _).running
      | _ => exact kept rfl

/-! ## The broker -/

/-- The broker of a bridge that is in a run is started, unless the connection to the queues is
closed or a stop is going to close it. -/
structure State.Serving (state : State) : Prop where
  broker : state.running.isSome = true → state.upstream.isOpen = true →
    state.broker.isStarted = true ∨ state.Has Job.isClosing

/-- **Every move keeps the invariant.** -/
theorem State.Serving.step {state next : State} {move : Move} {effects : List Effect}
    (serving : state.Serving) (life : Lifecycle state) (moved : Moves state move next effects) :
    next.Serving := by
  refine ⟨fun running connected => ?_⟩
  have kept : next.running = state.running → next.broker.isStarted = state.broker.isStarted →
      next.upstream.isOpen = state.upstream.isOpen →
        next.broker.isStarted = true ∨ next.Has Job.isClosing := by
    intro sameRun sameBroker sameSource
    rcases serving.broker (sameRun ▸ running) (sameSource ▸ connected) with started | closing
    · exact .inl (sameBroker.trans started)
    · rcases moved.isClosing closing with still | closed
      · exact .inr still
      · simp [closed] at connected
  cases moved with
  | start present turn =>
      cases turn with
      | brokerStarted started => exact .inl (isStarted_start started)
      | sourceOpened _ =>
          have resting : state.running = none := life.resting ⟨_, present, rfl⟩
          rw [show State.running _ = state.running from rfl, resting] at running
          cases running
      | sourceGivenUp => cases connected
      | allGivenUp => cases connected
      | _ => exact kept rfl rfl rfl
  | stop present turn =>
      cases turn with
      | entered _ _ => cases running
      | brokerStopped => exact .inr ⟨_, _, State.jobs_setJob_self present, rfl⟩
      | sourceClosed => cases connected
      | _ => exact kept rfl rfl rfl
  | attach _ turn =>
      exact kept turn.leavesBridge.running turn.keepsService.broker turn.keepsService.source
  | relay _ turn =>
      exact kept turn.leavesBridge.running turn.keepsService.broker turn.keepsService.source
  | @change change =>
      have keeps := change_keepsService state change
      exact kept (change_leavesBridge state change).running keeps.broker keeps.source
  | closeSource => cases connected
  | _ => exact kept rfl rfl rfl

/-- The broker of a bridge that is in a run is started while the connection to the queues is open
and no stop is in flight. -/
theorem History.broker_started {first now : State} {past : List Occurrence} {run : RunId}
    (history : History first past now) (unused : first.Unused)
    (running : now.running = some run) (connected : now.upstream.isOpen = true)
    (noStop : ¬now.Has Job.isStopping) : now.broker.isStarted = true := by
  have serving : now.Serving := by
    clear running connected noStop
    induction history with
    | start => exact ⟨fun running => by simp [unused.running] at running⟩
    | move before step ih => exact ih.step (before.lifecycle unused) (step_cases step)
  rcases serving.broker (by rw [running]; rfl) connected with
    started | ⟨job, found, present, closing⟩
  · exact started
  · refine absurd ⟨job, found, present, ?_⟩ noStop
    cases found with
    | stop phase => cases phase <;> first | rfl | cases closing
    | _ => cases closing

end TopicRelay
