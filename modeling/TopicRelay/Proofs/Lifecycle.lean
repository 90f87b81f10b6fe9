import TopicRelay.Proofs.History
import TopicRelay.Proofs.Turns

/-!
# Runs from their start to their stop

A start that is under way holds the guard of the bridge, and the bridge is in no run
meanwhile.  From this it follows that a run starts routes as long as it is being set up or
the bridge is in it, that it starts none once a stop has taken it out, and that no two
stops take out the same run (`Lifecycle`).
-/

namespace TopicRelay

set_option autoImplicit false

/-! ## What the phase of a job says -/

/-- A start that has been given the guard of the bridge and has no answer yet. -/
def StartPhase.underWay : StartPhase → Bool
  | .arriving | .queued | .done _ => false
  | _ => true

theorem StartPhase.underWay_of_run? {phase : StartPhase} {run : RunId}
    (setsUp : phase.run? = some run) : phase.underWay = true := by
  cases phase <;> simp_all [StartPhase.run?, StartPhase.underWay]

namespace State

variable {state next : State} {job other id : JobId} {run : RunId}

/-- A start is under way. -/
def Starting (state : State) (job : JobId) : Prop :=
  ∃ phase, state.jobs[job]? = some (.start phase) ∧ phase.underWay = true

/-- A start is setting up a run. -/
def SettingUp (state : State) (job : JobId) (run : RunId) : Prop :=
  ∃ phase, state.jobs[job]? = some (.start phase) ∧ phase.run? = some run

/-- A stop is stopping the routes of a run. -/
def Stopping (state : State) (job : JobId) (run : RunId) : Prop :=
  ∃ phase, state.jobs[job]? = some (.stop phase) ∧ phase.run? = some run

theorem SettingUp.starting (settingUp : state.SettingUp job run) : state.Starting job := by
  obtain ⟨phase, present, setsUp⟩ := settingUp
  exact ⟨phase, present, StartPhase.underWay_of_run? setsUp⟩

/-! ## A job in a new phase -/

theorem starting_setJob {found : Job} (starting : (state.setJob job found).Starting id) :
    (id = job ∧ ∃ phase, found = .start phase ∧ phase.underWay = true) ∨
      (id ≠ job ∧ state.Starting id) := by
  obtain ⟨phase, present, underWay⟩ := starting
  rcases jobs_setJob present with ⟨same, rfl⟩ | ⟨different, before⟩
  · exact .inl ⟨same, phase, rfl, underWay⟩
  · exact .inr ⟨different, phase, before, underWay⟩

theorem settingUp_setJob {found : Job} (settingUp : (state.setJob job found).SettingUp id run) :
    (id = job ∧ ∃ phase, found = .start phase ∧ phase.run? = some run) ∨
      (id ≠ job ∧ state.SettingUp id run) := by
  obtain ⟨phase, present, setsUp⟩ := settingUp
  rcases jobs_setJob present with ⟨same, rfl⟩ | ⟨different, before⟩
  · exact .inl ⟨same, phase, rfl, setsUp⟩
  · exact .inr ⟨different, phase, before, setsUp⟩

theorem stopping_setJob {found : Job} (stopping : (state.setJob job found).Stopping id run) :
    (id = job ∧ ∃ phase, found = .stop phase ∧ phase.run? = some run) ∨
      (id ≠ job ∧ state.Stopping id run) := by
  obtain ⟨phase, present, stops⟩ := stopping
  rcases jobs_setJob present with ⟨same, rfl⟩ | ⟨different, before⟩
  · exact .inl ⟨same, phase, rfl, stops⟩
  · exact .inr ⟨different, phase, before, stops⟩

end State

/-! ## The invariant -/

/-- How the guard of the bridge, its run and the calls that start and stop it agree. -/
structure Lifecycle (state : State) : Prop where
  /-- A start that is under way holds the guard. -/
  inCharge : ∀ {job}, state.Starting job → state.guard.holder = some job
  /-- While a start is under way the bridge is in no run. -/
  resting : ∀ {job}, state.Starting job → state.running = none
  settingUp : ∀ {job run}, state.SettingUp job run → state.accepting? run = some true
  running : ∀ {run}, state.running = some run → state.accepting? run = some true
  stopping : ∀ {job run}, state.Stopping job run → state.accepting? run = some false
  oneStop : ∀ {job other run}, state.Stopping job run → state.Stopping other run → job = other

namespace Lifecycle

variable {state next : State} {job : JobId}

theorem of_unused (unused : state.Unused) : Lifecycle state where
  inCharge := fun ⟨_, present, _⟩ => by simp [unused.jobs] at present
  resting := fun _ => unused.running
  settingUp := fun ⟨_, present, _⟩ => by simp [unused.jobs] at present
  running := fun running => by simp [unused.running] at running
  stopping := fun ⟨_, present, _⟩ => by simp [unused.jobs] at present
  oneStop := fun ⟨_, present, _⟩ => by simp [unused.jobs] at present

/-- The guard is kept, the bridge stays in its run, and no run that a stop is stopping is a new
one. -/
theorem keep (life : Lifecycle state)
    (guard : ∀ {holder}, state.guard.holder = some holder → next.guard.holder = some holder)
    (running : next.running = state.running)
    (accepting : ∀ {run accepts}, state.accepting? run = some accepts →
      next.accepting? run = some accepts)
    (starting : ∀ {id}, next.Starting id →
      state.Starting id ∨ next.guard.holder = some id ∧ state.running = none)
    (settingUp : ∀ {id run}, next.SettingUp id run →
      state.SettingUp id run ∨ next.accepting? run = some true)
    (stopping : ∀ {id run}, next.Stopping id run → state.Stopping id run) : Lifecycle next where
  inCharge := fun started =>
    (starting started).elim (fun old => guard (life.inCharge old)) (fun new => new.1)
  resting := fun started =>
    running.trans ((starting started).elim life.resting (fun new => new.2))
  settingUp := fun sets => (settingUp sets).elim (fun old => accepting (life.settingUp old)) id
  running := fun runs => accepting (life.running (running ▸ runs))
  stopping := fun stops => accepting (life.stopping (stopping stops))
  oneStop := fun one other => life.oneStop (stopping one) (stopping other)

/-- A call has a turn that keeps the guard and the run of the bridge. -/
theorem advance {after : Job} (life : Lifecycle state) (jobs : next.jobs = state.jobs)
    (guard : ∀ {holder}, state.guard.holder = some holder → next.guard.holder = some holder)
    (running : next.running = state.running)
    (accepting : ∀ {run accepts}, state.accepting? run = some accepts →
      next.accepting? run = some accepts)
    (starts : ∀ {phase}, after = .start phase → phase.underWay = true →
      state.Starting job ∨ next.guard.holder = some job ∧ state.running = none)
    (sets : ∀ {phase run}, after = .start phase → phase.run? = some run →
      state.SettingUp job run ∨ next.accepting? run = some true)
    (stops : ∀ {phase run}, after = .stop phase → phase.run? = some run →
      state.Stopping job run) : Lifecycle (next.setJob job after) := by
  refine life.keep guard running accepting ?_ ?_ ?_
  · intro id starting
    rcases State.starting_setJob starting with ⟨rfl, _, same, underWay⟩ | ⟨_, before⟩
    · exact starts same underWay
    · exact .inl (by rwa [State.Starting, jobs] at before)
  · intro id run settingUp
    rcases State.settingUp_setJob settingUp with ⟨rfl, _, same, setsUp⟩ | ⟨_, before⟩
    · exact sets same setsUp
    · exact .inl (by rwa [State.SettingUp, jobs] at before)
  · intro id run stopping
    rcases State.stopping_setJob stopping with ⟨rfl, _, same, stopped⟩ | ⟨_, before⟩
    · exact stops same stopped
    · rwa [State.Stopping, jobs] at before

/-- While a job holds the guard, no other job is a start that is under way. -/
theorem starting_eq {holder id : JobId} (life : Lifecycle state)
    (held : state.guard.holder = some holder) (starting : state.Starting id) : id = holder :=
  Option.some.inj ((life.inCharge starting).symm.trans held)

/-- A call that neither starts nor stops the bridge keeps the invariant. -/
theorem attach_step {topic : String} {phase after : AttachPhase} {effects : List Effect}
    (life : Lifecycle state) (turn : Attaches state job topic phase after next effects) :
    Lifecycle (next.setJob job (.attach topic after)) := by
  have leaves := turn.leavesBridge
  exact life.advance leaves.jobs (leaves.guard ▸ id) leaves.running (leaves.accepting? _).trans
    (by rintro _ ⟨⟩) (by rintro _ _ ⟨⟩) (by rintro _ _ ⟨⟩)

/-- A move that leaves the bridge alone keeps the invariant. -/
theorem leaves_step (life : Lifecycle state) (leaves : LeavesBridge state next) :
    Lifecycle next := by
  refine life.keep (leaves.guard ▸ id) leaves.running (leaves.accepting? _).trans ?_ ?_ ?_
  · intro id starting
    exact .inl (by rwa [State.Starting, leaves.jobs] at starting)
  · intro id run settingUp
    exact .inl (by rwa [State.SettingUp, leaves.jobs] at settingUp)
  · intro id run stopping
    rwa [State.Stopping, leaves.jobs] at stopping

/-- A call that has just arrived is in no phase that the invariant reads. -/
theorem arrive_step (life : Lifecycle state) (request : Request) :
    Lifecycle (state.arrive request) := by
  refine life.keep id rfl id ?_ ?_ ?_
  · rintro id ⟨phase, present, underWay⟩
    rcases getElem?_concat_eq_some.mp present with old | ⟨_, new⟩
    · exact .inl ⟨phase, old, underWay⟩
    · cases request <;> cases new
      cases underWay
  · rintro id run ⟨phase, present, setsUp⟩
    rcases getElem?_concat_eq_some.mp present with old | ⟨_, new⟩
    · exact .inl ⟨phase, old, setsUp⟩
    · cases request <;> cases new
      cases setsUp
  · rintro id run ⟨phase, present, stops⟩
    rcases getElem?_concat_eq_some.mp present with old | ⟨_, new⟩
    · exact ⟨phase, old, stops⟩
    · cases request <;> cases new
      cases stops

/-- A call asks for the guard: whoever holds it keeps it. -/
theorem request_step {found : Job} (life : Lifecycle state)
    (waits : ∀ phase, found = .start phase → phase.underWay = false)
    (idle : ∀ phase, found = .stop phase → phase.run? = none) :
    Lifecycle ({ state with guard := state.guard.request job }.setJob job found) := by
  refine life.advance rfl (Guard.holder_request_of_some job) rfl id ?_ ?_ ?_
  · intro phase same underWay
    simp [waits phase same] at underWay
  · intro phase run same setsUp
    have underWay := StartPhase.underWay_of_run? setsUp
    simp [waits phase same] at underWay
  · intro phase run same stopped
    simp [idle phase same] at stopped

/-- The holder of the guard gives it up, and no start is under way any more. -/
theorem release_step {found : Job} (life : Lifecycle state)
    (held : state.guard.holder = some job) (jobs : next.jobs = state.jobs)
    (accepting : ∀ run, next.accepting? run = state.accepting? run)
    (runs : ∀ run, next.running = some run → state.accepting? run = some true)
    (waits : ∀ phase, found = .start phase → phase.underWay = false)
    (idle : ∀ phase, found = .stop phase → phase.run? = none) :
    Lifecycle (next.releaseGuard.setJob job found) := by
  have none : ∀ {id}, ¬(next.releaseGuard.setJob job found).Starting id := by
    intro id started
    rcases State.starting_setJob started with ⟨_, phase, same, underWay⟩ | ⟨different, before⟩
    · simp [waits phase same] at underWay
    · refine different (life.starting_eq held ?_)
      obtain ⟨phase, present, underWay⟩ := before
      exact ⟨phase, jobs ▸ present, underWay⟩
  have stopping : ∀ {id run}, (next.releaseGuard.setJob job found).Stopping id run →
      state.Stopping id run := by
    intro id run stops
    rcases State.stopping_setJob stops with ⟨_, phase, same, stopped⟩ | ⟨_, before⟩
    · simp [idle phase same] at stopped
    · obtain ⟨phase, present, stopped⟩ := before
      exact ⟨phase, jobs ▸ present, stopped⟩
  exact {
    inCharge := fun started => absurd started none
    resting := fun started => absurd started none
    settingUp := fun sets => absurd sets.starting none
    running := fun running => (accepting _).trans (runs _ running)
    stopping := fun stops => (accepting _).trans (life.stopping (stopping stops))
    oneStop := fun one other => life.oneStop (stopping one) (stopping other) }

/-- A start that is under way goes on. -/
theorem start_advance {phase after : StartPhase} (life : Lifecycle state)
    (present : state.jobs[job]? = some (.start phase)) (underWay : phase.underWay = true)
    (leaves : LeavesBridge state next)
    (sets : ∀ run, after.run? = some run → phase.run? = some run) :
    Lifecycle (next.setJob job (.start after)) := by
  refine life.advance leaves.jobs (leaves.guard ▸ id) leaves.running (leaves.accepting? _).trans
    (fun _ _ => .inl ⟨phase, present, underWay⟩) ?_ (by rintro _ _ ⟨⟩)
  rintro _ run ⟨⟩ setsUp
  exact .inl ⟨phase, present, sets run setsUp⟩

/-- A stop goes on with the run that it has taken out, if it has not done with it. -/
theorem stop_advance {phase after : StopPhase} (life : Lifecycle state)
    (present : state.jobs[job]? = some (.stop phase)) (leaves : LeavesBridge state next)
    (stops : ∀ run, after.run? = some run → phase.run? = some run) :
    Lifecycle (next.setJob job (.stop after)) := by
  refine life.advance leaves.jobs (leaves.guard ▸ id) leaves.running (leaves.accepting? _).trans
    (by rintro _ ⟨⟩) (by rintro _ _ ⟨⟩) ?_
  rintro _ run ⟨⟩ stopped
  exact ⟨phase, present, stops run stopped⟩

/-- The turn of a start keeps the invariant. -/
theorem start_step {phase after : StartPhase} {effects : List Effect} (life : Lifecycle state)
    (present : state.jobs[job]? = some (.start phase))
    (turn : Starts state job phase after next effects) :
    Lifecycle (next.setJob job (.start after)) := by
  have inCharge : phase.underWay = true → state.guard.holder = some job :=
    fun underWay => life.inCharge ⟨phase, present, underWay⟩
  have onward : ∀ {after : StartPhase} {next : State}, phase.underWay = true →
      LeavesBridge state next → (∀ run, after.run? = some run → phase.run? = some run) →
        Lifecycle (next.setJob job (.start after)) :=
    fun underWay leaves sets => life.start_advance present underWay leaves sets
  have finished : ∀ {next : State} {result : Except StartFailure Unit},
      state.guard.holder = some job → LeavesBridge state next →
        Lifecycle (next.releaseGuard.setJob job (.start (.done result))) := by
    intro next result held leaves
    refine life.release_step held leaves.jobs leaves.accepting? ?_ ?_ ?_
    · intro run running
      exact life.running (leaves.running ▸ running)
    · rintro _ ⟨⟩
      rfl
    · rintro _ ⟨⟩
  cases turn with
  | asked => exact life.request_step (by rintro _ ⟨⟩; rfl) (by rintro _ ⟨⟩)
  | needless held _ => exact finished held (.of_runs rfl rfl rfl rfl)
  | entered held resting =>
      exact life.advance rfl id rfl id (fun _ _ => .inr ⟨held, resting⟩)
        (by rintro _ _ ⟨⟩ ⟨⟩) (by rintro _ _ ⟨⟩)
  | resolved => exact onward rfl (.of_runs rfl rfl rfl rfl) (by rintro _ ⟨⟩)
  | unresolved => exact finished (inCharge rfl) (.of_runs rfl rfl rfl rfl)
  | registered => exact onward rfl (.of_runs rfl rfl rfl rfl) (by rintro _ ⟨⟩)
  | unregistered => exact finished (inCharge rfl) (.of_runs rfl rfl rfl rfl)
  | sourceOpened _ => exact onward rfl (.of_runs rfl rfl rfl rfl) (by rintro _ ⟨⟩)
  | sourceUnopened => exact finished (inCharge rfl) (.of_runs rfl rfl rfl rfl)
  | sinkOpened _ => exact onward rfl (.of_runs rfl rfl rfl rfl) (by rintro _ ⟨⟩)
  | sinkUnopened _ => exact onward rfl (.of_runs rfl rfl rfl rfl) (by rintro _ ⟨⟩)
  | sourceGivenUp => exact finished (inCharge rfl) (.of_runs rfl rfl rfl rfl)
  | discovered =>
      refine life.advance rfl id rfl State.accepting?_addRun_of_eq_some
        (fun _ _ => .inl ⟨_, present, rfl⟩) ?_ (by rintro _ _ ⟨⟩)
      rintro _ _ ⟨⟩ ⟨⟩
      exact .inr State.accepting?_addRun_self
  | undiscovered => exact onward rfl (.of_runs rfl rfl rfl rfl) (by rintro _ ⟨⟩)
  | installed => exact onward rfl (.of_runs rfl rfl rfl rfl) (by rintro _ ⟨⟩; rfl)
  | brokerStarted started =>
      have accepts := life.settingUp ⟨_, present, rfl⟩
      refine life.release_step (inCharge rfl) rfl (fun _ => rfl) ?_ ?_ ?_
      · rintro _ ⟨⟩
        exact accepts
      · rintro _ ⟨⟩
        rfl
      · rintro _ ⟨⟩
  | @brokerRefused refusing failure refused =>
      have held := inCharge rfl
      have resting := life.resting ⟨_, present, rfl⟩
      have stopping : ∀ {id run}, ((state.refuse refusing).setJob job
          (.start (.releasingSink (.broker failure)))).Stopping id run →
            state.Stopping id run := by
        intro id run stops
        rcases State.stopping_setJob stops with ⟨_, _, impossible, _⟩ | ⟨_, before⟩
        · cases impossible
        · exact before
      refine {
        inCharge := ?_, resting := fun _ => resting, settingUp := ?_, running := ?_
        stopping := fun stops => State.accepting?_refuse_of_false (life.stopping (stopping stops))
        oneStop := fun one other => life.oneStop (stopping one) (stopping other) }
      · intro id starting
        rcases State.starting_setJob starting with ⟨rfl, _⟩ | ⟨_, before⟩
        · exact held
        · exact life.inCharge before
      · intro id run settingUp
        rcases State.settingUp_setJob settingUp with ⟨_, _, same, setsUp⟩ | ⟨different, before⟩
        · cases same
          cases setsUp
        · exact absurd (life.starting_eq held before.starting) different
      · intro run running
        exact absurd (running.symm.trans resting) (by simp)
  | sinkGivenUp => exact onward rfl (.of_runs rfl rfl rfl rfl) (by rintro _ ⟨⟩)
  | allGivenUp => exact finished (inCharge rfl) (.of_runs rfl rfl rfl rfl)

/-- The turn of a stop keeps the invariant. -/
theorem stop_step {phase after : StopPhase} {effects : List Effect} (life : Lifecycle state)
    (present : state.jobs[job]? = some (.stop phase))
    (turn : Stops state job phase after next effects) :
    Lifecycle (next.setJob job (.stop after)) := by
  cases turn with
  | asked => exact life.request_step (by rintro _ ⟨⟩) (by rintro _ ⟨⟩; rfl)
  | idle held resting =>
      exact life.release_step held rfl (fun _ => rfl) (fun _ => life.running) (by rintro _ ⟨⟩)
        (by rintro _ ⟨⟩; rfl)
  | @entered entered held running =>
      have none : ∀ {id}, ¬(({ state with running := none }.releaseGuard.refuse entered).setJob
          job (.stop (.stoppingBroker entered))).Starting id := by
        intro id starting
        rcases State.starting_setJob starting with ⟨_, _, impossible, _⟩ | ⟨_, before⟩
        · cases impossible
        · exact absurd (running.symm.trans (life.resting before)) (by simp)
      have accepts := life.running running
      have fresh : ∀ {id}, ¬state.Stopping id entered := fun stops =>
        absurd ((life.stopping stops).symm.trans accepts) (by simp)
      refine {
        inCharge := fun starting => absurd starting none
        resting := fun _ => rfl
        settingUp := fun sets => absurd sets.starting none
        running := fun running => absurd running (by simp [State.refuse, State.modifyRun,
          State.releaseGuard, State.setJob])
        stopping := ?_, oneStop := ?_ }
      · intro id run stopping
        rcases State.stopping_setJob stopping with ⟨_, _, same, stopped⟩ | ⟨_, before⟩
        · cases same
          cases stopped
          exact State.accepting?_refuse_self accepts
        · exact State.accepting?_refuse_of_false (life.stopping before)
      · intro one other run first second
        rcases State.stopping_setJob first with ⟨rfl, _, same, stopped⟩ | ⟨_, before⟩
        · cases same
          cases stopped
          rcases State.stopping_setJob second with ⟨rfl, _⟩ | ⟨_, earlier⟩
          · rfl
          · exact absurd earlier fresh
        · rcases State.stopping_setJob second with ⟨rfl, _, same, stopped⟩ | ⟨_, earlier⟩
          · cases same
            cases stopped
            exact absurd before fresh
          · exact life.oneStop before earlier
  | brokerStopped =>
      exact life.stop_advance present (.of_runs rfl rfl rfl rfl) (by rintro _ ⟨⟩; rfl)
  | routesDone => exact life.stop_advance present (.of_runs rfl rfl rfl rfl) (by rintro _ ⟨⟩)
  | routeAsked =>
      exact life.stop_advance present (.of_modifySlot (.of_runs rfl rfl rfl rfl))
        (by rintro _ ⟨⟩; rfl)
  | routeIdle _ _ _ =>
      exact life.stop_advance present (.of_modifySlot (.of_runs rfl rfl rfl rfl))
        (by rintro _ ⟨⟩; rfl)
  | routeClaimed _ _ _ =>
      exact life.stop_advance present (.of_modifyRelay (.of_modifySlot (.of_runs rfl rfl rfl rfl)))
        (by rintro _ ⟨⟩; rfl)
  | routeStopped _ =>
      exact life.stop_advance present (.of_modifySlot (.of_runs rfl rfl rfl rfl))
        (by rintro _ ⟨⟩; rfl)
  | sinkClosed => exact life.stop_advance present (.of_runs rfl rfl rfl rfl) (by rintro _ ⟨⟩)
  | sourceClosed => exact life.stop_advance present (.of_runs rfl rfl rfl rfl) (by rintro _ ⟨⟩)

/-- **Every move keeps the invariant.** -/
theorem step {move : Move} {effects : List Effect} (life : Lifecycle state)
    (moved : Moves state move next effects) : Lifecycle next := by
  cases moved with
  | start present turn => exact life.start_step present turn
  | stop present turn => exact life.stop_step present turn
  | attach _ turn => exact life.attach_step turn
  | relay _ turn => exact life.leaves_step turn.leavesBridge
  | arrive => exact life.arrive_step _
  | change => exact life.leaves_step (change_leavesBridge state _)
  | forget _ => exact life.leaves_step (.of_runs rfl rfl rfl rfl)
  | closeSource => exact life.leaves_step (.of_runs rfl rfl rfl rfl)
  | closeSink => exact life.leaves_step (.of_runs rfl rfl rfl rfl)
  | wait => exact life.leaves_step (.of_runs rfl rfl rfl rfl)

end Lifecycle

/-- The invariant holds after every history. -/
theorem History.lifecycle {first now : State} {past : List Occurrence}
    (history : History first past now) (unused : first.Unused) : Lifecycle now :=
  history.preserves (.of_unused unused) fun life step => life.step (step_cases step)

end TopicRelay
