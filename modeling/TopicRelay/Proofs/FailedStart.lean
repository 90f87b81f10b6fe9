import TopicRelay.Proofs.Quiescence
import TopicRelay.Proofs.Relays

/-!
# What is left when a start has failed

A start may fail at six points, and each undoes what was done up to there: the service
principal, the key, the connection to the queues, the connection to the topics, the queues and the
broker.  Where calls come one at a time (`Sequential`), a start that has failed leaves nothing in
service, whatever came before: no run, no broker, no connection, no relay and no producer, and all
runs that were ever set up are dead (`State.OutOfService`).  Of what the start has done only its
key stays registered, and no key is if it failed before that.

A start that is refused because the bridge is running does nothing but take the guard of the
bridge and give it back.  `Attempt` follows one start, and `History.failed_start` puts this
together.
-/

namespace TopicRelay

set_option autoImplicit false

/-! ## One call at a time -/

/-- Every call has its answer. -/
def State.Calm (state : State) : Prop :=
  ∀ (job : JobId) (found : Job), state.jobs[job]? = some found → found.isDone = true

/-- Every call but one has its answer. -/
def State.Alone (state : State) (id : JobId) : Prop :=
  ∀ (job : JobId) (found : Job), state.jobs[job]? = some found → job ≠ id → found.isDone = true

/-- Calls come one at a time: none comes before the one before it has its answer. -/
def Sequential (past : List Occurrence) : Prop :=
  ∀ occurrence ∈ past, ∀ request, occurrence.move = .arrive request → occurrence.before.Calm

theorem State.calm_iff_all {state : State} :
    state.Calm ↔ state.jobs.all Job.isDone = true := by
  simp only [State.Calm, List.all_eq_true, List.mem_iff_getElem?]
  exact ⟨fun calm found ⟨job, present⟩ => calm job found present,
    fun all job found present => all found ⟨job, present⟩⟩

/-- Whether a call comes, if one comes, when all others have their answers. -/
def Occurrence.isOrdered (occurrence : Occurrence) : Bool :=
  match occurrence.move with
  | .arrive _ => occurrence.before.jobs.all Job.isDone
  | _ => true

theorem sequential_iff_all {past : List Occurrence} :
    Sequential past ↔ past.all Occurrence.isOrdered = true := by
  simp only [Sequential, List.all_eq_true, State.calm_iff_all, Occurrence.isOrdered]
  refine forall₂_congr fun occurrence _ => ?_
  split <;> simp_all

/-- A call that has its answer does nothing to start or to stop the bridge. -/
theorem Job.idle_of_isDone {job : Job} (done : job.isDone = true) :
    job.isStarting = false ∧ job.hasSource = false := by
  cases job with
  | start phase => cases phase <;> first | exact ⟨rfl, rfl⟩ | cases done
  | stop phase => cases phase <;> first | exact ⟨rfl, rfl⟩ | cases done
  | attach _ _ => exact ⟨rfl, rfl⟩

section

variable {state next : State} {move : Move} {effects : List Effect} {id job : JobId}

/-- A call that has a turn has no answer yet. -/
theorem Moves.inFlight (moved : Moves state (.job job) next effects) :
    ∃ found, state.jobs[job]? = some found ∧ found.isDone = false := by
  cases moved with
  | start present turn => exact ⟨_, present, by cases turn <;> rfl⟩
  | stop present turn => exact ⟨_, present, by cases turn <;> rfl⟩
  | attach present turn => exact ⟨_, present, by cases turn <;> rfl⟩

namespace State

theorem Calm.alone (calm : state.Calm) (id : JobId) : state.Alone id :=
  fun _ _ present _ => calm _ _ present

/-- Only the call that has no answer yet has turns. -/
theorem Alone.eq_of_turn (alone : state.Alone id) (moved : Moves state (.job job) next effects) :
    job = id := by
  obtain ⟨found, present, flies⟩ := moved.inFlight
  by_contra different
  simp [alone _ _ present different] at flies

/-- No other call comes. -/
theorem Alone.step (alone : state.Alone id) (moved : Moves state move next effects)
    (noCall : ∀ request, move ≠ .arrive request) : next.Alone id := by
  intro job found present different
  rcases moved.jobs_origin present with was | rfl | ⟨request, arrives, _⟩
  · exact alone _ _ was different
  · exact absurd (alone.eq_of_turn moved) different
  · exact absurd arrives (noCall request)

/-- A call comes when all others have their answers. -/
theorem Calm.arrive (calm : state.Calm) (request : Request) :
    (state.arrive request).Alone state.jobs.length := by
  intro job found present different
  rcases getElem?_concat_eq_some.mp present with was | ⟨new, _⟩
  · exact calm _ _ was
  · exact absurd new different

/-- A bridge whose calls all have their answers is idle if it is in no run. -/
theorem Calm.idle (calm : state.Calm) (resting : state.running = none) : state.Idle where
  resting := resting
  noStart := fun ⟨_, _, present, starting⟩ => by
    simp [(Job.idle_of_isDone (calm _ _ present)).1] at starting
  closed := fun ⟨_, _, present, has⟩ => by
    simp [(Job.idle_of_isDone (calm _ _ present)).2] at has

end State

end

/-- Where calls come one at a time, at most one has no answer yet. -/
theorem History.alone {first now : State} {past : List Occurrence}
    (history : History first past now) (unused : first.Unused) (sequential : Sequential past) :
    ∃ id, now.Alone id := by
  induction history with
  | start => exact ⟨0, fun _ _ present => by simp [unused.jobs] at present⟩
  | @move past now next move effects before step ih =>
      obtain ⟨id, alone⟩ := ih fun occurrence among => sequential occurrence (by simp [among])
      have moved := step_cases step
      by_cases arrives : ∃ request, move = .arrive request
      · obtain ⟨request, rfl⟩ := arrives
        have calm : now.Calm :=
          sequential ⟨now, .arrive request, next, effects⟩ (by simp) request rfl
        cases moved
        exact ⟨_, calm.arrive request⟩
      · exact ⟨id, alone.step moved fun request same => arrives ⟨request, same⟩⟩

/-- Where calls come one at a time, none is attached to a run that is still being set up. -/
theorem History.timely {first now : State} {past : List Occurrence}
    (history : History first past now) (unused : first.Unused) (sequential : Sequential past) :
    ∀ occurrence ∈ past, ¬occurrence.IsEarly := by
  rintro ⟨before, move, after, effects⟩ among ⟨job, topic, run, phase, id, rfl, present, sets⟩
  obtain ⟨earlier, later, rfl⟩ := List.append_of_mem among
  obtain ⟨prior, step, _⟩ := history.occurrence
  obtain ⟨only, alone⟩ := prior.alone unused fun occurrence member =>
    sequential occurrence (by simp [member])
  obtain rfl := alone.eq_of_turn (step_cases step)
  obtain ⟨setting, there, setsUp⟩ := sets
  by_cases same : id = job
  · subst same
    cases present.symm.trans there
  · have done := alone _ _ there same
    cases setting with
    | done result => cases setsUp
    | _ => cases done

/-! ## The guard of the bridge -/

/-- A call that waits for the guard of the bridge or has it. -/
def Job.guards : Job → Bool
  | .start .queued | .stop .queued => true
  | .start phase => phase.underWay
  | _ => false

/-- Nobody waits for the guard of the bridge, and whoever has it is at work. -/
structure Orderly (state : State) : Prop where
  waiting : state.guard.waiting = []
  holder : ∀ {job}, state.guard.holder = some job →
    ∃ found, state.jobs[job]? = some found ∧ found.guards = true

theorem Job.inFlight_of_guards {job : Job} (guards : job.guards = true) : job.isDone = false := by
  cases job with
  | start phase => cases phase <;> first | rfl | cases guards
  | stop phase => cases phase <;> first | rfl | cases guards
  | attach _ _ => cases guards

namespace Orderly

variable {state next : State} {move : Move} {effects : List Effect} {id job : JobId}
  {before after : Job}

theorem of_unused (unused : state.Unused) : Orderly state where
  waiting := by rw [unused.guard]
  holder := fun held => by simp [unused.guard] at held

/-- Nobody has the guard once every call has its answer. -/
theorem guard_eq (orderly : Orderly state) (calm : state.Calm) : state.guard = {} := by
  have free : state.guard.holder = none := by
    cases held : state.guard.holder with
    | none => rfl
    | some job =>
        obtain ⟨found, present, guards⟩ := orderly.holder held
        have flies := Job.inFlight_of_guards guards
        simp [calm _ _ present] at flies
  have waiting := orderly.waiting
  cases guard : state.guard with
  | mk holder others =>
      rw [guard] at free waiting
      cases free
      cases waiting
      rfl

/-- A call goes on, and the guard stays where it is. -/
theorem onward (orderly : Orderly state) (present : state.jobs[job]? = some before)
    (jobs : next.jobs = state.jobs) (guard : next.guard = state.guard)
    (keeps : before.guards = true → after.guards = true) : Orderly (next.setJob job after) where
  waiting := (congrArg Guard.waiting guard).trans orderly.waiting
  holder := by
    intro holder held
    obtain ⟨found, there, guards⟩ := orderly.holder ((congrArg Guard.holder guard).symm.trans held)
    by_cases same : holder = job
    · subst same
      cases present.symm.trans there
      exact ⟨after, State.jobs_setJob_self (jobs ▸ present), keeps guards⟩
    · exact ⟨found, (State.jobs_setJob_of_ne same).trans (jobs ▸ there), guards⟩

/-- The only call that is at work asks for the guard and gets it. -/
theorem requested (orderly : Orderly state) (alone : state.Alone id)
    (present : state.jobs[job]? = some before) (mine : job = id) (idle : before.guards = false)
    (guards : after.guards = true) :
    Orderly ({ state with guard := state.guard.request job }.setJob job after) := by
  have free : state.guard.holder = none := by
    cases held : state.guard.holder with
    | none => rfl
    | some holder =>
        obtain ⟨found, there, works⟩ := orderly.holder held
        have same : holder = job := by
          by_contra different
          have done := alone _ _ there (mine ▸ different)
          simp [Job.inFlight_of_guards works] at done
        subst same
        cases present.symm.trans there
        simp [idle] at works
  have granted : state.guard.request job = ⟨some job, []⟩ := by
    simp [Guard.request, free, orderly.waiting]
  refine ⟨congrArg Guard.waiting granted, fun {holder} held => ?_⟩
  obtain rfl := Option.some.inj ((congrArg Guard.holder granted).symm.trans held)
  exact ⟨after, State.jobs_setJob_self present, guards⟩

/-- The guard is given up, and nobody waits for it. -/
theorem released (orderly : Orderly state) (guard : next.guard = state.guard.release) :
    Orderly (next.setJob job after) := by
  have free : state.guard.release = {} := by
    simp [Guard.release, orderly.waiting]
  refine ⟨congrArg Guard.waiting (guard.trans free), fun held => ?_⟩
  cases (congrArg Guard.holder (guard.trans free)).symm.trans held

/-- **Every move keeps the invariant.** -/
theorem step (orderly : Orderly state) (alone : state.Alone id)
    (moved : Moves state move next effects) : Orderly next := by
  have still : next.jobs = state.jobs → next.guard = state.guard → Orderly next :=
    fun jobs guard => ⟨guard ▸ orderly.waiting, fun held => jobs ▸ orderly.holder (guard ▸ held)⟩
  cases moved with
  | @start job phase after middle effects present turn =>
      have mine := alone.eq_of_turn (.start present turn)
      cases turn
      case asked => exact orderly.requested alone present mine rfl rfl
      case entered => exact orderly.onward present rfl rfl fun _ => rfl
      case resolved => exact orderly.onward present rfl rfl fun _ => rfl
      case registered => exact orderly.onward present rfl rfl fun _ => rfl
      case sourceOpened => exact orderly.onward present rfl rfl fun _ => rfl
      case sinkOpened => exact orderly.onward present rfl rfl fun _ => rfl
      case sinkUnopened => exact orderly.onward present rfl rfl fun _ => rfl
      case discovered => exact orderly.onward present rfl rfl fun _ => rfl
      case undiscovered => exact orderly.onward present rfl rfl fun _ => rfl
      case installed => exact orderly.onward present rfl rfl fun _ => rfl
      case brokerRefused => exact orderly.onward present rfl rfl fun _ => rfl
      case sinkGivenUp => exact orderly.onward present rfl rfl fun _ => rfl
      all_goals exact orderly.released rfl
  | @stop job phase after middle effects present turn =>
      have mine := alone.eq_of_turn (.stop present turn)
      cases turn with
      | asked => exact orderly.requested alone present mine rfl rfl
      | idle _ _ => exact orderly.released rfl
      | entered _ _ => exact orderly.released rfl
      | _ => exact orderly.onward present rfl rfl (by rintro ⟨⟩)
  | attach present turn =>
      exact orderly.onward present turn.leavesBridge.jobs turn.leavesBridge.guard (by rintro ⟨⟩)
  | relay _ turn => exact still turn.leavesBridge.jobs turn.leavesBridge.guard
  | arrive =>
      refine ⟨orderly.waiting, fun held => ?_⟩
      obtain ⟨found, there, guards⟩ := orderly.holder held
      exact ⟨found, getElem?_concat_eq_some.mpr (.inl there), guards⟩
  | change =>
      have outside := change_leavesBridge state ‹Change›
      exact still outside.jobs outside.guard
  | _ => exact still rfl rfl

end Orderly

/-- Where calls come one at a time, the invariant holds after every history. -/
theorem History.orderly {first now : State} {past : List Occurrence}
    (history : History first past now) (unused : first.Unused) (sequential : Sequential past) :
    Orderly now := by
  induction history with
  | start => exact .of_unused unused
  | @move past now next move effects before step ih =>
      have earlier : Sequential past := fun occurrence among =>
        sequential occurrence (by simp [among])
      obtain ⟨id, alone⟩ := before.alone unused earlier
      exact (ih earlier).step alone (step_cases step)

/-! ## What a start has done so far -/

/-- Whether a start that fails in this way has registered its key. -/
def StartFailure.afterKey : StartFailure → Bool
  | .alreadyStarted | .servicePrincipal _ | .serviceCredential _ => false
  | _ => true

namespace StartPhase

/-- A start that has registered its key. -/
def hasKey : StartPhase → Bool
  | .arriving | .queued | .resolving | .registering _ => false
  | .done (.error failure) => failure.afterKey
  | _ => true

/-- A start that has found the bridge in no run and has not put it into one. -/
def isResting : StartPhase → Bool
  | .done (.error .alreadyStarted) => false
  | .done (.error _) => true
  | phase => phase.underWay

/-- A start that has not found the bridge at rest. -/
def isIdle : StartPhase → Bool
  | .arriving | .queued | .done (.error .alreadyStarted) => true
  | _ => false

/-- The failure for which a start is closing both connections. -/
def failure? : StartPhase → Option StartFailure
  | .releasingSink failure | .releasingSource failure => some failure
  | _ => none

end StartPhase

/-- A registered key is put under its name, and nothing else changes. -/
theorem Directory.register_eq_ok {directory registered : Directory} {key : ServiceCredential}
    (accepted : directory.register key = .ok registered) :
    registered.document = directory.document ∧ registered.keys =
      directory.keys.insert key.keyName.toText ⟨key.principal, key.secret, key.expiresAt⟩ := by
  unfold Directory.register at accepted
  split at accepted
  · cases accepted
  · cases accepted
    exact ⟨rfl, rfl⟩

section

variable {state next : State} {job : JobId} {phase after : StartPhase} {effects : List Effect}

/-- Both connections are closed only once the key has been registered. -/
theorem Starts.failing (turn : Starts state job phase after next effects)
    (failing : ∀ {failure}, phase.failure? = some failure → failure.afterKey = true)
    {failure : StartFailure} (fails : after.failure? = some failure) :
    failure.afterKey = true := by
  cases turn with
  | undiscovered =>
      cases fails
      rfl
  | brokerRefused _ =>
      cases fails
      rfl
  | sinkGivenUp =>
      cases fails
      exact failing rfl
  | _ => cases fails

/-- A start that goes on has found the bridge in no run and leaves it so until the end. -/
theorem Starts.resting (turn : Starts state job phase after next effects)
    (resting : phase.isResting = true → state.running = none) (rests : after.isResting = true) :
    next.running = none := by
  cases turn with
  | asked => cases rests
  | needless _ _ => cases rests
  | entered _ rest => exact rest
  | brokerStarted _ => cases rests
  | _ => exact resting rfl

/-- The one turn of a start that changes the directory is the one that registers its key. -/
theorem Starts.directory (turn : Starts state job phase after next effects)
    (failing : ∀ {failure}, phase.failure? = some failure → failure.afterKey = true) :
    (next.directory = state.directory ∧ after.hasKey = phase.hasKey) ∨
      ∃ principal, phase = .registering principal ∧ after.hasKey = true ∧
        state.directory.register (state.freshKey principal) = .ok next.directory := by
  cases turn with
  | registered accepted => exact .inr ⟨_, rfl, rfl, accepted⟩
  | allGivenUp => exact .inl ⟨rfl, failing rfl⟩
  | _ => exact .inl ⟨rfl, rfl⟩

/-- A start that has not found the bridge at rest has only asked for the guard of the bridge and
given it up. -/
theorem Starts.idle (turn : Starts state job phase after next effects)
    (failing : ∀ {failure}, phase.failure? = some failure → failure.afterKey = true)
    (idle : after.isIdle = true) :
    phase.isIdle = true ∧ effects = [] ∧ ∃ guard, next = { state with guard := guard } := by
  cases turn with
  | asked => exact ⟨rfl, rfl, _, rfl⟩
  | needless _ _ => exact ⟨rfl, rfl, _, rfl⟩
  | @allGivenUp failure =>
      have late : failure.afterKey = true := failing rfl
      cases failure with
      | alreadyStarted => cases late
      | _ => cases idle
  | _ => cases idle

/-- Whatever is not the turn of a call leaves the run of the bridge and the keys alone. -/
theorem Moves.leavesKeys {move : Move} (moved : Moves state move next effects)
    (noTurn : ∀ job, move ≠ .job job) :
    next.running = state.running ∧ next.directory.document = state.directory.document ∧
      next.directory.keys = state.directory.keys := by
  cases moved with
  | start _ _ => exact absurd rfl (noTurn _)
  | stop _ _ => exact absurd rfl (noTurn _)
  | attach _ _ => exact absurd rfl (noTurn _)
  | relay _ turn => cases turn <;> exact ⟨rfl, rfl, rfl⟩
  | @change change =>
      cases change with
      | switch fault on => cases fault <;> exact ⟨rfl, rfl, rfl⟩
      | setNames names =>
          simp only [State.change, State.rescript]
          split <;> exact ⟨rfl, rfl, rfl⟩
      | setPrincipal principal =>
          simp only [State.change, State.rescript]
          split <;> exact ⟨rfl, rfl, rfl⟩
      | _ => exact ⟨rfl, rfl, rfl⟩
  | _ => exact ⟨rfl, rfl, rfl⟩

end

namespace Occurrence

/-- A start has had the turn in which it registers its key. -/
def Registers (job : JobId) (key : ServiceCredential) (occurrence : Occurrence) : Prop :=
  occurrence.move = .job job ∧ ∃ principal,
    occurrence.before.jobs[job]? = some (.start (.registering principal)) ∧
      key = occurrence.before.freshKey principal

/-- A move has let others see nothing, and has changed nothing but who waits for the guard of the
bridge or has it, and how far a call has come. -/
structure OnlyGuards (occurrence : Occurrence) : Prop where
  silent : occurrence.effects = []
  same : occurrence.after = { occurrence.before with
    jobs := occurrence.after.jobs, guard := occurrence.after.guard }

end Occurrence

/-- How far a start has come that was called when all other calls had their answers, and what
there is of it in the directory. -/
structure Attempt (called : State) (meanwhile : List Occurrence) (now : State)
    (phase : StartPhase) : Prop where
  present : now.jobs[called.jobs.length]? = some (.start phase)
  alone : now.Alone called.jobs.length
  failing : ∀ {failure}, phase.failure? = some failure → failure.afterKey = true
  resting : phase.isResting = true → now.running = none
  idle : phase.isIdle = true → ∀ occurrence ∈ meanwhile,
    occurrence.move = .job called.jobs.length → occurrence.OnlyGuards
  document : now.directory.document = called.directory.document
  keyless : phase.hasKey = false → now.directory.keys = called.directory.keys
  keyed : phase.hasKey = true → ∃ key,
    (∃ occurrence ∈ meanwhile, occurrence.Registers called.jobs.length key) ∧
      now.directory.keys = called.directory.keys.insert key.keyName.toText
        ⟨key.principal, key.secret, key.expiresAt⟩

namespace Attempt

variable {called now next : State} {meanwhile : List Occurrence} {phase : StartPhase}
  {move : Move} {effects : List Effect}

theorem of_arrive (calm : called.Calm) : Attempt called [] (called.arrive .start) .arriving where
  present := by simp [State.arrive, Request.job]
  alone := calm.arrive .start
  failing := by rintro _ ⟨⟩
  resting := by rintro ⟨⟩
  idle := by simp
  document := rfl
  keyless := fun _ => rfl
  keyed := by rintro ⟨⟩

/-- The start has a turn. -/
theorem own (attempt : Attempt called meanwhile now phase)
    (moved : Moves now (.job called.jobs.length) next effects) :
    ∃ after, Attempt called (meanwhile ++ [⟨now, .job called.jobs.length, next, effects⟩]) next
      after := by
  obtain ⟨after, middle, turn, rfl⟩ := moved.of_start attempt.present
  refine ⟨after, State.jobs_setJob_self (turn.jobs ▸ attempt.present),
    attempt.alone.step moved (by simp), turn.failing attempt.failing,
    turn.resting attempt.resting, fun idle => ?_, ?_, fun hasKey => ?_, fun hasKey => ?_⟩
  · obtain ⟨wasIdle, silent, guard, rfl⟩ := turn.idle attempt.failing idle
    intro occurrence among mine
    rcases List.mem_append.mp among with earlier | last
    · exact attempt.idle wasIdle occurrence earlier mine
    · cases List.mem_singleton.mp last
      exact ⟨silent, rfl⟩
  · rcases turn.directory attempt.failing with ⟨same, _⟩ | ⟨_, _, _, accepted⟩
    · exact (congrArg Directory.document same).trans attempt.document
    · exact (Directory.register_eq_ok accepted).1.trans attempt.document
  · rcases turn.directory attempt.failing with ⟨same, sameKey⟩ | ⟨_, _, registered, _⟩
    · exact (congrArg Directory.keys same).trans (attempt.keyless (sameKey ▸ hasKey))
    · simp [registered] at hasKey
  · rcases turn.directory attempt.failing with ⟨same, sameKey⟩ | ⟨principal, rfl, _, accepted⟩
    · obtain ⟨key, ⟨occurrence, among, registers⟩, keys⟩ := attempt.keyed (sameKey ▸ hasKey)
      exact ⟨key, ⟨occurrence, by simp [among], registers⟩,
        (congrArg Directory.keys same).trans keys⟩
    · refine ⟨now.freshKey principal, ⟨_, List.mem_append_right _ (List.mem_singleton_self _),
        rfl, principal, attempt.present, rfl⟩, ?_⟩
      rw [← attempt.keyless rfl]
      exact (Directory.register_eq_ok accepted).2

/-- Something else happens, which is not the turn of a call. -/
theorem other (attempt : Attempt called meanwhile now phase)
    (moved : Moves now move next effects) (noTurn : ∀ job, move ≠ .job job)
    (noCall : ∀ request, move ≠ .arrive request) :
    Attempt called (meanwhile ++ [⟨now, move, next, effects⟩]) next phase := by
  obtain ⟨running, document, keys⟩ := moved.leavesKeys noTurn
  refine ⟨moved.jobs_of_ne attempt.present (noTurn _), attempt.alone.step moved noCall,
    attempt.failing, fun rests => running.trans (attempt.resting rests), fun idle => ?_,
    document.trans attempt.document, fun hasKey => keys.trans (attempt.keyless hasKey),
    fun hasKey => ?_⟩
  · intro occurrence among mine
    rcases List.mem_append.mp among with earlier | last
    · exact attempt.idle idle occurrence earlier mine
    · cases List.mem_singleton.mp last
      exact absurd mine (noTurn _)
  · obtain ⟨key, ⟨occurrence, among, registers⟩, inserted⟩ := attempt.keyed hasKey
    exact ⟨key, ⟨occurrence, by simp [among], registers⟩, keys.trans inserted⟩

/-- **Every move keeps the invariant**, with the start in some phase. -/
theorem step (attempt : Attempt called meanwhile now phase)
    (moved : Moves now move next effects) (noCall : ∀ request, move ≠ .arrive request) :
    ∃ after, Attempt called (meanwhile ++ [⟨now, move, next, effects⟩]) next after := by
  by_cases turns : ∃ job, move = .job job
  · obtain ⟨job, rfl⟩ := turns
    obtain rfl := attempt.alone.eq_of_turn moved
    exact attempt.own moved
  · exact ⟨phase, attempt.other moved (fun job same => turns ⟨job, same⟩) noCall⟩

/-- All calls have their answers once the start has its own. -/
theorem calm (attempt : Attempt called meanwhile now phase)
    (done : (Job.start phase).isDone = true) : now.Calm := by
  intro job found present
  by_cases mine : job = called.jobs.length
  · subst mine
    cases attempt.present.symm.trans present
    exact done
  · exact attempt.alone _ _ present mine

end Attempt

/-- A start that was called when all other calls had their answers, after every history in which
no other call comes. -/
theorem History.attempt {called now : State} {meanwhile : List Occurrence}
    (starting : History (called.arrive .start) meanwhile now) (calm : called.Calm)
    (noCall : ∀ occurrence ∈ meanwhile, ∀ request, occurrence.move ≠ .arrive request) :
    ∃ phase, Attempt called meanwhile now phase := by
  induction starting with
  | start => exact ⟨.arriving, .of_arrive calm⟩
  | @move meanwhile now next move effects before step ih =>
      obtain ⟨phase, attempt⟩ := ih fun occurrence among => noCall occurrence (by simp [among])
      exact attempt.step (step_cases step) (noCall ⟨now, move, next, effects⟩ (by simp))

/-! ## Nothing in service -/

/-- The bridge is in no run, nothing is in service, and nothing is left of any run. -/
structure State.OutOfService (state : State) : Prop where
  resting : state.running = none
  broker : state.broker.isStarted = false
  sink : state.downstream.isOpen = false
  source : state.upstream.isOpen = false
  dead : ∀ {run}, run < state.runs.length → state.Dead run
  ended : ∀ {relay : RelayId} {found : Relay}, state.relays[relay]? = some found →
    found.phase = .ended
  producers : state.downstream.producers = []
  advertised : ∀ scope, state.advertisedTopics scope = []

/-- A start has installed the hooks of a run. -/
def Occurrence.Installs (run : RunId) (occurrence : Occurrence) : Prop :=
  ∃ job, occurrence.move = .job job ∧
    occurrence.before.jobs[job]? = some (.start (.installing run))

namespace History

variable {first middle called now : State} {past later meanwhile : List Occurrence}

/-- **While the bridge is idle nothing is in service**, if no run was abandoned. -/
theorem outOfService (history : History first past now) (unused : first.Unused) (idle : now.Idle)
    (kept : ∀ occurrence ∈ past, ∀ run, ¬occurrence.Abandons run) : now.OutOfService := by
  have dead : ∀ {run}, run < now.runs.length → now.Dead run :=
    fun bound => history.dead_of_idle unused idle kept bound
  obtain ⟨broker, sink, source⟩ :=
    (history.connectivity unused).outOfService idle.resting idle.closed
  refine ⟨idle.resting, broker, sink, source, dead, fun {relay found} present => ?_,
    history.producers_eq_nil unused idle kept, fun scope => ?_⟩
  · obtain ⟨slot, there, _⟩ := (history.ownership unused).placed ⟨found, present, rfl, rfl⟩
    exact ((dead (State.slot?_eq_some_lt there)).settled _).ended present rfl rfl
  · simp [State.advertisedTopics, State.runningRun?, idle.resting]

/-- A run is still there later. -/
theorem run_lt (rest : History middle later now) {run : RunId}
    (bound : run < middle.runs.length) : run < now.runs.length := by
  obtain ⟨found, present⟩ := Option.isSome_iff_exists.mp (State.run?_isSome_iff.mpr bound)
  have table : middle.table? run = some found.table := by simp [State.table?, present]
  obtain ⟨there, kept, _⟩ := Option.map_eq_some_iff.mp (rest.table? table)
  exact State.run?_isSome_iff.mp (by simp [kept])

/-- Hooks are installed for runs that have been set up. -/
theorem installs_lt (history : History first past now) (unused : first.Unused)
    {occurrence : Occurrence} (among : occurrence ∈ past) {run : RunId}
    (installs : occurrence.Installs run) : run < now.runs.length := by
  obtain ⟨job, _, present⟩ := installs
  obtain ⟨earlier, later, rfl⟩ := List.append_of_mem among
  obtain ⟨before, step, rest⟩ := history.occurrence
  have accepts := (before.lifecycle unused).settingUp ⟨_, present, rfl⟩
  exact ((History.single step).append rest).run_lt (State.accepting?_eq_some_lt accepts)

/-- Where nobody has changed anything but guards, the state is the same up to them. -/
theorem onlyGuards (rest : History middle later now)
    (idle : ∀ occurrence ∈ later, occurrence.OnlyGuards) :
    now = { middle with jobs := now.jobs, guard := now.guard } := by
  induction rest with
  | start => rfl
  | @move later now next move effects before step ih =>
      have same := ih fun occurrence among => idle occurrence (by simp [among])
      have last := (idle ⟨now, move, next, effects⟩ (by simp)).same
      exact last.trans (congrArg (fun state : State =>
        { state with jobs := next.jobs, guard := next.guard }) same)

/-- **A start that has failed leaves nothing in service.**  Calls come one at a time, and the start
comes when all calls before it have their answers; whatever else has happened before and happens
meanwhile, at whatever point the start fails.  Then the bridge is in no run, broker and connections
are out of service, all relays have ended, no producer is open, no topic is advertised, and all
runs that hooks were ever installed for are dead: whatever happens later, calls that are attached
to them do nothing, and all this stays so until the bridge is started again.  The directory has got
one more key than before, the one that the start has registered, or none if it failed before that.

A start that is refused because the bridge is running has changed nothing at all. -/
theorem failed_start {failure : StartFailure} (history : History first past called)
    (unused : first.Unused) (sequential : Sequential past) (calm : called.Calm)
    (starting : History (called.arrive .start) meanwhile now)
    (noCall : ∀ occurrence ∈ meanwhile, ∀ request, occurrence.move ≠ .arrive request)
    (failed : now.jobs[called.jobs.length]? = some (.start (.done (.error failure)))) :
    (failure ≠ .alreadyStarted →
      now.OutOfService ∧
      (∀ occurrence ∈ past ++ meanwhile, ∀ run, occurrence.Installs run →
        run < now.runs.length) ∧
      (∀ {later : List Occurrence} {last : State}, History now later last →
        (∀ run < now.runs.length, last.Dead run ∧
          ∀ occurrence ∈ later, occurrence.IsAttach run → occurrence.IsHarmless) ∧
        ((∀ occurrence ∈ later, occurrence.move ≠ .arrive .start) → last.OutOfService ∧
          ∀ occurrence ∈ later, occurrence.effects.any Effect.isRequest = false)) ∧
      now.directory.document = called.directory.document ∧
      (failure.afterKey = false → now.directory.keys = called.directory.keys) ∧
      (failure.afterKey = true → ∃ key,
        (∃ occurrence ∈ meanwhile, occurrence.Registers called.jobs.length key) ∧
          now.directory.keys = called.directory.keys.insert key.keyName.toText
            ⟨key.principal, key.secret, key.expiresAt⟩)) ∧
    (failure = .alreadyStarted →
      now.guard = called.guard ∧
      (∀ occurrence ∈ meanwhile, occurrence.move = .job called.jobs.length →
        occurrence.OnlyGuards) ∧
      ((∀ occurrence ∈ meanwhile, occurrence.move = .job called.jobs.length) →
        now = { called with jobs := now.jobs })) := by
  have arrives : called.step (.arrive .start) = some (called.arrive .start, []) := rfl
  have whole := (history.move arrives).append starting
  have ordered : Sequential
      (past ++ [⟨called, .arrive .start, called.arrive .start, []⟩] ++ meanwhile) := by
    intro occurrence among request call
    rcases List.mem_append.mp among with before | amid
    · rcases List.mem_append.mp before with earlier | arrival
      · exact sequential occurrence earlier request call
      · cases List.mem_singleton.mp arrival
        exact calm
    · exact absurd call (noCall occurrence amid request)
  have kept := whole.not_abandons unused (whole.timely unused ordered)
  obtain ⟨phase, attempt⟩ := starting.attempt calm noCall
  cases attempt.present.symm.trans failed
  have answered : now.Calm := attempt.calm rfl
  constructor
  · intro other
    have resting : now.running = none :=
      attempt.resting (by cases failure <;> first | rfl | exact absurd rfl other)
    have idle := answered.idle resting
    have out := whole.outOfService unused idle kept
    have installed : ∀ occurrence ∈ past ++ meanwhile, ∀ run, occurrence.Installs run →
        run < now.runs.length := by
      intro occurrence among run installs
      refine whole.installs_lt unused ?_ installs
      exact (List.mem_append.mp among).elim (fun before => by simp [before])
        fun amid => by simp [amid]
    refine ⟨out, installed, fun {later last} rest =>
      ⟨fun run bound => rest.dead_and_harmless (out.dead bound), fun noStart => ?_⟩,
      attempt.document, attempt.keyless, attempt.keyed⟩
    obtain ⟨_, still⟩ := rest.halted (P := State.Idle) idle.toHalted noStart idle
      fun _ was moved calm => was.step moved calm
    refine ⟨(whole.append rest).outOfService unused still fun occurrence among => ?_,
      whole.silent unused idle.toHalted rest noStart⟩
    rcases List.mem_append.mp among with before | after
    · exact kept occurrence before
    · exact (rest.noStart idle.noStart noStart).2 occurrence after
  · rintro rfl
    have guard : now.guard = called.guard :=
      ((whole.orderly unused ordered).guard_eq answered).trans
        ((history.orderly unused sequential).guard_eq calm).symm
    refine ⟨guard, attempt.idle rfl, fun alone => ?_⟩
    have same := starting.onlyGuards fun occurrence among =>
      attempt.idle rfl occurrence among (alone occurrence among)
    rw [guard] at same
    exact same

end History

/-- The failure that a start has been answered with. -/
def Job.failure? : Job → Option StartFailure
  | .start (.done (.error failure)) => some failure
  | _ => none

theorem Job.failure?_eq_some_iff {job : Job} {failure : StartFailure} :
    job.failure? = some failure ↔ job = .start (.done (.error failure)) := by
  unfold Job.failure?
  split <;> simp_all

/-- A bridge has been started, has had a subscriber and has been stopped; the broker does not start
again.  The second start fails when its run has been set up and its hooks are installed, and leaves
a second key.  And a bridge that is running refuses to be started again. -/
theorem second_start_fails :
    (∃ past called meanwhile now failure,
      History (State.scripted ["CWMS_20.SPK_A"]) past called ∧
        History (called.arrive .start) meanwhile now ∧
          now.jobs[called.jobs.length]? = some (.start (.done (.error (.broker failure)))) ∧
            now.runs.length = 2 ∧ now.relays.length = 1 ∧ now.OutOfService ∧
              called.directory.keys.length = 1 ∧ now.directory.keys.length = 2 ∧
                ∃ key, (∃ occurrence ∈ meanwhile, occurrence.Registers called.jobs.length key) ∧
                  now.directory.keys = called.directory.keys.insert key.keyName.toText
                    ⟨key.principal, key.secret, key.expiresAt⟩) ∧
      ∃ past called meanwhile now,
        History (State.scripted ["CWMS_20.SPK_A"]) past called ∧
          History (called.arrive .start) meanwhile now ∧
            now.jobs[called.jobs.length]? = some (.start (.done (.error .alreadyStarted))) ∧
              called.running = some 0 ∧ now = { called with jobs := now.jobs } := by
  constructor
  · obtain ⟨past, called, history, checked⟩ :=
      History.exists_of_record (State.scripted ["CWMS_20.SPK_A"])
        (startMoves 0 ++ .arrive (.attach "CDA.SPK.ALL") :: List.replicate 9 (.job 1) ++
          .arrive .stop :: List.replicate 5 (.job 2) ++ List.replicate 5 (.relay 0 true) ++
            List.replicate 4 (.job 2) ++
              [.change (.switch .brokerStart true), .change (.setNow ⟨1, 0⟩)])
        (fun past called => past.all Occurrence.isOrdered && called.jobs.all Job.isDone &&
          called.directory.keys.length == 1 &&
            ((called.arrive .start).record (List.replicate 11 (.job 3))).any fun reached =>
              (reached.2.jobs[called.jobs.length]?.bind Job.failure?).any (fun failure =>
                failure == .broker ⟨"acceptor port already in use"⟩) &&
              reached.2.runs.length == 2 && reached.2.relays.length == 1 &&
                reached.2.directory.keys.length == 2) rfl
    simp only [Bool.and_eq_true, beq_iff_eq, Option.any_eq_true, Option.bind_eq_some_iff,
      Job.failure?_eq_some_iff] at checked
    obtain ⟨⟨⟨sequential, calm⟩, before⟩, ⟨meanwhile, now⟩, recorded,
      ⟨⟨⟨_, ⟨_, failed, rfl⟩, rfl⟩, runs⟩, relays⟩, keys⟩ := checked
    obtain ⟨left, _⟩ := history.failed_start (State.scripted_unused _)
      (sequential_iff_all.mpr sequential) (State.calm_iff_all.mpr calm) (.of_record recorded)
      (fun occurrence among request arrives => by
        simpa [arrives] using move_mem_of_record recorded among) failed
    obtain ⟨out, _, _, _, _, added⟩ := left (by simp)
    exact ⟨past, called, meanwhile, now, _, history, .of_record recorded, failed, runs, relays, out,
      before, keys, added rfl⟩
  · obtain ⟨past, called, history, checked⟩ :=
      History.exists_of_record (State.scripted ["CWMS_20.SPK_A"]) (startMoves 0)
        (fun past called => past.all Occurrence.isOrdered && called.jobs.all Job.isDone &&
          called.running == some 0 &&
            ((called.arrive .start).record [.job called.jobs.length, .job called.jobs.length]).any
              fun reached => (reached.2.jobs[called.jobs.length]?.bind Job.failure?).any
                (fun failure => failure == .alreadyStarted)) rfl
    simp only [Bool.and_eq_true, beq_iff_eq, Option.any_eq_true, Option.bind_eq_some_iff,
      Job.failure?_eq_some_iff] at checked
    obtain ⟨⟨⟨sequential, calm⟩, running⟩, ⟨meanwhile, now⟩, recorded, _, ⟨_, failed, rfl⟩, rfl⟩ :=
      checked
    obtain ⟨_, refused⟩ := history.failed_start (State.scripted_unused _)
      (sequential_iff_all.mpr sequential) (State.calm_iff_all.mpr calm) (.of_record recorded)
      (fun occurrence among request arrives => by
        simpa [arrives] using move_mem_of_record recorded among) failed
    obtain ⟨_, _, same⟩ := refused rfl
    exact ⟨past, called, meanwhile, now, history, .of_record recorded, failed, running,
      same fun occurrence among => by simpa using move_mem_of_record recorded among⟩

end TopicRelay
