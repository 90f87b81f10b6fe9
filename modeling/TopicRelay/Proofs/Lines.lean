import TopicRelay.Proofs.AtMostOnce

/-!
# The lines at the guards

Every guard has a line: its holder, and behind the holder the calls that wait for it.  A call
stands in at most one line, which can be read off its phase (`Job.post?`): it joins the line when
it asks for the guard, and leaves it from the front when it gives the guard up.

`Lines` says that the lines consist of the calls that stand in them, each of them once, and that
nobody waits for a guard that is free.  So a call that stands in no line is in nobody's way, and a
call that waits has another call in front of it that holds the guard.
-/

namespace TopicRelay

set_option autoImplicit false

/-! ## Guards and their lines -/

/-- A guard that calls ask for: that of the bridge, or that of a route of a run. -/
inductive Post where
  | bridge
  | route (run : RunId) (place : Place)
  deriving DecidableEq, Repr

namespace Guard

variable {guard : Guard} {job id : JobId}

/-- The holder of a guard and the calls that wait for it, in the order in which they asked. -/
def line (guard : Guard) : List JobId := guard.holder.toList ++ guard.waiting

/-- Nobody waits for a guard that nobody holds. -/
def Granted (guard : Guard) : Prop := guard.holder = none → guard.waiting = []

theorem line_request (granted : guard.Granted) : (guard.request job).line = guard.line ++ [job] := by
  cases held : guard.holder with
  | none => simp [request, line, held, granted held]
  | some holder => simp [request, line, held]

theorem line_release : guard.release.line = guard.waiting := by
  unfold release
  split <;> simp_all [line]

theorem Granted.request : (guard.request job).Granted := by
  intro free
  cases held : guard.holder <;> simp [Guard.request, held] at free

theorem Granted.release : guard.release.Granted := by
  intro free
  unfold Guard.release at free ⊢
  split <;> simp_all

/-- The line of a guard that is held begins with its holder. -/
theorem line_of_held (held : guard.holder = some job) : guard.line = job :: guard.waiting := by
  simp [line, held]

end Guard

namespace State

variable {state next : State} {run other : RunId} {place spot : Place}

/-- The guard at a post. -/
def guardAt? (state : State) : Post → Option Guard
  | .bridge => some state.guard
  | .route run place => (state.slot? run place).map (·.guard)

theorem guardAt?_congr (guard : next.guard = state.guard) (runs : next.runs = state.runs)
    (post : Post) : next.guardAt? post = state.guardAt? post := by
  cases post with
  | bridge => exact congrArg some guard
  | route run place => exact congrArg (Option.map _) (slot?_congr runs)

/-- A slot is changed: its guard is changed along with it, and no other. -/
theorem guardAt?_modifySlot {change : RouteSlot → RouteSlot} (turn : Guard → Guard)
    (turns : ∀ slot, (change slot).guard = turn slot.guard) (post : Post) :
    (state.modifySlot run place change).guardAt? post =
      if post = .route run place then (state.guardAt? post).map turn else state.guardAt? post := by
  cases post with
  | bridge => rfl
  | route there spot =>
      simp only [guardAt?, slot?_modifySlot, Option.map_map, Post.route.injEq]
      cases state.slot? there spot with
      | none => simp
      | some slot =>
          by_cases same : run = there ∧ place = spot
          · simp [same, turns]
          · have apart : ¬(there = run ∧ spot = place) := fun ⟨left, right⟩ =>
              same ⟨left.symm, right.symm⟩
            simp [same, apart]

/-- The guards where that of one post has been changed. -/
theorem exists_of_guardAt? {post other : Post} {turn : Guard → Guard} {guard : Guard}
    (guards : ∀ other, next.guardAt? other =
      if other = post then (state.guardAt? other).map turn else state.guardAt? other)
    (found : next.guardAt? other = some guard) :
    ∃ old, state.guardAt? other = some old ∧ guard = if other = post then turn old else old := by
  rw [guards] at found
  split at found
  · next here =>
      obtain ⟨old, there, rfl⟩ := Option.map_eq_some_iff.mp found
      exact ⟨old, there, (if_pos here).symm⟩
  · next elsewhere => exact ⟨guard, found, (if_neg elsewhere).symm⟩

end State

/-! ## Where calls stand -/

/-- The guard that a call has asked for and has not given up since. -/
def Job.post? : Job → Option Post
  | .start .arriving | .start (.done _) => none
  | .start _ => some .bridge
  | .stop .queued => some .bridge
  | .stop (.claiming run place _) => some (.route run place)
  | .stop _ => none
  | .attach _ (.activating run phase) => phase.place?.map fun place => .route run place
  | .attach _ _ => none

/-- The guard in whose line a call stands. -/
def State.postOf? (state : State) (id : JobId) : Option Post := state.jobs[id]?.bind Job.post?

theorem State.postOf?_of_some {state : State} {id : JobId} {found : Job}
    (present : state.jobs[id]? = some found) : state.postOf? id = found.post? := by
  simp [postOf?, present]

theorem State.postOf?_setJob {state : State} {job id : JobId} {before after : Job}
    (present : state.jobs[job]? = some before) :
    (state.setJob job after).postOf? id = if id = job then after.post? else state.postOf? id := by
  by_cases same : id = job
  · subst same
    rw [if_pos rfl, postOf?_of_some (jobs_setJob_self present)]
  · rw [if_neg same, postOf?, jobs_setJob_of_ne same, postOf?]

theorem Request.post?_job (request : Request) : request.job.post? = none := by
  cases request <;> rfl

/-! ## What a turn does to the lines -/

/-- How a turn changes the guards and the place of its job in their lines. -/
inductive Steps (state next : State) (job : JobId) : Option Post → Option Post → Prop where
  /-- All guards are as they were, except that those of a new run are there as well. -/
  | aside {post : Option Post}
      (same : ∀ post guard, next.guardAt? post = some guard → state.guardAt? post = some guard ∨
        guard = {} ∧ ∃ place, post = .route state.runs.length place) :
      Steps state next job post post
  | behind {post : Post}
      (guards : ∀ other, next.guardAt? other =
        if other = post then (state.guardAt? other).map (·.request job) else state.guardAt? other) :
      Steps state next job none (some post)
  | away {post : Post}
      (held : ∀ guard, state.guardAt? post = some guard → guard.holder = some job)
      (guards : ∀ other, next.guardAt? other =
        if other = post then (state.guardAt? other).map (·.release) else state.guardAt? other) :
      Steps state next job (some post) none

namespace Steps

variable {state middle next : State} {job : JobId} {run : RunId} {place : Place}
  {before after : Option Post}

theorem of_guards (same : ∀ post, next.guardAt? post = state.guardAt? post) :
    Steps state next job before before :=
  .aside fun post _ found => .inl ((same post).symm.trans found)

theorem of_runs (guard : next.guard = state.guard) (runs : next.runs = state.runs) :
    Steps state next job before before :=
  of_guards (State.guardAt?_congr guard runs)

/-- A slot is changed, but not its guard. -/
theorem of_modifySlot {change : RouteSlot → RouteSlot}
    (keeps : ∀ slot, (change slot).guard = slot.guard) :
    Steps state (state.modifySlot run place change) job before before := by
  apply of_guards
  intro post
  refine (State.guardAt?_modifySlot id keeps post).trans ?_
  simp

/-- A job asks for the guard of a route. -/
theorem of_requestSlot :
    Steps state (state.requestSlot run place job) job none (some (.route run place)) :=
  .behind (State.guardAt?_modifySlot (·.request job) fun _ => rfl)

/-- A slot is changed by the holder of its guard, who gives the guard up. -/
theorem of_release {change : RouteSlot → RouteSlot} {slot : RouteSlot}
    (runs : middle.runs = state.runs) (guard : middle.guard = state.guard)
    (found : state.slot? run place = some slot) (held : slot.guard.holder = some job)
    (gives : ∀ slot, (change slot).guard = slot.guard.release) :
    Steps state (middle.modifySlot run place change) job (some (.route run place)) none := by
  refine .away ?_ fun other => ?_
  · intro guard there
    simp only [State.guardAt?, found, Option.map_some, Option.some.injEq] at there
    exact there ▸ held
  · rw [State.guardAt?_modifySlot Guard.release gives, State.guardAt?_congr guard runs]

/-- A job asks for the guard of the bridge. -/
theorem of_request :
    Steps state { state with guard := state.guard.request job } job none (some .bridge) := by
  refine .behind fun other => ?_
  cases other <;> rfl

/-- The holder of the guard of the bridge gives it up. -/
theorem of_releaseGuard (runs : middle.runs = state.runs) (guard : middle.guard = state.guard)
    (held : state.guard.holder = some job) :
    Steps state middle.releaseGuard job (some .bridge) none := by
  refine .away ?_ fun other => ?_
  · rintro _ ⟨⟩
    exact held
  · cases other with
    | bridge => simp [State.guardAt?, State.releaseGuard, guard]
    | route there spot =>
        exact congrArg (Option.map _) (State.slot?_congr runs)

/-- What follows a turn leaves the guards alone. -/
theorem congr (steps : Steps state middle job before after)
    (same : ∀ post, next.guardAt? post = middle.guardAt? post) :
    Steps state next job before after := by
  cases steps with
  | aside kept => exact .aside fun post guard found => kept post guard ((same post).symm.trans found)
  | behind guards => exact .behind fun other => (same other).trans (guards other)
  | away held guards => exact .away held fun other => (same other).trans (guards other)

end Steps

section

variable {state next : State} {job : JobId} {effects : List Effect}

theorem Activates.steps {run : RunId} {topic : String} {phase : ActivationPhase}
    {advance : Advance ActivationPhase (Except ActivationFailure Unit)} (own : Ownership state)
    (present : state.jobs[job]? = some (.attach topic (.activating run phase)))
    (turn : Activates state job run topic phase advance next effects) :
    Steps state next job (Job.attach topic (.activating run phase)).post?
      (Job.attach topic (State.attachAfter run advance)).post? := by
  cases turn with
  | asked _ _ => exact .of_requestSlot
  | needless _ found held _ => exact .of_release rfl rfl found held fun _ => rfl
  | refused _ found held _ _ => exact .of_release rfl rfl found held fun _ => rfl
  | unconnected _ _ =>
      obtain ⟨slot, found, held, _⟩ := own.claimed ⟨_, present, rfl⟩
      exact .of_release rfl rfl found held fun _ => rfl
  | spawned _ =>
      obtain ⟨slot, found, held, _⟩ := own.claimed ⟨_, present, rfl⟩
      exact .of_release rfl rfl found held fun _ => rfl
  | consumerUndone _ =>
      obtain ⟨slot, found, held, _⟩ := own.claimed ⟨_, present, rfl⟩
      exact .of_release rfl rfl found held fun _ => rfl
  | _ => exact .of_runs rfl rfl

theorem Attaches.steps {topic : String} {phase after : AttachPhase} (own : Ownership state)
    (present : state.jobs[job]? = some (.attach topic phase))
    (turn : Attaches state job topic phase after next effects) :
    Steps state next job (Job.attach topic phase).post? (Job.attach topic after).post? := by
  cases turn with
  | activated turn => exact turn.steps own present
  | _ => exact .of_runs rfl rfl

theorem Stops.steps {phase after : StopPhase} (turn : Stops state job phase after next effects) :
    Steps state next job (Job.stop phase).post? (Job.stop after).post? := by
  cases turn with
  | asked => exact .of_request
  | idle held _ => exact .of_releaseGuard rfl rfl held
  | @entered run held _ =>
      have released : Steps state { state with running := none }.releaseGuard job
          (some .bridge) none := .of_releaseGuard rfl rfl held
      refine released.congr fun post => ?_
      cases post with
      | bridge => rfl
      | route there spot => exact congrArg (Option.map _) State.slot?_refuse
  | routeAsked => exact .of_requestSlot
  | routeIdle found held _ => exact .of_release rfl rfl found held fun _ => rfl
  | routeClaimed found held _ =>
      have released : Steps state (state.modifySlot _ _ fun slot =>
          { slot with relay := none, guard := slot.guard.release }) job _ none :=
        .of_release rfl rfl found held fun _ => rfl
      exact released.congr fun post => State.guardAt?_congr rfl rfl post
  | routeStopped _ => exact .of_modifySlot fun _ => rfl
  | _ => exact .of_runs rfl rfl

theorem Starts.steps {phase after : StartPhase} (life : Lifecycle state)
    (present : state.jobs[job]? = some (.start phase))
    (turn : Starts state job phase after next effects) :
    Steps state next job (Job.start phase).post? (Job.start after).post? := by
  have inCharge : phase.underWay = true → state.guard.holder = some job :=
    fun underWay => life.inCharge ⟨phase, present, underWay⟩
  cases turn with
  | asked => exact .of_request
  | needless held _ => exact .of_releaseGuard rfl rfl held
  | unresolved => exact .of_releaseGuard rfl rfl (inCharge rfl)
  | unregistered => exact .of_releaseGuard rfl rfl (inCharge rfl)
  | sourceUnopened => exact .of_releaseGuard rfl rfl (inCharge rfl)
  | sourceGivenUp => exact .of_releaseGuard rfl rfl (inCharge rfl)
  | brokerStarted _ => exact .of_releaseGuard rfl rfl (inCharge rfl)
  | allGivenUp => exact .of_releaseGuard rfl rfl (inCharge rfl)
  | @discovered principal names reports listed =>
      refine .aside fun post guard found => ?_
      cases post with
      | bridge => exact .inl found
      | route there spot =>
          obtain ⟨slot, inSlot, rfl⟩ := Option.map_eq_some_iff.mp found
          by_cases new : there = state.runs.length
          · subst new
            obtain ⟨added, same, atPlace⟩ := State.slot?_eq_some_iff.mp inSlot
            rw [State.run?_addRun, if_pos rfl, Option.some.injEq] at same
            subst same
            simp only [Run.fresh, List.getElem?_map, Option.map_eq_some_iff] at atPlace
            obtain ⟨_, _, rfl⟩ := atPlace
            exact .inr ⟨rfl, spot, rfl⟩
          · left
            simpa [State.guardAt?, State.slot?, State.run?_addRun, new] using found
  | brokerRefused _ =>
      apply Steps.of_guards
      intro post
      cases post with
      | bridge => rfl
      | route there spot => exact congrArg (Option.map _) State.slot?_refuse
  | _ => exact .of_runs rfl rfl

end

/-! ## The invariant -/

/-- The lines consist of the calls that stand in them. -/
structure Lines (state : State) : Prop where
  members : ∀ {post guard id}, state.guardAt? post = some guard →
    (id ∈ guard.line ↔ state.postOf? id = some post)
  nodup : ∀ {post guard}, state.guardAt? post = some guard → guard.line.Nodup
  granted : ∀ {post guard}, state.guardAt? post = some guard → guard.Granted
  /-- Nobody stands at a route of a run that has not been set up yet. -/
  known : ∀ {id run place}, state.postOf? id = some (.route run place) →
    ∃ table, state.table? run = some table

namespace Lines

variable {state middle next : State} {job : JobId} {effects : List Effect}

theorem of_unused (unused : state.Unused) : Lines state := by
  have nobody : ∀ {id}, state.postOf? id = none := by simp [State.postOf?, unused.jobs]
  have empty : ∀ {post guard}, state.guardAt? post = some guard → guard = {} := by
    intro post guard found
    cases post with
    | bridge => exact (Option.some.inj found).symm.trans unused.guard
    | route run place => simp [State.guardAt?, State.slot?, State.run?, unused.runs] at found
  exact {
    members := fun found => by simp [empty found, nobody, Guard.line]
    nodup := fun found => by simp [empty found, Guard.line]
    granted := fun found _ => by simp [empty found]
    known := fun stands => by simp [nobody] at stands }

/-- A move that leaves the guards and the calls alone, but for calls that stand nowhere. -/
theorem keep (lines : Lines state) (guards : ∀ post, next.guardAt? post = state.guardAt? post)
    (posts : ∀ id, next.postOf? id = state.postOf? id)
    (tables : ∀ {run table}, state.table? run = some table → next.table? run = some table) :
    Lines next where
  members := fun found => by rw [posts]; exact lines.members ((guards _).symm.trans found)
  nodup := fun found => lines.nodup ((guards _).symm.trans found)
  granted := fun found => lines.granted ((guards _).symm.trans found)
  known := by
    intro id run place stands
    obtain ⟨table, found⟩ := lines.known ((posts id).symm.trans stands)
    exact ⟨table, tables found⟩

/-- A job has had a turn that leaves it where it stood. -/
theorem aside {post : Option Post} (lines : Lines state)
    (same : ∀ post guard, next.guardAt? post = some guard → state.guardAt? post = some guard ∨
      guard = {} ∧ ∃ place, post = .route state.runs.length place)
    (own : state.postOf? job = post)
    (posts : ∀ id, next.postOf? id = if id = job then post else state.postOf? id)
    (known : ∀ {id run place}, next.postOf? id = some (.route run place) →
      ∃ table, next.table? run = some table) : Lines next := by
  have still : ∀ id, next.postOf? id = state.postOf? id := by
    intro id
    rw [posts]
    split
    · next mine => rw [mine, own]
    · rfl
  have kept : ∀ {post guard}, next.guardAt? post = some guard →
      state.guardAt? post = some guard ∨ guard = {} ∧ ∀ id, state.postOf? id ≠ some post := by
    intro post guard found
    refine (same post guard found).imp id ?_
    rintro ⟨rfl, place, rfl⟩
    refine ⟨rfl, fun id stands => ?_⟩
    obtain ⟨table, found⟩ := lines.known stands
    simp [State.table?, State.run?] at found
  refine { members := ?_, nodup := ?_, granted := ?_, known := known }
  · intro post guard id found
    rw [still]
    rcases kept found with old | ⟨rfl, nobody⟩
    · exact lines.members old
    · simp [Guard.line, nobody]
  · intro post guard found
    rcases kept found with old | ⟨rfl, _⟩
    · exact lines.nodup old
    · simp [Guard.line]
  · intro post guard found
    rcases kept found with old | ⟨rfl, _⟩
    · exact lines.granted old
    · exact fun _ => rfl

/-- A job has had a turn in which it has joined a line. -/
theorem behind {post : Post} (lines : Lines state)
    (guards : ∀ other, next.guardAt? other =
      if other = post then (state.guardAt? other).map (·.request job) else state.guardAt? other)
    (own : state.postOf? job = none)
    (posts : ∀ id, next.postOf? id = if id = job then some post else state.postOf? id)
    (known : ∀ {id run place}, next.postOf? id = some (.route run place) →
      ∃ table, next.table? run = some table) : Lines next := by
  refine { members := ?_, nodup := ?_, granted := ?_, known := known }
  · intro other guard id found
    obtain ⟨old, there, rfl⟩ := State.exists_of_guardAt? guards found
    have member : id ∈ old.line ↔ state.postOf? id = some other := lines.members there
    rw [posts]
    by_cases mine : id = job
    · rw [mine, own] at member
      by_cases here : other = post
      · simp [mine, here, Guard.line_request (lines.granted there)]
      · have elsewhere : ¬(some post = some other) := fun same =>
          here (Option.some.inj same).symm
        simpa [mine, here, elsewhere] using member
    · by_cases here : other = post
      · simpa [mine, here, Guard.line_request (lines.granted there)] using member
      · simpa [mine, here] using member
  · intro other guard found
    obtain ⟨old, there, rfl⟩ := State.exists_of_guardAt? guards found
    have absent : job ∉ old.line := fun among => by
      simpa [own] using (lines.members there).mp among
    split
    · rw [Guard.line_request (lines.granted there), List.nodup_append]
      refine ⟨lines.nodup there, by simp, ?_⟩
      intro id among last only same
      rw [List.mem_singleton.mp only] at same
      exact absent (same ▸ among)
    · exact lines.nodup there
  · intro other guard found
    obtain ⟨old, there, rfl⟩ := State.exists_of_guardAt? guards found
    split
    · exact Guard.Granted.request
    · exact lines.granted there

/-- A job has had a turn in which it has left the front of a line. -/
theorem away {post : Post} (lines : Lines state)
    (held : ∀ guard, state.guardAt? post = some guard → guard.holder = some job)
    (guards : ∀ other, next.guardAt? other =
      if other = post then (state.guardAt? other).map (·.release) else state.guardAt? other)
    (own : state.postOf? job = some post)
    (posts : ∀ id, next.postOf? id = if id = job then none else state.postOf? id)
    (known : ∀ {id run place}, next.postOf? id = some (.route run place) →
      ∃ table, next.table? run = some table) : Lines next := by
  refine { members := ?_, nodup := ?_, granted := ?_, known := known }
  · intro other guard id found
    obtain ⟨old, there, rfl⟩ := State.exists_of_guardAt? guards found
    have member : id ∈ old.line ↔ state.postOf? id = some other := lines.members there
    have distinct := lines.nodup there
    rw [posts]
    by_cases here : other = post
    · subst here
      rw [Guard.line_of_held (held old there)] at member distinct
      rw [if_pos rfl, Guard.line_release]
      by_cases mine : id = job
      · subst mine
        simpa using (List.nodup_cons.mp distinct).1
      · simpa [mine] using member
    · rw [if_neg here]
      by_cases mine : id = job
      · rw [mine, own] at member
        have elsewhere : ¬(some post = some other) := fun same => here (Option.some.inj same).symm
        simpa [mine, elsewhere] using member
      · simpa [mine] using member
  · intro other guard found
    obtain ⟨old, there, rfl⟩ := State.exists_of_guardAt? guards found
    have distinct := lines.nodup there
    split
    · next here =>
        subst here
        rw [Guard.line_of_held (held old there)] at distinct
        rw [Guard.line_release]
        exact (List.nodup_cons.mp distinct).2
    · exact distinct
  · intro other guard found
    obtain ⟨old, there, rfl⟩ := State.exists_of_guardAt? guards found
    split
    · exact Guard.Granted.release
    · exact lines.granted there

/-- A job has had a turn. -/
theorem advance {before after : Job} (lines : Lines state)
    (present : state.jobs[job]? = some before) (jobs : next.jobs = state.jobs)
    (tables : ∀ {run table}, state.table? run = some table → next.table? run = some table)
    (arrives : ∀ {run place}, after.post? = some (.route run place) →
      ∃ table, state.table? run = some table)
    (steps : Steps state next job before.post? after.post?) : Lines (next.setJob job after) := by
  have posts : ∀ id, (next.setJob job after).postOf? id =
      if id = job then after.post? else state.postOf? id := by
    intro id
    rw [State.postOf?_setJob (jobs ▸ present)]
    simp only [State.postOf?, jobs]
  have own : state.postOf? job = before.post? := State.postOf?_of_some present
  have known : ∀ {id run place}, (next.setJob job after).postOf? id = some (.route run place) →
      ∃ table, (next.setJob job after).table? run = some table := by
    intro id run place stands
    rw [posts] at stands
    split at stands
    · obtain ⟨table, found⟩ := arrives stands
      exact ⟨table, tables found⟩
    · obtain ⟨table, found⟩ := lines.known stands
      exact ⟨table, tables found⟩
  have settled : Steps state (next.setJob job after) job before.post? after.post? :=
    steps.congr (State.guardAt?_congr rfl rfl)
  generalize before.post? = left, after.post? = entered at settled own posts
  cases settled with
  | aside same => exact lines.aside same own posts known
  | behind guards => exact lines.behind guards own posts known
  | away held guards => exact lines.away held guards own posts known

/-- **Every move keeps the invariant.** -/
theorem step {move : Move} (lines : Lines state) (life : Lifecycle state) (own : Ownership state)
    (moved : Moves state move next effects) : Lines next := by
  have tables : ∀ {run table}, state.table? run = some table → next.table? run = some table :=
    moved.table?
  cases moved with
  | start present turn =>
      refine lines.advance present turn.jobs tables ?_ (turn.steps life present)
      intro run place stands
      cases turn <;> cases stands
  | stop present turn =>
      refine lines.advance present turn.jobs tables ?_ turn.steps
      intro run place stands
      cases turn with
      | routeAsked =>
          cases stands
          obtain ⟨found, there, _⟩ := Option.map_eq_some_iff.mp (life.stopping ⟨_, present, rfl⟩)
          exact ⟨found.table, by simp [State.table?, there]⟩
      | _ => cases stands
  | attach present turn =>
      refine lines.advance present turn.leavesBridge.jobs tables ?_ (turn.steps own present)
      intro run place stands
      cases turn with
      | activated turn =>
          cases turn with
          | asked here _ =>
              cases stands
              obtain ⟨table, found, _⟩ := State.route?_eq_some_iff.mp here
              exact ⟨table, found⟩
          | claimed | connected | produced | unproduced | producerUndone =>
              cases stands
              exact lines.known (State.postOf?_of_some present)
          | _ => cases stands
      | _ => cases stands
  | relay _ turn =>
      have leaves := turn.leavesBridge
      refine lines.keep (State.guardAt?_congr leaves.guard (by cases turn <;> rfl)) ?_ tables
      intro id
      rw [State.postOf?, State.postOf?, leaves.jobs]
  | @arrive request =>
      refine lines.keep (State.guardAt?_congr rfl rfl) ?_ tables
      intro id
      simp only [State.postOf?, State.arrive, getElem?_concat_eq_ite]
      split
      · next new => simp [new, request.post?_job]
      · rfl
  | @change change =>
      have outside := change_fromOutside state change
      refine lines.keep (State.guardAt?_congr outside.guard outside.runs) ?_ tables
      intro id
      rw [State.postOf?, State.postOf?, outside.jobs]
  | forget _ => exact lines.keep (State.guardAt?_congr rfl rfl) (fun _ => rfl) tables
  | closeSource => exact lines.keep (State.guardAt?_congr rfl rfl) (fun _ => rfl) tables
  | closeSink => exact lines.keep (State.guardAt?_congr rfl rfl) (fun _ => rfl) tables
  | wait => exact lines.keep (State.guardAt?_congr rfl rfl) (fun _ => rfl) tables

end Lines

/-- The invariant holds after every history. -/
theorem History.lines {first now : State} {past : List Occurrence}
    (history : History first past now) (unused : first.Unused) : Lines now := by
  induction history with
  | start => exact .of_unused unused
  | move before step ih =>
      exact ih.step (before.lifecycle unused) (before.ownership unused) (step_cases step)

end TopicRelay
