import TopicRelay.Proofs.CallTraces
import TopicRelay.Proofs.Overlap

/-!
# The order in which collaborators are called

Where no two calls that start or stop the bridge overlap (`Serial`) and nobody else closes a
connection, a connection is open exactly while the bridge runs or the one call that is at work has
still to close it (`Manned`).  So a connection is opened only while it is closed and closed only
while it is open, whatever start has failed before and at whatever point: the log of a history opens
and closes each connection by turns (`Alternates`).

`History.call_order` adds what a start has called when it starts the broker, and what a stop has
called when it returns.
-/

namespace TopicRelay

set_option autoImplicit false

/-! ## One start or stop at a time -/

/-- A start or a stop that has no answer yet. -/
def Job.isBusy (job : Job) : Bool := job.isStarting || job.isStopping

/-- At most one start or stop has no answer yet. -/
def State.Solo (state : State) : Prop :=
  ∀ (job other : JobId) (found there : Job), state.jobs[job]? = some found →
    state.jobs[other]? = some there → found.isBusy = true → there.isBusy = true → job = other

/-- Starts and stops come one at a time; other calls come at any time. -/
def Serial (past : List Occurrence) : Prop :=
  ∀ occurrence ∈ past, occurrence.move = .arrive .start ∨ occurrence.move = .arrive .stop →
    occurrence.before.AtRest

theorem Job.isBusy_of_hasSource {job : Job} (has : job.hasSource = true) : job.isBusy = true := by
  rcases Job.inFlight_of_hasSource has with starting | stopping
  · simp [isBusy, starting]
  · simp [isBusy, stopping]

section

variable {state next : State} {move : Move} {effects : List Effect} {job id : JobId}
  {found : Job}

/-- A call that is at work after a move was at work before, or has just arrived. -/
theorem Moves.busy_origin (moved : Moves state move next effects)
    (present : next.jobs[id]? = some found) (busy : found.isBusy = true) :
    (∃ before, state.jobs[id]? = some before ∧ before.isBusy = true) ∨
      (id = state.jobs.length ∧ (move = .arrive .start ∨ move = .arrive .stop)) := by
  by_cases mine : move = .job id
  · subst mine
    left
    cases found with
    | start after =>
        obtain ⟨phase, middle, was, turn, _⟩ := moved.to_start present
        exact ⟨_, was, by simp [Job.isBusy, turn.isStarting]⟩
    | stop after =>
        obtain ⟨phase, middle, was, turn, _⟩ := moved.to_stop present
        exact ⟨_, was, by simp [Job.isBusy, turn.isStopping]⟩
    | attach topic after => cases busy
  · rcases moved.jobs_origin present with was | own | ⟨request, rfl, rfl⟩
    · exact .inl ⟨found, was, busy⟩
    · exact absurd own mine
    · cases moved
      rcases getElem?_concat_eq_some.mp present with was | ⟨new, _⟩
      · exact .inl ⟨_, was, busy⟩
      · refine .inr ⟨new, ?_⟩
        cases request with
        | start => exact .inl rfl
        | stop => exact .inr rfl
        | _ => cases busy

theorem State.AtRest.not_busy (rest : state.AtRest) (present : state.jobs[id]? = some found) :
    found.isBusy = false := by
  rw [Job.isBusy, Bool.or_eq_false_iff, ← Bool.not_eq_true, ← Bool.not_eq_true]
  exact ⟨fun starting => rest.starts ⟨id, found, present, starting⟩,
    fun stopping => rest.stops ⟨id, found, present, stopping⟩⟩

/-- No other start or stop comes while one is at work. -/
theorem State.Solo.step (solo : state.Solo) (moved : Moves state move next effects)
    (serial : move = .arrive .start ∨ move = .arrive .stop → state.AtRest) : next.Solo := by
  intro job other found there present also busy works
  rcases moved.busy_origin present busy with ⟨_, was, before⟩ | ⟨rfl, arrives⟩
  · rcases moved.busy_origin also works with ⟨_, also, already⟩ | ⟨rfl, arrives⟩
    · exact solo _ _ _ _ was also before already
    · simp [(serial arrives).not_busy was] at before
  · rcases moved.busy_origin also works with ⟨_, also, already⟩ | ⟨rfl, _⟩
    · simp [(serial arrives).not_busy also] at already
    · rfl

end

/-- Where starts and stops come one at a time, at most one is at work. -/
theorem History.solo {first now : State} {past : List Occurrence} (history : History first past now)
    (unused : first.Unused) (serial : Serial past) : now.Solo := by
  induction history with
  | start => exact fun _ _ _ _ present => by simp [unused.jobs] at present
  | @move past now next move effects before step ih =>
      have earlier : Serial past := fun occurrence among => serial occurrence (by simp [among])
      exact (ih earlier).step (step_cases step) (serial ⟨now, move, next, effects⟩ (by simp))

/-- Where starts and stops come one at a time, none opens a connection that another has still to
close. -/
theorem History.not_overlapped {first now : State} {past : List Occurrence}
    (history : History first past now) (unused : first.Unused) (serial : Serial past) :
    overlapped past = false := by
  rw [← Bool.not_eq_true, overlapped_iff]
  rintro ⟨earlier, opening, later, rfl, opens, ⟨id, found, present, closing⟩, _⟩
  obtain ⟨before, step, _⟩ := history.occurrence
  have solo : opening.before.Solo :=
    before.solo unused fun occurrence among => serial occurrence (by simp [among])
  obtain ⟨job, principal, key, upstream, start, _⟩ := (step_cases step).of_sourceOpening opens
  obtain rfl := solo _ _ _ _ present start
    (Job.isBusy_of_hasSource (Job.hasSource_of_isClosing closing)) rfl
  cases present.symm.trans start
  cases closing

/-! ## Who has a connection -/

/-- A connection is open exactly while the bridge runs or a call has still to close it. -/
structure Manned (state : State) : Prop where
  source : state.upstream.isOpen = true ↔ state.running.isSome = true ∨ state.Has Job.hasSource
  sink : state.downstream.isOpen = true ↔ state.running.isSome = true ∨ state.Has Job.hasSink

/-- What a stop has still to close is open. -/
structure Holding (state : State) : Prop where
  source : ∀ {job : JobId} {phase : StopPhase}, state.jobs[job]? = some (.stop phase) →
    phase.hasSource = true → state.upstream.isOpen = true
  sink : ∀ {job : JobId} {phase : StopPhase}, state.jobs[job]? = some (.stop phase) →
    phase.hasSink = true → state.downstream.isOpen = true

theorem StopPhase.hasSource_of_hasSink {phase : StopPhase} (has : phase.hasSink = true) :
    phase.hasSource = true := by
  cases phase <;> first | rfl | cases has

namespace Holding

variable {state next : State} {move : Move} {effects : List Effect} {job : JobId}

theorem of_unused (unused : state.Unused) : Holding state where
  source := fun present => by simp [unused.jobs] at present
  sink := fun present => by simp [unused.jobs] at present

/-- Stops stay where they are, and so do the connections. -/
theorem keep (holding : Holding state) (service : KeepsService state next)
    (stops : ∀ {id : JobId} {phase : StopPhase}, next.jobs[id]? = some (.stop phase) →
      phase.hasSource = true → state.jobs[id]? = some (.stop phase)) : Holding next where
  source := fun present has => service.source.trans (holding.source (stops present has) has)
  sink := fun present has => service.sink.trans
    (holding.sink (stops present (StopPhase.hasSource_of_hasSink has)) has)

/-- **Every move of the bridge keeps the invariant** while only one start or stop is at work. -/
theorem step (holding : Holding state) (whole : Whole state) (solo : state.Solo)
    (moved : Moves state move next effects) (own : move.isForeign = false) : Holding next := by
  cases moved with
  | @start job before after middle effects present turn =>
      have alone : ∀ {id : JobId} {phase : StopPhase},
          (middle.setJob job (.start after)).jobs[id]? = some (.stop phase) →
            ¬phase.hasSource = true := by
        intro id phase there has
        rcases State.jobs_setJob there with ⟨_, same⟩ | ⟨different, was⟩
        · cases same
        · exact different (solo _ _ _ _ (turn.jobs ▸ was) present
            (Job.isBusy_of_hasSource (show (Job.stop phase).hasSource = true from has))
            (by simp [Job.isBusy, turn.isStarting]))
      exact ⟨fun there has => absurd has (alone there),
        fun there has => absurd (StopPhase.hasSource_of_hasSink has) (alone there)⟩
  | @stop job before after middle effects present turn =>
      have mine : ∀ {id : JobId} {phase : StopPhase},
          (middle.setJob job (.stop after)).jobs[id]? = some (.stop phase) →
            phase.hasSource = true → phase = after := by
        intro id phase there has
        rcases State.jobs_setJob there with ⟨_, same⟩ | ⟨different, was⟩
        · cases same
          rfl
        · exact absurd (solo _ _ _ _ (turn.jobs ▸ was) present
            (Job.isBusy_of_hasSource (show (Job.stop phase).hasSource = true from has))
            (by simp [Job.isBusy, turn.isStopping])) different
      have open_ : (after.hasSource = true → middle.upstream.isOpen = true) ∧
          (after.hasSink = true → middle.downstream.isOpen = true) := by
        have source := holding.source present
        have sink := holding.sink present
        cases turn with
        | entered _ running =>
            obtain ⟨_, sink, source, _⟩ := whole.running (by simp [running])
            exact ⟨fun _ => source, fun _ => sink⟩
        | asked => exact ⟨by rintro ⟨⟩, by rintro ⟨⟩⟩
        | idle _ _ => exact ⟨by rintro ⟨⟩, by rintro ⟨⟩⟩
        | sinkClosed => exact ⟨fun _ => source rfl, by rintro ⟨⟩⟩
        | sourceClosed => exact ⟨by rintro ⟨⟩, by rintro ⟨⟩⟩
        | _ => exact ⟨fun _ => source rfl, fun _ => sink rfl⟩
      refine ⟨fun there has => ?_, fun there has => ?_⟩
      · cases mine there has
        exact open_.1 has
      · cases mine there (StopPhase.hasSource_of_hasSink has)
        exact open_.2 has
  | attach present turn =>
      have service := turn.keepsService
      refine holding.keep ⟨service.broker, service.sink, service.source⟩ fun there _ => ?_
      rcases State.jobs_setJob there with ⟨_, same⟩ | ⟨_, was⟩
      · cases same
      · exact turn.leavesBridge.jobs ▸ was
  | relay _ turn =>
      exact holding.keep turn.keepsService fun there _ => turn.leavesBridge.jobs ▸ there
  | @arrive request =>
      refine holding.keep ⟨rfl, rfl, rfl⟩ fun there has => ?_
      rcases getElem?_concat_eq_some.mp there with was | ⟨_, same⟩
      · exact was
      · cases request <;> cases same
        cases has
  | change =>
      exact holding.keep (change_keepsService state _)
        fun there _ => (change_leavesBridge state _).jobs ▸ there
  | forget _ => exact holding.keep ⟨rfl, rfl, rfl⟩ fun there _ => there
  | closeSource => cases own
  | closeSink => cases own
  | wait => exact holding.keep ⟨rfl, rfl, rfl⟩ fun there _ => there

end Holding

namespace History

variable {first now : State} {past : List Occurrence}

/-- Where starts and stops come one at a time, a bridge that nobody else interferes with is whole. -/
theorem whole (history : History first past now) (unused : first.Unused) (serial : Serial past)
    (own : ∀ occurrence ∈ past, occurrence.move.isForeign = false) : Whole now :=
  (history.whole_or_closing unused own).1 (history.not_overlapped unused serial)

theorem holding (history : History first past now) (unused : first.Unused) (serial : Serial past)
    (own : ∀ occurrence ∈ past, occurrence.move.isForeign = false) : Holding now := by
  induction history with
  | start => exact .of_unused unused
  | @move past now next move effects before step ih =>
      have ordered : Serial past := fun occurrence among => serial occurrence (by simp [among])
      have ours : ∀ occurrence ∈ past, occurrence.move.isForeign = false :=
        fun occurrence among => own occurrence (by simp [among])
      exact (ih ordered ours).step (before.whole unused ordered ours) (before.solo unused ordered)
        (step_cases step) (own ⟨now, move, next, effects⟩ (by simp))

/-- **A connection is open exactly while somebody has still to close it.** -/
theorem manned (history : History first past now) (unused : first.Unused) (serial : Serial past)
    (own : ∀ occurrence ∈ past, occurrence.move.isForeign = false) : Manned now := by
  have kept := history.connectivity unused
  have whole := history.whole unused serial own
  have holding := history.holding unused serial own
  constructor
  · refine ⟨kept.source, ?_⟩
    rintro (runs | ⟨job, found, present, has⟩)
    · exact (whole.running runs).2.2.1
    · cases found with
      | start phase => exact (whole.source present has).1
      | stop phase => exact holding.source present has
      | attach topic phase => cases has
  · refine ⟨kept.sink, ?_⟩
    rintro (runs | ⟨job, found, present, has⟩)
    · exact (whole.running runs).2.1
    · cases found with
      | start phase => exact whole.sink present has
      | stop phase => exact holding.sink present has
      | attach topic phase => cases has

end History

/-! ## Opening and closing by turns -/

/-- Calls of two kinds come by turns, and one of the first kind comes first. -/
def Alternates (first second : Call) : List Call → Prop
  | [] => True
  | call :: calls => call = first ∧ Alternates second first calls

/-- Whether a call has opened a connection or was made to close it. -/
def countsFor (opening closing : Call) (entry : Call × Bool) : Bool :=
  entry.1 == closing || entry.1 == opening && entry.2

/-- The successful calls of a log that open a connection, and all calls that close it. -/
def toggles (opening closing : Call) (log : List (Call × Bool)) : List Call :=
  (log.filter (countsFor opening closing)).map Prod.fst

/-- What a move may do to a connection: nothing, open it if it is closed, or close it if it is
open. -/
inductive Switches (opening closing : Call) : Bool → List Call → Bool → Prop where
  | kept {up : Bool} : Switches opening closing up [] up
  | opened : Switches opening closing false [opening] true
  | closed : Switches opening closing true [closing] false

theorem toggles_append (opening closing : Call) (log more : List (Call × Bool)) :
    toggles opening closing (log ++ more) =
      toggles opening closing log ++ toggles opening closing more := by
  simp [toggles]

theorem alternates_concat {first second last : Call} {made : List Call} :
    Alternates first second (made ++ [last]) ↔
      Alternates first second made ∧ last = if made.length % 2 = 0 then first else second := by
  induction made generalizing first second with
  | nil => simp [Alternates]
  | cons call made ih =>
      rw [List.cons_append, Alternates, ih, Alternates, List.length_cons, and_assoc]
      have turn : (made.length + 1) % 2 = 0 ↔ ¬made.length % 2 = 0 := by omega
      simp only [turn, ite_not]

/-- Calls that open and close a connection have come by turns and left it as it is. -/
structure ByTurns (opening closing : Call) (made : List Call) (up : Bool) : Prop where
  alternates : Alternates opening closing made
  parity : up = true ↔ made.length % 2 = 1

theorem ByTurns.step {opening closing : Call} {made more : List Call} {up after : Bool}
    (byTurns : ByTurns opening closing made up) (switches : Switches opening closing up more after) :
    ByTurns opening closing (made ++ more) after := by
  obtain ⟨alternates, parity⟩ := byTurns
  cases switches with
  | kept => exact ⟨by simpa using alternates, by simpa using parity⟩
  | opened =>
      have even : made.length % 2 = 0 := by
        have odd : ¬made.length % 2 = 1 := fun odd => by simpa using parity.mpr odd
        omega
      refine ⟨alternates_concat.mpr ⟨alternates, by rw [if_pos even]⟩, ?_⟩
      rw [List.length_append, List.length_singleton]
      exact ⟨fun _ => by omega, fun _ => rfl⟩
  | closed =>
      have odd : made.length % 2 = 1 := parity.mp rfl
      refine ⟨alternates_concat.mpr ⟨alternates, by rw [if_neg (by omega)]⟩, ?_⟩
      rw [List.length_append, List.length_singleton]
      exact ⟨by rintro ⟨⟩, fun even => by omega⟩

section

variable {state next : State} {move : Move} {effects : List Effect}

namespace Switches

variable {opening closing : Call} {before after : Bool} {made : List Call}

theorem of_quiet (same : after = before) (quiet : made = []) :
    Switches opening closing before made after := by
  cases same
  cases quiet
  exact .kept

theorem of_opened (down : before = false) (up : after = true) (only : made = [opening]) :
    Switches opening closing before made after := by
  cases down
  cases up
  cases only
  exact .opened

theorem of_closed (up : before = true) (down : after = false) (only : made = [closing]) :
    Switches opening closing before made after := by
  cases up
  cases down
  cases only
  exact .closed

end Switches

/-- A connection that the only start at work has not opened is closed. -/
theorem State.Solo.closed {job : JobId} {phase : StartPhase} {flag : Job → Bool} {up : Bool}
    (solo : state.Solo) (life : Lifecycle state)
    (has : up = true → state.running.isSome = true ∨ state.Has flag)
    (busy : ∀ found, flag found = true → found.isBusy = true)
    (present : state.jobs[job]? = some (.start phase)) (underWay : phase.underWay = true)
    (without : flag (.start phase) = false) (works : (Job.start phase).isBusy = true) :
    up = false := by
  rw [← Bool.not_eq_true]
  intro opened
  rcases has opened with runs | ⟨id, found, there, flagged⟩
  · simp [life.resting ⟨phase, present, underWay⟩] at runs
  · obtain rfl := solo _ _ _ _ there present (busy found flagged) works
    cases there.symm.trans present
    simp [without] at flagged

/-- What a move does to the connection to the queues. -/
theorem Moves.switches_source (moved : Moves state move next effects) (life : Lifecycle state)
    (solo : state.Solo) (manned : Manned state) (own : move.isForeign = false) :
    Switches .sourceOpen .sourceClose state.upstream.isOpen
      (toggles .sourceOpen .sourceClose (calls effects)) next.upstream.isOpen := by
  have held : ∀ {job : JobId} {found : Job}, state.jobs[job]? = some found →
      found.hasSource = true → state.upstream.isOpen = true :=
    fun present has => manned.source.mpr (.inr ⟨_, _, present, has⟩)
  cases moved with
  | start present turn =>
      cases turn with
      | sourceOpened connected =>
          have down := solo.closed life manned.source.mp
            (fun _ => Job.isBusy_of_hasSource) present rfl rfl rfl
          exact .of_opened down (isOpen_connect_upstream connected) rfl
      | sourceGivenUp =>
          exact .of_closed (held present rfl) rfl (by simp [toggles, countsFor, State.closeSource])
      | allGivenUp =>
          exact .of_closed (held present rfl) rfl (by simp [toggles, countsFor, State.closeSource])
      | _ => exact .of_quiet rfl (by simp [toggles, countsFor, State.closeSink])
  | stop present turn =>
      cases turn with
      | sourceClosed =>
          exact .of_closed (held present rfl) rfl (by simp [toggles, countsFor, State.closeSource])
      | _ => exact .of_quiet rfl (by simp [toggles, countsFor, State.closeSink])
  | attach _ turn => exact .of_quiet turn.keepsService.source (by rw [turn.calls_eq_nil]; rfl)
  | relay _ turn => exact .of_quiet turn.keepsService.source (by rw [turn.calls_eq_nil]; rfl)
  | change => exact .of_quiet (change_keepsService state _).source rfl
  | closeSource => cases own
  | closeSink => cases own
  | _ => exact .kept

/-- What a move does to the connection to the topics. -/
theorem Moves.switches_sink (moved : Moves state move next effects) (life : Lifecycle state)
    (solo : state.Solo) (manned : Manned state) (own : move.isForeign = false) :
    Switches .sinkOpen .sinkClose state.downstream.isOpen
      (toggles .sinkOpen .sinkClose (calls effects)) next.downstream.isOpen := by
  have held : ∀ {job : JobId} {found : Job}, state.jobs[job]? = some found →
      found.hasSink = true → state.downstream.isOpen = true :=
    fun present has => manned.sink.mpr (.inr ⟨_, _, present, has⟩)
  cases moved with
  | start present turn =>
      cases turn with
      | sinkOpened connected =>
          have down := solo.closed life manned.sink.mp
            (fun _ has => Job.isBusy_of_hasSource (Job.hasSource_of_hasSink has)) present rfl rfl rfl
          exact .of_opened down (isOpen_connect_downstream connected) rfl
      | sinkUnopened refused =>
          exact .of_quiet (isOpen_connect_refused refused) (by simp [toggles, countsFor])
      | sinkGivenUp =>
          exact .of_closed (held present rfl) rfl (by simp [toggles, countsFor, State.closeSink])
      | _ => exact .of_quiet rfl (by simp [toggles, countsFor, State.closeSource])
  | stop present turn =>
      cases turn with
      | sinkClosed =>
          exact .of_closed (held present rfl) rfl (by simp [toggles, countsFor, State.closeSink])
      | _ => exact .of_quiet rfl (by simp [toggles, countsFor, State.closeSource])
  | attach _ turn => exact .of_quiet turn.keepsService.sink (by rw [turn.calls_eq_nil]; rfl)
  | relay _ turn => exact .of_quiet turn.keepsService.sink (by rw [turn.calls_eq_nil]; rfl)
  | change => exact .of_quiet (change_keepsService state _).sink rfl
  | closeSource => cases own
  | closeSink => cases own
  | _ => exact .kept

end

/-- A broker is started by a start that has installed its hooks. -/
theorem Moves.of_brokerStart {state next : State} {move : Move} {effects : List Effect}
    {outcome : Bool} (moved : Moves state move next effects)
    (starts : (.brokerStart, outcome) ∈ calls effects) :
    ∃ job run, move = .job job ∧ state.jobs[job]? = some (.start (.startingBroker run)) := by
  cases moved with
  | start present turn =>
      cases turn with
      | brokerStarted _ => exact ⟨_, _, rfl, present⟩
      | brokerRefused _ => exact ⟨_, _, rfl, present⟩
      | _ => simp [State.closeSource, State.closeSink] at starts
  | stop _ turn =>
      refine absurd starts ?_
      cases turn <;> simp [State.closeSource, State.closeSink]
  | attach _ turn => simp [turn.calls_eq_nil] at starts
  | relay _ turn => simp [turn.calls_eq_nil] at starts
  | _ => simp at starts

namespace History

variable {first now : State} {past : List Occurrence}

/-- Both connections are opened and closed by turns. -/
theorem byTurns (history : History first past now) (unused : first.Unused) (serial : Serial past)
    (own : ∀ occurrence ∈ past, occurrence.move.isForeign = false) :
    ByTurns .sourceOpen .sourceClose (toggles .sourceOpen .sourceClose (callLog past))
        now.upstream.isOpen ∧
      ByTurns .sinkOpen .sinkClose (toggles .sinkOpen .sinkClose (callLog past))
        now.downstream.isOpen := by
  induction history with
  | start =>
      exact ⟨⟨trivial, by simp [unused.sourceClosed, toggles, callLog]⟩,
        ⟨trivial, by simp [unused.sinkClosed, toggles, callLog]⟩⟩
  | @move past now next move effects before step ih =>
      have ordered : Serial past := fun occurrence among => serial occurrence (by simp [among])
      have ours : ∀ occurrence ∈ past, occurrence.move.isForeign = false :=
        fun occurrence among => own occurrence (by simp [among])
      have moved := step_cases step
      have mine : move.isForeign = false := own ⟨now, move, next, effects⟩ (by simp)
      have life := before.lifecycle unused
      have solo := before.solo unused ordered
      have manned := before.manned unused ordered ours
      rw [callLog_concat, toggles_append, toggles_append]
      obtain ⟨source, sink⟩ := ih ordered ours
      exact ⟨source.step (moved.switches_source life solo manned mine),
        sink.step (moved.switches_sink life solo manned mine)⟩

/-- **The order of the calls.**  Starts and stops come one at a time and nobody else closes a
connection; whatever fails, and whatever else comes at whatever time.  Then each connection is
opened and closed by turns.  Whenever a start starts the broker, whether it succeeds or not, it has
made its five calls before, each once and in order, and the hooks that are installed are those of
the run that it has set up: they lead every topic of every queue that it was told to the route of
that queue, and so do those of every broker that is started.  A stop calls the broker, the
connection to the topics and the one to the queues in this order, each once if it has taken a run
out, and nothing if it has found none. -/
theorem call_order (history : History first past now) (unused : first.Unused)
    (serial : Serial past) (own : ∀ occurrence ∈ past, occurrence.move.isForeign = false) :
    Alternates .sourceOpen .sourceClose (toggles .sourceOpen .sourceClose (callLog past)) ∧
    Alternates .sinkOpen .sinkClose (toggles .sinkOpen .sinkClose (callLog past)) ∧
    (∀ {earlier later : List Occurrence} {occurrence : Occurrence} {outcome : Bool},
      past = earlier ++ occurrence :: later →
      (.brokerStart, outcome) ∈ calls occurrence.effects →
      ∃ job gate run names, occurrence.move = .job job ∧
        occurrence.before.jobs[job]? = some (.start (.startingBroker run)) ∧
        callsOf job earlier = startCalls first.settings.queueOwner first.settings.queueKind ∧
        occurrence.before.broker.hooks = some ⟨gate, run⟩ ∧
        (∃ told ∈ earlier, told.Discovers job run names) ∧
        occurrence.before.Resolves run names) ∧
    (now.broker.isStarted = true → ∃ gate run job names,
      now.broker.hooks = some ⟨gate, run⟩ ∧ (∃ told ∈ past, told.Discovers job run names) ∧
        now.Resolves run names) ∧
    ∀ {job : JobId} {phase : StopPhase}, now.jobs[job]? = some (.stop phase) →
      (callsOf job past).map Prod.fst <+: stopCalls ∧
        (phase = .done →
          ((∃ occurrence ∈ past, occurrence.TakesRun job) →
            (callsOf job past).map Prod.fst = stopCalls) ∧
          ((¬∃ occurrence ∈ past, occurrence.TakesRun job) → callsOf job past = [])) := by
  obtain ⟨source, sink⟩ := history.byTurns unused serial own
  refine ⟨source.alternates, sink.alternates, ?_, fun started => ?_, fun {job phase} present => ?_⟩
  · rintro earlier later occurrence outcome rfl starts
    obtain ⟨before, step, _⟩ := history.occurrence
    obtain ⟨job, run, move, present⟩ := (step_cases step).of_brokerStart starts
    have setup := before.setup unused
    obtain ⟨gate, hooks⟩ := setup.installed present
    obtain ⟨names, setUp⟩ := setup.settingUp ⟨_, present, rfl⟩
    have made := (before.traced unused).start present rfl
    rw [before.settings] at made
    exact ⟨job, gate, run, names, move, present, made, hooks, setUp.discovers, setUp.resolves⟩
  · obtain ⟨gate, run, job, names, hooks, setUp⟩ := (history.setup unused).started started
    exact ⟨gate, run, job, names, hooks, setUp.discovers, setUp.resolves⟩
  · rcases (history.traced unused).stop present with ⟨taken, count, reached, made⟩ | ⟨untaken, none, _⟩
    · refine ⟨made ▸ List.take_prefix _ _, ?_⟩
      rintro rfl
      cases reached
      exact ⟨fun _ => made, fun untaken => absurd taken untaken⟩
    · exact ⟨by simp [none], fun _ => ⟨fun taken => absurd taken untaken, fun _ => none⟩⟩

end History

/-- Whether a start or a stop, if one comes, comes when no other is at work. -/
def Occurrence.isSerial (occurrence : Occurrence) : Bool :=
  match occurrence.move with
  | .arrive .start | .arrive .stop => !occurrence.before.jobs.any Job.isBusy
  | _ => true

theorem serial_of_all {past : List Occurrence} (all : past.all Occurrence.isSerial = true) :
    Serial past := by
  intro occurrence among arrives
  have quiet : occurrence.before.jobs.any Job.isBusy = false := by
    have checked := List.all_eq_true.mp all occurrence among
    rcases arrives with arrives | arrives <;> simpa [Occurrence.isSerial, arrives] using checked
  have none : ∀ {flag : Job → Bool}, (∀ job, flag job = true → job.isBusy = true) →
      ¬occurrence.before.Has flag := by
    intro flag busy
    rw [State.has_iff_any]
    intro some
    obtain ⟨job, present, flagged⟩ := List.any_eq_true.mp some
    simp [List.any_eq_true.mpr ⟨job, present, busy job flagged⟩] at quiet
  exact ⟨none fun job starting => by simp [Job.isBusy, starting],
    none fun job stopping => by simp [Job.isBusy, stopping]⟩

/-- A start that the connection to the topics refuses, one that succeeds, a stop whose broker does
not shut down cleanly while a subscriber is being attached, and one more start. -/
theorem refused_start_keeps_turns :
    ∃ past now, History (State.scripted ["Q"]) past now ∧
      toggles .sourceOpen .sourceClose (callLog past) =
        [.sourceOpen, .sourceClose, .sourceOpen, .sourceClose, .sourceOpen] ∧
      Alternates .sourceOpen .sourceClose (toggles .sourceOpen .sourceClose (callLog past)) ∧
      Alternates .sinkOpen .sinkClose (toggles .sinkOpen .sinkClose (callLog past)) ∧
      callsOf 3 past = [(.brokerStop, false), (.sinkClose, true), (.sourceClose, true)] ∧
      (∃ occurrence ∈ past, occurrence.TakesRun 3) ∧
      (∃ earlier occurrence later, past = earlier ++ occurrence :: later ∧
        ∃ job, occurrence.move = .job job ∧ callsOf job earlier =
          startCalls (State.scripted ["Q"]).settings.queueOwner
            (State.scripted ["Q"]).settings.queueKind) ∧
      ∃ run names, now.broker.hooks.map (·.run) = some run ∧ now.Resolves run names := by
  obtain ⟨past, now, history, checked⟩ := History.exists_of_record (State.scripted ["Q"])
    (.change (.switch .sinkOpen true) :: .arrive .start :: List.replicate 7 (.job 0) ++
      .change (.switch .sinkOpen false) :: startMoves 1 ++
        [.arrive (.attach "Q"), .job 2, .change (.switch .brokerStop true), .arrive .stop] ++
          List.replicate 8 (.job 3) ++ startMoves 4)
    (fun past now => past.all Occurrence.isSerial &&
      past.all (fun occurrence => !occurrence.move.isForeign) &&
        toggles .sourceOpen .sourceClose (callLog past) ==
            [.sourceOpen, .sourceClose, .sourceOpen, .sourceClose, .sourceOpen] &&
          callsOf 3 past == [(.brokerStop, false), (.sinkClose, true), (.sourceClose, true)] &&
            now.jobs[3]?.any Job.isStopped && now.broker.isStarted &&
              past.any fun occurrence => (calls occurrence.effects).contains (.brokerStart, true)) rfl
  simp only [Bool.and_eq_true, beq_iff_eq, Option.any_eq_true, Job.isStopped_iff] at checked
  obtain ⟨⟨⟨⟨⟨⟨serial, own⟩, toggled⟩, called⟩, _, stopped, rfl⟩, started⟩, starting⟩ := checked
  obtain ⟨occurrence, among, starts⟩ := List.any_eq_true.mp starting
  obtain ⟨earlier, later, whole⟩ := List.append_of_mem among
  obtain ⟨source, sink, made, hooked, stops⟩ := history.call_order (State.scripted_unused ["Q"])
    (serial_of_all serial) (by simpa using own)
  obtain ⟨job, _, _, _, move, _, five, _⟩ := made whole (List.contains_iff_mem.mp starts)
  obtain ⟨gate, run, _, names, hooks, _, resolves⟩ := hooked started
  have taken : ∃ occurrence ∈ past, occurrence.TakesRun 3 := by
    by_contra untaken
    simp [((stops stopped).2 rfl).2 untaken] at called
  exact ⟨past, now, history, toggled, source, sink, called, taken,
    ⟨earlier, occurrence, later, whole, job, move, five⟩, run, names, by simp [hooks], resolves⟩

end TopicRelay
