import TopicRelay.Proofs.AtMostOnce
import TopicRelay.Proofs.Connectivity
import TopicRelay.Proofs.Producers
import TopicRelay.Proofs.Shutdown

/-!
# What is left when a stop has returned

Calls may be attached to a run in any phase while it is being stopped: waiting for the guard
of a route, for a consumer, or between two routes.  When the stop that has taken the run has
returned nothing is left of it (`State.Quiet`): all its routes are stopped and without a relay,
all its relays have ended, the broker is stopped and both connections are closed, whichever of
these did not shut down cleanly.

The producers are another matter, since other runs may still hold some: a run that another stop
is still stopping, because it waits for a route, and a run that a start gave up while it was in
use (`State.Lingers`).  An open producer is held for such a run.

And nothing comes back.  Whatever happens later, a call that is attached to the run, or not
attached to any run yet, asks for no consumer and changes nothing; and nobody asks for a
consumer before the bridge is started again.  `History.quiet_after_stop` puts this together, and
`stop_leaves_what_it_has_not_taken` shows that a stop may find such a run, or another stop that
was faster.
-/

namespace TopicRelay

set_option autoImplicit false

/-! ## A bridge at rest -/

/-- Nothing is left of a run, and nothing is in service. -/
structure State.Quiet (state : State) (run : RunId) : Prop where
  dead : state.Dead run
  resting : state.running = none
  broker : state.broker.isStarted = false
  sink : state.downstream.isOpen = false
  source : state.upstream.isOpen = false

/-- The bridge is in no run, and no start is in flight. -/
structure State.Halted (state : State) : Prop where
  resting : state.running = none
  noStart : ¬state.Has Job.isStarting

/-- The bridge is in no run, no start is in flight, and no stop has anything still to close. -/
structure State.Idle (state : State) : Prop extends State.Halted state where
  closed : ¬state.Has Job.hasSource

/-- A run that a stop is still stopping, or that a start gave up when it was in use. -/
def State.Lingers (state : State) (past : List Occurrence) (run : RunId) : Prop :=
  (∃ job, state.Stopping job run) ∨ ∃ occurrence ∈ past, occurrence.Abandons run

/-- Every open producer is held for another run, one that lingers. -/
def State.OthersProduce (state : State) (past : List Occurrence) (run : RunId) : Prop :=
  ∀ topic ∈ state.downstream.producers,
    ∃ other ≠ run, state.Lingers past other ∧ state.Produces other topic

theorem StopPhase.hasSource_of_run? {phase : StopPhase} {run : RunId}
    (stops : phase.run? = some run) : phase.hasSource = true := by
  cases phase <;> first | rfl | cases stops

/-- The bridge is in no run until a start puts it into one. -/
theorem Moves.resting_step {state next : State} {move : Move} {effects : List Effect}
    (moved : Moves state move next effects) (steady : ¬state.Has Job.isStarting)
    (resting : state.running = none) : next.running = none := by
  cases moved with
  | start present turn =>
      cases turn with
      | brokerStarted _ => exact absurd ⟨_, _, present, rfl⟩ steady
      | _ => exact resting
  | stop _ turn =>
      cases turn with
      | entered _ _ => rfl
      | _ => exact resting
  | attach _ turn => exact turn.leavesBridge.running.trans resting
  | relay _ turn => exact turn.leavesBridge.running.trans resting
  | change => exact (change_leavesBridge state _).running.trans resting
  | _ => exact resting

namespace State

variable {state next : State} {move : Move} {effects : List Effect} {run : RunId}

theorem SettingUp.isStarting {job : JobId} (settingUp : state.SettingUp job run) :
    state.Has Job.isStarting := by
  obtain ⟨phase, present, setsUp⟩ := settingUp
  exact ⟨job, _, present, by cases phase <;> first | rfl | cases setsUp⟩

/-- Nobody gives up a run while no start is in flight. -/
theorem not_abandons (none : ¬state.Has Job.isStarting) :
    ¬Occurrence.Abandons run ⟨state, move, next, effects⟩ :=
  fun ⟨_, _, present, _⟩ => none ⟨_, _, present, rfl⟩

/-- Nobody holds a producer for a dead run. -/
theorem Dead.not_produces {topic : String} (dead : state.Dead run) :
    ¬state.Produces run topic := by
  rintro (⟨job, found, place, present, claims, _⟩ | ⟨relay, found, present, sameRun, holds⟩)
  · exact (dead.settled place).unclaimed ⟨found, present, claims⟩
  · have ended := (dead.settled found.place).ended present sameRun rfl
    simp [Relay.producers, ended] at holds

/-- Producers are held for runs that have been set up. -/
theorem Produces.lt {topic : String} (own : Ownership state) (produces : state.Produces run topic) :
    run < state.runs.length := by
  rcases produces with ⟨job, found, place, present, claims, _⟩ | ⟨relay, found, present, rfl, _⟩
  · obtain ⟨slot, there, _⟩ := own.claimed ⟨found, present, claims⟩
    exact slot?_eq_some_lt there
  · obtain ⟨slot, there, _⟩ := own.placed ⟨found, present, rfl, rfl⟩
    exact slot?_eq_some_lt there

/-- A bridge stays in no run until it is started. -/
theorem Halted.step (halted : state.Halted) (moved : Moves state move next effects)
    (noStart : move ≠ .arrive .start) : next.Halted where
  resting := moved.resting_step halted.noStart halted.resting
  noStart := moved.noStart_step halted.noStart noStart

/-- While the bridge is in no run and is not being started, nobody asks for a consumer. -/
theorem Halted.no_request (halted : state.Halted) (shut : Shutdown state)
    (moved : Moves state move next effects) : effects.any Effect.isRequest = false := by
  cases requests : effects.any Effect.isRequest with
  | false => rfl
  | true =>
      obtain ⟨⟨run, place⟩, here⟩ := Option.isSome_iff_exists.mp
        (moved.site?_isSome (Effect.any_isOfRoute_of_request requests))
      rcases moved.of_site here with ⟨_, _, _, _, _, _, _, turn, _⟩ | ⟨_, _, _, turn⟩
      · cases turn with
        | claimed _ found _ _ accepts =>
            rcases shut.refusing (slot?_eq_some_lt found) with ⟨_, sets⟩ | running | refuses
            · exact absurd sets.isStarting halted.noStart
            · simp [halted.resting] at running
            · simp [refuses] at accepts
        | _ => cases requests
      · cases turn <;> cases requests

/-- Nothing comes back into service before the bridge is started. -/
theorem Quiet.step (quiet : state.Quiet run) (halted : state.Halted)
    (moved : Moves state move next effects) : next.Quiet run := by
  have out := moved.opensNothing halted.noStart
  refine ⟨quiet.dead.step moved, moved.resting_step halted.noStart quiet.resting, ?_, ?_, ?_⟩
  · exact Bool.eq_false_iff.mpr fun up => absurd (out.broker up) (by simp [quiet.broker])
  · exact Bool.eq_false_iff.mpr fun up => absurd (out.sink up) (by simp [quiet.sink])
  · exact Bool.eq_false_iff.mpr fun up => absurd (out.source up) (by simp [quiet.source])

/-- While the bridge is idle, a run that it was in is dead. -/
theorem Idle.dead (idle : state.Idle) (left : state.Left run) : state.Dead run := by
  rcases left with running | ⟨job, phase, present, stops⟩ | dead
  · simp [idle.resting] at running
  · exact absurd ⟨job, _, present, StopPhase.hasSource_of_run? stops⟩ idle.closed
  · exact dead

/-- A bridge stays idle until it is started. -/
theorem Idle.step (idle : state.Idle) (moved : Moves state move next effects)
    (noStart : move ≠ .arrive .start) : next.Idle where
  toHalted := idle.toHalted.step moved noStart
  closed := by
    rintro ⟨job, found, present, has⟩
    rcases moved.jobs_origin present with was | rfl | ⟨request, _, rfl⟩
    · exact idle.closed ⟨job, found, was, has⟩
    · cases found with
      | start after =>
          obtain ⟨phase, middle, was, turn, _⟩ := moved.to_start present
          exact idle.noStart ⟨job, _, was, turn.isStarting⟩
      | stop after =>
          obtain ⟨phase, middle, was, turn, _⟩ := moved.to_stop present
          cases turn with
          | entered _ running => simp [idle.resting] at running
          | asked => cases has
          | idle _ _ => cases has
          | _ => exact idle.closed ⟨job, _, was, rfl⟩
      | attach topic after => cases has
    · cases request <;> cases has

end State

section

variable {first middle now : State} {past later : List Occurrence} {run : RunId}

/-- What a bridge keeps while it is in no run and is not being started. -/
theorem History.halted {P : State → Prop} (rest : History middle later now)
    (halted : middle.Halted) (noStart : ∀ occurrence ∈ later, occurrence.move ≠ .arrive .start)
    (initial : P middle)
    (keeps : ∀ {before after : State} {move : Move} {effects : List Effect}, before.Halted →
      P before → Moves before move after effects → move ≠ .arrive .start → P after) :
    now.Halted ∧ P now := by
  induction rest with
  | start => exact ⟨halted, initial⟩
  | @move later now next move effects before step ih =>
      obtain ⟨still, holds⟩ := ih fun occurrence among => noStart occurrence (by simp [among])
      have calm := noStart ⟨now, move, next, effects⟩ (by simp)
      exact ⟨still.step (step_cases step) calm, keeps still holds (step_cases step) calm⟩

/-- Nobody asks for a consumer before the bridge is started. -/
theorem History.silent (history : History first past middle) (unused : first.Unused)
    (halted : middle.Halted) (rest : History middle later now)
    (noStart : ∀ occurrence ∈ later, occurrence.move ≠ .arrive .start) :
    ∀ occurrence ∈ later, occurrence.effects.any Effect.isRequest = false := by
  intro occurrence among
  obtain ⟨earlier, after, rfl⟩ := List.append_of_mem among
  obtain ⟨before, step, _⟩ := rest.occurrence
  obtain ⟨still, _⟩ := before.halted (P := fun _ => True) halted
    (fun other member => noStart other (by simp [member])) trivial fun _ _ _ _ => trivial
  exact still.no_request ((history.append before).shutdown unused) (step_cases step)

/-- All runs are dead while the bridge is idle, if none was abandoned. -/
theorem History.dead_of_idle (history : History first past now) (unused : first.Unused)
    (idle : now.Idle) (kept : ∀ occurrence ∈ past, ∀ run, ¬occurrence.Abandons run)
    (bound : run < now.runs.length) : now.Dead run := by
  rcases history.left_or_abandons unused bound with ⟨job, sets⟩ | left |
    ⟨occurrence, among, abandons⟩
  · exact absurd sets.isStarting idle.noStart
  · exact idle.dead left
  · exact absurd abandons (kept occurrence among run)

/-- Until a start arrives no start is in flight. -/
theorem History.noStart (rest : History middle later now) (steady : ¬middle.Has Job.isStarting)
    (noStart : ∀ occurrence ∈ later, occurrence.move ≠ .arrive .start) :
    ¬now.Has Job.isStarting ∧ ∀ occurrence ∈ later, ∀ run, ¬occurrence.Abandons run := by
  induction rest with
  | start => exact ⟨steady, by simp⟩
  | @move later now next move effects before step ih =>
      obtain ⟨still, kept⟩ := ih fun occurrence among => noStart occurrence (by simp [among])
      have moved := step_cases step
      refine ⟨moved.noStart_step still (noStart ⟨now, move, next, effects⟩ (by simp)), ?_⟩
      intro occurrence among
      rcases List.mem_append.mp among with earlier | last
      · exact kept occurrence earlier
      · cases List.mem_singleton.mp last
        exact fun run => State.not_abandons still

/-- **An open producer is held for a run that lingers**, while the bridge is in no run and has not
been started since. -/
theorem History.lingers {topic : String} (history : History first past middle)
    (unused : first.Unused) (steady : ¬middle.Has Job.isStarting)
    (rest : History middle later now)
    (noStart : ∀ occurrence ∈ later, occurrence.move ≠ .arrive .start)
    (resting : now.running = none) (isOpen : topic ∈ now.downstream.producers) :
    ∃ run, now.Lingers past run ∧ now.Produces run topic := by
  have whole := history.append rest
  obtain ⟨calm, kept⟩ := rest.noStart steady noStart
  obtain ⟨run, produces⟩ := (whole.accounting unused).produces isOpen
  refine ⟨run, ?_, produces⟩
  -- The run is not dead, for it has a producer, and so somebody is still stopping it or gave it up.
  rcases whole.left_or_abandons unused (produces.lt (whole.ownership unused)) with ⟨job, sets⟩ |
    (running | stopping | dead) | ⟨occurrence, among, abandons⟩
  · exact absurd sets.isStarting calm
  · simp [resting] at running
  · exact .inl stopping
  · exact absurd produces dead.not_produces
  · rcases List.mem_append.mp among with before | after
    · exact .inr ⟨occurrence, before, abandons⟩
    · exact absurd abandons (kept occurrence after run)

/-- No producer is open while the bridge is idle, if no run was abandoned. -/
theorem History.producers_eq_nil (history : History first past now) (unused : first.Unused)
    (idle : now.Idle) (kept : ∀ occurrence ∈ past, ∀ run, ¬occurrence.Abandons run) :
    now.downstream.producers = [] := by
  rw [List.eq_nil_iff_forall_not_mem]
  intro topic isOpen
  obtain ⟨run, lingers, _⟩ :=
    history.lingers unused idle.noStart .start (by simp) idle.resting isOpen
  rcases lingers with ⟨job, phase, present, stops⟩ | ⟨occurrence, among, abandons⟩
  · exact idle.closed ⟨job, _, present, StopPhase.hasSource_of_run? stops⟩
  · exact kept occurrence among run abandons

end

/-! ## Calls that are attached to a dead run -/

namespace Occurrence

/-- A move is the turn of a call that attaches a subscriber, to a run or to no run yet. -/
def IsAttach (run : RunId) (occurrence : Occurrence) : Prop :=
  ∃ job topic phase, occurrence.move = .job job ∧
    occurrence.before.jobs[job]? = some (.attach topic phase) ∧
      ∀ other inner, phase = .activating other inner → other = run

/-- A move has asked for no consumer and left the collaborators, the relays and the bridge as
they were. -/
structure IsHarmless (occurrence : Occurrence) : Prop where
  upstream : occurrence.after.upstream = occurrence.before.upstream
  downstream : occurrence.after.downstream = occurrence.before.downstream
  broker : occurrence.after.broker = occurrence.before.broker
  relays : occurrence.after.relays = occurrence.before.relays
  running : occurrence.after.running = occurrence.before.running
  noRequest : occurrence.effects.any Effect.isRequest = false

end Occurrence

/-- The turn of a call that is attached to a dead run does nothing. -/
theorem Activates.harmless {state next : State} {job : JobId} {run : RunId} {topic : String}
    {phase : ActivationPhase} {advance : Advance ActivationPhase (Except ActivationFailure Unit)}
    {effects : List Effect} (turn : Activates state job run topic phase advance next effects)
    (present : state.jobs[job]? = some (.attach topic (.activating run phase)))
    (dead : state.Dead run) :
    Occurrence.IsHarmless ⟨state, .job job,
      next.setJob job (.attach topic (State.attachAfter run advance)), effects⟩ := by
  have unclaimed : ∀ {place}, ¬state.Claims job run place := (dead.settled _).unclaimed
  cases turn with
  | claimed _ _ _ _ accepts => simp [dead.refuses] at accepts
  | connected _ _ => exact absurd ⟨_, present, rfl⟩ unclaimed
  | unconnected _ _ => exact absurd ⟨_, present, rfl⟩ unclaimed
  | produced _ => exact absurd ⟨_, present, rfl⟩ unclaimed
  | unproduced _ => exact absurd ⟨_, present, rfl⟩ unclaimed
  | spawned _ => exact absurd ⟨_, present, rfl⟩ unclaimed
  | producerUndone => exact absurd ⟨_, present, rfl⟩ unclaimed
  | consumerUndone _ => exact absurd ⟨_, present, rfl⟩ unclaimed
  | _ => exact ⟨rfl, rfl, rfl, rfl, rfl, rfl⟩

/-- A call that is attached to a dead run, or to no run yet, does nothing. -/
theorem Occurrence.harmless_of_dead {occurrence : Occurrence} {run : RunId}
    (moved : Moves occurrence.before occurrence.move occurrence.after occurrence.effects)
    (dead : occurrence.before.Dead run) (attach : occurrence.IsAttach run) :
    occurrence.IsHarmless := by
  obtain ⟨job, topic, phase, same, present, attached⟩ := attach
  obtain ⟨before, move, after, effects⟩ := occurrence
  subst same
  change Moves before (.job job) after effects at moved
  obtain ⟨_, middle, turn, rfl⟩ := moved.of_attach present
  cases turn with
  | activated turn =>
      cases attached _ _ rfl
      exact turn.harmless present dead
  | _ => exact ⟨rfl, rfl, rfl, rfl, rfl, by simp [Effect.isRequest]⟩

/-- A dead run stays dead, and the calls that are attached to it do nothing. -/
theorem History.dead_and_harmless {first now : State} {past : List Occurrence} {run : RunId}
    (history : History first past now) (dead : first.Dead run) :
    now.Dead run ∧ ∀ occurrence ∈ past, occurrence.IsAttach run → occurrence.IsHarmless := by
  induction history with
  | start => exact ⟨dead, by simp⟩
  | @move past now next move effects before step ih =>
      obtain ⟨still, harmless⟩ := ih
      have moved := step_cases step
      refine ⟨still.step moved, fun occurrence among attach => ?_⟩
      rcases List.mem_append.mp among with earlier | last
      · exact harmless occurrence earlier attach
      · cases List.mem_singleton.mp last
        exact Occurrence.harmless_of_dead moved still attach

/-! ## Stopping a bridge -/

/-- A stop winds a run down: what is in service it has still to take out of service, and until
the run is dead it stops the routes. -/
structure State.Winding (state : State) (job : JobId) (run : RunId) (phase : StopPhase) : Prop where
  present : state.jobs[job]? = some (.stop phase)
  halted : state.Halted
  stops : phase.run? = some run ∨ state.Dead run
  broker : state.broker.isStarted = true → phase.hasBroker = true
  sink : state.downstream.isOpen = true → phase.hasSink = true
  source : state.upstream.isOpen = true → phase.hasSource = true

/-- What a stop leaves in service it has still to take out of service. -/
theorem Stops.hasService {state next : State} {job : JobId} {phase after : StopPhase}
    {effects : List Effect} (turn : Stops state job phase after next effects) :
    (next.broker.isStarted = true → phase.hasBroker = true → after.hasBroker = true) ∧
      (next.downstream.isOpen = true → phase.hasSink = true → after.hasSink = true) ∧
        (next.upstream.isOpen = true → phase.hasSource = true → after.hasSource = true) := by
  cases turn with
  | entered _ _ => exact ⟨fun _ _ => rfl, fun _ _ => rfl, fun _ _ => rfl⟩
  | brokerStopped => exact ⟨by rintro ⟨⟩, fun _ => id, fun _ => id⟩
  | sinkClosed => exact ⟨fun _ => id, by rintro ⟨⟩, fun _ => id⟩
  | sourceClosed => exact ⟨fun _ => id, fun _ => id, by rintro ⟨⟩⟩
  | _ => exact ⟨fun _ => id, fun _ => id, fun _ => id⟩

/-- A stop that stops a run has just taken it out of the bridge, or did so before. -/
theorem Moves.stopping_origin {state next : State} {move : Move} {effects : List Effect}
    {job : JobId} {run : RunId} (moved : Moves state move next effects)
    (stopping : next.Stopping job run) :
    state.Stopping job run ∨
      next.running = none ∧ next.jobs[job]? = some (.stop (.stoppingBroker run)) := by
  obtain ⟨phase, present, stops⟩ := stopping
  rcases moved.jobs_origin present with was | rfl | ⟨request, _, same⟩
  · exact .inl ⟨phase, was, stops⟩
  · obtain ⟨before, middle, was, turn, rfl⟩ := moved.to_stop present
    cases turn with
    | entered _ _ =>
        cases stops
        exact .inr ⟨rfl, present⟩
    | asked => cases stops
    | idle _ _ => cases stops
    | routesDone => cases stops
    | sinkClosed => cases stops
    | sourceClosed => cases stops
    | _ => exact .inl ⟨_, was, stops⟩
  · cases request <;> cases same
    cases stops

namespace State.Winding

variable {state next : State} {job : JobId} {run : RunId} {phase : StopPhase}

/-- A stop goes on winding a run down, as long as no start comes in between. -/
theorem step {move : Move} {effects : List Effect} (winding : state.Winding job run phase)
    (shut : Shutdown state) (life : Lifecycle state) (moved : Moves state move next effects)
    (noStart : move ≠ .arrive .start) : ∃ after, next.Winding job run after := by
  have out := moved.opensNothing winding.halted.noStart
  obtain ⟨after, there, broker, sink, source⟩ : ∃ after : StopPhase,
      next.jobs[job]? = some (.stop after) ∧
        (next.broker.isStarted = true → after.hasBroker = true) ∧
          (next.downstream.isOpen = true → after.hasSink = true) ∧
            (next.upstream.isOpen = true → after.hasSource = true) := by
    -- Only the stop's own turns change what it has still to do, and nothing else opens anything.
    by_cases mine : move = .job job
    · subst mine
      obtain ⟨after, middle, turn, rfl⟩ := moved.of_stop winding.present
      obtain ⟨broker, sink, source⟩ := turn.hasService
      exact ⟨after, jobs_setJob_self (turn.jobs ▸ winding.present),
        fun up => broker up (winding.broker (out.broker up)),
        fun up => sink up (winding.sink (out.sink up)),
        fun up => source up (winding.source (out.source up))⟩
    · exact ⟨phase, moved.jobs_of_ne winding.present mine, fun up => winding.broker (out.broker up),
        fun up => winding.sink (out.sink up), fun up => winding.source (out.source up)⟩
  refine ⟨after, there, winding.halted.step moved noStart, ?_, broker, sink, source⟩
  rcases winding.stops with stops | dead
  · rcases shut.stopping_step life moved ⟨phase, winding.present, stops⟩ with
      ⟨_, also, still⟩ | dead
    · cases there.symm.trans also
      exact .inl still
    · exact .inr dead
  · exact .inr (dead.step moved)

/-- Nothing is left of the run when the stop has returned. -/
theorem quiet (winding : state.Winding job run .done) : state.Quiet run where
  dead := winding.stops.resolve_left nofun
  resting := winding.halted.resting
  broker := Bool.eq_false_iff.mpr fun up => nomatch winding.broker up
  sink := Bool.eq_false_iff.mpr fun up => nomatch winding.sink up
  source := Bool.eq_false_iff.mpr fun up => nomatch winding.source up

end State.Winding

/-- The bridge is in a run, a stop takes it out and returns, and all the while no start is in
flight. -/
structure Takedown (called : State) (meanwhile : List Occurrence) (now : State) (job : JobId)
    (run : RunId) : Prop where
  running : called.running = some run
  steady : ¬called.Has Job.isStarting
  stopping : History called meanwhile now
  noStart : ∀ occurrence ∈ meanwhile, occurrence.move ≠ .arrive .start
  takes : ∃ occurrence ∈ meanwhile, occurrence.after.Stopping job run
  returned : now.jobs[job]? = some (.stop .done)

/-- A stop winds a run down from the moment when it takes it. -/
theorem History.winding {first called now : State} {past meanwhile : List Occurrence} {job : JobId}
    {run : RunId} (history : History first past called) (unused : first.Unused)
    (untaken : ¬called.Stopping job run) (steady : ¬called.Has Job.isStarting)
    (stopping : History called meanwhile now)
    (noStart : ∀ occurrence ∈ meanwhile, occurrence.move ≠ .arrive .start) :
    (¬now.Stopping job run ∧ ∀ occurrence ∈ meanwhile, ¬occurrence.after.Stopping job run) ∨
      ∃ phase, now.Winding job run phase := by
  induction stopping with
  | start => exact .inl ⟨untaken, by simp⟩
  | @move meanwhile now next move effects before step ih =>
      have all := history.append before
      have calm : ∀ occurrence ∈ meanwhile, occurrence.move ≠ .arrive .start :=
        fun occurrence among => noStart occurrence (by simp [among])
      have moved := step_cases step
      have unstarted := noStart ⟨now, move, next, effects⟩ (by simp)
      rcases ih calm with ⟨not, never⟩ | ⟨phase, winding⟩
      · by_cases takes : next.Stopping job run
        · rcases moved.stopping_origin takes with before | ⟨resting, present⟩
          · exact absurd before not
          · -- In the turn that takes the run the stop has everything still to do.
            have none := moved.noStart_step (before.noStart steady calm).1 unstarted
            exact .inr ⟨_, present, ⟨resting, none⟩, .inl rfl, fun _ => rfl, fun _ => rfl,
              fun _ => rfl⟩
        · refine .inl ⟨takes, fun occurrence among => ?_⟩
          rcases List.mem_append.mp among with earlier | last
          · exact never occurrence earlier
          · cases List.mem_singleton.mp last
            exact takes
      · exact .inr (winding.step (all.shutdown unused) (all.lifecycle unused) moved unstarted)

/-- **Nothing is left of a run once the stop that took it has returned.**  From some moment on,
such as the call of the stop, no start is in flight; whatever calls are in flight or come
meanwhile, whatever other stops do, and whatever does not shut down cleanly.  Then the run is
dead and nothing is in service, and a producer that is open is held for another run, one that
lingers.  From then on no call that attaches a subscriber to the run has any effect, and all this
stays so, and no consumer is asked for, until the bridge is started again. -/
theorem History.quiet_after_stop {first called now : State} {past meanwhile : List Occurrence}
    {job : JobId} {run : RunId} (history : History first past called) (unused : first.Unused)
    (takedown : Takedown called meanwhile now job run) :
    now.Quiet run ∧ now.OthersProduce past run ∧
      ∀ {later : List Occurrence} {last : State}, History now later last →
        last.Dead run ∧
          (∀ occurrence ∈ later, occurrence.IsAttach run → occurrence.IsHarmless) ∧
            ((∀ occurrence ∈ later, occurrence.move ≠ .arrive .start) →
              last.Quiet run ∧ last.OthersProduce past run ∧
                ∀ occurrence ∈ later, occurrence.effects.any Effect.isRequest = false) := by
  obtain ⟨running, steady, stopping, noStart, ⟨occurrence, among, taken⟩, returned⟩ := takedown
  have untaken : ¬called.Stopping job run := fun stops => by
    have accepts := (history.lifecycle unused).running running
    simp [(history.lifecycle unused).stopping stops] at accepts
  obtain ⟨quiet, halted⟩ : now.Quiet run ∧ now.Halted := by
    rcases history.winding unused untaken steady stopping noStart with ⟨_, never⟩ | ⟨_, winding⟩
    · exact absurd taken (never occurrence among)
    · cases returned.symm.trans winding.present
      exact ⟨winding.quiet, winding.halted⟩
  have others : ∀ {later : List Occurrence} {last : State}, History called later last →
      (∀ occurrence ∈ later, occurrence.move ≠ .arrive .start) → last.Quiet run →
        last.OthersProduce past run := by
    intro later last rest unstarted still topic isOpen
    obtain ⟨other, lingers, produces⟩ :=
      history.lingers unused steady rest unstarted still.resting isOpen
    exact ⟨other, fun same => still.dead.not_produces (same ▸ produces), lingers, produces⟩
  refine ⟨quiet, others stopping noStart quiet, fun {later last} rest => ?_⟩
  obtain ⟨dead, harmless⟩ := rest.dead_and_harmless quiet.dead
  refine ⟨dead, harmless, fun unstarted => ?_⟩
  obtain ⟨_, still⟩ := rest.halted (P := fun state => state.Quiet run) halted unstarted quiet
    fun halts was moved _ => was.step halts moved
  refine ⟨still, others (stopping.append rest) (fun occurrence among => ?_) still,
    (history.append stopping).silent unused halted rest unstarted⟩
  exact (List.mem_append.mp among).elim (noStart occurrence) (unstarted occurrence)

/-! ### Takedowns that are written down -/

/-- A stop that has returned. -/
def Job.isStopped : Job → Bool
  | .stop .done => true
  | _ => false

theorem Job.isStopped_iff {job : Job} : job.isStopped = true ↔ job = .stop .done := by
  unfold Job.isStopped
  split <;> simp_all

/-- A stop that is stopping the routes of a run. -/
def Job.stops (run : RunId) : Job → Bool
  | .stop phase => phase.run? == some run
  | _ => false

theorem State.stopping_iff_any {state : State} {job : JobId} {run : RunId} :
    state.Stopping job run ↔ state.jobs[job]?.any (Job.stops run) = true := by
  rw [Option.any_eq_true]
  constructor
  · rintro ⟨phase, present, stops⟩
    exact ⟨_, present, by simp [Job.stops, stops]⟩
  · rintro ⟨found, present, stops⟩
    cases found with
    | stop phase => exact ⟨phase, present, by simpa [Job.stops] using stops⟩
    | _ => cases stops

/-- The bridge is started. -/
def Move.isStart : Move → Bool
  | .arrive .start => true
  | _ => false

theorem Move.isStart_iff {move : Move} : move.isStart = true ↔ move = .arrive .start := by
  unfold Move.isStart
  split <;> simp_all

/-- Whether a stop takes a run out and returns in what has happened. -/
def isTakedown (called : State) (meanwhile : List Occurrence) (now : State) (job : JobId)
    (run : RunId) : Bool :=
  called.running == some run && !called.jobs.any Job.isStarting &&
    !meanwhile.any (·.move.isStart) &&
      meanwhile.any (fun occurrence => occurrence.after.jobs[job]?.any (Job.stops run)) &&
        now.jobs[job]?.any Job.isStopped

theorem Takedown.of_check {called now : State} {meanwhile : List Occurrence} {job : JobId}
    {run : RunId} (stopping : History called meanwhile now)
    (checked : isTakedown called meanwhile now job run = true) :
    Takedown called meanwhile now job run := by
  simp only [isTakedown, Bool.and_eq_true, beq_iff_eq, Bool.not_eq_true'] at checked
  obtain ⟨⟨⟨⟨running, steady⟩, noStart⟩, takes⟩, answered⟩ := checked
  obtain ⟨occurrence, among, stops⟩ := List.any_eq_true.mp takes
  obtain ⟨found, present, stopped⟩ := (Option.any_eq_true ..).mp answered
  refine ⟨running, by simp [State.has_iff_any, steady], stopping, fun other member starts => ?_,
    ⟨occurrence, among, State.stopping_iff_any.mpr stops⟩,
    present.trans (congrArg some (Job.isStopped_iff.mp stopped))⟩
  exact List.any_eq_false.mp noStart other member (Move.isStart_iff.mpr starts)

/-- A stop, none of whose parts shuts down cleanly, is called while one call waits for a consumer,
one for the guard of the same route, and one is between two routes.  The first goes on to start its
route, and the last waits for the guard still when the stop has returned. -/
theorem nothing_left_of_unclean_stop :
    ∃ past called meanwhile now,
      History (State.scripted ["CWMS_20.SPK_A", "CWMS_20.SPK_B"]) past called ∧
        called.upstream.failClose = true ∧ called.downstream.failClose = true ∧
          called.broker.failStop = true ∧ Takedown called meanwhile now 4 0 ∧
            now.relays.length = 2 ∧ now.Quiet 0 ∧ now.downstream.producers = [] := by
  obtain ⟨past, called, history, checked⟩ :=
    History.exists_of_record (State.scripted ["CWMS_20.SPK_A", "CWMS_20.SPK_B"])
      (startMoves 0 ++ .arrive (.attach "CDA.SPK.ALL") :: List.replicate 8 (.job 1) ++
        [.change (.delayConsumers 10), .arrive (.attach "CDA.SPK.B"), .job 2, .job 2, .job 2,
          .job 2, .arrive (.attach "CDA.SPK.B"), .job 3, .job 3, .job 3,
          .change (.switch .brokerStop true), .change (.switch .sinkClose true),
          .change (.switch .sourceClose true)])
      (fun _ called => called.upstream.failClose && called.downstream.failClose &&
        called.broker.failStop &&
          (called.record (.arrive .stop :: List.replicate 5 (.job 4) ++
            List.replicate 5 (.relay 0 true) ++ [.job 4, .job 4, .job 1, .wait 10] ++
              List.replicate 5 (.job 2) ++ [.job 3, .job 4] ++
                List.replicate 5 (.relay 1 true) ++ List.replicate 4 (.job 4))).any
            fun reached => isTakedown called reached.1 reached.2 4 0 &&
              reached.2.relays.length == 2 && reached.2.runs.length == 1) rfl
  simp only [Bool.and_eq_true, beq_iff_eq, Option.any_eq_true, Prod.exists] at checked
  obtain ⟨⟨⟨source, sink⟩, broker⟩, meanwhile, now, recorded, ⟨taken, relays⟩, runs⟩ := checked
  have takedown := Takedown.of_check (.of_record recorded) taken
  have unused := State.scripted_unused ["CWMS_20.SPK_A", "CWMS_20.SPK_B"]
  obtain ⟨quiet, producers, _⟩ := history.quiet_after_stop unused takedown
  refine ⟨past, called, meanwhile, now, history, source, sink, broker, takedown, relays, quiet, ?_⟩
  rw [List.eq_nil_iff_forall_not_mem]
  intro topic isOpen
  -- There is only one run, so no other holds a producer.
  obtain ⟨other, different, _, produces⟩ := producers topic isOpen
  have bound := produces.lt ((history.append takedown.stopping).ownership unused)
  exact different (by simpa [runs] using bound)

/-- **A stop leaves what it has not taken.**  In the first two histories the bridge is started
twice and has a subscriber in its first run, and the stop of the second run leaves the producer of
the first.  First because another stop is still stopping that run: it waits for a route that a call
is starting.  Then because the first start has given the run up: the broker has attached the
subscriber and does not start.  In the last history two stops are called at once, and the one that
does not take the run returns while the broker is started still. -/
theorem stop_leaves_what_it_has_not_taken :
    (∃ past called meanwhile now, History (State.scripted ["A", "B"]) past called ∧
      Takedown called meanwhile now 5 1 ∧ now.Stopping 3 0 ∧ now.downstream.producers = ["B"]) ∧
    (∃ past called meanwhile now, History (State.scripted ["A", "B"]) past called ∧
      Takedown called meanwhile now 3 1 ∧ ¬now.Has Job.isStopping ∧
        now.downstream.producers = ["B"]) ∧
    ∃ past called meanwhile now, History (State.scripted ["A", "B"]) past called ∧
      called.running = some 0 ∧ ¬called.Has Job.isStarting ∧
        History (called.arrive .stop) meanwhile now ∧
        (∀ occurrence ∈ meanwhile, occurrence.move ≠ .arrive .start) ∧
          now.jobs[called.jobs.length]? = some (.stop .done) ∧ now.broker.isStarted = true := by
  refine ⟨?_, ?_, ?_⟩
  · obtain ⟨past, called, history, checked⟩ := History.exists_of_record (State.scripted ["A", "B"])
      (startMoves 0 ++ .arrive (.attach "B") :: List.replicate 8 (.job 1) ++
        [.change (.delayConsumers 1000), .arrive (.attach "A"), .job 2, .job 2, .job 2, .job 2,
          .arrive .stop, .job 3, .job 3, .job 3, .job 3] ++ startMoves 4)
      (fun _ called => (called.record (.arrive .stop :: List.replicate 10 (.job 5))).any
        fun reached => isTakedown called reached.1 reached.2 5 1 &&
          reached.2.jobs[3]?.any (Job.stops 0) && reached.2.downstream.producers == ["B"]) rfl
    obtain ⟨⟨meanwhile, now⟩, recorded, passed⟩ := (Option.any_eq_true ..).mp checked
    simp only [Bool.and_eq_true, beq_iff_eq] at passed
    obtain ⟨⟨taken, stopping⟩, producers⟩ := passed
    exact ⟨past, called, meanwhile, now, history, .of_check (.of_record recorded) taken,
      State.stopping_iff_any.mpr stopping, producers⟩
  · obtain ⟨past, called, history, checked⟩ := History.exists_of_record (State.scripted ["A", "B"])
      (.arrive .start :: List.replicate 8 (.job 0) ++ .arrive (.notify 0 "B") ::
        List.replicate 7 (.job 1) ++ [.change (.switch .brokerStart true), .job 0, .job 0, .job 0,
          .change (.switch .brokerStart false)] ++ startMoves 2)
      (fun _ called => (called.record (.arrive .stop :: List.replicate 10 (.job 3))).any
        fun reached => isTakedown called reached.1 reached.2 3 1 &&
          !reached.2.jobs.any Job.isStopping && reached.2.downstream.producers == ["B"]) rfl
    obtain ⟨⟨meanwhile, now⟩, recorded, passed⟩ := (Option.any_eq_true ..).mp checked
    simp only [Bool.and_eq_true, beq_iff_eq, Bool.not_eq_true'] at passed
    obtain ⟨⟨taken, finished⟩, producers⟩ := passed
    exact ⟨past, called, meanwhile, now, history, .of_check (.of_record recorded) taken,
      by simp [State.has_iff_any, finished], producers⟩
  · obtain ⟨past, called, history, checked⟩ := History.exists_of_record (State.scripted ["A", "B"])
      (startMoves 0)
      (fun _ called => called.running == some 0 && !called.jobs.any Job.isStarting &&
        ((called.arrive .stop).record [.arrive .stop, .job 2, .job 1, .job 2, .job 1]).any
          fun reached => !reached.1.any (·.move.isStart) &&
            reached.2.jobs[called.jobs.length]?.any Job.isStopped &&
              reached.2.broker.isStarted) rfl
    simp only [Bool.and_eq_true, beq_iff_eq, Bool.not_eq_true'] at checked
    obtain ⟨⟨running, steady⟩, stops⟩ := checked
    obtain ⟨⟨meanwhile, now⟩, recorded, passed⟩ := (Option.any_eq_true ..).mp stops
    simp only [Bool.and_eq_true, Bool.not_eq_true', Option.any_eq_true, Job.isStopped_iff,
      exists_eq_right] at passed
    obtain ⟨⟨noStart, returned⟩, started⟩ := passed
    exact ⟨past, called, meanwhile, now, history, running, by simp [State.has_iff_any, steady],
      .of_record recorded, fun occurrence among starts =>
        List.any_eq_false.mp noStart occurrence among (Move.isStart_iff.mpr starts),
      returned, started⟩

end TopicRelay
