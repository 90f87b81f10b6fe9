import TopicRelay.Proofs.Lifecycle

/-!
# Who has a connection open

The broker, the connection to the topics and the connection to the queues are each put into
service by a start and taken out of service by a stop.  `Connectivity` says that none of
them is in service without someone who is going to take it out again: the bridge is
running, or a start or a stop is in a phase that has it still to close.  This holds however
starts and stops overlap.

The converse fails when a start opens its connections while a stop has still to close those
of the run before: the stop then closes what the start has opened.
-/

namespace TopicRelay

set_option autoImplicit false

/-! ## The phases that have something still to close -/

/-- A stop that has the broker still to stop. -/
def StopPhase.hasBroker : StopPhase → Bool
  | .stoppingBroker _ => true
  | _ => false

/-- A stop that has the connection to the topics still to close. -/
def StopPhase.hasSink : StopPhase → Bool
  | .stoppingBroker _ | .approaching _ _ | .claiming _ _ _ | .joining _ _ _ _ | .closingSink => true
  | _ => false

/-- A stop that has the connection to the queues still to close. -/
def StopPhase.hasSource : StopPhase → Bool
  | .arriving | .queued | .done => false
  | _ => true

/-- A start that has opened the connection to the topics. -/
def StartPhase.hasSink : StartPhase → Bool
  | .discovering _ | .installing _ | .startingBroker _ | .releasingSink _ => true
  | _ => false

/-- A start that has opened the connection to the queues. -/
def StartPhase.hasSource : StartPhase → Bool
  | .openingSink _ _ | .closingSource _ | .discovering _ | .installing _ | .startingBroker _
  | .releasingSink _ | .releasingSource _ => true
  | _ => false

/-- A start that has no answer yet. -/
def Job.isStarting : Job → Bool
  | .start (.done _) => false
  | .start _ => true
  | _ => false

/-- A stop that has not returned yet. -/
def Job.isStopping : Job → Bool
  | .stop .done => false
  | .stop _ => true
  | _ => false

/-- A call that has the broker still to stop. -/
def Job.hasBroker : Job → Bool
  | .stop phase => phase.hasBroker
  | _ => false

/-- A call that has the connection to the topics still to close, or has opened it. -/
def Job.hasSink : Job → Bool
  | .start phase => phase.hasSink
  | .stop phase => phase.hasSink
  | .attach _ _ => false

/-- A call that has the connection to the queues still to close, or has opened it. -/
def Job.hasSource : Job → Bool
  | .start phase => phase.hasSource
  | .stop phase => phase.hasSource
  | .attach _ _ => false

theorem StartPhase.underWay_of_hasSource {phase : StartPhase} (has : phase.hasSource = true) :
    phase.underWay = true := by
  cases phase <;> first | rfl | cases has

theorem StartPhase.hasSource_of_hasSink {phase : StartPhase} (has : phase.hasSink = true) :
    phase.hasSource = true := by
  cases phase <;> first | rfl | cases has

theorem Job.hasSource_of_hasSink {job : Job} (has : job.hasSink = true) : job.hasSource = true := by
  cases job with
  | start phase => exact StartPhase.hasSource_of_hasSink has
  | stop phase => cases phase <;> first | rfl | cases has
  | attach _ _ => cases has

theorem Job.hasSource_of_hasBroker {job : Job} (has : job.hasBroker = true) :
    job.hasSource = true := by
  cases job with
  | stop phase => cases phase <;> first | rfl | cases has
  | _ => cases has

theorem Job.inFlight_of_hasSource {job : Job} (has : job.hasSource = true) :
    job.isStarting = true ∨ job.isStopping = true := by
  cases job with
  | start phase => cases phase <;> first | exact .inl rfl | cases has
  | stop phase => cases phase <;> first | exact .inr rfl | cases has
  | attach _ _ => cases has

namespace State

variable {state next : State} {job id : JobId} {flag : Job → Bool}

/-- Some call is in a phase of a certain kind. -/
def Has (state : State) (flag : Job → Bool) : Prop :=
  ∃ (job : JobId) (found : Job), state.jobs[job]? = some found ∧ flag found = true

theorem has_iff_any :
    state.Has flag ↔ state.jobs.any flag = true := by
  simp only [State.Has, List.any_eq_true, List.mem_iff_getElem?]
  constructor
  · rintro ⟨job, found, present, flagged⟩
    exact ⟨found, ⟨job, present⟩, flagged⟩
  · rintro ⟨found, ⟨job, present⟩, flagged⟩
    exact ⟨job, found, present, flagged⟩

theorem has_setJob_self {before after : Job} (present : state.jobs[job]? = some before)
    (flagged : flag after = true) : (state.setJob job after).Has flag :=
  ⟨job, after, jobs_setJob_self present, flagged⟩

theorem has_setJob {before after : Job} (has : state.Has flag)
    (present : state.jobs[job]? = some before) (keeps : flag before = true → flag after = true) :
    (state.setJob job after).Has flag := by
  obtain ⟨id, found, there, flagged⟩ := has
  by_cases same : id = job
  · subst same
    cases present.symm.trans there
    exact has_setJob_self present (keeps flagged)
  · exact ⟨id, found, (jobs_setJob_of_ne same).trans there, flagged⟩

theorem has_congr (same : next.jobs = state.jobs) (has : state.Has flag) : next.Has flag := by
  rwa [Has, same]

theorem has_arrive (request : Request) (has : state.Has flag) :
    (state.arrive request).Has flag := by
  obtain ⟨id, found, there, flagged⟩ := has
  exact ⟨id, found, getElem?_concat_eq_some.mpr (.inl there), flagged⟩

end State

/-- Only a start that has no answer yet has turns. -/
theorem Starts.isStarting {state next : State} {job : JobId} {phase after : StartPhase}
    {effects : List Effect} (turn : Starts state job phase after next effects) :
    (Job.start phase).isStarting = true := by
  cases turn <;> rfl

/-- No start is in flight until one arrives. -/
theorem Moves.noStart_step {state next : State} {move : Move} {effects : List Effect}
    (moved : Moves state move next effects) (none : ¬state.Has Job.isStarting)
    (noStart : move ≠ .arrive .start) : ¬next.Has Job.isStarting := by
  rintro ⟨job, found, present, starting⟩
  rcases moved.jobs_origin present with was | rfl | ⟨request, rfl, rfl⟩
  · exact none ⟨job, found, was, starting⟩
  · cases found with
    | start after =>
        obtain ⟨phase, middle, was, turn, _⟩ := moved.to_start present
        exact none ⟨job, _, was, turn.isStarting⟩
    | _ => cases starting
  · cases request with
    | start => exact noStart rfl
    | _ => cases starting

/-- Only a stop that has not returned has turns. -/
theorem Stops.isStopping {state next : State} {job : JobId} {phase after : StopPhase}
    {effects : List Effect} (turn : Stops state job phase after next effects) :
    (Job.stop phase).isStopping = true := by
  cases turn <;> rfl

/-- No stop is in flight until one arrives. -/
theorem Moves.noStop_step {state next : State} {move : Move} {effects : List Effect}
    (moved : Moves state move next effects) (none : ¬state.Has Job.isStopping)
    (noStop : move ≠ .arrive .stop) : ¬next.Has Job.isStopping := by
  rintro ⟨job, found, present, stopping⟩
  rcases moved.jobs_origin present with was | rfl | ⟨request, rfl, rfl⟩
  · exact none ⟨job, found, was, stopping⟩
  · cases found with
    | stop after =>
        obtain ⟨phase, middle, was, turn, _⟩ := moved.to_stop present
        exact none ⟨job, _, was, turn.isStopping⟩
    | _ => cases stopping
  · cases request with
    | stop => exact noStop rfl
    | _ => cases stopping

/-! ## The connections themselves -/

theorem isOpen_deliver (upstream : Upstream) (queue : String) (delivery : Delivery) :
    (upstream.deliver queue delivery).isOpen = upstream.isOpen := by
  unfold Upstream.deliver
  cases upstream.queues.get? queue <;> rfl

theorem isOpen_takeMailbox (upstream : Upstream) (queue : String) :
    (upstream.takeMailbox queue).1.isOpen = upstream.isOpen := by
  unfold Upstream.takeMailbox
  cases upstream.queues.get? queue with
  | none => rfl
  | some queueEnd =>
      dsimp only
      split <;> rfl

theorem isOpen_consume (upstream : Upstream) (subscription : Subscription) :
    (upstream.consume subscription).2.isOpen = upstream.isOpen := by
  unfold Upstream.consume
  split
  · rfl
  · split
    · rfl
    · exact isOpen_takeMailbox upstream subscription.queue

theorem isOpen_produce {downstream produced : Downstream} {topic : String}
    (opened : downstream.produce topic = .ok produced) : produced.isOpen = downstream.isOpen := by
  unfold Downstream.produce at opened
  split at opened
  · cases opened
  · split at opened
    · cases opened
    · split at opened <;> cases opened
      rfl

theorem isOpen_send {downstream sent : Downstream} {topic payload : String}
    (accepted : downstream.send topic payload = .ok sent) : sent.isOpen = downstream.isOpen := by
  unfold Downstream.send at accepted
  split at accepted <;> cases accepted
  rfl

theorem isOpen_connect_upstream {upstream opened : Upstream} {clientId : String}
    (connected : upstream.connect clientId = .ok opened) : opened.isOpen = true := by
  unfold Upstream.connect at connected
  split at connected <;> cases connected
  rfl

theorem isOpen_connect_downstream {downstream opened : Downstream} {key : ServiceCredential}
    (connected : downstream.connect key = (.ok (), opened)) : opened.isOpen = true := by
  unfold Downstream.connect at connected
  dsimp only at connected
  split at connected <;> cases connected
  rfl

theorem isOpen_connect_refused {downstream refused : Downstream} {key : ServiceCredential}
    {failure : TransportFailure} (answer : downstream.connect key = (.error failure, refused)) :
    refused.isOpen = downstream.isOpen := by
  unfold Downstream.connect at answer
  dsimp only at answer
  split at answer <;> cases answer
  rfl

theorem isStarted_start {broker started : Broker} (starts : broker.start = .ok started) :
    started.isStarted = true := by
  unfold Broker.start at starts
  split at starts
  · cases starts
  · split at starts <;> cases starts
    rfl

/-- The broker and the two connections are in service as before. -/
structure KeepsService (state next : State) : Prop where
  broker : next.broker.isStarted = state.broker.isStarted
  sink : next.downstream.isOpen = state.downstream.isOpen
  source : next.upstream.isOpen = state.upstream.isOpen

theorem Activates.keepsService {state next : State} {job : JobId} {run : RunId} {topic : String}
    {phase : ActivationPhase} {advance : Advance ActivationPhase (Except ActivationFailure Unit)}
    {effects : List Effect} (turn : Activates state job run topic phase advance next effects) :
    KeepsService state next := by
  cases turn with
  | @connected place ahead due route mailbox upstream here consumed =>
      have same := isOpen_consume state.upstream (state.subscription route)
      rw [consumed] at same
      exact ⟨rfl, rfl, same⟩
  | @unconnected place ahead due route failure upstream here refused =>
      have same := isOpen_consume state.upstream (state.subscription route)
      rw [refused] at same
      exact ⟨rfl, rfl, same⟩
  | produced produced => exact ⟨rfl, isOpen_produce produced, rfl⟩
  | _ => exact ⟨rfl, rfl, rfl⟩

theorem Attaches.keepsService {state next : State} {job : JobId} {topic : String}
    {phase after : AttachPhase} {effects : List Effect}
    (turn : Attaches state job topic phase after next effects) : KeepsService state next := by
  cases turn with
  | activated turn => exact turn.keepsService
  | _ => exact ⟨rfl, rfl, rfl⟩

theorem Forwards.keepsService {state next : State} {relay : RelayId} {found : Relay}
    {effects : List Effect} (turn : Forwards state relay found next effects) :
    KeepsService state next := by
  cases turn with
  | sent _ accepted => exact ⟨rfl, isOpen_send accepted, rfl⟩
  | _ => exact ⟨rfl, rfl, rfl⟩

theorem change_keepsService (state : State) (change : Change) :
    KeepsService state (state.change change) := by
  have outside := change_fromOutside state change
  refine ⟨outside.broker, outside.sink, ?_⟩
  rcases outside.upstream with ⟨queue, delivery, same⟩ | ⟨same, _⟩
  · rw [same, isOpen_deliver]
  · exact same

/-- Nothing has been put into service. -/
structure OpensNothing (state next : State) : Prop where
  broker : next.broker.isStarted = true → state.broker.isStarted = true
  sink : next.downstream.isOpen = true → state.downstream.isOpen = true
  source : next.upstream.isOpen = true → state.upstream.isOpen = true

theorem KeepsService.opensNothing {state next : State} (service : KeepsService state next) :
    OpensNothing state next :=
  ⟨service.broker.symm.trans, service.sink.symm.trans, service.source.symm.trans⟩

theorem Stops.opensNothing {state next : State} {job : JobId} {phase after : StopPhase}
    {effects : List Effect} (turn : Stops state job phase after next effects) :
    OpensNothing state next := by
  cases turn with
  | brokerStopped => exact ⟨by rintro ⟨⟩, id, id⟩
  | sinkClosed => exact ⟨id, by rintro ⟨⟩, id⟩
  | sourceClosed => exact ⟨id, id, by rintro ⟨⟩⟩
  | _ => exact ⟨id, id, id⟩

/-- Only a start puts anything into service. -/
theorem Moves.opensNothing {state next : State} {move : Move} {effects : List Effect}
    (moved : Moves state move next effects) (steady : ¬state.Has Job.isStarting) :
    OpensNothing state next := by
  cases moved with
  | start present turn => exact absurd ⟨_, _, present, turn.isStarting⟩ steady
  | stop _ turn =>
      have out := turn.opensNothing
      exact ⟨out.broker, out.sink, out.source⟩
  | attach _ turn =>
      have out := turn.keepsService.opensNothing
      exact ⟨out.broker, out.sink, out.source⟩
  | relay _ turn => exact turn.keepsService.opensNothing
  | @change change => exact (change_keepsService state change).opensNothing
  | closeSource => exact ⟨id, id, by rintro ⟨⟩⟩
  | closeSink => exact ⟨id, by rintro ⟨⟩, id⟩
  | _ => exact ⟨id, id, id⟩

/-! ## What is in service is going to be taken out of service -/

/-- Whatever is in service belongs to a bridge that runs, or to a call that closes it. -/
structure Connectivity (state : State) : Prop where
  broker : state.broker.isStarted = true → state.running.isSome = true ∨ state.Has Job.hasBroker
  sink : state.downstream.isOpen = true → state.running.isSome = true ∨ state.Has Job.hasSink
  source : state.upstream.isOpen = true → state.running.isSome = true ∨ state.Has Job.hasSource

namespace Connectivity

variable {state next : State} {job : JobId}

theorem of_unused (unused : state.Unused) : Connectivity state where
  broker := fun started => by simp [unused.brokerStopped] at started
  sink := fun opened => by simp [unused.sinkClosed] at opened
  source := fun opened => by simp [unused.sourceClosed] at opened

/-- A job goes on: what it puts into service it has to close, or the bridge runs. -/
theorem advance {before after : Job} (kept : Connectivity state)
    (present : state.jobs[job]? = some before) (jobs : next.jobs = state.jobs)
    (running : state.running.isSome = true → next.running.isSome = true ∨
      after.hasBroker = true ∧ after.hasSink = true ∧ after.hasSource = true)
    (broker : next.broker.isStarted = true → next.running.isSome = true ∨
      state.broker.isStarted = true ∧ (before.hasBroker = true → after.hasBroker = true))
    (sink : next.downstream.isOpen = true → after.hasSink = true ∨ next.running.isSome = true ∨
      state.downstream.isOpen = true ∧ (before.hasSink = true → after.hasSink = true))
    (source : next.upstream.isOpen = true → after.hasSource = true ∨
      next.running.isSome = true ∨
        state.upstream.isOpen = true ∧ (before.hasSource = true → after.hasSource = true)) :
    Connectivity (next.setJob job after) := by
  have there : next.jobs[job]? = some before := jobs ▸ present
  have owes : ∀ {flag : Job → Bool},
      (state.running.isSome = true → next.running.isSome = true ∨ flag after = true) →
        (flag after = true ∨ next.running.isSome = true ∨
          (state.running.isSome = true ∨ state.Has flag) ∧
            (flag before = true → flag after = true)) →
          next.running.isSome = true ∨ (next.setJob job after).Has flag := by
    intro flag running owed
    rcases owed with flagged | runs | ⟨runs | has, keeps⟩
    · exact .inr (State.has_setJob_self there flagged)
    · exact .inl runs
    · exact (running runs).imp_right (State.has_setJob_self there)
    · exact .inr (State.has_setJob (State.has_congr jobs has) there keeps)
  refine ⟨fun started => ?_, fun opened => ?_, fun opened => ?_⟩
  · apply owes (fun runs => (running runs).imp_right fun flagged => flagged.1)
    exact .inr ((broker started).imp_right (And.imp_left kept.broker))
  · apply owes (fun runs => (running runs).imp_right fun flagged => flagged.2.1)
    exact (sink opened).imp_right (Or.imp_right (And.imp_left kept.sink))
  · apply owes (fun runs => (running runs).imp_right fun flagged => flagged.2.2)
    exact (source opened).imp_right (Or.imp_right (And.imp_left kept.source))

/-- A job goes on and leaves everything in service that was. -/
theorem onward {before after : Job} (kept : Connectivity state)
    (present : state.jobs[job]? = some before) (jobs : next.jobs = state.jobs)
    (running : next.running = state.running) (service : KeepsService state next)
    (broker : before.hasBroker = true → after.hasBroker = true)
    (sink : before.hasSink = true → after.hasSink = true)
    (source : before.hasSource = true → after.hasSource = true) :
    Connectivity (next.setJob job after) :=
  kept.advance present jobs (fun runs => .inl (running ▸ runs))
    (fun started => .inr ⟨service.broker ▸ started, broker⟩)
    (fun opened => .inr (.inr ⟨service.sink ▸ opened, sink⟩))
    (fun opened => .inr (.inr ⟨service.source ▸ opened, source⟩))

/-- Nothing is put into service, and no job goes on. -/
theorem keep (kept : Connectivity state) (running : next.running = state.running)
    (has : ∀ {flag : Job → Bool}, state.Has flag → next.Has flag)
    (out : OpensNothing state next) : Connectivity next where
  broker := fun started => (kept.broker (out.broker started)).imp (fun runs => running ▸ runs) has
  sink := fun opened => (kept.sink (out.sink opened)).imp (fun runs => running ▸ runs) has
  source := fun opened => (kept.source (out.source opened)).imp (fun runs => running ▸ runs) has

/-- The turn of a start. -/
theorem start_step {phase after : StartPhase} {effects : List Effect} (kept : Connectivity state)
    (present : state.jobs[job]? = some (.start phase))
    (turn : Starts state job phase after next effects) :
    Connectivity (next.setJob job (.start after)) := by
  cases turn with
  | sourceOpened _ =>
      exact kept.advance present rfl .inl (fun started => .inr ⟨started, id⟩)
        (fun opened => .inr (.inr ⟨opened, id⟩)) (fun _ => .inl rfl)
  | sinkOpened _ =>
      exact kept.advance present rfl .inl (fun started => .inr ⟨started, id⟩)
        (fun _ => .inl rfl) (fun opened => .inr (.inr ⟨opened, id⟩))
  | sinkUnopened refused =>
      exact kept.onward present rfl rfl ⟨rfl, isOpen_connect_refused refused, rfl⟩ id id id
  | sourceGivenUp =>
      exact kept.advance present rfl .inl (fun started => .inr ⟨started, id⟩)
        (fun opened => .inr (.inr ⟨opened, id⟩)) (by rintro ⟨⟩)
  | brokerStarted _ =>
      exact kept.advance present rfl (fun _ => .inl rfl) (fun _ => .inl rfl)
        (fun _ => .inr (.inl rfl)) (fun _ => .inr (.inl rfl))
  | sinkGivenUp =>
      exact kept.advance present rfl .inl (fun started => .inr ⟨started, id⟩) (by rintro ⟨⟩)
        (fun opened => .inr (.inr ⟨opened, id⟩))
  | allGivenUp =>
      exact kept.advance present rfl .inl (fun started => .inr ⟨started, id⟩)
        (fun opened => .inr (.inr ⟨opened, id⟩)) (by rintro ⟨⟩)
  | _ => exact kept.onward present rfl rfl ⟨rfl, rfl, rfl⟩ id id id

/-- The turn of a stop. -/
theorem stop_step {phase after : StopPhase} {effects : List Effect} (kept : Connectivity state)
    (present : state.jobs[job]? = some (.stop phase))
    (turn : Stops state job phase after next effects) :
    Connectivity (next.setJob job (.stop after)) := by
  cases turn with
  | entered _ _ =>
      exact kept.advance present rfl (fun _ => .inr ⟨rfl, rfl, rfl⟩)
        (fun started => .inr ⟨started, fun _ => rfl⟩) (fun _ => .inl rfl) (fun _ => .inl rfl)
  | brokerStopped =>
      exact kept.advance present rfl .inl (by rintro ⟨⟩)
        (fun opened => .inr (.inr ⟨opened, id⟩)) (fun opened => .inr (.inr ⟨opened, id⟩))
  | sinkClosed =>
      exact kept.advance present rfl .inl (fun started => .inr ⟨started, id⟩) (by rintro ⟨⟩)
        (fun opened => .inr (.inr ⟨opened, id⟩))
  | sourceClosed =>
      exact kept.advance present rfl .inl (fun started => .inr ⟨started, id⟩)
        (fun opened => .inr (.inr ⟨opened, id⟩)) (by rintro ⟨⟩)
  | _ => exact kept.onward present rfl rfl ⟨rfl, rfl, rfl⟩ id id id

/-- **Every move keeps the invariant.** -/
theorem step {move : Move} {effects : List Effect} (kept : Connectivity state)
    (moved : Moves state move next effects) : Connectivity next := by
  cases moved with
  | start present turn => exact kept.start_step present turn
  | stop present turn => exact kept.stop_step present turn
  | attach present turn =>
      have leaves := turn.leavesBridge
      exact kept.onward present leaves.jobs leaves.running turn.keepsService id id id
  | relay _ turn =>
      exact kept.keep turn.leavesBridge.running (State.has_congr turn.leavesBridge.jobs)
        turn.keepsService.opensNothing
  | arrive => exact kept.keep rfl (State.has_arrive _) ⟨id, id, id⟩
  | @change change =>
      have leaves := change_leavesBridge state change
      exact kept.keep leaves.running (State.has_congr leaves.jobs)
        (change_keepsService state change).opensNothing
  | forget _ => exact kept.keep rfl id ⟨id, id, id⟩
  | closeSource => exact kept.keep rfl id ⟨id, id, by rintro ⟨⟩⟩
  | closeSink => exact kept.keep rfl id ⟨id, by rintro ⟨⟩, id⟩
  | wait => exact kept.keep rfl id ⟨id, id, id⟩

/-- Where the bridge is in no run and no call has anything to close, nothing is in service. -/
theorem outOfService (kept : Connectivity state) (resting : state.running = none)
    (closed : ¬state.Has Job.hasSource) :
    state.broker.isStarted = false ∧ state.downstream.isOpen = false ∧
      state.upstream.isOpen = false := by
  have down : ∀ {up : Bool} {flag : Job → Bool},
      (up = true → state.running.isSome = true ∨ state.Has flag) →
        (∀ job, flag job = true → job.hasSource = true) → up = false := by
    intro up flag owed has
    cases up with
    | false => rfl
    | true =>
        rcases owed rfl with runs | ⟨job, found, present, flagged⟩
        · simp [resting] at runs
        · exact absurd ⟨job, found, present, has found flagged⟩ closed
  exact ⟨down kept.broker fun _ => Job.hasSource_of_hasBroker,
    down kept.sink fun _ => Job.hasSource_of_hasSink, down kept.source fun _ => id⟩

end Connectivity

/-- The invariant holds after every history. -/
theorem History.connectivity {first now : State} {past : List Occurrence}
    (history : History first past now) (unused : first.Unused) : Connectivity now :=
  history.preserves (.of_unused unused) fun kept step => kept.step (step_cases step)

end TopicRelay
