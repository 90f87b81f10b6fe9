import TopicRelay.Proofs.Buffering
import TopicRelay.Proofs.Overlap
import TopicRelay.Proofs.Setup

/-!
# A restart forgets what came before

A bridge is stopped, and a start brings it up again.  What the bridge then shows depends on its
settings and on what the catalog answered alone (`Face.started`), whatever came before: starts that
failed, subscribers, deliveries, injected failures, connections that others have closed.

Two invariants carry this.  A bridge that is stopped is out of service (`State.OutOfService`), and
no mailbox of a queue stays taken over once the connection to the queues is closed.  `Ascent` then
follows the start turn by turn, with what it has put into service so far
(`StartPhase.Reached`).  `restart_forgets` compares two bridges.

Something does differ: what was stored, written down or injected, and that includes what the topics
have kept (`records_outlast_restart`).
-/

namespace TopicRelay

set_option autoImplicit false

/-! ## Mailboxes that are taken over -/

section

variable {state next : State} {move : Move} {effects : List Effect} {queue : String}

/-- Only a call that is attached takes the mailbox of a queue over, and the connection to the queues
is open then. -/
theorem Moves.isTaken_origin (moved : Moves state move next effects)
    (taken : next.upstream.isTaken queue = true) :
    state.upstream.isTaken queue = true ∨ state.upstream.isOpen = true ∧
      ∃ job topic phase, move = .job job ∧ state.jobs[job]? = some (.attach topic phase) := by
  have still : next.upstream.queues = state.upstream.queues →
      state.upstream.isTaken queue = true := by
    intro same
    rwa [Upstream.isTaken, same] at taken
  cases moved.handling with
  | kept _ queues _ _ => exact .inl (still queues)
  | @delivered other delivery is same _ =>
      subst same
      left
      change (state.upstream.deliver other delivery).isTaken queue = true at taken
      rw [Upstream.isTaken, Upstream.get?_deliver] at taken
      cases found : state.upstream.queues.get? queue with
      | some queueEnd => simpa [Upstream.isTaken, found] using taken
      | none =>
          rw [found, Option.none_or] at taken
          split at taken <;> cases taken
  | received _ _ _ same _ => exact .inl (still (same ▸ rfl))
  | left _ _ _ same _ => exact .inl (still (same ▸ rfl))
  | undone _ _ same _ => exact .inl (still (same ▸ rfl))
  | connected mine present _ consumed _ _ =>
      refine .inr ⟨?_, _, _, _, mine, present⟩
      cases opened : state.upstream.isOpen with
      | true => rfl
      | false => simp [Upstream.consume, opened] at consumed
  | disconnected same _ _ _ =>
      rw [same] at taken
      cases taken

/-- Whoever closes the connection to the queues leaves no queue. -/
theorem Moves.queues_of_closed (moved : Moves state move next effects)
    (opened : state.upstream.isOpen = true) (closed : next.upstream.isOpen = false) :
    next.upstream.queues = [] := by
  have kept : next.upstream.isOpen ≠ state.upstream.isOpen := by simp [opened, closed]
  cases moved with
  | start _ turn =>
      cases turn with
      | sourceOpened connected =>
          exact absurd ((isOpen_connect_upstream connected).trans opened.symm) kept
      | sourceGivenUp => rfl
      | allGivenUp => rfl
      | _ => exact absurd rfl kept
  | stop _ turn =>
      cases turn with
      | sourceClosed => rfl
      | _ => exact absurd rfl kept
  | attach _ turn => exact absurd turn.keepsService.source kept
  | relay _ turn => exact absurd turn.keepsService.source kept
  | change => exact absurd (change_keepsService state _).source kept
  | closeSource => rfl
  | _ => exact absurd rfl kept

end

/-- A mailbox that is taken over belongs to an open connection. -/
theorem History.isOpen_of_isTaken {first now : State} {past : List Occurrence} {queue : String}
    (history : History first past now) (unused : first.Unused)
    (taken : now.upstream.isTaken queue = true) : now.upstream.isOpen = true := by
  induction history with
  | start => simp [Upstream.isTaken, unused.queues, Table.get?] at taken
  | @move past now next move effects before step ih =>
      have moved := step_cases step
      have opened : now.upstream.isOpen = true :=
        (moved.isTaken_origin taken).elim ih And.left
      cases closed : next.upstream.isOpen with
      | true => rfl
      | false => simp [Upstream.isTaken, moved.queues_of_closed opened closed, Table.get?] at taken

/-! ## What a start puts into service -/

/-- The scheme by which queues get their topics under some settings. -/
def Settings.scheme (settings : Settings) : TopicScheme := ⟨settings.appPrefix, settings.queueOwner⟩

/-- The run that a start sets up. -/
def Run.started (settings : Settings) (principal : String) (names : List String) : Run :=
  .fresh principal (settings.scheme.tableOf names)

namespace Service

/-- The connection to the queues is open. -/
structure Receives (service : Service) : Prop where
  opened : service.sourceOpen = true
  client : service.clientId = some (TopicRelay.clientId service.settings.clientHost)

/-- Both connections are open, the one to the topics with a key of the principal. -/
structure Connected (service : Service) (principal : String) : Prop extends Receives service where
  sink : service.sinkOpen = true
  owner : service.sinkPrincipal = some principal

/-- The newest run was set up for some names after `base` others. -/
structure Prepared (service : Service) (principal : String) (names : List String) (base : RunId) :
    Prop extends Connected service principal where
  newest : service.runs.length = base + 1
  fresh : service.runs[base]? = some (Run.started service.settings principal names)

/-- The hooks of that run are installed. -/
structure Hooked (service : Service) (principal : String) (names : List String) (base : RunId) :
    Prop extends Prepared service principal names base where
  hooks : service.hooks = some ⟨⟨principal, service.settings.consumeRole⟩, base⟩

/-- The bridge is in that run, and the broker is started. -/
structure Serving (service : Service) (principal : String) (names : List String) (base : RunId) :
    Prop extends Hooked service principal names base where
  broker : service.brokerStarted = true
  running : service.running = some base

end Service

/-- What a start that is told a principal and some names has put into service when it comes to a
phase, after `base` runs were set up.  Nothing is said of starts that fail. -/
def StartPhase.Reached (service : Service) (principal : String) (names : List String)
    (base : RunId) : StartPhase → Prop
  | .arriving | .queued | .resolving => service.runs.length = base
  | .registering owner => service.runs.length = base ∧ owner = principal
  | .openingSource owner key =>
    service.runs.length = base ∧ owner = principal ∧ key.principal = principal
  | .openingSink owner key =>
    service.runs.length = base ∧ owner = principal ∧ key.principal = principal ∧ service.Receives
  | .discovering owner =>
    service.runs.length = base ∧ owner = principal ∧ service.Connected principal
  | .installing run => run = base ∧ service.Prepared principal names base
  | .startingBroker run => run = base ∧ service.Hooked principal names base
  | .done (.ok _) => service.Serving principal names base
  | _ => True

theorem connect_upstream_eq_ok {upstream opened : Upstream} {client : String}
    (connected : upstream.connect client = .ok opened) :
    opened = { upstream with clientId := some client, isOpen := true } := by
  unfold Upstream.connect at connected
  split at connected <;> cases connected
  rfl

theorem connect_downstream_eq_ok {downstream opened : Downstream} {key : ServiceCredential}
    (connected : downstream.connect key = (.ok (), opened)) :
    opened.isOpen = true ∧ opened.credential = some key := by
  unfold Downstream.connect at connected
  dsimp only at connected
  split at connected <;> cases connected
  exact ⟨rfl, rfl⟩

section

variable {state next : State} {job : JobId} {phase after : StartPhase} {effects : List Effect}
  {principal : String} {names : List String} {base : RunId}

/-- **Each turn of a start puts one thing more into service**, or the start fails. -/
theorem Starts.reached (turn : Starts state job phase after next effects)
    (told : phase = .resolving → state.currentPrincipal = .ok principal)
    (listed : ∀ owner, phase = .discovering owner → state.listQueues = .ok names)
    (reached : phase.Reached state.service principal names base) :
    after.Reached next.service principal names base := by
  cases turn with
  | asked => exact reached
  | entered _ _ => exact reached
  | resolved answered =>
      cases answered.symm.trans (told rfl)
      exact ⟨reached, rfl⟩
  | registered _ =>
      obtain ⟨runs, rfl⟩ := reached
      exact ⟨runs, rfl, rfl⟩
  | sourceOpened connected =>
      obtain ⟨runs, owner, key⟩ := reached
      cases connect_upstream_eq_ok connected
      exact ⟨runs, owner, key, rfl, rfl⟩
  | sinkOpened connected =>
      obtain ⟨runs, owner, rfl, receives⟩ := reached
      obtain ⟨opened, credential⟩ := connect_downstream_eq_ok connected
      exact ⟨runs, owner, ⟨receives.opened, receives.client⟩, opened,
        Option.map_eq_some_iff.mpr ⟨_, credential, rfl⟩⟩
  | discovered answered =>
      cases answered.symm.trans (listed _ rfl)
      obtain ⟨rfl, rfl, connected⟩ := reached
      exact ⟨rfl, ⟨⟨connected.opened, connected.client⟩, connected.sink, connected.owner⟩,
        List.length_append, List.getElem?_concat_length⟩
  | @installed run =>
      obtain ⟨rfl, prepared⟩ := reached
      have fresh : state.run? run = some (Run.started state.settings principal names) :=
        prepared.fresh
      have gate : state.gateOf run = ⟨principal, state.settings.consumeRole⟩ := by
        simp [State.gateOf, fresh, Run.started, Run.fresh]
      exact ⟨rfl, ⟨⟨⟨prepared.opened, prepared.client⟩, prepared.sink, prepared.owner⟩,
        prepared.newest, prepared.fresh⟩, gate ▸ rfl⟩
  | brokerStarted started =>
      obtain ⟨rfl, hooked⟩ := reached
      cases Broker.start_eq_ok started
      exact ⟨⟨⟨⟨⟨hooked.opened, hooked.client⟩, hooked.sink, hooked.owner⟩, hooked.newest,
        hooked.fresh⟩, hooked.hooks⟩, rfl, rfl⟩
  | _ => trivial

end

/-! ## A start that comes when nothing is in service -/

/-- Nothing is in service, and no mailbox of a queue is taken over. -/
structure State.Vacant (state : State) : Prop extends OutOfService state where
  untaken : ∀ queue, state.upstream.isTaken queue = false

/-- What the catalog answers to a start, whenever it asks. -/
def Occurrence.Answers (job : JobId) (principal : String) (names : List String)
    (occurrence : Occurrence) : Prop :=
  occurrence.move = .job job →
    (occurrence.before.jobs[job]? = some (.start .resolving) →
      occurrence.before.currentPrincipal = .ok principal) ∧
    ∀ owner, occurrence.before.jobs[job]? = some (.start (.discovering owner)) →
      occurrence.before.listQueues = .ok names

/-- How far a start has come that was called when nothing was in service. -/
structure Ascent (principal : String) (names : List String) (called now : State)
    (phase : StartPhase) : Prop where
  present : now.jobs[called.jobs.length]? = some (.start phase)
  alone : now.Alone called.jobs.length
  reached : phase.Reached now.service principal names called.runs.length
  ended : ∀ {relay : RelayId} {found : Relay}, now.relays[relay]? = some found →
    found.phase = .ended
  producers : now.downstream.producers = []
  untaken : ∀ queue, now.upstream.isTaken queue = false
  dead : ∀ {run}, run < called.runs.length → now.Dead run

/-- Starts leave relays and producers alone. -/
theorem Starts.leavesRelays {state next : State} {job : JobId} {phase after : StartPhase}
    {effects : List Effect} (turn : Starts state job phase after next effects) :
    next.relays = state.relays ∧ next.downstream.producers = state.downstream.producers := by
  cases turn with
  | sinkOpened connected => exact ⟨rfl, producers_connect connected⟩
  | sinkUnopened refused => exact ⟨rfl, producers_connect refused⟩
  | _ => exact ⟨rfl, rfl⟩

namespace Ascent

variable {called now next : State} {phase : StartPhase} {move : Move} {effects : List Effect}
  {principal : String} {names : List String}

theorem of_arrive (calm : called.Calm) (vacant : called.Vacant) :
    Ascent principal names called (called.arrive .start) .arriving where
  present := by simp [State.arrive, Request.job]
  alone := calm.arrive .start
  reached := rfl
  ended := vacant.ended
  producers := vacant.producers
  untaken := vacant.untaken
  dead := fun bound =>
    (vacant.dead bound).step (show Moves called (.arrive .start) _ [] from .arrive)

/-- No mailbox is taken over, since the only call that is at work is the start. -/
theorem untaken_step (ascent : Ascent principal names called now phase)
    (moved : Moves now move next effects) (queue : String) :
    next.upstream.isTaken queue = false := by
  rw [← Bool.not_eq_true]
  intro taken
  rcases moved.isTaken_origin taken with was | ⟨_, job, topic, attached, rfl, there⟩
  · simp [ascent.untaken] at was
  · obtain rfl := ascent.alone.eq_of_turn moved
    cases ascent.present.symm.trans there

/-- The start has a turn. -/
theorem own (ascent : Ascent principal names called now phase)
    (moved : Moves now (.job called.jobs.length) next effects)
    (answers : Occurrence.Answers called.jobs.length principal names
      ⟨now, .job called.jobs.length, next, effects⟩) :
    ∃ after, Ascent principal names called next after := by
  obtain ⟨after, middle, turn, rfl⟩ := moved.of_start ascent.present
  obtain ⟨told, listed⟩ := answers rfl
  obtain ⟨relays, producers⟩ := turn.leavesRelays
  refine ⟨after, State.jobs_setJob_self (turn.jobs ▸ ascent.present),
    ascent.alone.step moved (by simp), ?_, fun present => ascent.ended (relays ▸ present),
    producers.trans ascent.producers, ascent.untaken_step moved,
    fun bound => (ascent.dead bound).step moved⟩
  refine turn.reached ?_ ?_ ascent.reached
  · rintro rfl
    exact told ascent.present
  · rintro owner rfl
    exact listed owner ascent.present

/-- Something else happens, which is not the turn of a call and closes no connection. -/
theorem other (ascent : Ascent principal names called now phase)
    (moved : Moves now move next effects) (noTurn : ∀ job, move ≠ .job job)
    (noCall : ∀ request, move ≠ .arrive request) (own : move.isForeign = false) :
    Ascent principal names called next phase := by
  have onward : next.service = now.service →
      (∀ {relay : RelayId} {found : Relay}, next.relays[relay]? = some found →
        found.phase = .ended) →
        next.downstream.producers = now.downstream.producers →
          Ascent principal names called next phase := fun service ended producers =>
    ⟨moved.jobs_of_ne ascent.present (noTurn _), ascent.alone.step moved noCall,
      service ▸ ascent.reached, ended, producers.trans ascent.producers,
      ascent.untaken_step moved, fun bound => (ascent.dead bound).step moved⟩
  cases moved with
  | start _ _ => exact absurd rfl (noTurn _)
  | stop _ _ => exact absurd rfl (noTurn _)
  | attach _ _ => exact absurd rfl (noTurn _)
  | relay present turn => exact absurd (ascent.ended present) turn.not_ended
  | forget _ =>
      refine onward rfl (fun present => ?_) rfl
      rcases State.relays_tellRelays present with ⟨_, was, _, same⟩ | ⟨_, was⟩
      · have ended := ascent.ended was
        exact (congrArg Relay.phase same).trans ended
      · exact ascent.ended was
  | arrive => exact absurd rfl (noCall _)
  | @change change =>
      have outside := change_fromOutside now change
      exact onward (change_service now change)
        (fun present => ascent.ended (outside.relays ▸ present)) outside.producers
  | closeSource => cases own
  | closeSink => cases own
  | wait => exact onward rfl ascent.ended rfl

/-- **Every move keeps the invariant**, with the start in some phase. -/
theorem step (ascent : Ascent principal names called now phase)
    (moved : Moves now move next effects) (noCall : ∀ request, move ≠ .arrive request)
    (own : move.isForeign = false)
    (answers : Occurrence.Answers called.jobs.length principal names ⟨now, move, next, effects⟩) :
    ∃ after, Ascent principal names called next after := by
  by_cases turns : ∃ job, move = .job job
  · obtain ⟨job, rfl⟩ := turns
    obtain rfl := ascent.alone.eq_of_turn moved
    exact ascent.own moved answers
  · exact ⟨phase, ascent.other moved (fun job same => turns ⟨job, same⟩) noCall own⟩

end Ascent

/-- A start that was called when nothing was in service, after every history in which no other call
comes and no connection is closed. -/
theorem History.ascent {called now : State} {meanwhile : List Occurrence} {principal : String}
    {names : List String} (starting : History (called.arrive .start) meanwhile now)
    (calm : called.Calm) (vacant : called.Vacant)
    (noCall : ∀ occurrence ∈ meanwhile, ∀ request, occurrence.move ≠ .arrive request)
    (own : ∀ occurrence ∈ meanwhile, occurrence.move.isForeign = false)
    (answers : ∀ occurrence ∈ meanwhile, occurrence.Answers called.jobs.length principal names) :
    ∃ phase, Ascent principal names called now phase := by
  induction starting with
  | start => exact ⟨.arriving, .of_arrive calm vacant⟩
  | @move meanwhile now next move effects before step ih =>
      obtain ⟨phase, ascent⟩ := ih (fun occurrence among => noCall occurrence (by simp [among]))
        (fun occurrence among => own occurrence (by simp [among]))
        fun occurrence among => answers occurrence (by simp [among])
      exact ascent.step (step_cases step) (noCall ⟨now, move, next, effects⟩ (by simp))
        (own ⟨now, move, next, effects⟩ (by simp)) (answers ⟨now, move, next, effects⟩ (by simp))

/-! ## Restarts -/

/-- A bridge has been stopped, whatever came before, and a start has brought it up again.  Calls come
one at a time, nobody else closes a connection while the start is at work, and the catalog has
answered it with a principal and some names. -/
structure Restart (first : State) (past : List Occurrence) (called : State)
    (meanwhile : List Occurrence) (now : State) (principal : String) (names : List String) :
    Prop where
  unused : first.Unused
  history : History first past called
  sequential : Sequential past
  calm : called.Calm
  stopped : called.running = none
  starting : History (called.arrive .start) meanwhile now
  noCall : ∀ occurrence ∈ meanwhile, ∀ request, occurrence.move ≠ .arrive request
  own : ∀ occurrence ∈ meanwhile, occurrence.move.isForeign = false
  answers : ∀ occurrence ∈ meanwhile, occurrence.Answers called.jobs.length principal names
  succeeded : now.jobs[called.jobs.length]? = some (.start (.done (.ok ())))

/-- What a bridge shows and what its next calls find: everything but what was stored, written down
or injected, what it was given, and how often it was started before. -/
@[ext] structure Face where
  /-- The run that the bridge is in: its principal, its routes, and where each of them stands. -/
  run : Option Run
  advertised : Option String → Names
  brokerStarted : Bool
  /-- The gate that the broker asks, and the run that it attaches subscribers to. -/
  hooks : Option (Gate × Option Run)
  sourceOpen : Bool
  clientId : Option String
  sinkOpen : Bool
  sinkPrincipal : Option String
  /-- The topics of the open producers. -/
  producers : List String
  /-- Whether a consumer has taken over the mailbox of a queue. -/
  taken : String → Bool
  guard : Guard
  /-- The relays that have not ended. -/
  relays : List Relay
  /-- The calls that have no answer yet. -/
  calls : List Job

def State.face (state : State) : Face where
  run := state.runningRun?
  advertised := state.advertisedTopics
  brokerStarted := state.broker.isStarted
  hooks := state.broker.hooks.map fun hooks => (hooks.gate, state.run? hooks.run)
  sourceOpen := state.upstream.isOpen
  clientId := state.upstream.clientId
  sinkOpen := state.downstream.isOpen
  sinkPrincipal := state.downstream.credential.map (·.principal)
  producers := state.downstream.producers
  taken := state.upstream.isTaken
  guard := state.guard
  relays := state.relays.filter fun relay => relay.phase != .ended
  calls := state.jobs.filter fun job => !job.isDone

/-- What a bridge with some settings shows when a start has been told a principal and some names:
routes that are all stopped, and hooks that lead to them. -/
def Face.started (settings : Settings) (principal : String) (names : List String) : Face where
  run := some (.started settings principal names)
  advertised := (Run.started settings principal names).table.topics
  brokerStarted := true
  hooks := some (⟨principal, settings.consumeRole⟩, some (.started settings principal names))
  sourceOpen := true
  clientId := some (TopicRelay.clientId settings.clientHost)
  sinkOpen := true
  sinkPrincipal := some principal
  producers := []
  taken := fun _ => false
  guard := {}
  relays := []
  calls := []

/-- A bridge is as good as new: it shows what any bridge with its settings shows, and all runs but
the one that it is in are dead. -/
structure Renewed (first now : State) (principal : String) (names : List String) : Prop where
  face : now.face = .started first.settings principal names
  stopped : ∀ {run place slot}, now.running = some run → now.slot? run place = some slot →
    slot = {}
  accepts : ∃ hooks, now.broker.hooks = some hooks ∧ now.running = some hooks.run ∧
    now.accepting? hooks.run = some true
  dead : ∀ {run}, run < now.runs.length → now.running ≠ some run → now.Dead run
  equipment : now.equipment = first.equipment

/-- A run that a start has just set up has no route that is started. -/
theorem Run.started_slots {settings : Settings} {principal : String} {names : List String}
    {place : Place} {slot : RouteSlot}
    (present : (Run.started settings principal names).slots[place]? = some slot) : slot = {} := by
  simp only [started, fresh, List.getElem?_map, Option.map_eq_some_iff] at present
  obtain ⟨_, _, rfl⟩ := present
  rfl

/-- Where the bridge is in a run, that run's topics are advertised. -/
theorem State.advertisedTopics_of_runningRun? {state : State} {run : Run}
    (running : state.runningRun? = some run) : state.advertisedTopics = run.table.topics := by
  funext scope
  simp [advertisedTopics, running]

namespace Restart

variable {first called now : State} {past meanwhile : List Occurrence} {principal : String}
  {names : List String}

/-- Calls come one at a time until the start has its answer. -/
theorem sequential_start (restart : Restart first past called meanwhile now principal names) :
    Sequential (past ++ [⟨called, .arrive .start, called.arrive .start, []⟩] ++ meanwhile) := by
  intro occurrence among request call
  rcases List.mem_append.mp among with before | amid
  · rcases List.mem_append.mp before with earlier | arrival
    · exact restart.sequential occurrence earlier request call
    · cases List.mem_singleton.mp arrival
      exact restart.calm
  · exact absurd call (restart.noCall occurrence amid request)

/-- The whole history, with the start. -/
theorem whole (restart : Restart first past called meanwhile now principal names) :
    History first
      (past ++ [⟨called, .arrive .start, called.arrive .start, []⟩] ++ meanwhile) now :=
  (restart.history.move rfl).append restart.starting

/-- The start finds nothing in service. -/
theorem vacant (restart : Restart first past called meanwhile now principal names) :
    called.Vacant := by
  have history := restart.history
  have kept := history.not_abandons restart.unused
    (history.timely restart.unused restart.sequential)
  have out := history.outOfService restart.unused (restart.calm.idle restart.stopped) kept
  refine ⟨out, fun queue => ?_⟩
  cases taken : called.upstream.isTaken queue with
  | false => rfl
  | true => exact (history.isOpen_of_isTaken restart.unused taken).symm.trans out.source

theorem ascent (restart : Restart first past called meanwhile now principal names) :
    Ascent principal names called now (.done (.ok ())) := by
  obtain ⟨phase, ascent⟩ := restart.starting.ascent restart.calm restart.vacant restart.noCall
    restart.own restart.answers
  cases ascent.present.symm.trans restart.succeeded
  exact ascent

theorem calm_now (restart : Restart first past called meanwhile now principal names) :
    now.Calm := by
  obtain ⟨phase, attempt⟩ := restart.starting.attempt restart.calm restart.noCall
  cases attempt.present.symm.trans restart.succeeded
  exact attempt.calm rfl

/-- The start has given the guard of the bridge up, and nobody waits for it. -/
theorem guard_eq (restart : Restart first past called meanwhile now principal names) :
    now.guard = {} :=
  (restart.whole.orderly restart.unused restart.sequential_start).guard_eq restart.calm_now

/-- **A restart makes a bridge as good as new.** -/
theorem renewed (restart : Restart first past called meanwhile now principal names) :
    Renewed first now principal names := by
  have ascent := restart.ascent
  have serving := ascent.reached
  have settings : now.settings = first.settings := restart.whole.settings
  have fresh : now.run? called.runs.length = some (.started first.settings principal names) :=
    settings ▸ serving.fresh
  have running : now.running = some called.runs.length := serving.running
  have hooks : now.broker.hooks =
      some ⟨⟨principal, first.settings.consumeRole⟩, called.runs.length⟩ :=
    settings ▸ serving.hooks
  have run : now.runningRun? = some (.started first.settings principal names) := by
    simp [State.runningRun?, running, fresh]
  refine ⟨?_, ?_, ?_, ?_, restart.whole.equipment⟩
  · apply Face.ext
    case run => exact run
    case advertised => exact State.advertisedTopics_of_runningRun? run
    case brokerStarted => exact serving.broker
    case hooks => simp [State.face, Face.started, hooks, fresh]
    case sourceOpen => exact serving.opened
    case clientId => exact settings ▸ serving.client
    case sinkOpen => exact serving.sink
    case sinkPrincipal => exact serving.owner
    case producers => exact ascent.producers
    case taken => exact funext ascent.untaken
    case guard => exact restart.guard_eq
    case relays =>
      refine List.filter_eq_nil_iff.mpr fun relay among => ?_
      obtain ⟨id, present⟩ := List.mem_iff_getElem?.mp among
      simp [ascent.ended present]
    case calls =>
      refine List.filter_eq_nil_iff.mpr fun job among => ?_
      obtain ⟨id, present⟩ := List.mem_iff_getElem?.mp among
      simp [restart.calm_now id job present]
  · intro run place slot inRun present
    cases running.symm.trans inRun
    obtain ⟨found, there, atPlace⟩ := State.slot?_eq_some_iff.mp present
    cases fresh.symm.trans there
    exact Run.started_slots atPlace
  · exact ⟨_, hooks, running, by simp [State.accepting?, fresh, Run.started, Run.fresh]⟩
  · intro run bound other
    apply ascent.dead
    have newest : now.runs.length = called.runs.length + 1 := serving.newest
    have apart : run ≠ called.runs.length := fun same => other (same ▸ running)
    omega

end Restart

/-- **A restart forgets what came before.**  Two bridges with the same settings are each stopped,
whatever has happened to them, and a start brings each up again that gets the same answers from the
catalog.  Then they show the same, which is what their settings and these answers say: they are in a
run with the same principal and the same routes in the same order, all of them stopped, and advertise
the same topics; the broker is started, with hooks of the same gate that lead to these routes, and
routes are started on request; both connections are open, and no producer is.  No mailbox of a queue
is taken over, all relays have ended, all calls have their answers, and all other runs are dead. -/
theorem restart_forgets {first other called summoned now later : State}
    {past before meanwhile amid : List Occurrence} {principal : String} {names : List String}
    (one : Restart first past called meanwhile now principal names)
    (two : Restart other before summoned amid later principal names)
    (same : other.settings = first.settings) :
    Renewed first now principal names ∧ Renewed other later principal names ∧
      later.face = now.face := by
  refine ⟨one.renewed, two.renewed, ?_⟩
  rw [two.renewed.face, one.renewed.face, same]

/-! ## Restarts that were made -/

/-- Whether the catalog answers with a principal and some names before a move. -/
def Occurrence.isTold (principal : String) (names : List String) (occurrence : Occurrence) : Bool :=
  (match occurrence.before.currentPrincipal with
    | .ok told => told == principal
    | .error _ => false) &&
  match occurrence.before.listQueues with
  | .ok listed => listed == names
  | .error _ => false

theorem Occurrence.answers_of_isTold {job : JobId} {principal : String} {names : List String}
    {occurrence : Occurrence} (isTold : occurrence.isTold principal names = true) :
    occurrence.Answers job principal names := by
  unfold Occurrence.isTold at isTold
  intro _
  cases told : occurrence.before.currentPrincipal with
  | error => simp [told] at isTold
  | ok owner =>
      cases listed : occurrence.before.listQueues with
      | error => simp [listed] at isTold
      | ok queues =>
          simp only [told, listed, Bool.and_eq_true, beq_iff_eq] at isTold
          exact ⟨fun _ => isTold.1 ▸ rfl, fun _ _ => isTold.2 ▸ rfl⟩

/-- A start that was answered with success. -/
def Job.hasStarted : Job → Bool
  | .start (.done (.ok _)) => true
  | _ => false

theorem Job.hasStarted_iff {job : Job} :
    job.hasStarted = true ↔ job = .start (.done (.ok ())) := by
  unfold Job.hasStarted
  split <;> simp_all

/-- Follows some moves, and the turns of one more start. -/
def State.restart (first : State) (moves : List Move) :
    Option (List Occurrence × State × List Occurrence × State) := do
  let (past, called) ← first.record moves
  let (meanwhile, now) ←
    (called.arrive .start).record (List.replicate 9 (.job called.jobs.length))
  return (past, called, meanwhile, now)

/-- Whether this is a restart, and what has been checked of the state that it has led to. -/
def isRestart (principal : String) (names : List String) (check : State → Bool) :
    List Occurrence × State × List Occurrence × State → Bool
  | (past, called, meanwhile, now) =>
    past.all Occurrence.isOrdered && called.jobs.all Job.isDone && called.running.isNone &&
      meanwhile.all (Occurrence.isTold principal names) &&
        now.jobs[called.jobs.length]?.any Job.hasStarted && check now

/-- Some moves that end in a restart, and what has been checked of the state after it. -/
theorem Restart.exists_of_check {first : State} (unused : first.Unused) (moves : List Move)
    (principal : String) (names : List String) (check : State → Bool)
    (checked : (first.restart moves).any (isRestart principal names check) = true) :
    ∃ past called meanwhile now,
      Restart first past called meanwhile now principal names ∧ check now = true := by
  obtain ⟨found, made, passed⟩ := (Option.any_eq_true ..).mp checked
  simp only [State.restart, Option.bind_eq_bind, Option.bind_eq_some_iff, Option.pure_def,
    Option.some.injEq, Prod.exists] at made
  obtain ⟨past, called, recorded, meanwhile, now, turns, rfl⟩ := made
  simp only [isRestart, Bool.and_eq_true, Option.isNone_iff_eq_none, Option.any_eq_true,
    Job.hasStarted_iff] at passed
  obtain ⟨⟨⟨⟨⟨sequential, calm⟩, stopped⟩, answers⟩, _, succeeded, rfl⟩, passed⟩ := passed
  refine ⟨past, called, meanwhile, now, ?_, passed⟩
  have turn : ∀ occurrence ∈ meanwhile, occurrence.move = .job called.jobs.length :=
    fun occurrence among => List.eq_of_mem_replicate (move_mem_of_record turns among)
  exact {
    unused := unused
    history := .of_record recorded
    sequential := sequential_iff_all.mpr sequential
    calm := State.calm_iff_all.mpr calm
    stopped := stopped
    starting := .of_record turns
    noCall := fun occurrence among => by simp [turn occurrence among]
    own := fun occurrence among => by simp [turn occurrence among, Move.isForeign]
    answers := fun occurrence among =>
      Occurrence.answers_of_isTold (List.all_eq_true.mp answers _ among)
    succeeded := succeeded }

/-- A bridge has been refused a start, has been started, has had a subscriber and a message, has had
its connection to the queues closed under it, and has been stopped. -/
def wornMoves (topic queue : String) (topics : Nat) : List Move :=
  .change (.switch .sinkOpen true) :: .arrive .start :: List.replicate 7 (.job 0) ++
    .change (.switch .sinkOpen false) :: startMoves 1 ++
      .arrive (.attach topic) :: List.replicate (7 + topics) (.job 2) ++
        .change (.deliver queue (.message ⟨none, .text "m1"⟩)) ::
          List.replicate (1 + topics) (.relay 0 false) ++
            .closeSource :: .arrive .stop :: List.replicate 5 (.job 3) ++
              List.replicate (3 + topics) (.relay 0 true) ++ List.replicate 4 (.job 3)

/-- Started again, such a bridge shows what a new one shows. -/
theorem worn_bridge_restarts_as_new :
    ∃ past called meanwhile now before summoned amid later,
      Restart (State.scripted ["CWMS_20.SPK_A"]) past called meanwhile now "SERVICE"
          ["CWMS_20.SPK_A"] ∧
        Restart (State.scripted ["CWMS_20.SPK_A"]) before summoned amid later "SERVICE"
            ["CWMS_20.SPK_A"] ∧
          now.runs.length = 1 ∧ later.runs.length = 2 ∧ later.relays.length = 1 ∧
            Renewed (State.scripted ["CWMS_20.SPK_A"]) now "SERVICE" ["CWMS_20.SPK_A"] ∧
              Renewed (State.scripted ["CWMS_20.SPK_A"]) later "SERVICE" ["CWMS_20.SPK_A"] ∧
                later.face = now.face := by
  obtain ⟨past, called, meanwhile, now, one, runs⟩ :=
    Restart.exists_of_check (State.scripted_unused ["CWMS_20.SPK_A"]) [] "SERVICE"
      ["CWMS_20.SPK_A"] (fun now => now.runs.length == 1) rfl
  obtain ⟨before, summoned, amid, later, two, checked⟩ :=
    Restart.exists_of_check (State.scripted_unused ["CWMS_20.SPK_A"])
      (wornMoves "CDA.SPK.ALL" "CWMS_20.SPK_A" 2) "SERVICE" ["CWMS_20.SPK_A"]
      (fun later => later.runs.length == 2 && later.relays.length == 1) rfl
  simp only [Bool.and_eq_true, beq_iff_eq] at runs checked
  exact ⟨past, called, meanwhile, now, before, summoned, amid, later, one, two, runs, checked.1,
    checked.2, restart_forgets one two rfl⟩

/-- What the topics have kept is not forgotten: two restarts of a bridge, and only after one of them
a topic is known to have had a producer and a payload. -/
theorem records_outlast_restart :
    ∃ past called meanwhile now before summoned amid later,
      Restart (State.scripted ["Q"]) past called meanwhile now "SERVICE" ["Q"] ∧
        Restart (State.scripted ["Q"]) before summoned amid later "SERVICE" ["Q"] ∧
          now.downstream.connectedTopics = [] ∧ later.downstream.connectedTopics = ["Q"] ∧
            now.downstream.sent = [] ∧ later.downstream.sent = [("Q", "m1")] := by
  obtain ⟨past, called, meanwhile, now, one, none⟩ :=
    Restart.exists_of_check (State.scripted_unused ["Q"]) [] "SERVICE" ["Q"]
      (fun now => now.downstream.connectedTopics == [] && now.downstream.sent == []) rfl
  obtain ⟨before, summoned, amid, later, two, kept⟩ :=
    Restart.exists_of_check (State.scripted_unused ["Q"]) (wornMoves "Q" "Q" 1) "SERVICE" ["Q"]
      (fun later => later.downstream.connectedTopics == ["Q"] &&
        later.downstream.sent == [("Q", "m1")]) rfl
  simp only [Bool.and_eq_true, beq_iff_eq] at none kept
  exact ⟨past, called, meanwhile, now, before, summoned, amid, later, one, two, none.1, kept.1,
    none.2, kept.2⟩

end TopicRelay
