import TopicRelay.Proofs.FailedStart
import TopicRelay.Proofs.RouteLookup

/-!
# From the names of queues to the hooks of a broker

A start asks the catalog for the names of the queues, sets up a run for them, installs the hooks of
that run and only then starts the broker.  Nothing ever changes what a bridge was given
(`History.equipment`), so the run has the table of these names for good (`TopicScheme.tableOf`), and
a table of names leads from every topic of every listed queue to the route of that queue
(`TopicScheme.exists_route_tableOf`).

`Setup` follows the run from the answer of the catalog to the broker.  Whoever finds the broker
started finds the hooks of a run that a start has set up for the names it was told, in every
history.
-/

namespace TopicRelay

set_option autoImplicit false

/-! ## The table of some names -/

theorem TopicScheme.raw_parse (scheme : TopicScheme) (raw : String) :
    (scheme.parse raw).raw = raw := by
  unfold parse
  split
  · split <;> rfl
  · rfl

namespace Discovery

/-- A name that is listed for the first time is the name of a queue. -/
theorem mem_gather {scheme : TopicScheme} {seen names : List String} {name : String}
    (listed : name ∈ names) (new : name ∉ seen) :
    scheme.parse name ∈ (gather scheme seen names).1 := by
  induction names generalizing seen with
  | nil => cases listed
  | cons other names ih =>
      rw [gather]
      by_cases same : name = other
      · subst same
        simp [new]
      · have among : name ∈ names := by simpa [same] using listed
        by_cases known : seen.contains other = true
        · rw [if_pos known]
          exact ih among new
        · rw [if_neg known]
          exact List.mem_cons_of_mem _ (ih among (by simp [new, same]))

/-- Queues are those of the listed names. -/
theorem eq_parse_of_mem_gather {scheme : TopicScheme} {seen names : List String} {queue : QueueName}
    (among : queue ∈ (gather scheme seen names).1) : queue = scheme.parse queue.raw := by
  induction names generalizing seen with
  | nil => cases among
  | cons other names ih =>
      rw [gather] at among
      split at among
      · exact ih among
      · rcases List.mem_cons.mp among with rfl | later
        · rw [scheme.raw_parse]
        · exact ih later

end Discovery

namespace TopicScheme

/-- The table of the queues with some names. -/
def tableOf (scheme : TopicScheme) (names : List String) : RouteTable :=
  (RouteTable.build scheme (Discovery.gather scheme [] names).1).1

/-- **Every topic of a listed queue leads to the route of that queue.** -/
theorem exists_route_tableOf {scheme : TopicScheme} {names : List String} {name label : String}
    (listed : name ∈ names) (publishes : label ∈ scheme.topics (scheme.parse name)) :
    ∃ route ∈ (scheme.tableOf names).routesFor label, route.queue = scheme.parse name := by
  have resolves := RouteTable.resolves_build scheme (Discovery.gather scheme [] names).1
  have gathered : scheme.parse name ∈ (Discovery.gather scheme [] names).1 :=
    Discovery.mem_gather listed (by simp)
  have known : name ∈ (scheme.tableOf names).routes.map (·.id) := by
    rw [tableOf, resolves.ids, List.mem_eraseDups]
    exact List.mem_map.mpr ⟨_, gathered, scheme.raw_parse name⟩
  obtain ⟨route, among, rfl⟩ := List.mem_map.mp known
  obtain ⟨found, topics⟩ := resolves.first route among
  have queue : route.queue = scheme.parse route.id :=
    Discovery.eq_parse_of_mem_gather (List.mem_of_find?_eq_some found)
  refine ⟨route, ?_, queue⟩
  rw [tableOf, resolves.scanned, RouteTable.scan, List.mem_filter]
  rw [← queue, ← topics] at publishes
  exact ⟨among, by simpa using publishes⟩

end TopicScheme

/-! ## What a bridge was given -/

/-- What a bridge and its collaborators were given when they were set up. -/
structure Equipment where
  settings : Settings
  acceptors : List Acceptor
  protocols : Names
  document : DirectoryDocument

def State.equipment (state : State) : Equipment where
  settings := state.settings
  acceptors := state.broker.acceptors
  protocols := state.broker.protocols
  document := state.directory.document

theorem Broker.start_eq_ok {broker started : Broker} (starts : broker.start = .ok started) :
    started = { broker with isStarted := true } := by
  unfold Broker.start at starts
  split at starts
  · cases starts
  · split at starts <;> cases starts
    rfl

theorem Moves.equipment {state next : State} {move : Move} {effects : List Effect}
    (moved : Moves state move next effects) : next.equipment = state.equipment := by
  cases moved with
  | start _ turn =>
      cases turn with
      | registered accepted =>
          exact congrArg (Equipment.mk _ _ _) (Directory.register_eq_ok accepted).1
      | brokerStarted started =>
          cases Broker.start_eq_ok started
          rfl
      | _ => rfl
  | stop _ turn => cases turn <;> rfl
  | attach _ turn =>
      cases turn with
      | activated turn => cases turn <;> rfl
      | _ => rfl
  | relay _ turn => cases turn <;> rfl
  | @change change =>
      cases change with
      | switch fault on => cases fault <;> rfl
      | setNames names =>
          simp only [State.change, State.rescript]
          split <;> rfl
      | setPrincipal principal =>
          simp only [State.change, State.rescript]
          split <;> rfl
      | _ => rfl
  | _ => rfl

/-- Nothing ever changes what a bridge was given. -/
theorem History.equipment {first now : State} {past : List Occurrence}
    (history : History first past now) : now.equipment = first.equipment :=
  history.preserves (P := fun state => state.equipment = first.equipment) rfl
    fun same step => (step_cases step).equipment.trans same

theorem Moves.settings {state next : State} {move : Move} {effects : List Effect}
    (moved : Moves state move next effects) : next.settings = state.settings :=
  congrArg Equipment.settings moved.equipment

theorem History.settings {first now : State} {past : List Occurrence}
    (history : History first past now) : now.settings = first.settings :=
  congrArg Equipment.settings history.equipment

theorem State.scheme_congr {state next : State} (same : next.settings = state.settings) :
    next.scheme = state.scheme := by
  rw [scheme, scheme, same]

/-! ## What is in service -/

/-- What a start puts into service, and the runs that were set up. -/
structure Service where
  settings : Settings
  runs : List Run
  running : Option RunId
  brokerStarted : Bool
  hooks : Option Hooks
  sourceOpen : Bool
  clientId : Option String
  sinkOpen : Bool
  sinkPrincipal : Option String

def State.service (state : State) : Service where
  settings := state.settings
  runs := state.runs
  running := state.running
  brokerStarted := state.broker.isStarted
  hooks := state.broker.hooks
  sourceOpen := state.upstream.isOpen
  clientId := state.upstream.clientId
  sinkOpen := state.downstream.isOpen
  sinkPrincipal := state.downstream.credential.map (·.principal)

/-- Others put nothing into service and take nothing out of it. -/
theorem change_service (state : State) (change : Change) :
    (state.change change).service = state.service := by
  cases change with
  | deliver queue delivery =>
      simp only [State.change, State.service, Upstream.deliver]
      cases state.upstream.queues.get? queue <;> rfl
  | switch fault on => cases fault <;> rfl
  | setNames names =>
      simp only [State.change, State.rescript]
      split <;> rfl
  | setPrincipal principal =>
      simp only [State.change, State.rescript]
      split <;> rfl
  | _ => rfl

/-! ## What happens to hooks -/

section

variable {state next : State} {move : Move} {effects : List Effect}

/-- The hooks of a broker are replaced only when a start installs those of its run. -/
theorem Moves.hooks_cases (moved : Moves state move next effects) :
    next.broker.hooks = state.broker.hooks ∨
      ∃ job run, move = .job job ∧ state.jobs[job]? = some (.start (.installing run)) ∧
        next.broker.hooks = some ⟨state.gateOf run, run⟩ ∧
          next.broker.isStarted = state.broker.isStarted := by
  cases moved with
  | start present turn =>
      cases turn with
      | installed => exact .inr ⟨_, _, rfl, present, rfl, rfl⟩
      | brokerStarted started =>
          cases Broker.start_eq_ok started
          exact .inl rfl
      | _ => exact .inl rfl
  | stop _ turn => exact .inl (by cases turn <;> rfl)
  | attach _ turn =>
      cases turn with
      | activated turn => exact .inl (by cases turn <;> rfl)
      | _ => exact .inl rfl
  | relay _ turn => exact .inl (by cases turn <;> rfl)
  | change => exact .inl (congrArg Service.hooks (change_service state _))
  | _ => exact .inl rfl

/-- A broker is started by a start that has installed its hooks. -/
theorem Moves.of_brokerStarted (moved : Moves state move next effects)
    (started : next.broker.isStarted = true) :
    state.broker.isStarted = true ∨
      ∃ job run, move = .job job ∧ state.jobs[job]? = some (.start (.startingBroker run)) := by
  cases moved with
  | start present turn =>
      cases turn with
      | brokerStarted _ => exact .inr ⟨_, _, rfl, present⟩
      | _ => exact .inl started
  | stop _ turn =>
      cases turn with
      | brokerStopped => cases started
      | _ => exact .inl started
  | attach _ turn => exact .inl (turn.keepsService.broker ▸ started)
  | relay _ turn => exact .inl (turn.keepsService.broker ▸ started)
  | change => exact .inl ((change_keepsService state _).broker ▸ started)
  | _ => exact .inl started

end

/-! ## Following a run from the catalog to the broker -/

/-- A start has been told the names of the queues and has set up a run for them. -/
def Occurrence.Discovers (job : JobId) (run : RunId) (names : List String)
    (occurrence : Occurrence) : Prop :=
  occurrence.move = .job job ∧
    (∃ principal, occurrence.before.jobs[job]? = some (.start (.discovering principal))) ∧
      occurrence.before.listQueues = .ok names ∧
        occurrence.after.jobs[job]? = some (.start (.installing run))

/-- Some start has set up a run for some names, and the run has their table. -/
structure SetUpBy (past : List Occurrence) (state : State) (job : JobId) (run : RunId)
    (names : List String) : Prop where
  discovers : ∃ occurrence ∈ past, occurrence.Discovers job run names
  table : state.table? run = some (state.scheme.tableOf names)

/-- Every topic of some queues leads to their routes in a run. -/
def State.Resolves (state : State) (run : RunId) (names : List String) : Prop :=
  ∃ found, state.run? run = some found ∧ ∀ name ∈ names,
    ∀ label ∈ state.scheme.topics (state.scheme.parse name),
      ∃ route ∈ found.table.routesFor label, route.queue = state.scheme.parse name

theorem SetUpBy.resolves {past : List Occurrence} {state : State} {job : JobId} {run : RunId}
    {names : List String} (setUp : SetUpBy past state job run names) : state.Resolves run names := by
  obtain ⟨found, present, table⟩ := Option.map_eq_some_iff.mp setUp.table
  refine ⟨found, present, fun name listed label publishes => ?_⟩
  rw [table]
  exact TopicScheme.exists_route_tableOf listed publishes

/-- Where the run of a start comes from, and whose hooks the broker has. -/
structure Setup (past : List Occurrence) (state : State) : Prop where
  settingUp : ∀ {job : JobId} {run : RunId}, state.SettingUp job run →
    ∃ names, SetUpBy past state job run names
  installed : ∀ {job : JobId} {run : RunId},
    state.jobs[job]? = some (.start (.startingBroker run)) →
      ∃ gate, state.broker.hooks = some ⟨gate, run⟩
  started : state.broker.isStarted = true → ∃ gate run job names,
    state.broker.hooks = some ⟨gate, run⟩ ∧ SetUpBy past state job run names

section

variable {state next : State} {move : Move} {effects : List Effect} {past : List Occurrence}
  {job : JobId} {run : RunId} {names : List String}

/-- A run stays what it was set up to be. -/
theorem SetUpBy.step (setUp : SetUpBy past state job run names)
    (moved : Moves state move next effects) :
    SetUpBy (past ++ [⟨state, move, next, effects⟩]) next job run names where
  discovers := by
    obtain ⟨occurrence, among, discovers⟩ := setUp.discovers
    exact ⟨occurrence, List.mem_append_left _ among, discovers⟩
  table := by
    rw [State.scheme_congr moved.settings]
    exact moved.table? setUp.table

namespace Setup

theorem of_unused (unused : state.Unused) : Setup [] state where
  settingUp := fun ⟨_, present, _⟩ => by simp [unused.jobs] at present
  installed := fun present => by simp [unused.jobs] at present
  started := fun started => by simp [unused.brokerStopped] at started

/-- A run that a start is setting up was set up before, or the start has just been told the names
of the queues. -/
theorem settingUp_step (setup : Setup past state) (moved : Moves state move next effects)
    (sets : next.SettingUp job run) :
    ∃ names, SetUpBy (past ++ [⟨state, move, next, effects⟩]) next job run names := by
  obtain ⟨after, present, setsUp⟩ := sets
  have before : state.SettingUp job run →
      ∃ names, SetUpBy (past ++ [⟨state, move, next, effects⟩]) next job run names := by
    intro was
    obtain ⟨names, setUp⟩ := setup.settingUp was
    exact ⟨names, setUp.step moved⟩
  rcases moved.jobs_origin present with was | rfl | ⟨request, rfl, arrived⟩
  · exact before ⟨after, was, setsUp⟩
  · obtain ⟨phase, middle, was, turn, rfl⟩ := moved.to_start present
    cases turn with
    | @discovered principal names reports listed =>
        cases setsUp
        refine ⟨names, ⟨⟨_, List.mem_append_right _ (List.mem_singleton_self _), rfl,
          ⟨principal, was⟩, listed, present⟩, ?_⟩⟩
        change (state.addRun _).table? state.runs.length = some (state.scheme.tableOf names)
        simp [State.table?, State.run?_addRun, Run.fresh, TopicScheme.tableOf]
    | installed => exact before ⟨_, was, setsUp⟩
    | _ => cases setsUp
  · cases request <;> cases arrived
    cases setsUp

/-- The hooks of the run that a start is setting up stay, since no other start is under way. -/
theorem installed_step (setup : Setup past state) (life : Lifecycle state)
    (moved : Moves state move next effects)
    (present : next.jobs[job]? = some (.start (.startingBroker run))) :
    ∃ gate, next.broker.hooks = some ⟨gate, run⟩ := by
  rcases moved.jobs_origin present with was | rfl | ⟨request, rfl, arrived⟩
  · obtain ⟨gate, hooks⟩ := setup.installed was
    rcases moved.hooks_cases with same | ⟨other, setting, rfl, there, _⟩
    · exact ⟨gate, same.trans hooks⟩
    · have held := life.inCharge ⟨_, was, rfl⟩
      obtain rfl := life.starting_eq held ⟨_, there, rfl⟩
      cases was.symm.trans there
  · obtain ⟨phase, middle, was, turn, rfl⟩ := moved.to_start present
    cases turn
    exact ⟨_, rfl⟩
  · cases request <;> cases arrived

/-- A broker that is started has the hooks of a run that was set up. -/
theorem started_step (setup : Setup past state) (moved : Moves state move next effects)
    (started : next.broker.isStarted = true) :
    ∃ gate run job names, next.broker.hooks = some ⟨gate, run⟩ ∧
      SetUpBy (past ++ [⟨state, move, next, effects⟩]) next job run names := by
  rcases moved.hooks_cases with same | ⟨job, run, rfl, there, hooks, _⟩
  · rcases moved.of_brokerStarted started with was | ⟨job, run, rfl, there⟩
    · obtain ⟨gate, run, job, names, hooks, setUp⟩ := setup.started was
      exact ⟨gate, run, job, names, same.trans hooks, setUp.step moved⟩
    · obtain ⟨gate, hooks⟩ := setup.installed there
      obtain ⟨names, setUp⟩ := setup.settingUp ⟨_, there, rfl⟩
      exact ⟨gate, run, job, names, same.trans hooks, setUp.step moved⟩
  · obtain ⟨names, setUp⟩ := setup.settingUp ⟨_, there, rfl⟩
    exact ⟨_, run, job, names, hooks, setUp.step moved⟩

end Setup

end

/-- The invariant holds after every history. -/
theorem History.setup {first now : State} {past : List Occurrence}
    (history : History first past now) (unused : first.Unused) : Setup past now := by
  induction history with
  | start => exact .of_unused unused
  | move before step ih =>
      have moved := step_cases step
      exact ⟨ih.settingUp_step moved, ih.installed_step (before.lifecycle unused) moved,
        ih.started_step moved⟩

end TopicRelay
