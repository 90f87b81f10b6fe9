import TopicRelay.Proofs.Feed
import TopicRelay.Proofs.Refusals

/-!
# Calls that are attached to one run

From some moment on, calls arrive that attach subscribers to the run of a bridge, by way of its
broker or at the hook of the run, and nobody but these calls has a turn (`Attaching`).  Relays go on
as they like all the while, deliveries arrive and time passes.

Such a history changes little.  Whatever the calls do, the bridge keeps its settings, its broker and
its runs, and the connections stay as they are but for the consumers and the producers that are
opened (`Steady`).  What a call finds at a route comes down to two things: whether the route has a
relay, and how many consumers its queue is going to refuse.  A turn changes these at the one route
that it is about (`Activates.isOccupied_of_ne`, `Activates.refusalsLeft_of_ne`).
-/

namespace TopicRelay

set_option autoImplicit false

/-! ## The connections but for what comes and goes -/

/-- The failure of an answer, if it is one. -/
def failure? {ε α : Type} : Except ε α → Option ε
  | .ok _ => none
  | .error failure => some failure

namespace Upstream

variable {upstream next : Upstream} {subscription : Subscription} {queue : String}

/-- The connection to the queues, without its mailboxes, its consumers and its refusals. -/
def bare (upstream : Upstream) : Upstream :=
  { upstream with mailboxes := [], queues := [], subscriptions := [], refusals := [] }

/-- How many of its next consumers a queue refuses. -/
def refusalsLeft (upstream : Upstream) (queue : String) : Nat :=
  (upstream.refusals.get? queue).getD 0

theorem refusalsLeft_useRefusal (queue other : String) (left : Nat) :
    (upstream.useRefusal queue left).refusalsLeft other =
      if other = queue then left else upstream.refusalsLeft other := by
  unfold useRefusal refusalsLeft
  by_cases same : other = queue
  · rw [if_pos same, same, Table.get?_insert_self, Option.getD_some]
  · rw [if_neg same, Table.get?_insert_of_ne _ _ same]

theorem isOpen_eq_of_bare (same : next.bare = upstream.bare) : next.isOpen = upstream.isOpen :=
  (congrArg isOpen same : next.bare.isOpen = upstream.bare.isOpen)

/-- A mailbox is taken over: nothing else changes about the connection. -/
theorem takeMailbox_frame (upstream : Upstream) (queue : String) :
    (upstream.takeMailbox queue).1.bare = upstream.bare ∧
      (upstream.takeMailbox queue).1.subscriptions = upstream.subscriptions ∧
        (upstream.takeMailbox queue).1.refusals = upstream.refusals := by
  unfold takeMailbox
  cases upstream.queues.get? queue with
  | none => exact ⟨rfl, rfl, rfl⟩
  | some queueEnd =>
      dsimp only
      split <;> exact ⟨rfl, rfl, rfl⟩

theorem deliver_frame (upstream : Upstream) (queue : String) (delivery : Delivery) :
    (upstream.deliver queue delivery).bare = upstream.bare ∧
      (upstream.deliver queue delivery).subscriptions = upstream.subscriptions ∧
        (upstream.deliver queue delivery).refusals = upstream.refusals := by
  unfold deliver
  cases upstream.queues.get? queue <;> exact ⟨rfl, rfl, rfl⟩

/-- What becomes of a request for a consumer: the connection is closed, or the queue refuses it,
which uses up one of its refusals, or it is made and written down. -/
inductive Consumed (upstream : Upstream) (subscription : Subscription) :
    Except TransportFailure MailboxId → Upstream → Prop where
  | closed {failure : TransportFailure} (shut : upstream.isOpen = false) :
      Consumed upstream subscription (.error failure) upstream
  | refused {failure : TransportFailure} {left : Nat} (connected : upstream.isOpen = true)
      (refuses : upstream.refusalsLeft subscription.queue = left + 1) :
      Consumed upstream subscription (.error failure) (upstream.useRefusal subscription.queue left)
  | made {mailbox : MailboxId} {next : Upstream} (connected : upstream.isOpen = true)
      (accepts : upstream.refusalsLeft subscription.queue = 0)
      (source : next.bare = upstream.bare) (refusals : next.refusals = upstream.refusals)
      (subscriptions : next.subscriptions = upstream.subscriptions ++ [subscription]) :
      Consumed upstream subscription (.ok mailbox) next

theorem consumed (upstream : Upstream) (subscription : Subscription) :
    Consumed upstream subscription (upstream.consume subscription).1
      (upstream.consume subscription).2 := by
  unfold consume
  cases connected : upstream.isOpen with
  | false => exact .closed connected
  | true =>
      simp only [Bool.not_true, Bool.false_eq_true, if_false]
      split
      · rename_i left refuses
        exact .refused connected refuses
      · rename_i accepts
        obtain ⟨source, subscriptions, refusals⟩ :=
          upstream.takeMailbox_frame subscription.queue
        exact .made connected accepts source refusals
          (congrArg (· ++ [subscription]) subscriptions)

theorem consumed_of_eq {answer : Except TransportFailure MailboxId}
    (same : upstream.consume subscription = (answer, next)) :
    Consumed upstream subscription answer next := by
  simpa only [same] using upstream.consumed subscription

theorem bare_consume (upstream : Upstream) (subscription : Subscription) :
    (upstream.consume subscription).2.bare = upstream.bare := by
  have outcome := upstream.consumed subscription
  generalize (upstream.consume subscription).1 = answer, (upstream.consume subscription).2 = next
    at outcome ⊢
  cases outcome with
  | closed _ => rfl
  | refused _ _ => rfl
  | made _ _ source _ _ => exact source

/-- Whether a consumer is refused depends on the connection and on the refusals of its queue. -/
theorem failure?_consume_congr (source : next.bare = upstream.bare)
    (refusals : next.refusalsLeft subscription.queue = upstream.refusalsLeft subscription.queue) :
    failure? (next.consume subscription).1 = failure? (upstream.consume subscription).1 := by
  simp only [refusalsLeft] at refusals
  simp only [consume, refusals, isOpen_eq_of_bare source]
  split
  · rfl
  · split <;> rfl

end Upstream

namespace Downstream

/-- The connection to the topics, without its producers and what was sent. -/
def bare (downstream : Downstream) : Downstream :=
  { downstream with connectedTopics := [], producers := [], sent := [] }

theorem bare_produce {downstream next : Downstream} {topic : String}
    (produced : downstream.produce topic = .ok next) : next.bare = downstream.bare := by
  unfold produce at produced
  split at produced
  · cases produced
  · split at produced
    · cases produced
    · split at produced <;> cases produced
      rfl

theorem bare_send {downstream next : Downstream} {topic payload : String}
    (sent : downstream.send topic payload = .ok next) : next.bare = downstream.bare := by
  unfold send at sent
  split at sent <;> cases sent
  rfl

/-- Whether a producer is refused depends on the connection and its switches. -/
theorem failure?_produce_congr {downstream next : Downstream}
    (same : next.bare = downstream.bare) (topic : String) :
    failure? (next.produce topic) = failure? (downstream.produce topic) := by
  have isOpen : next.isOpen = downstream.isOpen :=
    (congrArg Downstream.isOpen same : next.bare.isOpen = downstream.bare.isOpen)
  have blocked : next.blockedTopics = downstream.blockedTopics :=
    (congrArg blockedTopics same : next.bare.blockedTopics = downstream.bare.blockedTopics)
  have failing : next.failingTopics = downstream.failingTopics :=
    (congrArg failingTopics same : next.bare.failingTopics = downstream.bare.failingTopics)
  simp only [produce, isOpen, blocked, failing]
  split
  · rfl
  · split
    · rfl
    · split <;> rfl

end Downstream

/-! ## What stays as it is -/

/-- Whatever calls that are attached to a run do, and whatever goes on meanwhile, leaves this. -/
structure Steady (run : RunId) (state next : State) : Prop where
  settings : next.settings = state.settings
  catalog : next.catalog = state.catalog
  directory : next.directory = state.directory
  broker : next.broker = state.broker
  source : next.upstream.bare = state.upstream.bare
  sink : next.downstream.bare = state.downstream.bare
  accepting? : ∀ other, next.accepting? other = state.accepting? other
  table? : ∀ other, next.table? other = state.table? other
  /-- The routes of other runs stay as they are. -/
  elsewhere : ∀ {other place}, other ≠ run → next.slot? other place = state.slot? other place

namespace Steady

variable {run : RunId} {state middle next : State}

theorem refl (run : RunId) (state : State) : Steady run state state :=
  ⟨rfl, rfl, rfl, rfl, rfl, rfl, fun _ => rfl, fun _ => rfl, fun _ => rfl⟩

theorem trans (first : Steady run state middle) (second : Steady run middle next) :
    Steady run state next where
  settings := second.settings.trans first.settings
  catalog := second.catalog.trans first.catalog
  directory := second.directory.trans first.directory
  broker := second.broker.trans first.broker
  source := second.source.trans first.source
  sink := second.sink.trans first.sink
  accepting? := fun other => (second.accepting? other).trans (first.accepting? other)
  table? := fun other => (second.table? other).trans (first.table? other)
  elsewhere := fun apart => (second.elsewhere apart).trans (first.elsewhere apart)

theorem setJob {job : JobId} {found : Job} (steady : Steady run state next) :
    Steady run state (next.setJob job found) :=
  { steady with }

theorem arrive {request : Request} (steady : Steady run state next) :
    Steady run state (next.arrive request) :=
  { steady with }

theorem route? (steady : Steady run state next) (other : RunId) (place : Place) :
    next.route? other place = state.route? other place := by
  have tables := steady.table? other
  simp only [State.table?] at tables
  simp only [State.route?]
  cases there : next.run? other with
  | none => cases here : state.run? other <;> simp_all
  | some found =>
      cases here : state.run? other with
      | none => simp [there, here] at tables
      | some old =>
          have same : found.table = old.table := by simpa [there, here] using tables
          simp [same]

theorem subscription (steady : Steady run state next) (route : Route) :
    next.subscription route = state.subscription route := by
  simp only [State.subscription, steady.settings]

theorem of_activates {job : JobId} {topic : String} {phase : ActivationPhase}
    {advance : Advance ActivationPhase (Except ActivationFailure Unit)} {effects : List Effect}
    (turn : Activates state job run topic phase advance next effects) : Steady run state next where
  settings := by cases turn <;> rfl
  catalog := by cases turn <;> rfl
  directory := by cases turn <;> rfl
  broker := by cases turn <;> rfl
  source := by
    cases turn with
    | connected _ consumed => exact congrArg (·.2.bare) consumed ▸ Upstream.bare_consume ..
    | unconnected _ refused => exact congrArg (·.2.bare) refused ▸ Upstream.bare_consume ..
    | _ => rfl
  sink := by
    cases turn with
    | produced produced => exact Downstream.bare_produce produced
    | _ => rfl
  accepting? := turn.leavesBridge.accepting?
  table? := turn.leavesBridge.table?
  elsewhere := by
    intro other place apart
    have different : ∀ {spot : Place}, (run, spot) ≠ (other, place) := by
      rintro spot ⟨⟩
      exact apart rfl
    cases turn with
    | asked _ _ => exact State.slot?_modifySlot_of_ne different
    | needless _ _ _ _ => exact State.slot?_modifySlot_of_ne different
    | refused _ _ _ _ _ => exact State.slot?_modifySlot_of_ne different
    | unconnected _ _ => exact State.slot?_modifySlot_of_ne different
    | spawned _ => exact State.slot?_modifySlot_of_ne different
    | consumerUndone _ => exact State.slot?_modifySlot_of_ne different
    | _ => rfl

end Steady

/-- Something goes on that is no turn of a call: no call, no route and no refusal changes. -/
structure Aside (state next : State) : Prop where
  jobs : next.jobs = state.jobs
  runs : next.runs = state.runs
  settings : next.settings = state.settings
  catalog : next.catalog = state.catalog
  directory : next.directory = state.directory
  broker : next.broker = state.broker
  source : next.upstream.bare = state.upstream.bare
  sink : next.downstream.bare = state.downstream.bare
  subscriptions : next.upstream.subscriptions = state.upstream.subscriptions
  refusals : next.upstream.refusals = state.upstream.refusals

namespace Aside

variable {state next : State}

theorem steady (aside : Aside state next) (run : RunId) : Steady run state next :=
  ⟨aside.settings, aside.catalog, aside.directory, aside.broker, aside.source, aside.sink,
    fun _ => State.accepting?_congr aside.runs, fun _ => State.table?_congr aside.runs,
    fun _ => State.slot?_congr aside.runs⟩

theorem of_forwards {relay : RelayId} {found : Relay} {effects : List Effect}
    (turn : Forwards state relay found next effects) : Aside state next where
  jobs := turn.leavesBridge.jobs
  runs := by cases turn <;> rfl
  settings := by cases turn <;> rfl
  catalog := by cases turn <;> rfl
  directory := by cases turn <;> rfl
  broker := by cases turn <;> rfl
  source := by cases turn <;> rfl
  sink := by
    cases turn with
    | sent _ accepted => exact Downstream.bare_send accepted
    | _ => rfl
  subscriptions := by cases turn <;> rfl
  refusals := by cases turn <;> rfl

theorem of_deliver (state : State) (queue : String) (delivery : Delivery) :
    Aside state (state.change (.deliver queue delivery)) := by
  obtain ⟨source, subscriptions, refusals⟩ := state.upstream.deliver_frame queue delivery
  exact ⟨rfl, rfl, rfl, rfl, rfl, rfl, source, rfl, subscriptions, refusals⟩

theorem of_forget (state : State) (run : RunId) : Aside state (state.tellRelays run) :=
  ⟨rfl, rfl, rfl, rfl, rfl, rfl, rfl, rfl, rfl, rfl⟩

theorem of_wait (state : State) (milliseconds : Nat) :
    Aside state { state with clock := state.clock + milliseconds } :=
  ⟨rfl, rfl, rfl, rfl, rfl, rfl, rfl, rfl, rfl, rfl⟩

end Aside

/-! ## What a call finds at a route -/

namespace State

variable {state next : State} {run : RunId} {place : Place}

/-- Whether a route has a relay. -/
def isOccupied (state : State) (run : RunId) (place : Place) : Bool :=
  (state.slot? run place).any (·.relay.isSome)

theorem isOccupied_iff : state.isOccupied run place = true ↔ state.Occupied run place := by
  simp only [isOccupied, Occupied, Option.any_eq_true, Option.isSome_iff_exists, exists_and_left]

theorem isOccupied_of_some {slot : RouteSlot} (found : state.slot? run place = some slot) :
    state.isOccupied run place = slot.relay.isSome := by
  simp [isOccupied, found]

theorem isOccupied_congr (same : next.runs = state.runs) :
    next.isOccupied run place = state.isOccupied run place :=
  congrArg _ (slot?_congr same)

theorem isOccupied_modifySlot {change : RouteSlot → RouteSlot}
    (keeps : ∀ slot, (change slot).relay = slot.relay) (other : RunId) (spot : Place) :
    (state.modifySlot run place change).isOccupied other spot = state.isOccupied other spot := by
  simp only [isOccupied, slot?_modifySlot]
  cases state.slot? other spot with
  | none => rfl
  | some slot =>
      simp only [Option.map_some, Option.any_some]
      split
      · rw [keeps]
      · rfl

theorem isOccupied_spawn {route : Route} {mailbox : MailboxId} {slot : RouteSlot}
    (found : state.slot? run place = some slot) (spot : Place) :
    (state.spawn run place route mailbox).isOccupied run spot =
      (place == spot || state.isOccupied run spot) := by
  by_cases same : place = spot
  · subst same
    have now : (state.spawn run place route mailbox).slot? run place = some _ :=
      slot?_modifySlot_of_some found
    simp [isOccupied, now]
  · have apart : (run, place) ≠ (run, spot) := fun equal => same (Prod.mk.inj equal).2
    have still : (state.spawn run place route mailbox).slot? run spot = state.slot? run spot :=
      slot?_modifySlot_of_ne apart
    simp [isOccupied, still, same]

end State

section

variable {state next : State} {job : JobId} {run : RunId} {topic : String}
  {phase : ActivationPhase} {advance : Advance ActivationPhase (Except ActivationFailure Unit)}
  {effects : List Effect}

/-- The guard of a route is asked for or given up. -/
theorem State.isOccupied_of_guard {middle : State} {place : Place} (turn : Guard → Guard)
    (runs : middle.runs = state.runs) (spot : Place) :
    (middle.modifySlot run place fun slot =>
      { slot with guard := turn slot.guard }).isOccupied run spot = state.isOccupied run spot := by
  refine (State.isOccupied_modifySlot ?_ ..).trans (State.isOccupied_congr runs)
  exact fun _ => rfl

/-- A turn leaves every route but its own with or without a relay. -/
theorem Activates.isOccupied_of_ne {spot : Place}
    (turn : Activates state job run topic phase advance next effects)
    (apart : phase.place? ≠ some spot) : next.isOccupied run spot = state.isOccupied run spot := by
  cases turn with
  | asked _ _ => exact State.isOccupied_of_guard (·.request job) rfl spot
  | needless _ _ _ _ => exact State.isOccupied_of_guard Guard.release rfl spot
  | refused _ _ _ _ _ => exact State.isOccupied_of_guard Guard.release rfl spot
  | unconnected _ _ => exact State.isOccupied_of_guard Guard.release rfl spot
  | consumerUndone _ => exact State.isOccupied_of_guard Guard.release rfl spot
  | spawned _ =>
      refine congrArg _ (State.slot?_modifySlot_of_ne ?_)
      rintro ⟨⟩
      exact apart rfl
  | _ => rfl

/-- A turn leaves the refusals of every queue but that of its own route. -/
theorem Activates.refusalsLeft_of_ne {queue : String}
    (turn : Activates state job run topic phase advance next effects)
    (apart : ∀ {place route}, phase.place? = some place → state.route? run place = some route →
      route.id ≠ queue) :
    next.upstream.refusalsLeft queue = state.upstream.refusalsLeft queue := by
  cases turn with
  | connected here consumed =>
      have outcome := Upstream.consumed_of_eq consumed
      cases outcome with
      | made _ _ _ refusals _ => exact congrArg (fun table => (table.get? queue).getD 0) refusals
  | unconnected here refused =>
      have outcome := Upstream.consumed_of_eq refused
      cases outcome with
      | closed _ => rfl
      | refused _ _ =>
          refine (Upstream.refusalsLeft_useRefusal ..).trans (if_neg ?_)
          exact fun same => apart rfl here same.symm
  | _ => rfl

end

/-! ## Histories of attachments -/

/-- The topic that a call attaches a subscriber to, by way of the broker or at the hook of a run. -/
def Request.attaches? (run : RunId) : Request → Option String
  | .attach topic => some topic
  | .notify other topic => if other = run then some topic else none
  | _ => none

/-- Whether a move is the turn of a call that has arrived since some moment, or attaches a
subscriber to a run, or goes on aside: a relay moves, a run is forgotten, a delivery arrives, time
passes. -/
def Move.attaches (arrived : Nat) (run : RunId) : Move → Bool
  | .job id => arrived ≤ id
  | .arrive request => (request.attaches? run).isSome
  | .relay _ _ | .forget _ | .change (.deliver _ _) | .wait _ => true
  | _ => false

/-- Since some moment calls have attached subscribers to a run, and nobody else has had a turn. -/
structure Attaching (called : State) (run : RunId) (later : List Occurrence) (now : State) :
    Prop where
  history : History called later now
  only : ∀ occurrence ∈ later, occurrence.move.attaches called.jobs.length run = true

/-- The calls that have arrived, in the order in which they have arrived. -/
def requestsIn (later : List Occurrence) : List Request :=
  later.filterMap fun occurrence =>
    match occurrence.move with
    | .arrive request => some request
    | _ => none

theorem requestsIn_append (earlier later : List Occurrence) :
    requestsIn (earlier ++ later) = requestsIn earlier ++ requestsIn later :=
  List.filterMap_append

theorem requestsIn_singleton_arrive {now next : State} {request : Request}
    {effects : List Effect} : requestsIn [⟨now, .arrive request, next, effects⟩] = [request] := rfl

/-- An attachment to a run, by way of the hooks of the broker if those are of the run. -/
def AttachPhase.IsOf (run : RunId) : AttachPhase → Prop
  | .presenting _ => False
  | .activating other _ => other = run
  | .entering | .done _ => True

/-- A call that attaches a subscriber to a run has yet to find its routes. -/
theorem Request.job_of_attaches {run : RunId} {request : Request} {label : String}
    (attaches : request.attaches? run = some label) :
    ∃ phase, request.job = .attach label phase ∧ phase.IsOf run ∧
      (phase = .entering ∨ phase = .activating run .resolving) := by
  cases request with
  | attach topic =>
      cases attaches
      exact ⟨.entering, rfl, trivial, .inl rfl⟩
  | notify other topic =>
      simp only [attaches?, Option.ite_none_right_eq_some] at attaches
      obtain ⟨rfl, ⟨⟩⟩ := attaches
      exact ⟨.activating other .resolving, rfl, rfl, .inr rfl⟩
  | _ => cases attaches

/-- What happens while calls are attached to a run. -/
inductive Incident (called : State) (run : RunId) (now : State) :
    Move → State → List Effect → Prop where
  | turn {id : JobId} {label : String} {phase after : AttachPhase} {middle : State}
      {effects : List Effect} (new : called.jobs.length ≤ id)
      (present : now.jobs[id]? = some (.attach label phase)) (ofRun : phase.IsOf run)
      (turned : now.attachTurn id label phase = some (after, middle, effects)) :
      Incident called run now (.job id) (middle.setJob id (.attach label after)) effects
  | arrival {request : Request} {label : String} (attaches : request.attaches? run = some label) :
      Incident called run now (.arrive request) (now.arrive request) []
  | relay {relay : RelayId} {heed : Bool} {found : Relay} {next : State} {effects : List Effect}
      (present : now.relays[relay]? = some found) (turn : Forwards now relay found next effects) :
      Incident called run now (.relay relay heed) next effects
  | forgotten {other : RunId} :
      Incident called run now (.forget other) (now.tellRelays other) []
  | delivery {queue : String} {delivery : Delivery} :
      Incident called run now (.change (.deliver queue delivery))
        (now.change (.deliver queue delivery)) []
  | elapsed {milliseconds : Nat} :
      Incident called run now (.wait milliseconds)
        { now with clock := now.clock + milliseconds } []

/-- Where the calls are that have arrived since some moment: behind those that were there, in the
order in which they have arrived, and attached to the run. -/
structure Calls (called : State) (run : RunId) (requests : List Request) (now : State) : Prop where
  old : ∀ {id}, id < called.jobs.length → now.jobs[id]? = called.jobs[id]?
  length : now.jobs.length = called.jobs.length + requests.length
  new : ∀ {index request}, requests[index]? = some request →
    ∃ label phase, request.attaches? run = some label ∧ phase.IsOf run ∧
      now.jobs[called.jobs.length + index]? = some (.attach label phase)
  steady : Steady run called now

/-- A call by way of the broker is let in if the broker is started. -/
theorem attachTurn_entering {state : State} {hooks : Hooks}
    (installed : state.broker.hooks = some hooks) (job : JobId) (topic : String) :
    state.attachTurn job topic .entering = some (
      if state.broker.isStarted then .activating hooks.run .resolving
      else .done (.error .notStarted), state, []) := by
  cases started : state.broker.isStarted <;> simp [State.attachTurn, started, installed]

section

variable {called now next : State} {run : RunId} {requests : List Request} {move : Move}
  {effects : List Effect} {gate : Gate}

/-- The turn of a call that is attached to a run: it is let in or not, or it activates a route of
the run. -/
theorem AttachPhase.IsOf.turn_cases {id : JobId} {label : String} {phase after : AttachPhase}
    {middle : State} (ofRun : phase.IsOf run) (hooks : now.broker.hooks = some ⟨gate, run⟩)
    (turned : now.attachTurn id label phase = some (after, middle, effects)) :
    (phase = .entering ∧ middle = now ∧
      after = if now.broker.isStarted then .activating run .resolving
        else .done (.error .notStarted)) ∨
    ∃ before advance, phase = .activating run before ∧ after = State.attachAfter run advance ∧
      Activates now id run label before advance middle effects := by
  cases phase with
  | presenting credential => cases ofRun
  | entering =>
      rw [attachTurn_entering hooks] at turned
      simp only [Option.some.injEq, Prod.mk.injEq] at turned
      obtain ⟨rfl, rfl, _⟩ := turned
      exact .inl ⟨rfl, rfl, rfl⟩
  | activating other phase =>
      obtain rfl : other = run := ofRun
      cases attachTurn_cases turned with
      | activated turn => exact .inr ⟨_, _, rfl, rfl, turn⟩
  | done result => cases turned

/-- The turn of a call that is attached to a run leaves it so, and leaves the rest as it is. -/
theorem AttachPhase.IsOf.turn {id : JobId} {label : String} {phase after : AttachPhase}
    {middle : State} (ofRun : phase.IsOf run) (hooks : now.broker.hooks = some ⟨gate, run⟩)
    (turned : now.attachTurn id label phase = some (after, middle, effects)) :
    after.IsOf run ∧ Steady run now middle := by
  rcases ofRun.turn_cases hooks turned with ⟨-, rfl, rfl⟩ | ⟨before, advance, rfl, rfl, turn⟩
  · refine ⟨?_, .refl run _⟩
    split
    · exact rfl
    · trivial
  · refine ⟨?_, .of_activates turn⟩
    cases advance with
    | next phase => exact rfl
    | finish result => cases result <;> trivial

namespace Calls

theorem start (called : State) (run : RunId) : Calls called run [] called where
  old := fun _ => rfl
  length := rfl
  new := by simp
  steady := .refl run called

/-- A call that has arrived since is an attachment. -/
theorem exists_of_le {id : Nat} {found : Job} (calls : Calls called run requests now)
    (new : called.jobs.length ≤ id) (present : now.jobs[id]? = some found) :
    ∃ request label phase, requests[id - called.jobs.length]? = some request ∧
      request.attaches? run = some label ∧ phase.IsOf run ∧ found = .attach label phase := by
  have bound := (List.getElem?_eq_some_iff.mp present).1
  have among : id - called.jobs.length < requests.length := by
    rw [calls.length] at bound
    omega
  obtain ⟨request, asked⟩ : ∃ request, requests[id - called.jobs.length]? = some request :=
    ⟨_, List.getElem?_eq_getElem among⟩
  obtain ⟨label, phase, attaches, ofRun, there⟩ := calls.new asked
  rw [Nat.add_sub_cancel' new] at there
  exact ⟨request, label, phase, asked, attaches, ofRun, Option.some.inj (present.symm.trans there)⟩

/-- **Nothing else happens.** -/
theorem incident (calls : Calls called run requests now)
    (step : now.step move = some (next, effects))
    (allowed : move.attaches called.jobs.length run = true) :
    Incident called run now move next effects := by
  cases move with
  | job id =>
      have new : called.jobs.length ≤ id := by simpa [Move.attaches] using allowed
      cases present : now.jobs[id]? with
      | none => simp [State.step, State.jobTurn, present] at step
      | some found =>
          obtain ⟨_, label, phase, _, _, ofRun, rfl⟩ := calls.exists_of_le new present
          simp only [State.step, State.jobTurn, present, Option.map_eq_some_iff, Prod.exists,
            Prod.mk.injEq] at step
          obtain ⟨after, middle, _, turned, rfl, rfl⟩ := step
          exact .turn new present ofRun turned
  | relay relay heed =>
      obtain ⟨found, present, turn⟩ := relayTurn_cases step
      exact .relay present turn
  | forget other =>
      cases step_cases step
      exact .forgotten
  | arrive request =>
      rw [Move.attaches, Option.isSome_iff_exists] at allowed
      obtain ⟨label, attaches⟩ := allowed
      cases step
      exact .arrival attaches
  | change change =>
      cases change with
      | deliver queue delivery =>
          cases step
          exact .delivery
      | _ => cases allowed
  | wait milliseconds =>
      cases step
      exact .elapsed
  | closeSource => cases allowed
  | closeSink => cases allowed

theorem aside (calls : Calls called run requests now) (aside : Aside now next) :
    Calls called run requests next where
  old := fun old => aside.jobs ▸ calls.old old
  length := aside.jobs ▸ calls.length
  new := fun asked => aside.jobs ▸ calls.new asked
  steady := calls.steady.trans (aside.steady run)

/-- **Every incident keeps the calls where they are.** -/
theorem step {later : List Occurrence} (calls : Calls called run (requestsIn later) now)
    (hooks : called.broker.hooks = some ⟨gate, run⟩)
    (incident : Incident called run now move next effects) :
    Calls called run (requestsIn (later ++ [⟨now, move, next, effects⟩])) next := by
  rw [requestsIn_append]
  cases incident with
  | @turn id label phase after middle effects new present ofRun turned =>
      obtain ⟨still, steady⟩ := ofRun.turn (calls.steady.broker ▸ hooks) turned
      have jobs := (attachTurn_cases turned).leavesBridge.jobs
      have there : middle.jobs[id]? = some (.attach label phase) := jobs ▸ present
      refine ⟨?_, ?_, ?_, (calls.steady.trans steady).setJob⟩
      · intro other old
        rw [State.jobs_setJob_of_ne (Nat.ne_of_lt (Nat.lt_of_lt_of_le old new)), jobs, calls.old old]
      · simpa [State.setJob, jobs, requestsIn] using calls.length
      · intro index request asked
        obtain ⟨other, before, attaches, was, here⟩ := calls.new (by simpa [requestsIn] using asked)
        by_cases mine : called.jobs.length + index = id
        · subst mine
          cases present.symm.trans here
          exact ⟨label, after, attaches, still, State.jobs_setJob_self there⟩
        · exact ⟨other, before, attaches, was,
            (State.jobs_setJob_of_ne mine).trans (jobs ▸ here)⟩
  | @arrival request label attaches =>
      have size := calls.length
      refine ⟨?_, ?_, ?_, calls.steady.arrive⟩
      · intro id old
        rw [← calls.old old]
        exact List.getElem?_append_left (by omega)
      · simp [State.arrive, requestsIn_singleton_arrive, size]
        omega
      · intro index asking asked
        rw [requestsIn_singleton_arrive] at asked
        rcases getElem?_concat_eq_some.mp asked with before | ⟨last, rfl⟩
        · obtain ⟨other, phase, attached, was, here⟩ := calls.new before
          exact ⟨other, phase, attached, was, getElem?_concat_eq_some.mpr (.inl here)⟩
        · obtain ⟨phase, job, ofRun, _⟩ := Request.job_of_attaches attaches
          exact ⟨label, phase, attaches, ofRun,
            getElem?_concat_eq_some.mpr (.inr ⟨by omega, job⟩)⟩
  | relay present turn => simpa [requestsIn] using calls.aside (.of_forwards turn)
  | forgotten => simpa [requestsIn] using calls.aside (.of_forget ..)
  | delivery => simpa [requestsIn] using calls.aside (.of_deliver ..)
  | elapsed => simpa [requestsIn] using calls.aside (.of_wait ..)

end Calls

end

namespace Attaching

variable {called now next : State} {run : RunId} {later : List Occurrence}

theorem start (called : State) (run : RunId) : Attaching called run [] called :=
  ⟨.start, by simp⟩

theorem move {move : Move} {effects : List Effect} (attaching : Attaching called run later now)
    (step : now.step move = some (next, effects))
    (allowed : move.attaches called.jobs.length run = true) :
    Attaching called run (later ++ [⟨now, move, next, effects⟩]) next where
  history := .move attaching.history step
  only := by
    intro occurrence among
    rcases List.mem_append.mp among with earlier | last
    · exact attaching.only occurrence earlier
    · cases List.mem_singleton.mp last
      exact allowed

/-- What holds at first and what every move keeps holds all along. -/
theorem induction {P : List Occurrence → State → Prop} (attaching : Attaching called run later now)
    (initial : P [] called)
    (keeps : ∀ {later : List Occurrence} {now next : State} {move : Move} {effects : List Effect},
      Attaching called run later now → P later now → now.step move = some (next, effects) →
        move.attaches called.jobs.length run = true →
          P (later ++ [⟨now, move, next, effects⟩]) next) : P later now := by
  obtain ⟨history, only⟩ := attaching
  induction history with
  | start => exact initial
  | @move later now next move effects before step ih =>
      have earlier : ∀ occurrence ∈ later,
          occurrence.move.attaches called.jobs.length run = true :=
        fun occurrence among => only occurrence (by simp [among])
      exact keeps ⟨before, earlier⟩ (ih earlier) step (only ⟨now, move, next, effects⟩ (by simp))

theorem calls {gate : Gate} (attaching : Attaching called run later now)
    (hooks : called.broker.hooks = some ⟨gate, run⟩) : Calls called run (requestsIn later) now :=
  attaching.induction (P := fun later now => Calls called run (requestsIn later) now)
    (.start called run) fun _ calls step allowed => calls.step hooks (calls.incident step allowed)

/-- Attachments that follow from a list of moves. -/
theorem of_record {moves : List Move} (recorded : called.record moves = some (later, now))
    (only : moves.all (Move.attaches called.jobs.length run) = true) :
    Attaching called run later now :=
  ⟨.of_record recorded, fun _ among =>
    List.all_eq_true.mp only _ (move_mem_of_record recorded among)⟩

end Attaching

end TopicRelay
