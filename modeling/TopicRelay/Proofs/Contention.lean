import TopicRelay.Proofs.InService
import TopicRelay.Proofs.Progress

/-!
# Many calls for one topic

Calls attach subscribers to one topic, and nothing keeps its routes from being started but queues
that refuse consumers.  Which of the calls meets a refusal depends on how they interleave: a call
goes through the routes one after the other, and gives up at the first refusal.  But a call that
fails uses up one refusal, and a call that succeeds leaves no route without a relay behind it.  So
as many calls fail as there are refusals ahead, or all of them if there are fewer calls
(`History.failures_under_contention`).

The invariant is kept as a ledger (`Contended`): the failures so far and the refusals that still
await the routes make up the refusals that there were, and each route that has been given a relay
has cost its queue one consumer.
-/

namespace TopicRelay

set_option autoImplicit false

/-! ## What lies ahead -/

namespace State

/-- Whether a route is marked as started. -/
def isStarted (state : State) (run : RunId) (place : Place) : Bool :=
  (state.slot? run place).any (·.started)

/-- How many of its next consumers the queue of a route refuses. -/
def refusalsAt (state : State) (run : RunId) (place : Place) : Nat :=
  ((state.route? run place).map fun route => state.upstream.refusalsLeft route.id).getD 0

/-- How many refusals await the routes of a topic that are not started. -/
def refusalsAhead (state : State) (run : RunId) (topic : String) : Nat :=
  ((state.positions run topic).map fun place =>
    if state.isStarted run place then 0 else state.refusalsAt run place).sum

/-- How many refusals await a route: none if it has a relay. -/
def owed (state : State) (run : RunId) (place : Place) : Nat :=
  if state.isOccupied run place then 0 else state.refusalsAt run place

/-- How many refusals await the routes of a topic that have no relay. -/
def backlog (state : State) (run : RunId) (topic : String) : Nat :=
  ((state.positions run topic).map (state.owed run)).sum

/-- A bridge is in a run with both connections open, nobody stops it or attaches a subscriber, and
nothing keeps the routes of a topic from being started but queues that refuse consumers. -/
structure Clear (state : State) (run : RunId) (topic : String) : Prop where
  running : state.running = some run
  noStop : ¬state.Has Job.isStopping
  noAttachment : ∀ {id : JobId} {label : String} {phase : AttachPhase},
    state.jobs[id]? = some (.attach label phase) → ∃ answer, phase = .done answer
  source : state.upstream.isOpen = true
  sink : state.downstream.isOpen = true
  routed : state.positions run topic ≠ []
  permitted : ∀ {place : Place} {route : Route} {label : String}, place ∈ state.positions run topic →
    state.route? run place = some route → label ∈ route.topics →
      label ∉ state.downstream.failingTopics ∧ label ∉ state.downstream.blockedTopics

variable {state next : State} {run : RunId} {topic : String} {place : Place}

theorem refusalsAt_of_some {route : Route} (here : state.route? run place = some route) :
    state.refusalsAt run place = state.upstream.refusalsLeft route.id := by
  simp [refusalsAt, here]

theorem backlog_congr (steady : Steady run state next)
    (same : ∀ place ∈ state.positions run topic, next.owed run place = state.owed run place) :
    next.backlog run topic = state.backlog run topic := by
  rw [backlog, backlog, positions_congr steady, List.map_congr_left same]

/-- What awaits one of the routes changes. -/
theorem backlog_update (steady : Steady run state next)
    (distinct : (state.positions run topic).Nodup) (among : place ∈ state.positions run topic)
    (same : ∀ spot ∈ state.positions run topic, spot ≠ place →
      next.owed run spot = state.owed run spot) :
    next.backlog run topic + state.owed run place =
      state.backlog run topic + next.owed run place := by
  obtain ⟨index, there⟩ := List.mem_iff_getElem?.mp among
  obtain ⟨bound, found⟩ := List.getElem?_eq_some_iff.mp there
  have sum := sum_map_set_congr (state.owed run) (next.owed run) place there
    fun spot item apart here => by
      refine same item (List.mem_of_getElem? here) fun equal => apart ?_
      subst equal
      exact ((List.getElem?_inj bound distinct).mp (there.trans here.symm)).symm
  have still : (state.positions run topic).set index place = state.positions run topic :=
    found ▸ List.set_getElem_self bound
  rw [still] at sum
  rwa [backlog, backlog, positions_congr steady]

end State

/-- A call was answered that the consumer of a route was refused, or one of its producers. -/
def Job.startFailed : Job → Bool
  | .attach _ (.done (.error (.activation (.startFailed _ _)))) => true
  | _ => false

/-- A call has connected the consumer of a route. -/
def Job.feeds (place : Place) : Job → Bool
  | .attach _ (.activating _ (.producing spot _ _ _ _))
  | .attach _ (.activating _ (.undoing spot _ _ _)) => spot == place
  | _ => false

/-- A call that fails only at refusals of consumers: what it has connected will be started, and
once it succeeds all routes of its topic have a relay. -/
def AttachPhase.Smooth (state : State) (run : RunId) (topic : String) : AttachPhase → Prop
  | .activating _ (.producing place _ _ _ _) => state.refusalsAt run place = 0
  | .activating _ (.undoing _ _ _ _) => False
  | .done (.ok _) => ∀ place ∈ state.positions run topic, state.isOccupied run place = true
  | .done (.error failure) => ∃ queue cause, failure = .activation (.startFailed queue cause)
  | _ => True

/-! ## Turns -/

section

variable {state next : State} {job : JobId} {run : RunId} {topic : String}
  {phase : ActivationPhase} {advance : Advance ActivationPhase (Except ActivationFailure Unit)}
  {effects : List Effect}

/-- No turn adds refusals. -/
theorem Activates.refusalsLeft_le
    (turn : Activates state job run topic phase advance next effects) (queue : String) :
    next.upstream.refusalsLeft queue ≤ state.upstream.refusalsLeft queue := by
  cases turn with
  | connected here consumed =>
      cases Upstream.consumed_of_eq consumed with
      | made _ _ _ refusals _ =>
          exact Nat.le_of_eq
            (congrArg (fun table : Table Nat => (table.get? queue).getD 0) refusals)
  | @unconnected _ _ _ route _ _ here refused =>
      cases Upstream.consumed_of_eq refused with
      | closed _ => exact Nat.le_refl _
      | @refused _ left _ refuses =>
          refine (Upstream.refusalsLeft_useRefusal ..).trans_le ?_
          split
          · next same =>
              subst same
              exact Nat.le_of_lt (refuses ▸ Nat.lt_succ_self left)
          · exact Nat.le_refl _
  | _ => exact Nat.le_refl _

/-- No turn takes a relay from a route. -/
theorem Activates.isOccupied_mono {place : Place} (own : Ownership state)
    (present : state.jobs[job]? = some (.attach topic (.activating run phase)))
    (turn : Activates state job run topic phase advance next effects)
    (occupied : state.isOccupied run place = true) : next.isOccupied run place = true := by
  cases turn with
  | asked _ _ => exact (State.isOccupied_of_guard (·.request job) rfl place).trans occupied
  | needless _ _ _ _ => exact (State.isOccupied_of_guard Guard.release rfl place).trans occupied
  | refused _ _ _ _ _ => exact (State.isOccupied_of_guard Guard.release rfl place).trans occupied
  | unconnected _ _ => exact (State.isOccupied_of_guard Guard.release rfl place).trans occupied
  | consumerUndone _ => exact (State.isOccupied_of_guard Guard.release rfl place).trans occupied
  | spawned _ =>
      obtain ⟨slot, found, _⟩ := own.claimed ⟨_, present, rfl⟩
      rw [State.isOccupied_spawn found, occupied, Bool.or_true]
  | _ => exact occupied

end

/-- The failures and the refusals that are still ahead make up the same as before, and a route has
cost its queue a consumer once it is fed. -/
structure Settles (run : RunId) (topic : String) (state : State) (before : Job) (next : State)
    (after : Job) : Prop where
  failures : next.backlog run topic + after.startFailed.toNat =
    state.backlog run topic + before.startFailed.toNat
  connects : ∀ {place route}, state.route? run place = some route →
    next.upstream.connectCount route.id + (state.isOccupied run place).toNat +
        (before.feeds place).toNat =
      state.upstream.connectCount route.id + (next.isOccupied run place).toNat +
        (after.feeds place).toNat

section

variable {state next : State} {job : JobId} {run : RunId} {topic : String}
  {phase : ActivationPhase} {advance : Advance ActivationPhase (Except ActivationFailure Unit)}
  {effects : List Effect}

namespace Settles

/-- Nothing changes that counts. -/
theorem quiet {before after : Job} (steady : Steady run state next)
    (subscriptions : next.upstream.subscriptions = state.upstream.subscriptions)
    (refusals : ∀ queue, next.upstream.refusalsLeft queue = state.upstream.refusalsLeft queue)
    (occupied : ∀ place, next.isOccupied run place = state.isOccupied run place)
    (failed : after.startFailed = before.startFailed)
    (feeds : ∀ place, after.feeds place = before.feeds place) :
    Settles run topic state before next after where
  failures := by
    have ahead : next.backlog run topic = state.backlog run topic :=
      State.backlog_congr steady fun place _ => by
        simp only [State.owed, occupied, State.refusalsAt, steady.route?, refusals]
    rw [ahead, failed]
  connects := fun _ => by
    rw [Upstream.connectCount, Upstream.connectCount, subscriptions, occupied, feeds]

/-- A consumer is refused: that is one refusal less and one failure more. -/
theorem refused {place : Place} {route : Route} {left : Nat} {before after : Job}
    (steady : Steady run state next) (here : state.route? run place = some route)
    (apart : state.RoutesApart run) (distinct : (state.positions run topic).Nodup)
    (among : place ∈ state.positions run topic) (free : state.isOccupied run place = false)
    (refuses : state.upstream.refusalsLeft route.id = left + 1)
    (refusals : ∀ queue, next.upstream.refusalsLeft queue =
      if queue = route.id then left else state.upstream.refusalsLeft queue)
    (subscriptions : next.upstream.subscriptions = state.upstream.subscriptions)
    (occupied : ∀ spot, next.isOccupied run spot = state.isOccupied run spot)
    (unfailed : before.startFailed = false) (failed : after.startFailed = true)
    (feeds : ∀ spot, after.feeds spot = before.feeds spot) :
    Settles run topic state before next after := by
  refine ⟨?_, ?_⟩
  · have was : state.owed run place = left + 1 := by
      rw [State.owed, free, State.refusalsAt_of_some here, refuses]
      rfl
    have now : next.owed run place = left := by
      rw [State.owed, occupied, free, State.refusalsAt_of_some ((steady.route? run place).trans here),
        refusals, if_pos rfl]
      rfl
    have update := State.backlog_update steady distinct among fun spot _ elsewhere => by
      rw [State.owed, State.owed, occupied]
      cases there : state.route? run spot with
      | none => simp only [State.refusalsAt, steady.route?, there, Option.map_none]
      | some other =>
          rw [State.refusalsAt_of_some ((steady.route? run spot).trans there),
            State.refusalsAt_of_some there, refusals,
            if_neg fun same => elsewhere (apart there here same)]
    rw [was, now] at update
    rw [unfailed, failed, Bool.toNat_true, Bool.toNat_false]
    omega
  · intro spot other there
    rw [Upstream.connectCount, Upstream.connectCount, subscriptions, occupied, feeds]

/-- A consumer is connected: the call feeds the route. -/
theorem connected {place : Place} {ahead : List Place} {due : Nat} {route : Route}
    {mailbox : MailboxId} {upstream : Upstream} {wanted : List String}
    (steady : Steady run state { state with upstream := upstream })
    (here : state.route? run place = some route)
    (consumed : state.upstream.consume (state.subscription route) = (.ok mailbox, upstream))
    (apart : state.RoutesApart run) :
    Settles run topic state (.attach topic (.activating run (.connecting place ahead due)))
      { state with upstream := upstream }
      (.attach topic (.activating run (.producing place ahead mailbox [] wanted))) := by
  cases Upstream.consumed_of_eq consumed with
  | made _ _ _ refusals subscriptions =>
      refine ⟨?_, ?_⟩
      · have same : ({ state with upstream := upstream } : State).backlog run topic =
            state.backlog run topic :=
          State.backlog_congr steady fun spot _ => by
            simp only [State.owed, State.refusalsAt, steady.route?, Upstream.refusalsLeft, refusals]
            rfl
        rw [same]
        rfl
      · intro spot other there
        have counted : upstream.connectCount other.id =
            state.upstream.connectCount other.id + (place == spot).toNat := by
          have same : (route.id == other.id) = (place == spot) := by
            rw [Bool.eq_iff_iff, beq_iff_eq, beq_iff_eq]
            refine ⟨apart here there, ?_⟩
            rintro rfl
            cases here.symm.trans there
            rfl
          have queue : (state.subscription route).queue = route.id := rfl
          rw [Upstream.connectCount, Upstream.connectCount, subscriptions, List.countP_append,
            List.countP_singleton, queue, same]
          cases place == spot <;> rfl
        have still : ({ state with upstream := upstream } : State).isOccupied run spot =
          state.isOccupied run spot := rfl
        simp only [Job.feeds, Bool.toNat_false, counted, still]
        omega

/-- A route that no refusals await is given its relay. -/
theorem spawned {place : Place} {ahead : List Place} {route : Route} {mailbox : MailboxId}
    {opened : List String} {slot : RouteSlot}
    (steady : Steady run state (state.spawn run place route mailbox))
    (found : state.slot? run place = some slot) (empty : slot.relay = none)
    (none : state.refusalsAt run place = 0) :
    Settles run topic state
      (.attach topic (.activating run (.producing place ahead mailbox opened [])))
      (state.spawn run place route mailbox)
      (.attach topic (.activating run (.approaching ahead))) := by
  have occupied : ∀ spot, (state.spawn run place route mailbox).isOccupied run spot =
      (place == spot || state.isOccupied run spot) := State.isOccupied_spawn found
  have free : state.isOccupied run place = false := by
    rw [State.isOccupied_of_some found, empty, Option.isSome_none]
  refine ⟨?_, ?_⟩
  · have same : (state.spawn run place route mailbox).backlog run topic =
        state.backlog run topic := by
      refine State.backlog_congr steady fun spot _ => ?_
      have refusals : (state.spawn run place route mailbox).refusalsAt run spot =
          state.refusalsAt run spot := by
        simp only [State.refusalsAt, steady.route?]
        rfl
      rw [State.owed, State.owed, occupied, refusals]
      by_cases here : place = spot
      · subst here
        simp [free, none]
      · simp [here]
    rw [same]
    rfl
  · intro spot other there
    have counted : (state.spawn run place route mailbox).upstream.connectCount other.id =
      state.upstream.connectCount other.id := rfl
    rw [occupied, counted]
    by_cases here : place = spot
    · subst here
      simp [Job.feeds, free]
    · have apart : (place == spot) = false := beq_eq_false_iff_ne.mpr here
      simp [Job.feeds, apart]

end Settles

/-- **What a turn does to the ledger**, if the connection to the queues is open and the call undoes
nothing. -/
theorem Activates.settles (turn : Activates state job run topic phase advance next effects)
    (own : Ownership state)
    (present : state.jobs[job]? = some (.attach topic (.activating run phase)))
    (apart : state.RoutesApart run) (distinct : (state.positions run topic).Nodup)
    (among : ∀ place ∈ phase.places, place ∈ state.positions run topic)
    (isOpen : state.upstream.isOpen = true)
    (smooth : (AttachPhase.activating run phase).Smooth state run topic) :
    Settles run topic state (.attach topic (.activating run phase)) next
      (.attach topic (State.attachAfter run advance)) := by
  have steady : Steady run state next := .of_activates turn
  cases turn with
  | @unconnected place ahead _ route _ _ here refused =>
      obtain ⟨slot, found, _, empty⟩ := own.claimed ⟨_, present, rfl⟩
      have free : state.isOccupied run place = false := by
        rw [State.isOccupied_of_some found, empty, Option.isSome_none]
      cases Upstream.consumed_of_eq refused with
      | closed shut => simp [isOpen] at shut
      | @refused _ left _ refuses =>
          refine .refused steady here apart distinct (among place (List.mem_cons_self ..)) free
            refuses (fun queue => ?_) rfl ?_ rfl rfl fun _ => rfl
          · exact Upstream.refusalsLeft_useRefusal route.id queue left
          · exact State.isOccupied_of_guard Guard.release rfl
  | connected here consumed => exact .connected steady here consumed apart
  | @spawned place ahead mailbox opened route here =>
      obtain ⟨slot, found, _, empty⟩ := own.claimed ⟨_, present, rfl⟩
      exact .spawned steady found empty smooth
  | consumerUndone _ => exact smooth.elim
  | asked _ _ =>
      refine .quiet steady rfl (fun _ => rfl) ?_ rfl fun _ => rfl
      exact State.isOccupied_of_guard (·.request job) rfl
  | needless _ _ _ _ =>
      refine .quiet steady rfl (fun _ => rfl) ?_ rfl fun _ => rfl
      exact State.isOccupied_of_guard Guard.release rfl
  | refused _ _ _ _ _ =>
      refine .quiet steady rfl (fun _ => rfl) ?_ rfl fun _ => rfl
      exact State.isOccupied_of_guard Guard.release rfl
  | _ => exact .quiet steady rfl (fun _ => rfl) (fun _ => rfl) rfl fun _ => rfl

/-- A turn of a call that fails only at refusals of consumers leaves it so, if the bridge starts
routes, the topic has routes and no producer is refused for them. -/
theorem Activates.smooth (turn : Activates state job run topic phase advance next effects)
    (kept : Accounting state) (passing : state.Passing)
    (present : state.jobs[job]? = some (.attach topic (.activating run phase)))
    (accepts : state.accepting? run = some true) (routed : state.positions run topic ≠ [])
    (among : ∀ place ∈ phase.places, place ∈ state.positions run topic)
    (permitted : ∀ {place route label}, place ∈ state.positions run topic →
      state.route? run place = some route → label ∈ route.topics →
        failure? (state.downstream.produce label) = none)
    (smooth : (AttachPhase.activating run phase).Smooth state run topic) :
    (State.attachAfter run advance).Smooth next run topic := by
  have steady : Steady run state next := .of_activates turn
  cases turn with
  | unknown nowhere =>
      refine absurd ?_ routed
      cases found : state.table? run with
      | none => simp [State.positions, found]
      | some table => exact (State.positions_of_some found topic).trans (nowhere table found)
  | completed =>
      obtain ⟨table, found, passed⟩ := passing present rfl
      intro place here
      rw [State.positions_of_some found] at here
      exact State.isOccupied_iff.mpr ((passed accepts place here).resolve_left (by simp))
  | refused _ _ _ _ closed => simp [accepts] at closed
  | @connected place _ _ route _ upstream here consumed =>
      cases Upstream.consumed_of_eq consumed with
      | made _ left _ refusals _ =>
          have none : State.refusalsAt { state with upstream := upstream } run place = 0 := by
            rw [State.refusalsAt_of_some ((steady.route? run place).trans here),
              Upstream.refusalsLeft, refusals]
            exact left
          exact none
  | unconnected _ _ => exact ⟨_, _, rfl⟩
  | produced _ => exact smooth
  | unproduced refused =>
      obtain ⟨route, here, all⟩ := kept.complete present
      have possible := permitted (among _ (List.mem_cons_self ..)) here
        (all ▸ List.mem_append_right _ (List.mem_cons_self ..))
      simp [refused, failure?] at possible
  | producerUndone => exact smooth.elim
  | consumerUndone _ => exact smooth.elim
  | _ => trivial

/-- Others may use up refusals and start routes. -/
theorem AttachPhase.Smooth.mono {phase : AttachPhase} (smooth : phase.Smooth state run topic)
    (steady : Steady run state next)
    (refusals : ∀ queue, next.upstream.refusalsLeft queue ≤ state.upstream.refusalsLeft queue)
    (occupied : ∀ {place}, state.isOccupied run place = true → next.isOccupied run place = true) :
    phase.Smooth next run topic := by
  cases phase with
  | activating other phase =>
      cases phase with
      | producing place ahead mailbox opened wanted =>
          have none : state.refusalsAt run place = 0 := smooth
          have fewer : next.refusalsAt run place ≤ state.refusalsAt run place := by
            simp only [State.refusalsAt, steady.route?]
            cases state.route? run place with
            | none => exact Nat.le_refl _
            | some route => exact refusals route.id
          exact Nat.le_zero.mp (none ▸ fewer)
      | _ => exact smooth
  | done answer =>
      cases answer with
      | ok value =>
          intro place among
          rw [State.positions_congr steady] at among
          exact occupied (smooth place among)
      | error failure => exact smooth
  | _ => exact smooth

end

section

variable {called now middle : State} {run : RunId} {topic : String} {id : Nat}
  {phase after : AttachPhase} {effects : List Effect}

/-- No producer is refused for the routes of the topic. -/
theorem State.Clear.permits (clear : called.Clear run topic) (steady : Steady run called now)
    {place : Place} {route : Route} {label : String} (among : place ∈ now.positions run topic)
    (here : now.route? run place = some route) (published : label ∈ route.topics) :
    failure? (now.downstream.produce label) = none := by
  rw [State.positions_congr steady] at among
  rw [steady.route?] at here
  obtain ⟨working, free⟩ := clear.permitted among here published
  rw [Downstream.failure?_produce_congr steady.sink]
  simp [Downstream.produce, working, free, clear.sink, failure?]

/-- None of the calls that were there stands at a route. -/
theorem State.Clear.nobody (clear : called.Clear run topic) {place : Place} :
    called.postOf? id ≠ some (.route run place) := by
  intro post
  obtain ⟨found, present, stands⟩ := Option.bind_eq_some_iff.mp post
  cases found with
  | start phase => cases phase <;> cases stands
  | stop phase =>
      refine clear.noStop ⟨id, _, present, ?_⟩
      cases phase <;> first | rfl | cases stands
  | attach label phase =>
      obtain ⟨answer, rfl⟩ := clear.noAttachment present
      cases stands

/-- **What a turn of a call for the topic does.** -/
theorem Attachment.settles (site : Attachment now run topic phase) (clear : called.Clear run topic)
    (steady : Steady run called now) (started : now.broker.isStarted = true)
    (passing : now.Passing) (present : now.jobs[id]? = some (.attach topic phase))
    (turned : now.attachTurn id topic phase = some (after, middle, effects))
    (smooth : phase.Smooth now run topic) :
    Settles run topic now (.attach topic phase) middle (.attach topic after) ∧
      after.Smooth middle run topic ∧
      (∀ queue, middle.upstream.refusalsLeft queue ≤ now.upstream.refusalsLeft queue) ∧
      ∀ {place}, now.isOccupied run place = true → middle.isOccupied run place = true := by
  obtain ⟨gate, hooks⟩ := site.hooks
  rcases site.ofRun.turn_cases hooks turned with
    ⟨rfl, rfl, rfl⟩ | ⟨before, advance, rfl, rfl, turn⟩
  · rw [started]
    exact ⟨.quiet (.refl run _) rfl (fun _ => rfl) (fun _ => rfl) rfl fun _ => rfl, trivial,
      fun _ => Nat.le_refl _, fun still => still⟩
  · have among : ∀ place ∈ before.places, place ∈ now.positions run topic :=
      fun _ here => site.routes.subset here
    refine ⟨?_, ?_, turn.refusalsLeft_le, turn.isOccupied_mono site.own present⟩
    · exact turn.settles site.own present site.unique site.distinct among
        ((Upstream.isOpen_eq_of_bare steady.source).trans clear.source) smooth
    · exact turn.smooth site.kept passing present site.accepts
        (State.positions_congr steady topic ▸ clear.routed) among (clear.permits steady) smooth

end

/-! ## The ledger -/

theorem countP_eq_sum {α : Type} (weighs : α → Bool) (items : List α) :
    items.countP weighs = (items.map fun item => (weighs item).toNat).sum := by
  induction items with
  | nil => rfl
  | cons item items ih =>
      rw [List.countP_cons, ih, List.map_cons, List.sum_cons]
      cases weighs item
      · simp
      · simp [Nat.add_comm]

theorem State.countP_setJob {state : State} {since id : Nat} {before : Job} (weighs : Job → Bool)
    (after : Job) (new : since ≤ id) (present : state.jobs[id]? = some before) :
    ((state.setJob id after).jobs.drop since).countP weighs + (weighs before).toNat =
      (state.jobs.drop since).countP weighs + (weighs after).toNat := by
  rw [State.drop_setJob new, countP_eq_sum, countP_eq_sum]
  apply sum_map_set
  rwa [List.getElem?_drop, Nat.add_sub_cancel' new]

/-- The calls that have arrived since some moment fail only at refusals of consumers, and what has
happened since is in the books. -/
structure Contended (called : State) (run : RunId) (topic : String) (now : State) : Prop where
  smooth : ∀ {id label phase}, called.jobs.length ≤ id →
    now.jobs[id]? = some (.attach label phase) → phase.Smooth now run topic
  failures : (now.jobs.drop called.jobs.length).countP Job.startFailed + now.backlog run topic =
    called.backlog run topic
  connects : ∀ {place route}, called.route? run place = some route →
    now.upstream.connectCount route.id + (called.isOccupied run place).toNat =
      called.upstream.connectCount route.id + (now.isOccupied run place).toNat +
        (now.jobs.drop called.jobs.length).countP (Job.feeds place)

section

variable {first called now next : State} {past later : List Occurrence} {run : RunId}
  {topic : String} {gate : Gate} {move : Move} {effects : List Effect}

namespace Contended

theorem start (called : State) (run : RunId) (topic : String) : Contended called run topic called where
  smooth := by
    intro id label phase new present
    have := (List.getElem?_eq_some_iff.mp present).1
    omega
  failures := by simp
  connects := by simp

/-- A call has a turn. -/
theorem turn {id : Nat} {label : String} {phase after : AttachPhase} {middle : State}
    (contended : Contended called run topic now) (attaching : Attaching called run later now)
    (history : History first past called) (unused : first.Unused) (clear : called.Clear run topic)
    (steady : Steady run called now)
    (same : ∀ request ∈ requestsIn later, request.attaches? run = some topic)
    (new : called.jobs.length ≤ id) (present : now.jobs[id]? = some (.attach label phase))
    (turned : now.attachTurn id label phase = some (after, middle, effects)) :
    Contended called run topic (middle.setJob id (.attach label after)) := by
  obtain ⟨request, asked, attaches, site⟩ :=
    attaching.attachment history unused clear.running new present
  obtain rfl : label = topic :=
    Option.some.inj (attaches.symm.trans (same request (List.mem_of_getElem? asked)))
  have started : now.broker.isStarted = true := by
    rw [steady.broker]
    exact history.broker_started unused clear.running clear.source clear.noStop
  obtain ⟨settles, smooth, fewer, more⟩ := site.settles clear steady started
    ((history.append attaching.history).passing unused) present turned
    (contended.smooth new present)
  obtain ⟨gate, hooks⟩ := site.hooks
  have onward := (site.ofRun.turn hooks turned).2
  have jobs : middle.jobs = now.jobs := (attachTurn_cases turned).leavesBridge.jobs
  have there : middle.jobs[id]? = some (.attach label phase) := jobs ▸ present
  refine ⟨?_, ?_, ?_⟩
  · intro other topic before behind stands
    have still : ∀ {phase : AttachPhase}, phase.Smooth middle run label →
        phase.Smooth (middle.setJob id (.attach label after)) run label := fun kept =>
      kept.mono (Steady.refl run middle).setJob (fun _ => Nat.le_refl _) fun occupied => occupied
    by_cases mine : other = id
    · subst mine
      cases (State.jobs_setJob_self there).symm.trans stands
      exact still smooth
    · rw [State.jobs_setJob_of_ne mine, jobs] at stands
      exact still ((contended.smooth behind stands).mono onward fewer more)
  · have books := contended.failures
    have count := State.countP_setJob Job.startFailed (.attach label after) new there
    have turns := settles.failures
    rw [jobs] at count
    have ahead : (middle.setJob id (.attach label after)).backlog run label =
      middle.backlog run label := rfl
    omega
  · intro place route here
    have books := contended.connects here
    have count := State.countP_setJob (Job.feeds place) (.attach label after) new there
    have turns := settles.connects ((steady.route? run place).trans here)
    rw [jobs] at count
    have counted : (middle.setJob id (.attach label after)).upstream.connectCount route.id =
      middle.upstream.connectCount route.id := rfl
    have occupied : (middle.setJob id (.attach label after)).isOccupied run place =
      middle.isOccupied run place := rfl
    rw [counted, occupied]
    omega

/-- A call arrives. -/
theorem arrival {request : Request} (contended : Contended called run topic now)
    (calls : Calls called run (requestsIn later) now)
    (attaches : request.attaches? run = some topic) :
    Contended called run topic (now.arrive request) := by
  obtain ⟨phase, asks, ofRun, starts⟩ := Request.job_of_attaches attaches
  refine ⟨?_, ?_, ?_⟩
  · intro id label before new stands
    rcases getElem?_concat_eq_some.mp stands with old | ⟨_, last⟩
    · exact (contended.smooth new old).mono (Steady.refl run now).arrive (fun _ => Nat.le_refl _)
        fun occupied => occupied
    · cases asks.symm.trans last
      rcases starts with rfl | rfl <;> trivial
  · rw [calls.drop_arrive, List.countP_append, ← contended.failures, asks]
    rcases starts with rfl | rfl <;> rfl
  · intro place route here
    rw [calls.drop_arrive, List.countP_append, asks]
    rcases starts with rfl | rfl <;> exact contended.connects here

/-- Something goes on that is no turn of a call. -/
theorem aside (contended : Contended called run topic now) (aside : Aside now next) :
    Contended called run topic next := by
  have steady := aside.steady run
  have refusals : ∀ queue,
      next.upstream.refusalsLeft queue = now.upstream.refusalsLeft queue := fun queue =>
    congrArg (fun table : Table Nat => (table.get? queue).getD 0) aside.refusals
  have occupied : ∀ place, next.isOccupied run place = now.isOccupied run place := fun _ =>
    State.isOccupied_congr aside.runs
  refine ⟨?_, ?_, ?_⟩
  · intro id label phase new stands
    rw [aside.jobs] at stands
    exact (contended.smooth new stands).mono steady (fun queue => Nat.le_of_eq (refusals queue))
      fun still => (occupied _).trans still
  · have ahead : next.backlog run topic = now.backlog run topic :=
      State.backlog_congr steady fun place _ => by
        simp only [State.owed, occupied, State.refusalsAt, steady.route?, refusals]
    rw [aside.jobs, ahead, contended.failures]
  · intro place route here
    rw [aside.jobs, occupied, Upstream.connectCount, aside.subscriptions]
    exact contended.connects here

end Contended

/-- **The books are kept however the calls interleave.** -/
theorem Attaching.contended (attaching : Attaching called run later now)
    (history : History first past called) (unused : first.Unused) (clear : called.Clear run topic)
    (same : ∀ request ∈ requestsIn later, request.attaches? run = some topic) :
    Contended called run topic now := by
  obtain ⟨gate, hooks⟩ := history.hooks_of_running unused clear.running
  refine attaching.induction (P := fun later now =>
    (∀ request ∈ requestsIn later, request.attaches? run = some topic) →
      Contended called run topic now) (fun _ => .start called run topic) ?_ same
  intro later now next move effects before contended step allowed same
  rw [requestsIn_append] at same
  have earlier : ∀ request ∈ requestsIn later, request.attaches? run = some topic :=
    fun request among => same request (List.mem_append_left _ among)
  have books := contended earlier
  have calls := before.calls hooks
  cases calls.incident step allowed with
  | turn new present ofRun turned =>
      exact books.turn before history unused clear calls.steady earlier new present turned
  | arrival _ =>
      exact books.arrival calls (same _ (List.mem_append_right _ (List.mem_singleton_self _)))
  | relay _ turn => exact books.aside (.of_forwards turn)
  | forgotten => exact books.aside (.of_forget ..)
  | delivery => exact books.aside (.of_deliver ..)
  | elapsed => exact books.aside (.of_wait ..)

/-- While a run starts routes, those of its routes are started that have a relay. -/
theorem History.isStarted_eq (history : History first past now) (unused : first.Unused)
    (accepts : now.accepting? run = some true) (place : Place) :
    now.isStarted run place = now.isOccupied run place := by
  cases found : now.slot? run place with
  | none => simp [State.isStarted, State.isOccupied, found]
  | some slot =>
      simp only [State.isStarted, State.isOccupied, found, Option.any_some]
      exact history.started_eq unused accepts found

theorem History.refusalsAhead_eq (history : History first past now) (unused : first.Unused)
    (accepts : now.accepting? run = some true) (topic : String) :
    now.refusalsAhead run topic = now.backlog run topic := by
  simp only [State.refusalsAhead, history.isStarted_eq unused accepts]
  rfl

namespace Contended

/-- A call that has its answer has failed at a refusal, or it has succeeded and all routes of the
topic have a relay. -/
theorem answer (contended : Contended called run topic now)
    (calls : Calls called run (requestsIn later) now)
    (same : ∀ request ∈ requestsIn later, request.attaches? run = some topic)
    (answered : now.AnsweredSince called.jobs.length) (job : Job)
    (among : job ∈ now.jobs.drop called.jobs.length) :
    job.startFailed = true ∨ job.isAttached topic = true ∧
      ∀ place ∈ now.positions run topic, now.isOccupied run place = true := by
  obtain ⟨index, there⟩ := List.mem_iff_getElem?.mp among
  rw [List.getElem?_drop] at there
  obtain ⟨request, label, phase, asked, attaches, _, rfl⟩ :=
    calls.exists_of_le (Nat.le_add_right ..) there
  obtain rfl : label = topic :=
    Option.some.inj (attaches.symm.trans (same request (List.mem_of_getElem? asked)))
  have done := answered _ among
  have smooth := contended.smooth (Nat.le_add_right ..) there
  cases phase with
  | done answer =>
      cases answer with
      | ok value => exact .inr ⟨beq_self_eq_true label, smooth⟩
      | error failure =>
          obtain ⟨queue, cause, rfl⟩ := smooth
          exact .inl rfl
  | _ => cases done

/-- All calls have failed, or all routes of the topic have a relay. -/
theorem outcome (contended : Contended called run topic now)
    (calls : Calls called run (requestsIn later) now)
    (same : ∀ request ∈ requestsIn later, request.attaches? run = some topic)
    (answered : now.AnsweredSince called.jobs.length) :
    (∀ job ∈ now.jobs.drop called.jobs.length, job.startFailed = true) ∨
      ∀ place ∈ now.positions run topic, now.isOccupied run place = true := by
  by_cases all : ∀ job ∈ now.jobs.drop called.jobs.length, job.startFailed = true
  · exact .inl all
  · simp only [not_forall] at all
    obtain ⟨job, among, unfailed⟩ := all
    exact .inr ((contended.answer calls same answered job among).resolve_left unfailed).2

/-- Where all routes have a relay, no refusals await them. -/
theorem backlog_eq_zero {state : State}
    (occupied : ∀ place ∈ state.positions run topic, state.isOccupied run place = true) :
    state.backlog run topic = 0 := by
  refine List.sum_eq_zero fun count among => ?_
  obtain ⟨place, member, rfl⟩ := List.mem_map.mp among
  rw [State.owed, occupied place member, if_pos rfl]

/-- A call that has its answer feeds no route. -/
theorem countP_feeds (answered : now.AnsweredSince called.jobs.length) (place : Place) :
    (now.jobs.drop called.jobs.length).countP (Job.feeds place) = 0 := by
  refine List.countP_eq_zero.mpr fun job among => ?_
  have done := answered job among
  cases job with
  | attach label phase =>
      cases phase with
      | done answer => exact Bool.false_ne_true
      | _ => cases done
  | _ => simp [Job.feeds]

end Contended

/-- **The number of failures does not depend on how calls contend.**  Calls attach subscribers to
one topic of a bridge that is in a run, and nothing keeps the routes of the topic from being
started but queues that refuse consumers.  However the calls interleave, once all have their
answers as many of them have failed as there were refusals ahead, or all of them if there were
fewer calls, and the others have succeeded.  If there were more calls, all routes are started, and
each that was not has cost its queue one consumer.  And however far they have come, all calls can
come to their answers. -/
theorem History.failures_under_contention (history : History first past called)
    (unused : first.Unused) (clear : called.Clear run topic)
    (attaching : Attaching called run later now)
    (same : ∀ request ∈ requestsIn later, request.attaches? run = some topic) :
    (now.AnsweredSince called.jobs.length →
      (now.jobs.drop called.jobs.length).length = (requestsIn later).length ∧
      (now.jobs.drop called.jobs.length).countP Job.startFailed =
        min (requestsIn later).length (called.refusalsAhead run topic) ∧
      (∀ job ∈ now.jobs.drop called.jobs.length,
        job.startFailed = true ∨ job.isAttached topic = true) ∧
      (called.refusalsAhead run topic < (requestsIn later).length →
        ∀ place ∈ called.positions run topic, now.isStarted run place = true ∧
          ∀ route, called.route? run place = some route →
            now.upstream.connectCount route.id = called.upstream.connectCount route.id +
              if called.isStarted run place then 0 else 1)) ∧
    ∃ more after, Attaching called run (later ++ more) after ∧
      requestsIn (later ++ more) = requestsIn later ∧ after.AnsweredSince called.jobs.length := by
  obtain ⟨gate, hooks⟩ := history.hooks_of_running unused clear.running
  refine ⟨fun answered => ?_, attaching.complete history unused hooks fun _ => clear.nobody⟩
  have accepts := (history.lifecycle unused).running clear.running
  have whole := history.append attaching.history
  have calls := attaching.calls hooks
  have contended := attaching.contended history unused clear same
  have starts : ∀ place, now.isStarted run place = now.isOccupied run place :=
    whole.isStarted_eq unused ((calls.steady.accepting? run).trans accepts)
  have size : (now.jobs.drop called.jobs.length).length = (requestsIn later).length := by
    rw [List.length_drop, calls.length, Nat.add_sub_cancel_left]
  have books := contended.failures
  rw [← history.refusalsAhead_eq unused accepts] at books
  have outcome := contended.outcome calls same answered
  have answers := contended.answer calls same answered
  refine ⟨size, ?_, fun job among => (answers job among).imp_right (·.1), ?_⟩
  · rcases outcome with all | occupied
    · have failed := List.countP_eq_length.mpr all
      omega
    · have none := Contended.backlog_eq_zero occupied
      have most := List.countP_le_length (p := Job.startFailed)
        (l := now.jobs.drop called.jobs.length)
      omega
  · intro fewer place among
    have occupied : ∀ place ∈ now.positions run topic, now.isOccupied run place = true := by
      refine outcome.resolve_left fun all => ?_
      have failed := List.countP_eq_length.mpr all
      omega
    rw [← State.positions_congr calls.steady] at among
    refine ⟨(starts place).trans (occupied place among), fun route here => ?_⟩
    have counted := contended.connects here
    rw [Contended.countP_feeds answered, occupied place among] at counted
    rw [history.isStarted_eq unused accepts]
    cases was : called.isOccupied run place <;> simp [was] at counted ⊢ <;> omega

end

/-- Two queues publish a topic, and each of them refuses one consumer.  Of three calls for the topic
the first is refused by one queue, the second by the other, and the third succeeds. -/
theorem three_calls_meet_two_refusals :
    ∃ past called later now,
      History (State.scripted ["CWMS_20.SPK_A", "CWMS_20.SPK_B"]) past called ∧
      called.Clear 0 "CDA.SPK.ALL" ∧ called.refusalsAhead 0 "CDA.SPK.ALL" = 2 ∧
      Attaching called 0 later now ∧ (requestsIn later).length = 3 ∧
      (now.jobs.drop called.jobs.length).countP Job.startFailed = 2 ∧
      (∀ place ∈ called.positions 0 "CDA.SPK.ALL", now.isStarted 0 place = true) ∧
      now.upstream.connectCount "CWMS_20.SPK_A" = 1 := by
  obtain ⟨past, called, history, checked⟩ := History.exists_of_record
    (State.scripted ["CWMS_20.SPK_A", "CWMS_20.SPK_B"])
    (startMoves 0 ++ [.change (.refuseConsumers "CWMS_20.SPK_A" 1),
      .change (.refuseConsumers "CWMS_20.SPK_B" 1)])
    (fun _ called => called.running == some 0 && called.jobs.length == 1 &&
      called.jobs.all Job.isDone && called.upstream.isOpen && called.downstream.isOpen &&
      called.positions 0 "CDA.SPK.ALL" == [0, 1] && called.downstream.failingTopics == [] &&
      called.downstream.blockedTopics == [] && called.refusalsAhead 0 "CDA.SPK.ALL" == 2 &&
      (called.record (.arrive (.attach "CDA.SPK.ALL") :: .arrive (.attach "CDA.SPK.ALL") ::
        .arrive (.notify 0 "CDA.SPK.ALL") :: [.job 1, .job 2, .job 1, .job 3, .job 2, .job 1,
          .job 2, .job 1, .job 3, .job 1] ++ List.replicate 8 (.job 2) ++
            List.replicate 8 (.job 3))).any
          fun reached => requestsIn reached.1 ==
            [.attach "CDA.SPK.ALL", .attach "CDA.SPK.ALL", .notify 0 "CDA.SPK.ALL"] &&
            (reached.2.jobs.drop 1).all Job.isDone &&
              reached.2.upstream.connectCount "CWMS_20.SPK_A" == 1) rfl
  simp only [Bool.and_eq_true, beq_iff_eq, Option.any_eq_true, Prod.exists, List.all_eq_true]
    at checked
  obtain ⟨⟨⟨⟨⟨⟨⟨⟨⟨running, size⟩, done⟩, source⟩, sink⟩, positions⟩, working⟩, free⟩, ahead⟩,
    later, now, recorded, ⟨asked, answered⟩, connects⟩ := checked
  have clear : called.Clear 0 "CDA.SPK.ALL" := by
    refine ⟨running, ?_, ?_, source, sink, by simp [positions], by simp [working, free]⟩
    · rintro ⟨id, found, present, stopping⟩
      have idle := done found (List.mem_of_getElem? present)
      cases found with
      | stop phase =>
          cases phase with
          | done => cases stopping
          | _ => cases idle
      | _ => cases stopping
    · intro id label phase present
      have idle := done _ (List.mem_of_getElem? present)
      cases phase with
      | done answer => exact ⟨answer, rfl⟩
      | _ => cases idle
  have attaching : Attaching called 0 later now := .of_record recorded (by rw [size]; rfl)
  obtain ⟨_, failed, _, starts⟩ := (history.failures_under_contention (State.scripted_unused _)
    clear attaching (by simp [asked, Request.attaches?])).1 (by rwa [size, State.AnsweredSince])
  rw [asked, ahead] at failed starts
  exact ⟨past, called, later, now, history, clear, ahead, attaching, by rw [asked]; rfl, failed,
    fun place among => (starts (by decide) place among).1, connects⟩

end TopicRelay
