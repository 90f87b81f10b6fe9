import Mathlib.Data.List.Count
import TopicRelay.Proofs.Attaching
import TopicRelay.Proofs.Producers

/-!
# What a call is going to do

While nobody else deals with the routes of its topic, everything that a call is going to do to them
is settled before it does any of it: which routes it starts, which consumer or producer it fails at,
and so its answer (`State.foresee`).

A turn of the call keeps to that.  The answer stays, and what the turn does to the routes, the
consumers, the producers and the refusals is what the call has then no longer to do
(`Activates.foreseen`, in which `State.made` is what has been done).  And whatever happens at other
routes changes nothing about it (`State.foresee_congr`).
-/

namespace TopicRelay

set_option autoImplicit false

/-! ## The routes of a topic -/

/-- The routes that an activation has before it, the present one included. -/
def ActivationPhase.places : ActivationPhase → List Place
  | .resolving => []
  | .approaching ahead => ahead
  | .queued place ahead | .connecting place ahead _ | .producing place ahead _ _ _ => place :: ahead
  | .undoing place _ _ _ => [place]

/-- The routes that an attachment has before it, once it knows them. -/
def AttachPhase.places : AttachPhase → List Place
  | .activating _ phase => phase.places
  | _ => []

theorem ActivationPhase.mem_places {phase : ActivationPhase} {place : Place}
    (here : phase.place? = some place) : place ∈ phase.places := by
  cases phase with
  | resolving | approaching => cases here
  | _ =>
      cases here
      exact List.mem_cons_self ..

/-- The routes of a run that publish a topic. -/
def State.positions (state : State) (run : RunId) (topic : String) : List Place :=
  ((state.table? run).map (·.positions topic)).getD []

theorem State.positions_of_some {state : State} {run : RunId} {table : RouteTable}
    (found : state.table? run = some table) (topic : String) :
    state.positions run topic = table.positions topic := by
  simp [positions, found]

/-- The routes that an activation has before it are the last of those of its topic. -/
theorem History.places_sublist {first now : State} {past : List Occurrence} {job : JobId}
    {topic : String} {run : RunId} {phase : ActivationPhase} (history : History first past now)
    (unused : first.Unused) (present : now.jobs[job]? = some (.attach topic (.activating run phase))) :
    phase.places.Sublist (now.positions run topic) := by
  induction history generalizing phase with
  | start => simp [unused.jobs] at present
  | @move past now next move effects before step ih =>
      have moved := step_cases step
      have onward : ∀ {earlier : ActivationPhase},
          now.jobs[job]? = some (.attach topic (.activating run earlier)) →
            phase.places.Sublist earlier.places → phase.places.Sublist (next.positions run topic) := by
        intro earlier was sub
        have routes := sub.trans (ih was)
        cases found : now.table? run with
        | some table =>
            rw [State.positions_of_some found] at routes
            rwa [State.positions_of_some (moved.table? found)]
        | none =>
            rw [State.positions, found, Option.map_none, Option.getD_none,
              List.sublist_nil] at routes
            simp [routes]
      rcases moved.jobs_origin present with was | rfl | ⟨request, rfl, arrived⟩
      · exact onward was (List.Sublist.refl _)
      · obtain ⟨earlier, middle, was, turn, rfl⟩ := moved.to_attach present
        generalize goes : AttachPhase.activating run phase = after at turn
        cases turn with
        | @activated other earlier advance _ _ turn =>
            cases turn with
            | @resolved table place ahead found positions =>
                cases goes
                have routes := (State.positions_of_some (moved.table? found) topic).trans positions
                exact (congrArg (List.Sublist (place :: ahead)) routes).mpr (List.Sublist.refl _)
            | asked _ _ | claimed _ _ _ _ _ | connected _ _ | produced _ | producerUndone =>
                cases goes
                exact onward was (List.Sublist.refl _)
            | needless _ _ _ _ | spawned _ =>
                cases goes
                exact onward was (List.sublist_cons_self ..)
            | unproduced _ =>
                cases goes
                exact onward was (List.singleton_sublist.mpr (List.mem_cons_self ..))
            | _ => cases goes
        | entered _ _ =>
            cases goes
            exact List.nil_sublist _
        | _ => cases goes
      · cases request with
        | notify other label =>
            cases arrived
            exact List.nil_sublist _
        | _ => cases arrived

/-! ## Forecasts -/

/-- One thing that an attachment may do to the collaborators and the routes for good. -/
inductive Entry where
  | subscription (subscription : Subscription)
  /-- A queue refuses a consumer. -/
  | refusal (queue : String)
  /-- A route is given its relay. -/
  | start (place : Place)
  /-- A relay gets a producer for a topic. -/
  | producer (topic : String)
  deriving DecidableEq

/-- What a call is going to do, and what it is going to be answered. -/
structure Forecast where
  answer : Except SubscribeFailure Unit
  entries : List Entry

namespace State

/-- A route has its consumer and wants some producers still; if it gets them, it is started, and
the call goes on. -/
def foreseeProducers (state : State) (place : Place) (route : Route) (wanted : List String)
    (rest : Forecast) : Forecast :=
  match wanted.findSome? fun topic => failure? (state.downstream.produce topic) with
  | some failure => ⟨.error (.activation (.startFailed route.id failure)), []⟩
  | none => ⟨rest.answer, .start place :: (route.topics.map .producer ++ rest.entries)⟩

/-- A route wants a consumer. -/
def foreseeConsumer (state : State) (place : Place) (route : Route) (rest : Forecast) : Forecast :=
  match failure? (state.upstream.consume (state.subscription route)).1 with
  | some failure =>
    ⟨.error (.activation (.startFailed route.id failure)),
      if state.upstream.isOpen then [.refusal route.id] else []⟩
  | none =>
    let onward := state.foreseeProducers place route route.topics rest
    ⟨onward.answer, .subscription (state.subscription route) :: onward.entries⟩

/-- Some routes are to be started one after the other, unless they have a relay. -/
def foreseeRoutes (state : State) (run : RunId) : List Place → Forecast
  | [] => ⟨.ok (), []⟩
  | place :: ahead =>
    let rest := state.foreseeRoutes run ahead
    if state.isOccupied run place then rest
    else
      match state.route? run place with
      | some route => state.foreseeConsumer place route rest
      | none => rest

/-- The answer to a call that has failed at a route. -/
def failedAt (state : State) (run : RunId) (place : Place) (failure : TransportFailure) :
    Except SubscribeFailure Unit :=
  .error (.activation (.startFailed (((state.route? run place).map (·.id)).getD "") failure))

/-- What an activation is going to do. -/
def foreseeActivation (state : State) (run : RunId) (topic : String) : ActivationPhase → Forecast
  | .resolving =>
    match state.positions run topic with
    | [] => ⟨.error (.activation (.routeNotFound topic)), []⟩
    | place :: ahead => state.foreseeRoutes run (place :: ahead)
  | .approaching ahead => state.foreseeRoutes run ahead
  | .queued place ahead => state.foreseeRoutes run (place :: ahead)
  | .connecting place ahead _ =>
    let rest := state.foreseeRoutes run ahead
    match state.route? run place with
    | some route => state.foreseeConsumer place route rest
    | none => rest
  | .producing place ahead _ _ wanted =>
    let rest := state.foreseeRoutes run ahead
    match state.route? run place with
    | some route => state.foreseeProducers place route wanted rest
    | none => rest
  | .undoing place _ _ failure => ⟨state.failedAt run place failure, []⟩

/-- What an attachment is going to do, once it is admitted. -/
def foresee (state : State) (topic : String) : AttachPhase → Forecast
  | .presenting _ | .entering =>
    match state.broker.isStarted, state.broker.hooks with
    | true, some hooks => state.foreseeActivation hooks.run topic .resolving
    | _, _ => ⟨.error .notStarted, []⟩
  | .activating run phase => state.foreseeActivation run topic phase
  | .done answer => ⟨answer, []⟩

/-- How much of one kind has been done so far: the refusals that are left count against it. -/
def made (state : State) (run : RunId) : Entry → Int
  | .subscription subscription => state.upstream.subscriptions.count subscription
  | .refusal queue => -state.upstream.refusalsLeft queue
  | .start place => if state.isOccupied run place then 1 else 0
  | .producer topic => ((state.relays.map fun relay => relay.producers.count topic).sum : Nat)

end State

/-! ## What a forecast depends on -/

/-- A call finds the same at some routes of a run. -/
structure Alike (run : RunId) (places : List Place) (state next : State) : Prop where
  steady : Steady run state next
  occupied : ∀ place ∈ places, next.isOccupied run place = state.isOccupied run place
  refusals : ∀ place ∈ places, ∀ {route}, state.route? run place = some route →
    next.upstream.refusalsLeft route.id = state.upstream.refusalsLeft route.id

namespace Alike

variable {run : RunId} {places fewer : List Place} {state middle next : State}

theorem mono (alike : Alike run places state next) (sub : ∀ place ∈ fewer, place ∈ places) :
    Alike run fewer state next where
  steady := alike.steady
  occupied := fun place among => alike.occupied place (sub place among)
  refusals := fun place among => alike.refusals place (sub place among)

theorem trans (first : Alike run places state middle) (second : Alike run places middle next) :
    Alike run places state next where
  steady := first.steady.trans second.steady
  occupied := fun place among =>
    (second.occupied place among).trans (first.occupied place among)
  refusals := fun place among _ here =>
    (second.refusals place among ((first.steady.route? run place).trans here)).trans
      (first.refusals place among here)

theorem refl (run : RunId) (places : List Place) (state : State) : Alike run places state state :=
  ⟨.refl run state, fun _ _ => rfl, fun _ _ _ _ => rfl⟩

theorem setJob {id : JobId} {found : Job} (alike : Alike run places state next) :
    Alike run places state (next.setJob id found) :=
  ⟨alike.steady.setJob, alike.occupied, alike.refusals⟩

theorem arrive {request : Request} (alike : Alike run places state next) :
    Alike run places state (next.arrive request) :=
  ⟨alike.steady.arrive, alike.occupied, alike.refusals⟩

theorem of_aside (aside : Aside state next) : Alike run places state next where
  steady := aside.steady run
  occupied := fun _ _ => State.isOccupied_congr aside.runs
  refusals := fun _ _ route _ =>
    congrArg (fun table : Table Nat => (table.get? route.id).getD 0) aside.refusals

end Alike

namespace State

variable {state next : State} {run : RunId} {topic : String} {places : List Place}

/-- A queue has one route in a run. -/
def RoutesApart (state : State) (run : RunId) : Prop :=
  ∀ {place spot : Place} {route other : Route}, state.route? run place = some route →
    state.route? run spot = some other → route.id = other.id → place = spot

theorem Tabled.routesApart (tabled : state.Tabled) (run : RunId) : state.RoutesApart run := by
  intro place spot route other here there same
  obtain ⟨table, found, atPlace⟩ := route?_eq_some_iff.mp here
  obtain ⟨also, again, atSpot⟩ := route?_eq_some_iff.mp there
  cases found.symm.trans again
  obtain ⟨scheme, queues, rfl⟩ := tabled found
  exact RouteTable.place_unique scheme queues atPlace atSpot same

/-- A topic has no route twice. -/
theorem Tabled.positions_nodup (tabled : state.Tabled) (run : RunId) (topic : String) :
    (state.positions run topic).Nodup := by
  cases found : state.table? run with
  | none => simp [positions, found]
  | some table =>
      obtain ⟨scheme, queues, rfl⟩ := tabled found
      rw [positions_of_some found]
      exact ((RouteTable.indexed_build scheme queues).positions_increase topic).imp Nat.ne_of_lt

theorem positions_congr (steady : Steady run state next) (topic : String) :
    next.positions run topic = state.positions run topic := by
  rw [positions, positions, steady.table? run]

theorem failedAt_congr (steady : Steady run state next) (place : Place)
    (failure : TransportFailure) :
    next.failedAt run place failure = state.failedAt run place failure := by
  rw [failedAt, failedAt, steady.route?]

theorem foreseeProducers_congr (steady : Steady run state next) (place : Place) (route : Route)
    (wanted : List String) (rest : Forecast) :
    next.foreseeProducers place route wanted rest =
      state.foreseeProducers place route wanted rest := by
  simp only [foreseeProducers, Downstream.failure?_produce_congr steady.sink]

theorem foreseeConsumer_congr (steady : Steady run state next) (place : Place) (route : Route)
    (refusals : next.upstream.refusalsLeft route.id = state.upstream.refusalsLeft route.id)
    (rest : Forecast) :
    next.foreseeConsumer place route rest = state.foreseeConsumer place route rest := by
  have same : failure? (next.upstream.consume (next.subscription route)).1 =
      failure? (state.upstream.consume (state.subscription route)).1 := by
    rw [steady.subscription]
    exact Upstream.failure?_consume_congr steady.source refusals
  rw [foreseeConsumer, foreseeConsumer, same, Upstream.isOpen_eq_of_bare steady.source,
    foreseeProducers_congr steady, steady.subscription]

theorem foreseeRoutes_congr (alike : Alike run places state next) :
    next.foreseeRoutes run places = state.foreseeRoutes run places := by
  induction places with
  | nil => rfl
  | cons place ahead ih =>
      have here : place ∈ place :: ahead := List.mem_cons_self ..
      have rest := ih (alike.mono fun _ => List.mem_cons_of_mem _)
      rw [foreseeRoutes, foreseeRoutes, alike.occupied place here, rest, alike.steady.route?]
      split
      · rfl
      · split
        · next route atPlace =>
            exact foreseeConsumer_congr alike.steady place route
              (alike.refusals place here atPlace) _
        · rfl

theorem foreseeActivation_congr {phase : ActivationPhase}
    (alike : Alike run (state.positions run topic) state next)
    (within : ∀ place ∈ phase.places, place ∈ state.positions run topic) :
    next.foreseeActivation run topic phase = state.foreseeActivation run topic phase := by
  have steady := alike.steady
  have routes : ∀ {places : List Place}, (∀ place ∈ places, place ∈ phase.places) →
      next.foreseeRoutes run places = state.foreseeRoutes run places :=
    fun sub => foreseeRoutes_congr (alike.mono fun place among => within place (sub place among))
  cases phase with
  | resolving =>
      have all := foreseeRoutes_congr alike
      simp only [foreseeActivation, positions_congr steady]
      cases positions : state.positions run topic with
      | nil => rfl
      | cons place ahead => rw [positions] at all; exact all
  | approaching ahead => exact routes fun _ => id
  | queued place ahead => exact routes fun _ => id
  | connecting place ahead due =>
      simp only [foreseeActivation, steady.route?]
      rw [routes fun _ => List.mem_cons_of_mem _]
      split
      · next route atPlace =>
          exact foreseeConsumer_congr steady place route
            (alike.refusals place (within place (List.mem_cons_self ..)) atPlace) _
      · rfl
  | producing place ahead mailbox opened wanted =>
      simp only [foreseeActivation, steady.route?]
      rw [routes fun _ => List.mem_cons_of_mem _]
      split
      · exact foreseeProducers_congr steady ..
      · rfl
  | undoing place mailbox opened failure =>
      simp only [foreseeActivation, failedAt_congr steady]

/-- **What happens at other routes changes nothing about a forecast.** -/
theorem foresee_congr {phase : AttachPhase} {gate : Gate}
    (alike : Alike run (state.positions run topic) state next)
    (hooks : state.broker.hooks = some ⟨gate, run⟩) (ofRun : phase.IsOf run)
    (within : ∀ place ∈ phase.places, place ∈ state.positions run topic) :
    next.foresee topic phase = state.foresee topic phase := by
  have resolving : next.foreseeActivation run topic .resolving =
      state.foreseeActivation run topic .resolving :=
    foreseeActivation_congr alike (by rintro _ ⟨⟩)
  cases phase with
  | presenting credential => cases ofRun
  | entering =>
      simp only [foresee, alike.steady.broker, hooks]
      split
      · next same => cases same; exact resolving
      · rfl
  | activating other phase =>
      obtain rfl : other = run := ofRun
      exact foreseeActivation_congr alike within
  | done answer => rfl

end State

/-! ## A call keeps to its forecast -/

/-- What was foreseen is still foreseen, but for what has been done. -/
structure KeepsTo (run : RunId) (state : State) (before : Forecast) (next : State)
    (after : Forecast) : Prop where
  answer : after.answer = before.answer
  entries : ∀ entry, next.made run entry + after.entries.count entry =
    state.made run entry + before.entries.count entry

section

variable {state next : State} {job : JobId} {run : RunId} {topic : String}
  {phase : ActivationPhase} {advance : Advance ActivationPhase (Except ActivationFailure Unit)}
  {effects : List Effect}

theorem State.made_congr (subscriptions : next.upstream.subscriptions = state.upstream.subscriptions)
    (refusals : ∀ queue, next.upstream.refusalsLeft queue = state.upstream.refusalsLeft queue)
    (occupied : ∀ place, next.isOccupied run place = state.isOccupied run place)
    (relays : next.relays = state.relays) (entry : Entry) :
    next.made run entry = state.made run entry := by
  cases entry with
  | subscription subscription => simp only [made, subscriptions]
  | refusal queue => simp only [made, refusals]
  | start place => simp only [made, occupied]
  | producer label => simp only [made, relays]

/-- Relays that are told to stop have done what they have done. -/
theorem State.made_tellRelays (told : RunId) (entry : Entry) :
    (state.tellRelays told).made run entry = state.made run entry := by
  cases entry with
  | producer topic =>
      simp only [made, map_tellRelays (fun relay => relay.producers.count topic) fun _ => rfl]
  | _ => rfl

/-- A route is given its relay, and the relay its producers. -/
theorem State.made_spawn {place : Place} {route : Route} {mailbox : MailboxId} {slot : RouteSlot}
    (found : state.slot? run place = some slot) (empty : slot.relay = none) (entry : Entry) :
    (state.spawn run place route mailbox).made run entry =
      state.made run entry + (Entry.start place :: route.topics.map .producer).count entry := by
  cases entry with
  | subscription subscription =>
      have none : Entry.subscription subscription ∉
        Entry.start place :: route.topics.map .producer := by simp
      rw [List.count_eq_zero_of_not_mem none]
      exact (Int.add_zero _).symm
  | refusal queue =>
      have none : Entry.refusal queue ∉ Entry.start place :: route.topics.map .producer := by simp
      rw [List.count_eq_zero_of_not_mem none]
      exact (Int.add_zero _).symm
  | start spot =>
      have none : Entry.start spot ∉ route.topics.map .producer := by simp
      simp only [made, isOccupied_spawn found, List.count_cons, List.count_eq_zero_of_not_mem none,
        Bool.or_eq_true, beq_iff_eq, Entry.start.injEq]
      by_cases here : place = spot
      · subst here
        have free : state.isOccupied run place = false := by
          rw [isOccupied_of_some found, empty, Option.isSome_none]
        simp [free]
      · simp [here]
  | producer label =>
      have given : (newRelay run place route mailbox).producers = route.topics := rfl
      have topics := List.count_map_of_injective route.topics _
        (fun _ _ => Entry.producer.inj : Function.Injective Entry.producer) label
      simp only [made, spawn, modifySlot, modifyRun, List.map_append, List.map_singleton,
        List.sum_append, List.sum_singleton, given, List.count_cons, topics, beq_iff_eq,
        reduceCtorEq, if_false]
      omega

/-- A turn leaves all routes but its own as a call finds them. -/
theorem Activates.alike {places : List Place}
    (turn : Activates state job run topic phase advance next effects)
    (apart : state.RoutesApart run) (out : ∀ place ∈ places, phase.place? ≠ some place) :
    Alike run places state next where
  steady := .of_activates turn
  occupied := fun place among => turn.isOccupied_of_ne (out place among)
  refusals := fun place among _ here => turn.refusalsLeft_of_ne fun mine found same =>
    out place among (mine.trans (congrArg some (apart found here same)))

namespace KeepsTo

/-- A turn that does nothing that counts. -/
theorem of_made {before after : Forecast} (made : ∀ entry, next.made run entry = state.made run entry)
    (same : after = before) : KeepsTo run state before next after where
  answer := congrArg Forecast.answer same
  entries := fun entry => by rw [made, same]

/-- A consumer is connected. -/
theorem connected (place : Place) {route : Route} {upstream : Upstream} {mailbox : MailboxId}
    {rest onward : Forecast} (steady : Steady run state { state with upstream := upstream })
    (consumed : state.upstream.consume (state.subscription route) = (.ok mailbox, upstream))
    (same : onward = rest) :
    KeepsTo run state (state.foreseeConsumer place route rest) { state with upstream := upstream }
      (State.foreseeProducers { state with upstream := upstream } place route route.topics
        onward) := by
  rw [State.foreseeProducers_congr steady, same, State.foreseeConsumer, consumed]
  refine ⟨rfl, fun entry => ?_⟩
  simp only [failure?, List.count_cons]
  cases Upstream.consumed_of_eq consumed with
  | made _ _ _ refusals subscriptions =>
      have left : ∀ queue, upstream.refusalsLeft queue = state.upstream.refusalsLeft queue :=
        fun queue => congrArg (fun table : Table Nat => (table.get? queue).getD 0) refusals
      cases entry with
      | subscription subscription =>
          simp only [State.made, subscriptions, List.count_append, List.count_singleton, beq_iff_eq,
            Entry.subscription.injEq]
          omega
      | refusal queue => simp [State.made, left]
      | start place => simp only [beq_iff_eq, reduceCtorEq, if_false]; rfl
      | producer label => simp only [beq_iff_eq, reduceCtorEq, if_false]; rfl

/-- A consumer is refused. -/
theorem unconnected {place : Place} {route : Route} {upstream : Upstream}
    {failure : TransportFailure} {rest : Forecast}
    (refused : state.upstream.consume (state.subscription route) = (.error failure, upstream)) :
    KeepsTo run state (state.foreseeConsumer place route rest)
      ({ state with upstream := upstream }.releaseSlot run place)
      ⟨.error (.activation (.startFailed route.id failure)), []⟩ := by
  have occupied : ∀ spot, ({ state with upstream := upstream }.releaseSlot run place).isOccupied run
      spot = state.isOccupied run spot := State.isOccupied_of_guard Guard.release rfl
  rw [State.foreseeConsumer, refused]
  refine ⟨rfl, fun entry => ?_⟩
  cases Upstream.consumed_of_eq refused with
  | closed shut =>
      simp only [shut, failure?, Bool.false_eq_true, if_false, List.count_nil]
      have still : (state.releaseSlot run place).made run entry = state.made run entry := by
        refine State.made_congr ?_ ?_ occupied ?_ entry
        · rfl
        · exact fun _ => rfl
        · rfl
      exact congrArg (· + _) still
  | @refused _ left connected refuses =>
      simp only [connected, failure?, if_true, List.count_nil, List.count_singleton, beq_iff_eq]
      cases entry with
      | refusal queue =>
          have after : (state.upstream.useRefusal route.id left).refusalsLeft queue =
              if queue = route.id then left else state.upstream.refusalsLeft queue :=
            Upstream.refusalsLeft_useRefusal route.id queue left
          change -(((state.upstream.useRefusal route.id left).refusalsLeft queue : Nat) : Int) + _ =
            -((state.upstream.refusalsLeft queue : Nat) : Int) + _
          change state.upstream.refusalsLeft route.id = left + 1 at refuses
          rw [after]
          by_cases same : queue = route.id
          · subst same
            simp only [refuses, if_true]
            omega
          · have other : ¬route.id = queue := fun equal => same equal.symm
            simp [same, other]
      | start spot => simp only [State.made, occupied, reduceCtorEq, if_false]
      | _ => rfl

/-- A relay takes a route over. -/
theorem spawned {place : Place} {route : Route} {mailbox : MailboxId} {slot : RouteSlot}
    {rest onward : Forecast} (found : state.slot? run place = some slot)
    (empty : slot.relay = none) (same : onward = rest) :
    KeepsTo run state (state.foreseeProducers place route [] rest)
      (state.spawn run place route mailbox) onward where
  answer := by rw [same]; rfl
  entries := by
    intro entry
    rw [State.made_spawn found empty, same]
    simp only [State.foreseeProducers, List.findSome?_nil, List.count_cons, List.count_append]
    omega

end KeepsTo

theorem State.foresee_next (state : State) (run : RunId) (topic : String)
    (phase : ActivationPhase) :
    state.foresee topic (State.attachAfter run (.next phase)) =
      state.foreseeActivation run topic phase := rfl

theorem State.foreseeActivation_connecting {place : Place} {route : Route}
    (here : state.route? run place = some route) (topic : String) (ahead : List Place) (due : Nat) :
    state.foreseeActivation run topic (.connecting place ahead due) =
      state.foreseeConsumer place route (state.foreseeRoutes run ahead) := by
  simp only [foreseeActivation, here]

theorem State.foreseeActivation_producing {place : Place} {route : Route}
    (here : state.route? run place = some route) (topic : String) (ahead : List Place)
    (mailbox : MailboxId) (opened wanted : List String) :
    state.foreseeActivation run topic (.producing place ahead mailbox opened wanted) =
      state.foreseeProducers place route wanted (state.foreseeRoutes run ahead) := by
  simp only [foreseeActivation, here]

/-- **A turn of an activation keeps to what was foreseen**, if the run of the activation starts
routes. -/
theorem Activates.foreseen (turn : Activates state job run topic phase advance next effects)
    (own : Ownership state) (kept : Accounting state)
    (present : state.jobs[job]? = some (.attach topic (.activating run phase)))
    (accepts : state.accepting? run = some true) (apart : state.RoutesApart run)
    (distinct : phase.places.Nodup) :
    KeepsTo run state (state.foreseeActivation run topic phase) next
      (next.foresee topic (State.attachAfter run advance)) := by
  have routes : ∀ {places : List Place}, (∀ place ∈ places, phase.place? ≠ some place) →
      next.foreseeRoutes run places = state.foreseeRoutes run places :=
    fun out => State.foreseeRoutes_congr (turn.alike apart out)
  have steady : Steady run state next := .of_activates turn
  cases turn with
  | unknown nowhere =>
      have none : state.positions run topic = [] := by
        cases found : state.table? run with
        | none => simp [State.positions, found]
        | some table => exact (State.positions_of_some found topic).trans (nowhere table found)
      refine .of_made (fun _ => rfl) ?_
      simp only [State.foreseeActivation, none]
      rfl
  | resolved found positions =>
      have some := (State.positions_of_some found topic).trans positions
      refine .of_made (fun _ => rfl) ?_
      simp only [State.foreseeActivation, some]
      rfl
  | completed => exact .of_made (fun _ => rfl) rfl
  | asked _ _ =>
      refine .of_made (State.made_congr rfl (fun _ => rfl) ?_ rfl) (routes (by rintro _ _ ⟨⟩))
      exact State.isOccupied_of_guard (·.request job) rfl
  | @needless place ahead route slot relay here found held occupied =>
      have given : state.isOccupied run place = true := by
        rw [State.isOccupied_of_some found, occupied, Option.isSome_some]
      refine .of_made (State.made_congr rfl (fun _ => rfl) ?_ rfl) ?_
      · exact State.isOccupied_of_guard Guard.release rfl
      · simp only [State.foreseeActivation, State.foreseeRoutes, given, if_true]
        refine routes ?_
        rintro spot among ⟨⟩
        exact (List.nodup_cons.mp distinct).1 among
  | refused _ _ _ _ closed => simp [accepts] at closed
  | @claimed place ahead route slot here found held empty _ =>
      have free : state.isOccupied run place = false := by
        rw [State.isOccupied_of_some found, empty, Option.isSome_none]
      refine .of_made (fun _ => rfl) ?_
      simp [State.attachAfter, State.foresee, State.foreseeActivation, State.foreseeRoutes, free,
        here]
  | @connected place ahead due route mailbox upstream here consumed =>
      have rest : State.foreseeRoutes { state with upstream := upstream } run ahead =
          state.foreseeRoutes run ahead := by
        refine routes ?_
        rintro spot among ⟨⟩
        exact (List.nodup_cons.mp distinct).1 among
      have onward := KeepsTo.connected place steady consumed rest
      rw [State.foreseeActivation_connecting here]
      rwa [← State.foreseeActivation_producing ((steady.route? run place).trans here) topic ahead
        mailbox []] at onward
  | unconnected here refused =>
      rw [State.foreseeActivation_connecting here]
      exact .unconnected refused
  | @produced place ahead mailbox opened wanted label downstream produced =>
      obtain ⟨route, here, _⟩ := kept.complete present
      have there := (steady.route? run place).trans here
      refine .of_made (fun _ => rfl) ?_
      rw [State.foresee_next, State.foreseeActivation_producing here, State.foreseeActivation_producing there,
        routes, State.foreseeProducers_congr steady]
      · simp only [State.foreseeProducers, List.findSome?_cons, produced, failure?]
      · rintro spot among ⟨⟩
        exact (List.nodup_cons.mp distinct).1 among
  | unproduced refused =>
      obtain ⟨route, here, _⟩ := kept.complete present
      refine .of_made (fun _ => rfl) ?_
      rw [State.foreseeActivation_producing here]
      simp only [State.foreseeProducers, List.findSome?_cons, refused, failure?, State.attachAfter,
        State.foresee, State.foreseeActivation, State.failedAt, here, Option.map_some,
        Option.getD_some]
  | @spawned place ahead mailbox opened route here =>
      obtain ⟨slot, found, _, empty⟩ := own.claimed ⟨_, present, rfl⟩
      rw [State.foreseeActivation_producing here]
      refine .spawned found empty (routes ?_)
      rintro spot among ⟨⟩
      exact (List.nodup_cons.mp distinct).1 among
  | producerUndone => exact .of_made (fun _ => rfl) rfl
  | consumerUndone here =>
      refine .of_made (State.made_congr rfl (fun _ => rfl) ?_ rfl) ?_
      · exact State.isOccupied_of_guard Guard.release rfl
      · simp only [State.attachAfter, State.foresee, State.foreseeActivation, State.failedAt, here,
          Option.map_some, Option.getD_some]

end

end TopicRelay
