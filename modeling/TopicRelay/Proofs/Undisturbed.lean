import TopicRelay.Proofs.Activations
import TopicRelay.Proofs.FailedStart
import TopicRelay.Proofs.Progress

/-!
# How far an activation gets

A call that has the routes of a run to itself passes the routes of its topic one after the other, in
the order of the table.  It starts those that have no relay, and ends at the first that cannot be
started, which it leaves as it was, like all the routes that it has not come to.  What it has asked
of the connections meanwhile is what the activations of the routes it has started and of the one
that has failed ask for (`Activations`), so it asks for nothing on behalf of the others.

A call has the routes to itself if their guards are free when it comes (`State.Undisturbed`) and no
other call has a turn from then on (`OnlyCall`).  The guards are free if all other calls have their
answers, or at least none of them stands at a route (`History.undisturbed`).  `Pursuit` says how far
the call has come since then; each turn of the call keeps it (`Stage.own`), and so does all that
connections, relays and time may do meanwhile (`Stage.other`).  As the call holds the guard of the
route that it stands at, it can go on until it has its answer (`History.comes_to_answer`).
`History.activates_in_order` puts this together, for runs that start routes and for those that do
not any more.
-/

namespace TopicRelay

set_option autoImplicit false

/-! ## A call on its own -/

/-- The routes of a run are those of a table that has been built, and their guards are free. -/
structure State.Undisturbed (state : State) (run : RunId) : Prop where
  table : ∃ scheme queues, state.table? run = some (RouteTable.build scheme queues).1
  free : ∀ {place : Place} {route : Route}, state.route? run place = some route →
    ∃ slot, state.slot? run place = some slot ∧ slot.guard = {}

/-- No call but one has a turn. -/
def OnlyCall (job : JobId) (later : List Occurrence) : Prop :=
  ∀ occurrence ∈ later, ∀ other, occurrence.move = .job other → other = job

theorem OnlyCall.append {job : JobId} {later more : List Occurrence} {now next : State}
    (only : OnlyCall job later) (solo : Solo job now more next) : OnlyCall job (later ++ more) := by
  intro occurrence among other turn
  rcases List.mem_append.mp among with earlier | last
  · exact only occurrence earlier other turn
  · rcases solo.only occurrence last with mine | ⟨milliseconds, waits⟩
    · cases mine.symm.trans turn
      rfl
    · cases waits.symm.trans turn

namespace State.Undisturbed

variable {state : State} {run : RunId} {topic : String} {place : Place}

/-- The routes of a topic are those that publish it. -/
theorem mem_positions (undisturbed : state.Undisturbed run) :
    place ∈ state.positions run topic ↔
      ∃ route, state.route? run place = some route ∧ topic ∈ route.topics := by
  obtain ⟨scheme, queues, found⟩ := undisturbed.table
  rw [positions_of_some found, (RouteTable.indexed_build scheme queues).mem_positions]
  refine exists_congr fun route => and_congr_left fun _ => ?_
  rw [route?_eq_some_iff]
  simp [found]

/-- The routes of a topic come in the order of the table. -/
theorem positions_increase (undisturbed : state.Undisturbed run) :
    (state.positions run topic).Pairwise (· < ·) := by
  obtain ⟨scheme, queues, found⟩ := undisturbed.table
  rw [positions_of_some found]
  exact (RouteTable.indexed_build scheme queues).positions_increase topic

theorem slot (undisturbed : state.Undisturbed run) (among : place ∈ state.positions run topic) :
    ∃ slot, state.slot? run place = some slot ∧ slot.guard = {} := by
  obtain ⟨route, here, _⟩ := undisturbed.mem_positions.mp among
  exact undisturbed.free here

end State.Undisturbed

/-- A call that has its answer stands in no line. -/
theorem Job.post?_of_isDone {job : Job} (done : job.isDone = true) : job.post? = none := by
  cases job with
  | start phase => cases phase <;> first | rfl | cases done
  | stop phase => cases phase <;> first | rfl | cases done
  | attach topic phase => cases phase <;> first | rfl | cases done

theorem Guard.eq_empty_of_line {guard : Guard} (empty : guard.line = []) : guard = {} := by
  obtain ⟨_ | holder, waiting⟩ := guard
  · exact congrArg (Guard.mk none) empty
  · cases empty

/-- If all calls but one have their answers, and that one is about to find its routes, then no call
stands at a route. -/
theorem State.Alone.postOf?_ne_route {called : State} {run other : RunId} {job id : JobId}
    {topic : String} {place : Place} (alone : called.Alone job)
    (begins : called.jobs[job]? = some (.attach topic (.activating run .resolving))) :
    called.postOf? id ≠ some (.route other place) := by
  intro stands
  obtain ⟨found, present, post⟩ := Option.bind_eq_some_iff.mp stands
  by_cases mine : id = job
  · subst mine
    cases begins.symm.trans present
    cases post
  · simp [Job.post?_of_isDone (alone id found present mine)] at post

/-- A call that comes when no call stands in a line stands in none either. -/
theorem State.postOf?_arrive {state : State} (nobody : ∀ job ∈ state.jobs, job.post? = none)
    (request : Request) (id : JobId) : (state.arrive request).postOf? id = none := by
  refine Option.bind_eq_none_iff.mpr fun found present => ?_
  rcases getElem?_concat_eq_some.mp present with was | ⟨_, rfl⟩
  · exact nobody found (List.mem_of_getElem? was)
  · exact request.post?_job

/-- **As long as no call stands at a route of a run, the guards of its routes are free.** -/
theorem History.undisturbed {first called : State} {past : List Occurrence} {run : RunId}
    (history : History first past called) (unused : first.Unused)
    (nobody : ∀ {id place}, called.postOf? id ≠ some (.route run place))
    (known : run < called.runs.length) : called.Undisturbed run where
  table := by
    obtain ⟨found, present⟩ := Option.isSome_iff_exists.mp (State.run?_isSome_iff.mpr known)
    have there : called.table? run = some found.table := by simp [State.table?, present]
    obtain ⟨scheme, queues, same⟩ := history.tabled unused there
    exact ⟨scheme, queues, same ▸ there⟩
  free := by
    intro place route here
    have some := (history.slotted unused).isSome_slot? run place
    rw [here] at some
    obtain ⟨slot, found⟩ := Option.isSome_iff_exists.mp some
    have guard : called.guardAt? (.route run place) = .some slot.guard := by
      simp [State.guardAt?, found]
    have empty : slot.guard.line = [] := List.eq_nil_iff_forall_not_mem.mpr fun id among =>
      nobody (((history.lines unused).members guard).mp among)
    exact ⟨slot, found, Guard.eq_empty_of_line empty⟩

/-- Only calls change routes. -/
theorem Moves.runs_of_other {state next : State} {move : Move} {effects : List Effect}
    (moved : Moves state move next effects) (still : ∀ job, move ≠ .job job) :
    next.runs = state.runs := by
  cases moved with
  | @start job => exact absurd rfl (still job)
  | @stop job => exact absurd rfl (still job)
  | @attach job => exact absurd rfl (still job)
  | relay _ turn => exact (Aside.of_forwards turn).runs
  | @change change => exact (change_fromOutside state change).runs
  | _ => rfl

/-! ## The routes -/

/-- What a call has done to the routes: those that it has started have their relays, the one at its
spot is held by it, and all others are as they were. -/
structure Kept (called now : State) (run : RunId) (job : JobId) (made : List Activation)
    (spot : Option Place) : Prop where
  started : ∀ activation ∈ made, ∀ {mailbox relay}, activation.outcome = .started mailbox relay →
    now.slot? run activation.place = some ⟨{}, some relay, true⟩
  held : ∀ {place slot}, spot = some place → called.slot? run place = some slot →
    now.slot? run place = some { slot with guard := ⟨some job, []⟩ }
  same : ∀ {other place}, (other = run → spot ≠ some place ∧ ∀ activation ∈ made,
    activation.place ≠ place) → now.slot? other place = called.slot? other place

namespace Kept

variable {called now next middle : State} {run : RunId} {job : JobId} {made : List Activation}
  {spot : Option Place} {place : Place} {slot : RouteSlot}

theorem congr (kept : Kept called now run job made spot)
    (slots : ∀ other place, next.slot? other place = now.slot? other place) :
    Kept called next run job made spot where
  started := fun activation among _ _ started =>
    (slots _ _).trans (kept.started activation among started)
  held := fun here found => (slots _ _).trans (kept.held here found)
  same := fun apart => (slots _ _).trans (kept.same apart)

/-- The call asks for the guard of a route, and gets it. -/
theorem asked (kept : Kept called now run job made none)
    (found : called.slot? run place = some slot) (free : slot.guard = {})
    (new : ∀ activation ∈ made, activation.place ≠ place) :
    Kept called (now.requestSlot run place job) run job made (some place) where
  started := by
    intro activation among mailbox relay started
    have apart : (run, place) ≠ (run, activation.place) :=
      fun equal => new activation among (Prod.mk.inj equal).2.symm
    exact (State.slot?_modifySlot_of_ne apart).trans (kept.started activation among started)
  held := by
    rintro _ also ⟨⟩ there
    cases found.symm.trans there
    have still : now.slot? run place = some slot :=
      (kept.same fun _ => ⟨by rintro ⟨⟩, new⟩).trans found
    rw [State.requestSlot, State.slot?_modifySlot_of_some still, free]
    rfl
  same := by
    intro other there apart
    have different : (run, place) ≠ (other, there) := by
      rintro ⟨⟩
      exact (apart rfl).1 rfl
    exact (State.slot?_modifySlot_of_ne different).trans
      (kept.same fun equal => ⟨by rintro ⟨⟩, (apart equal).2⟩)

/-- The call gives the guard of a route up. -/
theorem released (kept : Kept called now run job made (some place))
    (found : called.slot? run place = some slot) (free : slot.guard = {})
    (new : ∀ activation ∈ made, activation.place ≠ place) (runs : middle.runs = now.runs) :
    Kept called (middle.releaseSlot run place) run job made none where
  started := by
    intro activation among mailbox relay started
    have apart : (run, place) ≠ (run, activation.place) :=
      fun equal => new activation among (Prod.mk.inj equal).2.symm
    exact (State.slot?_modifySlot_of_ne apart).trans
      ((State.slot?_congr runs).trans (kept.started activation among started))
  held := nofun
  same := by
    intro other there apart
    by_cases here : (run, place) = (other, there)
    · cases here
      have mine := (State.slot?_congr runs).trans (kept.held rfl found)
      obtain ⟨guard, relay, started⟩ := slot
      cases free
      rw [State.releaseSlot, State.slot?_modifySlot_of_some mine, found]
      rfl
    · have other : (other = run → some place ≠ some there ∧ ∀ activation ∈ made,
          activation.place ≠ there) := by
        rintro rfl
        exact ⟨fun same => here (by rw [Option.some.inj same]), (apart rfl).2⟩
      exact (State.slot?_modifySlot_of_ne here).trans
        ((State.slot?_congr runs).trans (kept.same other))

/-- The call gives a route its relay. -/
theorem spawned {route : Route} {mailbox given : MailboxId} {last : Activation}
    (kept : Kept called now run job made (some place))
    (found : called.slot? run place = some slot)
    (new : ∀ activation ∈ made, activation.place ≠ place) (here : last.place = place)
    (ends : last.outcome = .started given now.relays.length) :
    Kept called (now.spawn run place route mailbox) run job (made ++ [last]) none where
  started := by
    intro activation among mailbox relay started
    rcases List.mem_append.mp among with old | only
    · have apart : (run, place) ≠ (run, activation.place) :=
        fun equal => new activation old (Prod.mk.inj equal).2.symm
      exact (State.slot?_modifySlot_of_ne apart).trans (kept.started activation old started)
    · cases List.mem_singleton.mp only
      cases ends.symm.trans started
      rw [here, State.spawn]
      exact State.slot?_modifySlot_of_some (kept.held rfl found)
  held := nofun
  same := by
    intro other there apart
    have different : (run, place) ≠ (other, there) := by
      rintro ⟨⟩
      exact (apart rfl).2 last (by simp) here
    have elsewhere : (other = run → some place ≠ some there ∧ ∀ activation ∈ made,
        activation.place ≠ there) := by
      rintro rfl
      exact ⟨fun same => different (by rw [Option.some.inj same]), fun activation among =>
        (apart rfl).2 activation (by simp [among])⟩
    exact (State.slot?_modifySlot_of_ne different).trans (kept.same elsewhere)

end Kept

/-! ## The call -/

/-- All that a call has done is that it has started some routes and has failed to start another one:
it has asked the connections for what these activations ask for, the routes that it has started have
their relays, and every other route is as it was. -/
structure Performed (called now : State) (run : RunId) (job : JobId) (later : List Occurrence)
    (started : List Activation) (failed : Option Activation) : Prop where
  each : ∀ activation ∈ started ++ failed.toList, activation.IsOf now run job later
  log : dealingsOf job later = (started ++ failed.toList).flatMap Activation.effects
  given : ∀ activation ∈ started, ∃ mailbox relay,
    activation.outcome = .started mailbox relay ∧
      now.slot? run activation.place = some ⟨{}, some relay, true⟩
  same : ∀ {other place}, (other = run → place ∉ started.map (·.place)) →
    now.slot? other place = called.slot? other place
  accepts : started ≠ [] → called.accepting? run = some true

/-- Something goes on that is no turn of a call. -/
theorem Performed.other {called now next : State} {run : RunId} {job : JobId}
    {later : List Occurrence} {started : List Activation} {failed : Option Activation} {move : Move}
    {effects : List Effect} (performed : Performed called now run job later started failed)
    (moved : Moves now move next effects) (still : ∀ other, move ≠ .job other) :
    Performed called next run job (later ++ [⟨now, move, next, effects⟩]) started failed where
  each := fun activation among => (performed.each activation among).step moved _
  log := by
    rw [dealingsOf_concat_other, performed.log]
    rw [← Bool.not_eq_true, Occurrence.isCallTurn_iff]
    exact still job
  given := by
    intro activation among
    obtain ⟨mailbox, relay, ends, there⟩ := performed.given activation among
    exact ⟨mailbox, relay, ends, (State.slot?_congr (moved.runs_of_other still)).trans there⟩
  same := fun apart => (State.slot?_congr (moved.runs_of_other still)).trans (performed.same apart)
  accepts := performed.accepts

/-- How far a call has come that has the routes to itself: it has passed some of the routes of its
topic, and has started those of them that had no relay. -/
structure Pursuit (called now : State) (run : RunId) (job : JobId) (later : List Occurrence)
    (passed : List Place) (made : List Activation) (seen : List Effect) (spot : Option Place) :
    Prop where
  undertaken : Undertaken now run job later made seen
  successes : ∀ activation ∈ made, activation.failure? = none
  places : made.map (·.place) = passed.filter fun place => !called.isOccupied run place
  accepts : ∀ activation ∈ made, called.accepting? run = some true
  kept : Kept called now run job made spot
  table : now.table? run = called.table? run
  accepting : now.accepting? run = called.accepting? run

namespace Pursuit

variable {called now next middle : State} {run : RunId} {job : JobId} {later : List Occurrence}
  {passed : List Place} {made : List Activation} {seen effects : List Effect} {move : Move}
  {spot place? : Option Place} {place : Place}

theorem start (called : State) (run : RunId) (job : JobId) :
    Pursuit called called run job [] [] [] [] none where
  undertaken := ⟨by simp, rfl⟩
  successes := by simp
  places := rfl
  accepts := by simp
  kept := ⟨by simp, nofun, fun _ => rfl⟩
  table := rfl
  accepting := rfl

/-- Something goes on that is no turn of a call. -/
theorem other (pursuit : Pursuit called now run job later passed made seen spot)
    (moved : Moves now move next effects) (still : ∀ other, move ≠ .job other) :
    Pursuit called next run job (later ++ [⟨now, move, next, effects⟩]) passed made seen spot := by
  have runs : next.runs = now.runs := moved.runs_of_other still
  exact {
    undertaken := pursuit.undertaken.other moved (still job)
    successes := pursuit.successes
    places := pursuit.places
    accepts := pursuit.accepts
    kept := pursuit.kept.congr fun _ _ => State.slot?_congr runs
    table := (State.table?_congr runs).trans pursuit.table
    accepting := (State.accepting?_congr runs).trans pursuit.accepting }

/-- The call has a turn. -/
theorem own (pursuit : Pursuit called now run job later passed made seen spot)
    (moved : Moves now (.job job) next effects) (leaves : LeavesBridge now middle)
    (runs : next.runs = middle.runs) (kept : Kept called next run job made place?) :
    Pursuit called next run job (later ++ [⟨now, .job job, next, effects⟩]) passed made
      (seen ++ effects.filter fun effect => !effect.isReport) place? where
  undertaken := pursuit.undertaken.own moved
  successes := pursuit.successes
  places := pursuit.places
  accepts := pursuit.accepts
  kept := kept
  table := (State.table?_congr runs).trans ((leaves.table? run).trans pursuit.table)
  accepting := (State.accepting?_congr runs).trans ((leaves.accepting? run).trans pursuit.accepting)

/-- The call has given a route its relay. -/
theorem started {last : Activation}
    (pursuit : Pursuit called now run job later passed made seen spot)
    (moved : Moves now (.job job) next effects) (leaves : LeavesBridge now middle)
    (runs : next.runs = middle.runs) (kept : Kept called next run job (made ++ [last]) none)
    (ours : last.IsOf next run job (later ++ [⟨now, .job job, next, effects⟩]))
    (unfailed : last.failure? = none)
    (all : (seen ++ effects.filter fun effect => !effect.isReport) = last.effects)
    (empty : called.isOccupied run last.place = false)
    (accepts : called.accepting? run = some true) :
    Pursuit called next run job (later ++ [⟨now, .job job, next, effects⟩])
      (passed ++ [last.place]) (made ++ [last]) [] none where
  undertaken := (pursuit.undertaken.own moved).concat ours all
  successes := by
    intro activation among
    rcases List.mem_append.mp among with old | new
    · exact pursuit.successes activation old
    · rwa [List.mem_singleton.mp new]
  places := by simp [pursuit.places, empty]
  accepts := fun _ _ => accepts
  kept := kept
  table := (State.table?_congr runs).trans ((leaves.table? run).trans pursuit.table)
  accepting := (State.accepting?_congr runs).trans ((leaves.accepting? run).trans pursuit.accepting)

/-- The call has passed a route that had a relay. -/
theorem pass (pursuit : Pursuit called now run job later passed made seen spot)
    (occupied : called.isOccupied run place = true) :
    Pursuit called now run job later (passed ++ [place]) made seen spot :=
  { pursuit with places := by simp [pursuit.places, occupied] }

/-- A call that has given its last guard up has done what its activations say. -/
theorem performed {failed : Option Activation} {seen : List Effect}
    (pursuit : Pursuit called now run job later passed made seen none)
    (ours : ∀ activation ∈ failed, activation.IsOf now run job later)
    (shown : seen = failed.toList.flatMap Activation.effects) :
    Performed called now run job later made failed where
  each := by
    intro activation among
    rcases List.mem_append.mp among with old | last
    · exact pursuit.undertaken.each activation old
    · exact ours activation (Option.mem_toList.mp last)
  log := by rw [pursuit.undertaken.log, shown, List.flatMap_append]
  given := by
    intro activation among
    obtain ⟨mailbox, relay, started⟩ :=
      Activation.outcome_of_unfailed (pursuit.successes activation among)
    exact ⟨mailbox, relay, started, pursuit.kept.started activation among started⟩
  same := fun apart => pursuit.kept.same fun equal =>
    ⟨nofun, fun activation among here => apart equal (List.mem_map.mpr ⟨activation, among, here⟩)⟩
  accepts := fun some =>
    let ⟨activation, among⟩ := List.exists_mem_of_ne_nil _ some
    pursuit.accepts activation among

end Pursuit

section

variable (called now : State) (run : RunId) (job : JobId) (topic : String)
  (later : List Occurrence)

/-- How a call ends that has the routes to itself. -/
inductive Concludes : Except SubscribeFailure Unit → Prop where
  /-- No route publishes the topic. -/
  | unknown (nowhere : called.positions run topic = [])
      (performed : Performed called now run job later [] none) :
      Concludes (.error (.activation (.routeNotFound topic)))
  /-- The call has started all routes that had no relay. -/
  | completed {started : List Activation} (somewhere : called.positions run topic ≠ [])
      (places : started.map (·.place) =
        (called.positions run topic).filter fun place => !called.isOccupied run place)
      (performed : Performed called now run job later started none) : Concludes (.ok ())
  /-- A route has no relay, and the run does not start it any more. -/
  | refused {place : Place} (among : place ∈ called.positions run topic)
      (empty : called.isOccupied run place = false) (closed : called.accepting? run = some false)
      (performed : Performed called now run job later [] none) :
      Concludes (.error (.activation .shuttingDown))
  /-- The call has started the routes that had no relay up to one that it could not start. -/
  | failed {passed rest : List Place} {started : List Activation} {last : Activation}
      {failure : TransportFailure}
      (all : called.positions run topic = passed ++ last.place :: rest)
      (places : started.map (·.place) = passed.filter fun place => !called.isOccupied run place)
      (empty : called.isOccupied run last.place = false)
      (accepts : called.accepting? run = some true) (fails : last.failure? = some failure)
      (performed : Performed called now run job later started (some last))
      (behind : ∀ place ∈ last.place :: rest, now.slot? run place = called.slot? run place) :
      Concludes (.error (.activation (.startFailed last.route.id failure)))

/-- Where a call is that has the routes to itself. -/
inductive Stage : AttachPhase → Prop where
  | resolving (pursuit : Pursuit called now run job later [] [] [] none) :
      Stage (.activating run .resolving)
  | underWay {phase : ActivationPhase} {passed rest : List Place} {made : List Activation}
      {seen : List Effect} (resolved : phase ≠ .resolving)
      (pursuit : Pursuit called now run job later passed made seen phase.place?)
      (somewhere : called.positions run topic ≠ [])
      (all : called.positions run topic = passed ++ (phase.places ++ rest))
      (ends : rest = [] ∨
        ∃ place mailbox opened failure, phase = .undoing place mailbox opened failure)
      (shows : Shows now run job later phase seen)
      (claimed : ∀ place, phase.claims? = some place →
        called.isOccupied run place = false ∧ called.accepting? run = some true) :
      Stage (.activating run phase)
  | answered {answer : Except SubscribeFailure Unit}
      (concludes : Concludes called now run job topic later answer) : Stage (.done answer)

end

section

variable {called now next middle : State} {run : RunId} {job : JobId} {topic : String}
  {later : List Occurrence} {effects : List Effect} {move : Move} {phase after : AttachPhase}

/-- Something goes on that is no turn of a call. -/
theorem Concludes.other {answer : Except SubscribeFailure Unit}
    (concludes : Concludes called now run job topic later answer)
    (moved : Moves now move next effects) (still : ∀ other, move ≠ .job other) :
    Concludes called next run job topic (later ++ [⟨now, move, next, effects⟩]) answer := by
  cases concludes with
  | unknown nowhere performed => exact .unknown nowhere (performed.other moved still)
  | completed somewhere places performed =>
      exact .completed somewhere places (performed.other moved still)
  | refused among empty closed performed =>
      exact .refused among empty closed (performed.other moved still)
  | failed all places empty accepts fails performed behind =>
      exact .failed all places empty accepts fails (performed.other moved still) fun place after =>
        (State.slot?_congr (moved.runs_of_other still)).trans (behind place after)

/-- Something goes on that is no turn of a call. -/
theorem Stage.other (stage : Stage called now run job topic later phase)
    (moved : Moves now move next effects) (still : ∀ other, move ≠ .job other) :
    Stage called next run job topic (later ++ [⟨now, move, next, effects⟩]) phase := by
  cases stage with
  | resolving pursuit => exact .resolving (pursuit.other moved still)
  | underWay resolved pursuit somewhere all ends shows claimed =>
      exact .underWay resolved (pursuit.other moved still) somewhere all ends (shows.step moved _)
        claimed
  | answered concludes => exact .answered (concludes.other moved still)

/-- A call has not passed the routes that are still before it. -/
theorem Pursuit.place_ne {passed rest : List Place} {made : List Activation} {seen : List Effect}
    {spot : Option Place} {place : Place}
    (pursuit : Pursuit called now run job later passed made seen spot)
    (undisturbed : called.Undisturbed run) (all : called.positions run topic = passed ++ rest)
    (before : place ∈ rest) : ∀ activation ∈ made, activation.place ≠ place := by
  rintro activation among rfl
  have behind : activation.place ∈ passed := by
    have mem : activation.place ∈ made.map (·.place) := List.mem_map_of_mem among
    rw [pursuit.places] at mem
    exact (List.mem_filter.mp mem).1
  -- The routes come in the order of the table.
  have increase : (passed ++ rest).Pairwise (· < ·) := all ▸ undisturbed.positions_increase
  exact Nat.lt_irrefl _ ((List.pairwise_append.mp increase).2.2 _ behind _ before)

section

variable {passed rest : List Place} {made : List Activation} {seen : List Effect} {place : Place}

/-- A route that a call comes to. -/
theorem State.Undisturbed.slot_of_positions (undisturbed : called.Undisturbed run)
    (all : called.positions run topic = passed ++ place :: rest) :
    ∃ slot, called.slot? run place = some slot ∧ slot.guard = {} :=
  undisturbed.slot (all ▸ List.mem_append_right _ (List.mem_cons_self ..))

theorem Pursuit.asks (pursuit : Pursuit called now run job later passed made seen none)
    (undisturbed : called.Undisturbed run)
    (all : called.positions run topic = passed ++ place :: rest) :
    Kept called (now.requestSlot run place job) run job made (some place) := by
  obtain ⟨slot, found, free⟩ := undisturbed.slot_of_positions all
  exact pursuit.kept.asked found free (pursuit.place_ne undisturbed all (List.mem_cons_self ..))

theorem Pursuit.releases (pursuit : Pursuit called now run job later passed made seen (some place))
    (undisturbed : called.Undisturbed run)
    (all : called.positions run topic = passed ++ place :: rest) (runs : middle.runs = now.runs) :
    Kept called (middle.releaseSlot run place) run job made none := by
  obtain ⟨slot, found, free⟩ := undisturbed.slot_of_positions all
  have new := pursuit.place_ne undisturbed all (List.mem_cons_self ..)
  exact pursuit.kept.released found free new runs

/-- The call holds the guard of the route that it stands at, and finds there what was there. -/
theorem Pursuit.finds (pursuit : Pursuit called now run job later passed made seen (some place))
    (undisturbed : called.Undisturbed run)
    (all : called.positions run topic = passed ++ place :: rest) :
    ∃ slot, now.slot? run place = some slot ∧ slot.guard.holder = some job ∧
      called.isOccupied run place = slot.relay.isSome := by
  obtain ⟨slot, found, _⟩ := undisturbed.slot_of_positions all
  have occupied := State.isOccupied_of_some found
  exact ⟨_, pursuit.kept.held rfl found, rfl, occupied⟩

/-- The route that the call stands at has a relay if it had one. -/
theorem Pursuit.isOccupied {slot : RouteSlot}
    (pursuit : Pursuit called now run job later passed made seen (some place))
    (undisturbed : called.Undisturbed run)
    (all : called.positions run topic = passed ++ place :: rest)
    (found : now.slot? run place = some slot) :
    called.isOccupied run place = slot.relay.isSome := by
  obtain ⟨_, there, _, agrees⟩ := pursuit.finds undisturbed all
  cases found.symm.trans there
  exact agrees

/-- A call ends at a route that could not be started. -/
theorem Continues.concludes {phase : ActivationPhase} {id : String} {failure : TransportFailure}
    (continues : Continues now run job later phase seen
      (.finish (.error (.startFailed id failure))))
    (undisturbed : called.Undisturbed run) (here : phase.place? = some place)
    (all : called.positions run topic = passed ++ place :: rest)
    (claimed : called.isOccupied run place = false ∧ called.accepting? run = some true)
    (pursuit : Pursuit called now run job later passed made seen none) :
    Concludes called now run job topic later (.error (.activation (.startFailed id failure))) := by
  cases continues with
  | answered _ other => exact absurd rfl (other id failure)
  | @failed last reason _ ours own fails effects answer =>
      obtain rfl : place = last.place := Option.some.inj (here.symm.trans ours)
      obtain ⟨rfl, rfl⟩ : id = last.route.id ∧ failure = reason := by simpa using answer
      have performed : Performed called now run job later made (some last) := by
        refine pursuit.performed ?_ (by simp [effects])
        rintro _ ⟨⟩
        exact own
      exact .failed all pursuit.places claimed.1 claimed.2 fails performed fun other before =>
        pursuit.kept.same fun _ => ⟨nofun, pursuit.place_ne undisturbed all before⟩

/-- A call ends at a route that the run does not start any more. -/
theorem Pursuit.refused (pursuit : Pursuit called now run job later passed made [] none)
    (all : called.positions run topic = passed ++ place :: rest)
    (empty : called.isOccupied run place = false) (closed : called.accepting? run = some false) :
    Concludes called now run job topic later (.error (.activation .shuttingDown)) := by
  -- A run that does not start routes has not started any for the call.
  obtain rfl : made = [] := by
    refine List.eq_nil_iff_forall_not_mem.mpr fun activation among => ?_
    cases closed.symm.trans (pursuit.accepts activation among)
  exact .refused (by simp [all]) empty closed (pursuit.performed nofun rfl)

end

/-- The call finds its routes. -/
theorem Pursuit.resolves {advance : Advance ActivationPhase (Except ActivationFailure Unit)}
    (pursuit : Pursuit called now run job later [] [] [] none) (undisturbed : called.Undisturbed run)
    (turn : Activates now job run topic .resolving advance middle effects)
    (moved : Moves now (.job job) next effects) (runs : next.runs = middle.runs) :
    Stage called next run job topic (later ++ [⟨now, .job job, next, effects⟩])
      (State.attachAfter run advance) := by
  have leaves := turn.leavesBridge
  have same : ∀ other place, next.slot? other place = middle.slot? other place :=
    fun _ _ => State.slot?_congr runs
  cases turn with
  | unknown nowhere =>
      have onward := pursuit.own moved leaves runs (pursuit.kept.congr same)
      refine .answered (.unknown ?_ (onward.performed nofun rfl))
      obtain ⟨scheme, queues, found⟩ := undisturbed.table
      rw [State.positions_of_some found]
      exact nowhere _ (pursuit.table.trans found)
  | @resolved table place ahead found positions =>
      have onward := pursuit.own moved leaves runs (pursuit.kept.congr same)
      have all : called.positions run topic = place :: ahead := by
        rw [State.positions_of_some (pursuit.table ▸ found), positions]
      exact .underWay nofun onward (by simp [all]) (by simp [all, ActivationPhase.places]) (.inl rfl)
        (.resting rfl) nofun

/-- The call goes on once it has found its routes. -/
theorem Stage.onward {phase : ActivationPhase}
    {advance : Advance ActivationPhase (Except ActivationFailure Unit)}
    (stage : Stage called now run job topic later (.activating run phase))
    (resolved : phase ≠ .resolving) (undisturbed : called.Undisturbed run)
    (turn : Activates now job run topic phase advance middle effects)
    (moved : Moves now (.job job) next effects) (runs : next.runs = middle.runs)
    (relays : next.relays = middle.relays) :
    Stage called next run job topic (later ++ [⟨now, .job job, next, effects⟩])
      (State.attachAfter run advance) := by
  have leaves := turn.leavesBridge
  have same : ∀ other place, next.slot? other place = middle.slot? other place :=
    fun _ _ => State.slot?_congr runs
  cases stage with
  | resolving => exact absurd rfl resolved
  | @underWay _ passed rest made seen _ pursuit somewhere all ends shows claimed =>
      have continues := turn.continues moved relays shows
      have finished : (∀ place mailbox opened failure,
          phase ≠ .undoing place mailbox opened failure) → rest = [] :=
        fun other => ends.resolve_right fun ⟨_, _, _, _, is⟩ => other _ _ _ _ is
      cases turn with
      | unknown _ => exact absurd rfl resolved
      | resolved _ _ => exact absurd rfl resolved
      | completed =>
          cases shows
          cases finished nofun
          have onward := pursuit.own moved leaves runs (pursuit.kept.congr same)
          obtain rfl : called.positions run topic = passed := by
            simpa [ActivationPhase.places] using all
          exact .answered (.completed somewhere onward.places (onward.performed nofun rfl))
      | @asked place ahead route slot here found =>
          cases shows
          have kept := (pursuit.asks undisturbed all).congr same
          exact .underWay nofun (pursuit.own moved leaves runs kept) somewhere all
            (.inl (finished nofun)) (.resting rfl) nofun
      | @needless place ahead route slot relay here found held occupied =>
          cases shows
          have kept := (pursuit.releases undisturbed all rfl).congr same
          have agrees := pursuit.isOccupied undisturbed all found
          have passes :=
            (pursuit.own moved leaves runs kept).pass (agrees.trans (by simp [occupied]))
          exact .underWay nofun passes somewhere (by simpa [ActivationPhase.places] using all)
            (.inl (finished nofun)) (.resting rfl) nofun
      | @refused place ahead route slot here found held empty closed =>
          cases shows
          have kept := (pursuit.releases undisturbed all rfl).congr same
          have agrees := pursuit.isOccupied undisturbed all found
          have onward := pursuit.own moved leaves runs kept
          exact .answered (onward.refused all (agrees.trans (by simp [empty]))
            (pursuit.accepting.symm.trans closed))
      | @claimed place ahead route slot here found held empty accepts =>
          have onward := pursuit.own moved leaves runs (pursuit.kept.congr same)
          have agrees := pursuit.isOccupied undisturbed all found
          obtain ⟨_, shows⟩ := continues
          refine .underWay nofun onward somewhere all (.inl (finished nofun)) shows ?_
          rintro _ ⟨⟩
          exact ⟨agrees.trans (by simp [empty]), pursuit.accepting.symm.trans accepts⟩
      | connected _ _ =>
          have onward := pursuit.own moved leaves runs (pursuit.kept.congr same)
          obtain ⟨_, shows⟩ := continues
          exact .underWay nofun onward somewhere all (.inl (finished nofun)) shows claimed
      | produced _ =>
          have onward := pursuit.own moved leaves runs (pursuit.kept.congr same)
          obtain ⟨_, shows⟩ := continues
          exact .underWay nofun onward somewhere all (.inl (finished nofun)) shows claimed
      | unproduced _ =>
          -- The routes after this one are not before the call any more.
          have onward := pursuit.own moved leaves runs (pursuit.kept.congr same)
          obtain ⟨_, shows⟩ := continues
          exact .underWay nofun onward somewhere (by simpa [ActivationPhase.places] using all)
            (.inr ⟨_, _, _, _, rfl⟩) shows claimed
      | producerUndone =>
          have onward := pursuit.own moved leaves runs (pursuit.kept.congr same)
          obtain ⟨_, shows⟩ := continues
          exact .underWay nofun onward somewhere all (.inr ⟨_, _, _, _, rfl⟩) shows claimed
      | @spawned place ahead mailbox opened route here =>
          cases continues with
          | onward still _ => simp [ActivationPhase.claims?] at still
          | @started last _ given relay ours mine ends youngest effects =>
              cases ours
              obtain ⟨empty, accepts⟩ := claimed _ rfl
              obtain ⟨slot, found, free⟩ := undisturbed.slot_of_positions all
              have length : next.relays.length = now.relays.length + 1 := by
                rw [relays]
                exact List.length_append ..
              cases Nat.succ.inj (length.symm.trans youngest)
              have new := pursuit.place_ne undisturbed all (List.mem_cons_self ..)
              have spawned : Kept called (now.spawn run last.place route mailbox) run job _ none :=
                pursuit.kept.spawned found new rfl ends
              have passes := pursuit.started moved leaves runs (spawned.congr same) mine
                (Activation.failure?_of_started ends) effects empty accepts
              exact .underWay nofun passes somewhere (by simpa [ActivationPhase.places] using all)
                (.inl (finished nofun)) (.resting rfl) nofun
      | unconnected _ _ =>
          have kept := (pursuit.releases undisturbed all rfl).congr same
          exact .answered (continues.concludes undisturbed rfl all (claimed _ rfl)
            (pursuit.own moved leaves runs kept))
      | consumerUndone _ =>
          have kept := (pursuit.releases undisturbed all rfl).congr same
          exact .answered (continues.concludes undisturbed rfl all (claimed _ rfl)
            (pursuit.own moved leaves runs kept))

/-- **The call has a turn.** -/
theorem Stage.own (stage : Stage called now run job topic later phase)
    (undisturbed : called.Undisturbed run)
    (turn : Attaches now job topic phase after middle effects)
    (moved : Moves now (.job job) next effects) (runs : next.runs = middle.runs)
    (relays : next.relays = middle.relays) :
    Stage called next run job topic (later ++ [⟨now, .job job, next, effects⟩]) after := by
  cases turn with
  | activated turn =>
      cases stage with
      | resolving pursuit => exact pursuit.resolves undisturbed turn moved runs
      | underWay resolved pursuit somewhere all ends shows claimed =>
          exact Stage.onward (.underWay resolved pursuit somewhere all ends shows claimed) resolved
            undisturbed turn moved runs relays
  | _ => cases stage

end

/-- **A call that has the routes to itself is always at one of its stages.** -/
theorem History.stage {called now : State} {later : List Occurrence} {run : RunId} {job : JobId}
    {topic : String} (history : History called later now) (only : OnlyCall job later)
    (undisturbed : called.Undisturbed run)
    (begins : called.jobs[job]? = some (.attach topic (.activating run .resolving))) :
    ∃ phase, now.jobs[job]? = some (.attach topic phase) ∧
      Stage called now run job topic later phase := by
  induction history with
  | start => exact ⟨_, begins, .resolving (.start called run job)⟩
  | @move later now next move effects before step ih =>
      obtain ⟨phase, present, stage⟩ := ih fun occurrence among => only occurrence (by simp [among])
      have moved := step_cases step
      by_cases mine : move = .job job
      · subst mine
        obtain ⟨after, middle, turn, rfl⟩ := moved.of_attach present
        exact ⟨after, State.jobs_setJob_self (turn.leavesBridge.jobs ▸ present),
          stage.own undisturbed turn moved rfl rfl⟩
      · have still : ∀ other, move ≠ .job other := by
          rintro other rfl
          exact mine (by rw [only ⟨now, .job other, next, effects⟩ (by simp) other rfl])
        exact ⟨phase, moved.jobs_of_ne present mine, stage.other moved still⟩

/-! ## The answer -/

section

variable {called now : State} {run : RunId} {job : JobId} {topic : String}
  {later : List Occurrence} {phase : AttachPhase}

namespace Pursuit

variable {passed : List Place} {made : List Activation} {seen : List Effect}
  {spot : Option Place} {place : Place}

/-- The routes themselves stay. -/
theorem route? (pursuit : Pursuit called now run job later passed made seen spot) :
    now.route? run place = called.route? run place := by
  refine Option.ext fun route => ?_
  rw [State.route?_eq_some_iff, State.route?_eq_some_iff, pursuit.table]

/-- A route that had a slot still has one. -/
theorem exists_slot {slot : RouteSlot}
    (pursuit : Pursuit called now run job later passed made seen spot)
    (found : called.slot? run place = some slot) : ∃ slot, now.slot? run place = some slot := by
  by_cases holds : spot = some place
  · exact ⟨_, pursuit.kept.held holds found⟩
  · by_cases mine : ∃ activation ∈ made, activation.place = place
    · obtain ⟨activation, among, rfl⟩ := mine
      obtain ⟨mailbox, relay, started⟩ :=
        Activation.outcome_of_unfailed (pursuit.successes activation among)
      exact ⟨_, pursuit.kept.started activation among started⟩
    · exact ⟨slot, (pursuit.kept.same fun _ =>
        ⟨holds, fun activation among same => mine ⟨activation, among, same⟩⟩).trans found⟩

/-- The routes of the topic are there. -/
theorem routes (pursuit : Pursuit called now run job later passed made seen spot)
    (undisturbed : called.Undisturbed run) (among : place ∈ called.positions run topic) :
    ∃ route slot, now.route? run place = some route ∧ now.slot? run place = some slot := by
  obtain ⟨route, here, _⟩ := undisturbed.mem_positions.mp among
  obtain ⟨_, found, _⟩ := undisturbed.free here
  obtain ⟨slot, there⟩ := pursuit.exists_slot found
  exact ⟨route, slot, pursuit.route?.trans here, there⟩

end Pursuit

/-- **The call can go on**, and has less to do then. -/
theorem Stage.advance (stage : Stage called now run job topic later phase)
    (undisturbed : called.Undisturbed run) (present : now.jobs[job]? = some (.attach topic phase))
    (undone : ∀ answer, phase ≠ .done answer) :
    ∃ more next after, Solo job now more next ∧ next.jobs[job]? = some (.attach topic after) ∧
      next.effort run topic after < now.effort run topic phase := by
  obtain ⟨inner, rfl⟩ : ∃ inner, phase = .activating run inner := by
    cases stage with
    | answered => exact absurd rfl (undone _)
    | _ => exact ⟨_, rfl⟩
  have routes : ∀ place ∈ inner.places, ∃ route slot,
      now.route? run place = some route ∧ now.slot? run place = some slot := by
    intro place among
    cases stage with
    | resolving => cases among
    | underWay _ pursuit _ all =>
        exact pursuit.routes undisturbed
          (all ▸ List.mem_append_right _ (List.mem_append_left _ among))
  have clear : ∀ place ahead,
      AttachPhase.activating run inner = .activating run (.queued place ahead) →
        ∃ slot, now.slot? run place = some slot ∧ slot.guard.holder = some job := by
    rintro place ahead ⟨⟩
    cases stage with
    | underWay _ pursuit _ all =>
        obtain ⟨slot, found, held, _⟩ := pursuit.finds undisturbed all
        exact ⟨slot, found, held⟩
  have ofRun : (AttachPhase.activating run inner).IsOf run := rfl
  obtain ⟨delay, possible⟩ := State.exists_attachTurn topic ofRun undone routes clear
  obtain ⟨⟨after, middle, effects⟩, turned⟩ := Option.isSome_iff_exists.mp possible
  obtain ⟨there, alone⟩ := Solo.of_turn present turned
  refine ⟨_, _, after, alone, there, ?_⟩
  have waited : Steady run now (now.later delay) := (Aside.of_wait now delay).steady run
  cases attachTurn_cases turned with
  | activated turn =>
      have steady : Steady run (now.later delay) middle := .of_activates turn
      rw [State.effort_congr steady.setJob, ← State.effort_congr waited topic]
      exact turn.effort_lt

end

/-- **A call that has the routes to itself comes to its answer**, by its own turns and some time. -/
theorem History.comes_to_answer {called now : State} {later : List Occurrence} {run : RunId}
    {job : JobId} {topic : String} (history : History called later now) (only : OnlyCall job later)
    (undisturbed : called.Undisturbed run)
    (begins : called.jobs[job]? = some (.attach topic (.activating run .resolving))) :
    ∃ more after answer, Solo job now more after ∧
      after.jobs[job]? = some (.attach topic (.done answer)) := by
  obtain ⟨phase, present, stage⟩ := history.stage only undisturbed begins
  generalize measured : now.effort run topic phase = effort
  induction effort using Nat.strongRecOn generalizing later now phase with
  | ind effort ih =>
      by_cases done : ∃ answer, phase = .done answer
      · obtain ⟨answer, rfl⟩ := done
        exact ⟨[], now, answer, .refl job now, present⟩
      · obtain ⟨more, next, after, alone, there, less⟩ :=
          stage.advance undisturbed present fun answer same => done ⟨answer, same⟩
        have still := only.append alone
        have onward := history.append alone.history
        obtain ⟨phase, present, stage⟩ := onward.stage still undisturbed begins
        cases there.symm.trans present
        obtain ⟨further, last, answer, rest, answered⟩ :=
          ih _ (measured ▸ less) onward still _ present stage rfl
        exact ⟨more ++ further, last, answer, alone.trans rest, answered⟩

section

variable {called now : State} {run : RunId} {job : JobId} {topic : String}
  {later : List Occurrence}

/-- How a call ends in a run that does not start routes any more. -/
theorem Concludes.of_refusing {answer : Except SubscribeFailure Unit}
    (concludes : Concludes called now run job topic later answer)
    (refuses : called.accepting? run = some false) :
    Performed called now run job later [] none ∧
    (answer = .ok () ↔ called.positions run topic ≠ [] ∧
      ∀ place ∈ called.positions run topic, called.isOccupied run place = true) ∧
    (answer = .error (.activation (.routeNotFound topic)) ↔ called.positions run topic = []) ∧
    (answer = .error (.activation .shuttingDown) ↔
      ∃ place ∈ called.positions run topic, called.isOccupied run place = false) := by
  cases concludes with
  | unknown nowhere performed => exact ⟨performed, by simp [nowhere]⟩
  | @completed started somewhere places performed =>
      obtain rfl : started = [] := by
        by_contra some
        cases refuses.symm.trans (performed.accepts some)
      have occupied : ∀ place ∈ called.positions run topic, called.isOccupied run place = true := by
        simpa using places
      refine ⟨performed, iff_of_true rfl ⟨somewhere, occupied⟩, by simp [somewhere], ?_⟩
      refine iff_of_false nofun ?_
      rintro ⟨place, among, empty⟩
      cases empty.symm.trans (occupied place among)
  | @refused place among empty closed performed =>
      refine ⟨performed, iff_of_false nofun ?_, by simp [List.ne_nil_of_mem among],
        iff_of_true rfl ⟨place, among, empty⟩⟩
      rintro ⟨_, occupied⟩
      cases empty.symm.trans (occupied place among)
  | failed _ _ _ accepts _ _ _ => cases refuses.symm.trans accepts

/-- What it means for a call that a route could not be started. -/
theorem Concludes.of_startFailed {id : String} {failure : TransportFailure}
    (concludes : Concludes called now run job topic later
      (.error (.activation (.startFailed id failure)))) :
    ∃ passed rest started last, called.positions run topic = passed ++ last.place :: rest ∧
      started.map (·.place) = passed.filter (fun place => !called.isOccupied run place) ∧
      last.route.id = id ∧ last.failure? = some failure ∧
      Performed called now run job later started (some last) ∧
      ∀ place ∈ last.place :: rest, now.slot? run place = called.slot? run place := by
  generalize same : Except.error (SubscribeFailure.activation (.startFailed id failure)) = answer
    at concludes
  cases concludes with
  | @failed passed rest started last _ all places _ _ fails performed behind =>
      obtain ⟨rfl, rfl⟩ := by simpa using same
      exact ⟨passed, rest, started, last, all, places, rfl, fails, performed, behind⟩
  | _ => cases same

/-- **A call that has the routes of a run to itself starts those of its topic that have no relay,
one after the other, up to the first that cannot be started.**  The routes of the topic are those
that publish it, in the order of the table.  The call comes to its answer, and `Concludes` says which
one it gets and what it has done then.  If the run does not start routes any more, that is nothing at
all, and the answer says whether all routes of the topic have their relays. -/
theorem History.activates_in_order (history : History called later now) (only : OnlyCall job later)
    (undisturbed : called.Undisturbed run)
    (begins : called.jobs[job]? = some (.attach topic (.activating run .resolving))) :
    (called.positions run topic).Pairwise (· < ·) ∧
    (∀ place, place ∈ called.positions run topic ↔
      ∃ route, called.route? run place = some route ∧ topic ∈ route.topics) ∧
    (∃ more after answer, Solo job now more after ∧
      after.jobs[job]? = some (.attach topic (.done answer))) ∧
    ∀ answer, now.jobs[job]? = some (.attach topic (.done answer)) →
      Concludes called now run job topic later answer ∧
      (called.accepting? run = some false →
        Performed called now run job later [] none ∧
        (answer = .ok () ↔ called.positions run topic ≠ [] ∧
          ∀ place ∈ called.positions run topic, called.isOccupied run place = true) ∧
        (answer = .error (.activation (.routeNotFound topic)) ↔
          called.positions run topic = []) ∧
        (answer = .error (.activation .shuttingDown) ↔
          ∃ place ∈ called.positions run topic, called.isOccupied run place = false)) := by
  refine ⟨undisturbed.positions_increase, fun _ => undisturbed.mem_positions,
    history.comes_to_answer only undisturbed begins, fun answer answered => ?_⟩
  obtain ⟨phase, present, stage⟩ := history.stage only undisturbed begins
  cases present.symm.trans answered
  cases stage with
  | answered concludes => exact ⟨concludes, concludes.of_refusing⟩

end

/-- Four routes have a topic in common.  The first has a relay already, the second gets one, the
third cannot be started, and the fourth is left as it was.  And while a stop is under way that has
not come to the routes yet, a call for the topic of a route that still has its relay succeeds, and
asks for nothing. -/
theorem third_route_cannot_be_started :
    (∃ past before later now started last,
      History (State.scripted
          ["CWMS_20.SPK_A", "CWMS_20.SPK_B", "CWMS_20.SPK_C", "CWMS_20.SPK_D"]) past before ∧
        History (before.arrive (.notify 0 "CDA.SPK.ALL")) later now ∧
        before.positions 0 "CDA.SPK.ALL" = [0, 1, 2, 3] ∧
        now.jobs[before.jobs.length]? = some (.attach "CDA.SPK.ALL" (.done (.error (.activation
          (.startFailed "CWMS_20.SPK_C" ⟨"producer blocked", ["quota exceeded"]⟩))))) ∧
        started.map Activation.place = [1] ∧ last.place = 2 ∧
        Performed (before.arrive (.notify 0 "CDA.SPK.ALL")) now 0 before.jobs.length later started
          (some last) ∧
        ∀ place ∈ [2, 3], now.slot? 0 place = before.slot? 0 place) ∧
    ∃ past before later now,
      History (State.scripted ["CWMS_20.SPK_A", "CWMS_20.SPK_B"]) past before ∧
        History (before.arrive (.notify 0 "CDA.SPK.A")) later now ∧
        before.accepting? 0 = some false ∧
        now.jobs[before.jobs.length]? = some (.attach "CDA.SPK.A" (.done (.ok ()))) ∧
        dealingsOf before.jobs.length later = [] := by
  constructor
  · obtain ⟨past, before, history, checked⟩ :=
      History.exists_of_record (State.scripted
          ["CWMS_20.SPK_A", "CWMS_20.SPK_B", "CWMS_20.SPK_C", "CWMS_20.SPK_D"])
        (startMoves 0 ++ .arrive (.attach "CDA.SPK.A") :: List.replicate 9 (.job 1) ++
          [.change (.blockTopic "CDA.SPK.C" true)])
        (fun _ before => before.jobs.all Job.isDone && before.runs.length == 1 &&
          before.positions 0 "CDA.SPK.ALL" == [0, 1, 2, 3] &&
            [0, 1].map (before.isOccupied 0) == [true, false] &&
              ((before.arrive (.notify 0 "CDA.SPK.ALL")).record
                (List.replicate 16 (.job before.jobs.length))).any fun reached =>
                (reached.2.jobs[before.jobs.length]?.bind Job.answered?) ==
                  some ("CDA.SPK.ALL", .error (.activation (.startFailed "CWMS_20.SPK_C"
                    ⟨"producer blocked", ["quota exceeded"]⟩))) &&
                (reached.2.route? 0 2).any (·.id == "CWMS_20.SPK_C")) rfl
    simp only [Bool.and_eq_true, beq_iff_eq, Option.any_eq_true, Option.bind_eq_some_iff,
      Job.answered?_eq_some_iff] at checked
    obtain ⟨⟨⟨⟨calm, runs⟩, positions⟩, occupied⟩, ⟨later, now⟩, recorded, ⟨_, failed, rfl⟩, route,
      there, third⟩ := checked
    have begins : (before.arrive (.notify 0 "CDA.SPK.ALL")).jobs[before.jobs.length]? =
        some (.attach "CDA.SPK.ALL" (.activating 0 .resolving)) := List.getElem?_concat_length
    have alone := (State.calm_iff_all.mpr calm).arrive (.notify 0 "CDA.SPK.ALL")
    have whole := history.append (.single
      (show before.step (.arrive (.notify 0 "CDA.SPK.ALL")) = some (before.arrive _, []) from rfl))
    have undisturbed := whole.undisturbed (State.scripted_unused _)
      (alone.postOf?_ne_route begins) (show 0 < before.runs.length by omega)
    have only : OnlyCall before.jobs.length later := fun occurrence among other turn => by
      simpa [turn] using move_mem_of_record recorded among
    have onward := History.of_record recorded
    obtain ⟨_, _, _, answers⟩ := onward.activates_in_order only undisturbed begins
    obtain ⟨passed, rest, started, last, all, places, id, _, performed, behind⟩ :=
      (answers _ failed).1.of_startFailed
    rw [show (before.arrive (.notify 0 "CDA.SPK.ALL")).positions 0 "CDA.SPK.ALL" = _ from positions]
      at all
    have spot : last.place = 2 := by
      have apart := State.Tabled.routesApart ((whole.append onward).tabled (State.scripted_unused _))
      exact apart 0 (performed.each last (by simp)).here there (id.trans third.symm)
    rw [spot] at all behind
    obtain ⟨rfl, rfl⟩ : passed = [0, 1] ∧ rest = [3] := by
      rcases passed with _ | ⟨_, _ | ⟨_, _ | ⟨_, _ | ⟨_, passed⟩⟩⟩⟩ <;> simp_all
    refine ⟨past, before, later, now, started, last, history, onward, positions, failed,
      places.trans ?_, spot, performed, behind⟩
    simp only [List.map_cons, List.map_nil, List.cons.injEq, and_true] at occupied
    have free : ∀ place, (before.arrive (.notify 0 "CDA.SPK.ALL")).isOccupied 0 place =
        before.isOccupied 0 place := fun _ => rfl
    simp [free, occupied]
  · obtain ⟨past, before, history, checked⟩ :=
      History.exists_of_record (State.scripted ["CWMS_20.SPK_A", "CWMS_20.SPK_B"])
        (startMoves 0 ++ .arrive (.attach "CDA.SPK.A") :: List.replicate 9 (.job 1) ++
          .arrive .stop :: List.replicate 2 (.job 2))
        (fun _ before => before.jobs.all (fun job => job.post?.isNone) && before.runs.length == 1 &&
          before.accepting? 0 == some false &&
            ((before.arrive (.notify 0 "CDA.SPK.A")).record
                (List.replicate 4 (.job before.jobs.length))).any fun reached =>
                (reached.2.jobs[before.jobs.length]?.bind Job.answered?) ==
                  some ("CDA.SPK.A", .ok ())) rfl
    simp only [Bool.and_eq_true, beq_iff_eq, Option.any_eq_true, Option.bind_eq_some_iff,
      Job.answered?_eq_some_iff, List.all_eq_true, Option.isNone_iff_eq_none] at checked
    obtain ⟨⟨⟨nobody, runs⟩, refuses⟩, ⟨later, now⟩, recorded, _, succeeded, rfl⟩ := checked
    have begins : (before.arrive (.notify 0 "CDA.SPK.A")).jobs[before.jobs.length]? =
        some (.attach "CDA.SPK.A" (.activating 0 .resolving)) := List.getElem?_concat_length
    have whole := history.append (.single
      (show before.step (.arrive (.notify 0 "CDA.SPK.A")) = some (before.arrive _, []) from rfl))
    have undisturbed := whole.undisturbed (State.scripted_unused _)
      (fun stands => by simp [State.postOf?_arrive nobody] at stands)
      (show 0 < before.runs.length by omega)
    have only : OnlyCall before.jobs.length later := fun occurrence among other turn => by
      simpa [turn] using move_mem_of_record recorded among
    have onward := History.of_record recorded
    obtain ⟨_, _, _, answers⟩ := onward.activates_in_order only undisturbed begins
    obtain ⟨performed, _⟩ := (answers _ succeeded).2 refuses
    exact ⟨past, before, later, now, history, onward, refuses, succeeded, performed.log⟩

end TopicRelay
