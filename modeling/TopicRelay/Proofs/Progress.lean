import Mathlib.Algebra.BigOperators.Group.List.Basic
import TopicRelay.Proofs.Forecast
import TopicRelay.Proofs.InService

/-!
# Attachments come to an end

A call that is attached to a run can always make its next turn, unless it waits for the guard of a
route that another call holds; if it waits for a consumer, some time has to pass
(`State.exists_attachTurn`).  Each of its turns leaves it less to do (`State.effort`,
`Activates.effort_lt`), so a call that is kept waiting by nobody comes to its answer by its own turns
and waits alone (`Attaching.finish`).  And of several calls that wait for one another the one that
holds a guard goes on, so all of them come to their answers (`Attaching.complete`).
-/

namespace TopicRelay

set_option autoImplicit false

/-! ## Sums -/

/-- One item of a list is replaced and the weights of the others stay. -/
theorem sum_map_set_congr {α M : Type} [AddCommMonoid M] (weight other : α → M) {items : List α}
    {index : Nat} {before : α} (after : α) (present : items[index]? = some before)
    (same : ∀ spot {item}, spot ≠ index → items[spot]? = some item → other item = weight item) :
    ((items.set index after).map other).sum + weight before =
      (items.map weight).sum + other after := by
  induction items generalizing index with
  | nil => simp at present
  | cons item items ih =>
      cases index with
      | zero =>
          cases present
          have rest : items.map other = items.map weight := by
            refine List.map_congr_left fun item among => ?_
            obtain ⟨spot, there⟩ := List.mem_iff_getElem?.mp among
            exact same (spot + 1) (Nat.succ_ne_zero spot) there
          simp only [List.set_cons_zero, List.map_cons, List.sum_cons, rest]
          ac_rfl
      | succ index =>
          have rest := ih (show items[index]? = some before by simpa using present)
            fun spot item apart there =>
              same (spot + 1) (fun equal => apart (Nat.succ.inj equal)) there
          have head : other item = weight item :=
            same 0 (Nat.succ_ne_zero index).symm rfl
          simp only [List.set_cons_succ, List.map_cons, List.sum_cons, head, add_assoc, rest]

/-! ## Routes and their slots -/

/-- Every run has one slot for each of its routes. -/
structure State.Slotted (state : State) : Prop where
  even : ∀ {run : RunId} {found : Run}, state.run? run = some found →
    found.slots.length = found.table.routes.length

namespace State.Slotted

variable {state next : State} {run : RunId} {place : Place}

theorem congr (slotted : state.Slotted) (runs : next.runs = state.runs) : next.Slotted where
  even := fun found => slotted.even ((congrArg (·[_]?) runs).symm.trans found)

theorem modifyRun {change : Run → Run} (slotted : state.Slotted)
    (slots : ∀ found, (change found).slots.length = found.slots.length)
    (table : ∀ found, (change found).table = found.table) : (state.modifyRun run change).Slotted where
  even := by
    intro other found present
    rw [State.run?_modifyRun, Option.map_eq_some_iff] at present
    obtain ⟨before, was, rfl⟩ := present
    split
    · rw [slots, table, slotted.even was]
    · exact slotted.even was

theorem modifySlot {change : RouteSlot → RouteSlot} (slotted : state.Slotted) :
    (state.modifySlot run place change).Slotted :=
  slotted.modifyRun (fun _ => List.length_modify ..) fun _ => rfl

theorem addRun {principal : String} {table : RouteTable} (slotted : state.Slotted) :
    (state.addRun (Run.fresh principal table)).Slotted where
  even := by
    intro other found present
    rw [State.run?_addRun] at present
    split at present
    · cases present
      exact List.length_map ..
    · exact slotted.even present

/-- **Every move keeps the slots.** -/
theorem step {move : Move} {effects : List Effect} (slotted : state.Slotted)
    (moved : Moves state move next effects) : next.Slotted := by
  have refuse : ∀ {middle : State} {run : RunId}, middle.runs = state.runs →
      (middle.refuse run).Slotted := fun runs =>
    (slotted.congr runs).modifyRun (fun _ => rfl) fun _ => rfl
  have slot : ∀ {middle : State} {run : RunId} {place : Place} {change : RouteSlot → RouteSlot},
      middle.runs = state.runs → (middle.modifySlot run place change).Slotted :=
    fun runs => (slotted.congr runs).modifySlot
  cases moved with
  | start _ turn =>
      cases turn with
      | discovered _ => exact slotted.addRun.congr rfl
      | brokerRefused _ => exact (refuse rfl).congr rfl
      | _ => exact slotted.congr rfl
  | stop _ turn =>
      cases turn with
      | entered _ _ => exact State.Slotted.congr (refuse rfl) rfl
      | routeAsked => exact State.Slotted.congr (slot rfl) rfl
      | routeIdle _ _ _ => exact State.Slotted.congr (slot rfl) rfl
      | routeClaimed _ _ _ => exact State.Slotted.congr (slot rfl) rfl
      | routeStopped _ => exact State.Slotted.congr (slot rfl) rfl
      | _ => exact slotted.congr rfl
  | attach _ turn =>
      cases turn with
      | activated turn =>
          cases turn with
          | asked _ _ => exact State.Slotted.congr (slot rfl) rfl
          | needless _ _ _ _ => exact State.Slotted.congr (slot rfl) rfl
          | refused _ _ _ _ _ => exact State.Slotted.congr (slot rfl) rfl
          | unconnected _ _ => exact State.Slotted.congr (slot rfl) rfl
          | spawned _ => exact State.Slotted.congr (slot rfl) rfl
          | consumerUndone _ => exact State.Slotted.congr (slot rfl) rfl
          | _ => exact slotted.congr rfl
      | _ => exact slotted.congr rfl
  | relay _ turn => exact slotted.congr (by cases turn <;> rfl)
  | change => exact slotted.congr (change_fromOutside _ _).runs
  | _ => exact slotted.congr rfl

end State.Slotted

theorem History.slotted {first now : State} {past : List Occurrence}
    (history : History first past now) (unused : first.Unused) : now.Slotted := by
  apply history.preserves (P := State.Slotted)
  · exact ⟨fun found => by simp [State.run?, unused.runs] at found⟩
  · exact fun slotted step => slotted.step (step_cases step)

/-- Every route of a run has a slot, and every slot a route. -/
theorem State.Slotted.isSome_slot? {state : State} (slotted : state.Slotted) (run : RunId)
    (place : Place) : (state.slot? run place).isSome = (state.route? run place).isSome := by
  cases present : state.run? run with
  | none => simp [State.slot?, State.route?, present]
  | some found =>
      rw [Bool.eq_iff_iff]
      simp [State.slot?, State.route?, present, slotted.even present]

/-! ## What a call has still to do -/

namespace State

variable {state next : State} {run : RunId} {topic : String}

/-- How many turns a route may take: two for each of its topics, to open a producer and to close it
again, and five more. -/
def cost (state : State) (run : RunId) (place : Place) : Nat :=
  2 * ((state.route? run place).map (·.topics.length)).getD 0 + 5

/-- How many turns some routes may take. -/
def costs (state : State) (run : RunId) (places : List Place) : Nat :=
  (places.map (state.cost run)).sum

/-- How many turns an activation may take still. -/
def activationEffort (state : State) (run : RunId) (topic : String) : ActivationPhase → Nat
  | .resolving => state.costs run (state.positions run topic) + 2
  | .approaching ahead => state.costs run ahead + 1
  | .queued place ahead => state.costs run (place :: ahead)
  | .connecting place ahead _ => state.costs run (place :: ahead) - 1
  | .producing _ ahead _ opened wanted =>
    2 * wanted.length + opened.length + 3 + state.costs run ahead
  | .undoing _ _ opened _ => opened.length + 1

/-- How many turns an attachment to a run may take still. -/
def effort (state : State) (run : RunId) (topic : String) : AttachPhase → Nat
  | .presenting _ => state.costs run (state.positions run topic) + 4
  | .entering => state.costs run (state.positions run topic) + 3
  | .activating _ phase => state.activationEffort run topic phase
  | .done _ => 0

theorem costs_cons (place : Place) (ahead : List Place) :
    state.costs run (place :: ahead) = state.cost run place + state.costs run ahead := by
  simp [costs]

theorem cost_of_some {place : Place} {route : Route} (here : state.route? run place = some route) :
    state.cost run place = 2 * route.topics.length + 5 := by
  simp [cost, here]

/-- Nothing that happens while calls are attached to a run changes what they have still to do. -/
theorem effort_congr (steady : Steady run state next) (topic : String) (phase : AttachPhase) :
    next.effort run topic phase = state.effort run topic phase := by
  have cost : next.cost run = state.cost run := by
    funext place
    rw [State.cost, State.cost, steady.route?]
  have costs : next.costs run = state.costs run := by
    funext places
    rw [State.costs, State.costs, cost]
  cases phase with
  | activating other phase =>
      cases phase <;> simp only [effort, activationEffort, costs, positions_congr steady]
  | _ => simp only [effort, costs, positions_congr steady]

end State

section

variable {state next : State} {job : JobId} {run : RunId} {topic : String} {effects : List Effect}

/-- **Each turn of an activation leaves it less to do.** -/
theorem Activates.effort_lt {phase : ActivationPhase}
    {advance : Advance ActivationPhase (Except ActivationFailure Unit)}
    (turn : Activates state job run topic phase advance next effects) :
    state.effort run topic (State.attachAfter run advance) <
      state.activationEffort run topic phase := by
  have five : ∀ place, 5 ≤ state.cost run place := by
    intro place
    unfold State.cost
    omega
  cases turn with
  | @resolved table place ahead found positions =>
      simp only [State.attachAfter, State.effort, State.activationEffort,
        State.positions_of_some found, positions]
      omega
  | @needless place ahead route slot relay here _ _ _ =>
      have bound := five place
      simp only [State.attachAfter, State.effort, State.activationEffort, State.costs_cons]
      omega
  | @claimed place ahead route slot here _ _ _ _ =>
      have bound := five place
      simp only [State.attachAfter, State.effort, State.activationEffort, State.costs_cons]
      omega
  | connected here _ =>
      simp only [State.attachAfter, State.effort, State.activationEffort, State.costs_cons,
        State.cost_of_some here, List.length_nil]
      omega
  | @refused place ahead route slot here _ _ _ _ =>
      have bound := five place
      simp only [State.attachAfter, State.effort, State.activationEffort, State.costs_cons]
      omega
  | @unconnected place ahead due route failure upstream here _ =>
      have bound := five place
      simp only [State.attachAfter, State.effort, State.activationEffort, State.costs_cons]
      omega
  | _ =>
      simp only [State.attachAfter, State.effort, State.activationEffort, List.length_append,
        List.length_cons, List.length_nil]
      omega

end

/-! ## The next turn -/

namespace State

variable {state : State} {run : RunId} {place : Place} {id : JobId}

theorem exists_activationAt {route : Route} {slot : RouteSlot}
    (here : state.route? run place = some route) (found : state.slot? run place = some slot) :
    ∃ there, state.activationAt run place = some (there, route, slot) := by
  obtain ⟨there, present, atPlace⟩ := Option.bind_eq_some_iff.mp here
  have atSlot : there.slots[place]? = some slot := by simpa [slot?, present] using found
  exact ⟨there, by simp [activationAt, present, atPlace, atSlot]⟩

/-- The state once some time has passed. -/
def later (state : State) (milliseconds : Nat) : State :=
  { state with clock := state.clock + milliseconds }

theorem activationAt_later (milliseconds : Nat) :
    (state.later milliseconds).activationAt run place = state.activationAt run place := rfl

/-- **A call can make its next turn**, after some time if it waits for a consumer, unless it waits
for a guard. -/
theorem exists_attachTurn {phase : AttachPhase} (label : String) (ofRun : phase.IsOf run)
    (undone : ∀ answer, phase ≠ .done answer)
    (routes : ∀ place ∈ phase.places, ∃ route slot, state.route? run place = some route ∧
      state.slot? run place = some slot)
    (clear : ∀ place ahead, phase = .activating run (.queued place ahead) →
      ∃ slot, state.slot? run place = some slot ∧ slot.guard.holder = some id) :
    ∃ delay, ((state.later delay).attachTurn id label phase).isSome = true := by
  cases phase with
  | presenting credential => cases ofRun
  | entering => exact ⟨0, by simp only [attachTurn]; split <;> rfl⟩
  | done answer => exact absurd rfl (undone answer)
  | activating other phase =>
      obtain rfl : other = run := ofRun
      have at? : ∀ place ∈ phase.places, ∃ there route slot,
          state.activationAt other place = some (there, route, slot) := by
        intro place among
        obtain ⟨route, slot, here, found⟩ := routes place among
        obtain ⟨there, present⟩ := exists_activationAt here found
        exact ⟨there, route, slot, present⟩
      have turns : ∀ delay, ((state.later delay).activationTurn id other label phase).isSome = true →
          ((state.later delay).attachTurn id label (.activating other phase)).isSome = true := by
        intro delay some
        obtain ⟨turn, made⟩ := Option.isSome_iff_exists.mp some
        simp [attachTurn, made]
      cases phase with
      | resolving =>
          refine ⟨0, turns 0 ?_⟩
          simp only [activationTurn]
          split <;> rfl
      | approaching places =>
          cases places with
          | nil => exact ⟨0, turns 0 rfl⟩
          | cons place ahead =>
              obtain ⟨there, route, slot, present⟩ := at? place (List.mem_cons_self ..)
              exact ⟨0, turns 0 (by simp [activationTurn, activationAt_later, present])⟩
      | queued place ahead =>
          obtain ⟨slot, found, held⟩ := clear place ahead rfl
          obtain ⟨route, _, here, _⟩ := routes place (List.mem_cons_self ..)
          obtain ⟨there, present⟩ := exists_activationAt here found
          have holds := Guard.heldBy_iff.mpr held
          exact ⟨0, turns 0 (by simp [activationTurn, activationAt_later, present, holds])⟩
      | connecting place ahead due =>
          obtain ⟨there, route, slot, present⟩ := at? place (List.mem_cons_self ..)
          have late : due ≤ (state.later due).clock := Nat.le_add_left ..
          exact ⟨due, turns due (by simp [activationTurn, activationAt_later, present, late])⟩
      | producing place ahead mailbox opened wanted =>
          cases wanted with
          | nil =>
              obtain ⟨there, route, slot, present⟩ := at? place (List.mem_cons_self ..)
              exact ⟨0, turns 0 (by simp [activationTurn, activationAt_later, present])⟩
          | cons topic wanted => exact ⟨0, turns 0 rfl⟩
      | undoing place mailbox opened failure =>
          obtain ⟨there, route, slot, present⟩ := at? place (List.mem_singleton_self _)
          exact ⟨0, turns 0 (by simp [activationTurn, activationAt_later, present])⟩

end State

/-! ## A call on its own -/

/-- Only one call has turns, and time passes. -/
structure Solo (id : JobId) (state : State) (more : List Occurrence) (after : State) : Prop where
  history : History state more after
  only : ∀ occurrence ∈ more, occurrence.move = .job id ∨
    ∃ milliseconds, occurrence.move = .wait milliseconds

namespace Solo

variable {id : JobId} {state middle after : State} {more further : List Occurrence}

theorem refl (id : JobId) (state : State) : Solo id state [] state := ⟨.start, by simp⟩

theorem trans (first : Solo id state more middle) (second : Solo id middle further after) :
    Solo id state (more ++ further) after where
  history := first.history.append second.history
  only := fun occurrence among =>
    (List.mem_append.mp among).elim (first.only occurrence) (second.only occurrence)

/-- The other calls stay where they are. -/
theorem jobs_of_ne (solo : Solo id state more after) {other : JobId} (apart : other ≠ id) :
    after.jobs[other]? = state.jobs[other]? := by
  obtain ⟨history, only⟩ := solo
  induction history with
  | start => rfl
  | @move past now next move effects before step ih =>
      have earlier := ih fun occurrence among => only occurrence (by simp [among])
      have moved := step_cases step
      rw [← earlier]
      rcases only ⟨now, move, next, effects⟩ (by simp) with mine | ⟨milliseconds, waits⟩
      · have still : move ≠ .job other := by
          rw [show move = .job id from mine]
          rintro ⟨⟩
          exact apart rfl
        cases present : now.jobs[other]? with
        | some found => exact moved.jobs_of_ne present still
        | none =>
            cases now' : next.jobs[other]? with
            | none => rfl
            | some found =>
                rcases moved.jobs_origin now' with was | turn | ⟨request, arrives, _⟩
                · simp [present] at was
                · exact absurd turn still
                · rw [show move = .job id from mine] at arrives
                  cases arrives
      · obtain rfl : move = .wait milliseconds := waits
        cases step
        rfl

/-- After some time a call has a turn. -/
theorem of_turn {now next : State} {delay : Nat} {label : String} {phase onward : AttachPhase}
    {effects : List Effect} (present : now.jobs[id]? = some (.attach label phase))
    (turned : (now.later delay).attachTurn id label phase = some (onward, next, effects)) :
    (next.setJob id (.attach label onward)).jobs[id]? = some (.attach label onward) ∧
      Solo id now
        ([⟨now, .wait delay, now.later delay, []⟩] ++
          [⟨now.later delay, .job id, next.setJob id (.attach label onward), effects⟩])
        (next.setJob id (.attach label onward)) := by
  have jobs : next.jobs = now.jobs := (attachTurn_cases turned).leavesBridge.jobs
  have step : (now.later delay).step (.job id) =
      some (next.setJob id (.attach label onward), effects) := by
    have there : (now.later delay).jobs[id]? = some (.attach label phase) := present
    simp [State.step, State.jobTurn, there, turned]
  refine ⟨State.jobs_setJob_self (jobs ▸ present),
    (History.single rfl).append (History.single step), fun occurrence among => ?_⟩
  simp only [List.cons_append, List.nil_append, List.mem_cons, List.not_mem_nil,
    or_false] at among
  rcases among with rfl | rfl
  · exact .inr ⟨delay, rfl⟩
  · exact .inl rfl

end Solo

/-! ## Going on -/

section

variable {first called now next : State} {past later : List Occurrence} {run : RunId}
  {gate : Gate} {id : Nat} {label : String} {phase : AttachPhase}

/-- **Each turn of a call leaves it less to do.** -/
theorem AttachPhase.IsOf.effort_lt {after : AttachPhase} {effects : List Effect}
    (ofRun : phase.IsOf run) (hooks : now.broker.hooks = some ⟨gate, run⟩)
    (turned : now.attachTurn id label phase = some (after, next, effects)) :
    now.effort run label after < now.effort run label phase := by
  rcases ofRun.turn_cases hooks turned with ⟨rfl, rfl, rfl⟩ | ⟨before, advance, rfl, rfl, turn⟩
  · split
    · simp only [State.effort, State.activationEffort]
      omega
    · simp only [State.effort]
      omega
  · exact turn.effort_lt

/-- A call is attached to a run that starts routes, and the routes that it has before it are the
last of those of its topic. -/
structure Attachment (now : State) (run : RunId) (label : String) (phase : AttachPhase) : Prop where
  ofRun : phase.IsOf run
  hooks : ∃ gate, now.broker.hooks = some ⟨gate, run⟩
  accepts : now.accepting? run = some true
  own : Ownership now
  kept : Accounting now
  unique : now.RoutesApart run
  distinct : (now.positions run label).Nodup
  routes : phase.places.Sublist (now.positions run label)

namespace Attaching

/-- A call on its own is one of those that are attached to the run. -/
theorem solo {more : List Occurrence} (attaching : Attaching called run later now)
    (new : called.jobs.length ≤ id) (solo : Solo id now more next) :
    Attaching called run (later ++ more) next ∧
      requestsIn (later ++ more) = requestsIn later := by
  refine ⟨⟨attaching.history.append solo.history, ?_⟩, ?_⟩
  · intro occurrence among
    rcases List.mem_append.mp among with earlier | last
    · exact attaching.only occurrence earlier
    · rcases solo.only occurrence last with mine | ⟨milliseconds, waits⟩
      · simpa [mine, Move.attaches] using new
      · rw [waits, Move.attaches]
  · have none : requestsIn more = [] := by
      rw [requestsIn, List.filterMap_eq_nil_iff]
      intro occurrence among
      rcases solo.only occurrence among with mine | ⟨milliseconds, waits⟩
      · rw [mine]
      · rw [waits]
    rw [requestsIn_append, none, List.append_nil]

/-- The routes that a call has before it are the last of those of its topic. -/
theorem places_sublist (attaching : Attaching called run later now)
    (history : History first past called) (unused : first.Unused)
    (hooks : called.broker.hooks = some ⟨gate, run⟩) (ofRun : phase.IsOf run)
    (present : now.jobs[id]? = some (.attach label phase)) :
    phase.places.Sublist (called.positions run label) := by
  cases phase with
  | activating other phase =>
      obtain rfl : other = run := ofRun
      rw [← State.positions_congr (attaching.calls hooks).steady]
      exact (history.append attaching.history).places_sublist unused present
  | _ => exact List.nil_sublist _

/-- What holds of a call that has arrived since and of the state that it is in. -/
theorem attachment (attaching : Attaching called run later now)
    (history : History first past called) (unused : first.Unused)
    (running : called.running = some run) (new : called.jobs.length ≤ id)
    (present : now.jobs[id]? = some (.attach label phase)) :
    ∃ request, (requestsIn later)[id - called.jobs.length]? = some request ∧
      request.attaches? run = some label ∧ Attachment now run label phase := by
  obtain ⟨gate, hooks⟩ := history.hooks_of_running unused running
  have whole := history.append attaching.history
  have calls := attaching.calls hooks
  obtain ⟨request, _, _, asked, attaches, ofRun, same⟩ := calls.exists_of_le new present
  cases same
  refine ⟨request, asked, attaches, ?_⟩
  exact {
    ofRun := ofRun
    hooks := ⟨gate, calls.steady.broker ▸ hooks⟩
    accepts := (calls.steady.accepting? run).trans ((history.lifecycle unused).running running)
    own := whole.ownership unused
    kept := whole.accounting unused
    unique := State.Tabled.routesApart (whole.tabled unused) run
    distinct := State.Tabled.positions_nodup (whole.tabled unused) run label
    routes := State.positions_congr calls.steady label ▸
      attaching.places_sublist history unused hooks ofRun present }

/-- The routes of a topic are there. -/
theorem routes (attaching : Attaching called run later now) (history : History first past called)
    (unused : first.Unused) (hooks : called.broker.hooks = some ⟨gate, run⟩) {place : Place}
    (among : place ∈ called.positions run label) :
    ∃ route slot, now.route? run place = some route ∧ now.slot? run place = some slot := by
  have whole := history.append attaching.history
  rw [← State.positions_congr (attaching.calls hooks).steady] at among
  cases found : now.table? run with
  | none => simp [State.positions, found] at among
  | some table =>
      rw [State.positions_of_some found] at among
      obtain ⟨scheme, queues, rfl⟩ := whole.tabled unused found
      obtain ⟨route, atPlace, _⟩ :=
        (RouteTable.indexed_build scheme queues).mem_positions.mp among
      have here := State.route?_eq_some_iff.mpr ⟨_, found, atPlace⟩
      have some := (whole.slotted unused).isSome_slot? run place
      rw [here] at some
      obtain ⟨slot, there⟩ := Option.isSome_iff_exists.mp some
      exact ⟨route, slot, here, there⟩

/-- **A call that does not wait for a guard goes on.** -/
theorem advance (attaching : Attaching called run later now) (history : History first past called)
    (unused : first.Unused) (hooks : called.broker.hooks = some ⟨gate, run⟩)
    (new : called.jobs.length ≤ id) (present : now.jobs[id]? = some (.attach label phase))
    (undone : ∀ answer, phase ≠ .done answer)
    (clear : ∀ place ahead, phase = .activating run (.queued place ahead) →
      ∃ slot, now.slot? run place = some slot ∧ slot.guard.holder = some id) :
    ∃ more next after, Solo id now more next ∧ next.jobs[id]? = some (.attach label after) ∧
      Steady run now next ∧ next.effort run label after < now.effort run label phase := by
  have calls := attaching.calls hooks
  obtain ⟨_, _, _, _, _, ofRun, same⟩ := calls.exists_of_le new present
  cases same
  have sublist := attaching.places_sublist history unused hooks ofRun present
  obtain ⟨delay, possible⟩ := State.exists_attachTurn label ofRun undone
    (fun place among => attaching.routes history unused hooks (sublist.subset among)) clear
  obtain ⟨⟨after, middle, effects⟩, turned⟩ := Option.isSome_iff_exists.mp possible
  have waited : Steady run now (now.later delay) := (Aside.of_wait now delay).steady run
  have hooked : (now.later delay).broker.hooks = some ⟨gate, run⟩ := calls.steady.broker ▸ hooks
  have steady := (ofRun.turn hooked turned).2
  obtain ⟨there, alone⟩ := Solo.of_turn present turned
  refine ⟨_, _, after, alone, there, (waited.trans steady).setJob, ?_⟩
  rw [State.effort_congr (waited.trans steady).setJob, ← State.effort_congr waited label after,
    ← State.effort_congr waited label phase]
  exact ofRun.effort_lt hooked turned

/-- **A call that nobody keeps waiting comes to its answer on its own.** -/
theorem finish (attaching : Attaching called run later now) (history : History first past called)
    (unused : first.Unused) (hooks : called.broker.hooks = some ⟨gate, run⟩)
    (new : called.jobs.length ≤ id) (present : now.jobs[id]? = some (.attach label phase))
    (clear : ∀ {more next place ahead}, Attaching called run more next →
      requestsIn more = requestsIn later →
        next.jobs[id]? = some (.attach label (.activating run (.queued place ahead))) →
          ∃ slot, next.slot? run place = some slot ∧ slot.guard.holder = some id) :
    ∃ more next answer, Solo id now more next ∧
      next.jobs[id]? = some (.attach label (.done answer)) := by
  generalize measured : now.effort run label phase = effort
  induction effort using Nat.strongRecOn generalizing later now phase with
  | ind effort ih =>
      by_cases done : ∃ answer, phase = .done answer
      · obtain ⟨answer, rfl⟩ := done
        exact ⟨[], now, answer, .refl id now, present⟩
      · obtain ⟨more, next, after, alone, there, _, less⟩ :=
          attaching.advance history unused hooks new present
            (fun answer same => done ⟨answer, same⟩)
            (fun place ahead same => clear attaching rfl (same ▸ present))
        obtain ⟨onward, requests⟩ := attaching.solo new alone
        obtain ⟨further, last, answer, rest, answered⟩ :=
          ih _ (measured ▸ less) onward there
            (fun beyond same => clear beyond (same.trans requests)) rfl
        exact ⟨more ++ further, last, answer, alone.trans rest, answered⟩

end Attaching

end

/-! ## All calls together -/

namespace State

/-- All calls that have arrived since some moment have their answers. -/
def AnsweredSince (state : State) (since : Nat) : Prop :=
  ∀ job ∈ state.jobs.drop since, job.isDone = true

/-- How many turns a call may take still. -/
def effortOf (state : State) (run : RunId) : Job → Nat
  | .attach topic phase => state.effort run topic phase
  | _ => 0

/-- How many turns the calls that have arrived since some moment may take still. -/
def effortSince (state : State) (run : RunId) (since : Nat) : Nat :=
  ((state.jobs.drop since).map (state.effortOf run)).sum

theorem effortOf_congr {state next : State} {run : RunId} (steady : Steady run state next) :
    next.effortOf run = state.effortOf run := by
  funext job
  cases job with
  | attach topic phase => exact effort_congr steady topic phase
  | _ => rfl

/-- One of the calls goes on. -/
theorem effortSince_lt {state next : State} {run : RunId} {since id : Nat} {topic : String}
    {phase after : AttachPhase} (new : since ≤ id)
    (present : state.jobs[id]? = some (.attach topic phase))
    (there : next.jobs[id]? = some (.attach topic after))
    (others : ∀ other, other ≠ id → next.jobs[other]? = state.jobs[other]?)
    (steady : Steady run state next)
    (less : next.effort run topic after < state.effort run topic phase) :
    next.effortSince run since < state.effortSince run since := by
  have mine : since + (id - since) = id := Nat.add_sub_cancel' new
  have jobs : next.jobs.drop since =
      (state.jobs.drop since).set (id - since) (.attach topic after) := by
    refine List.ext_getElem? fun index => ?_
    rw [List.getElem?_set, List.getElem?_drop]
    by_cases here : id - since = index
    · subst here
      have bound : id - since < (state.jobs.drop since).length := by
        rw [List.length_drop]
        have := (List.getElem?_eq_some_iff.mp present).1
        omega
      rw [if_pos rfl, if_pos bound, mine, there]
    · rw [if_neg here, others _ (by omega), List.getElem?_drop]
  have sum := sum_map_set (state.effortOf run) (.attach topic after)
    (show (state.jobs.drop since)[id - since]? = some (.attach topic phase) by
      rwa [List.getElem?_drop, mine])
  rw [effort_congr steady] at less
  simp only [effortSince, effortOf_congr steady, jobs]
  simp only [effortOf] at sum ⊢
  omega

theorem drop_setJob {state : State} {since id : Nat} (new : since ≤ id) (found : Job) :
    (state.setJob id found).jobs.drop since = (state.jobs.drop since).set (id - since) found := by
  simp only [setJob, List.drop_set]
  rw [if_neg (Nat.not_lt.mpr new)]

end State

section

variable {first called now next : State} {past later : List Occurrence} {run : RunId}
  {gate : Gate} {id : Nat} {place : Place}

theorem Calls.drop_arrive {requests : List Request} (calls : Calls called run requests now)
    (request : Request) : (now.arrive request).jobs.drop called.jobs.length =
      now.jobs.drop called.jobs.length ++ [request.job] :=
  List.drop_append_of_le_length (by rw [calls.length]; omega)

/-- A call that has arrived since and stands at a route is about to start it. -/
theorem Calls.stands {requests : List Request} (calls : Calls called run requests now)
    (new : called.jobs.length ≤ id) (post : now.postOf? id = some (.route run place)) :
    ∃ request label phase, requests[id - called.jobs.length]? = some request ∧
      request.attaches? run = some label ∧
      now.jobs[id]? = some (.attach label (.activating run phase)) ∧ phase.place? = some place := by
  obtain ⟨found, present, stands⟩ := Option.bind_eq_some_iff.mp post
  obtain ⟨request, label, phase, asked, attaches, ofRun, rfl⟩ := calls.exists_of_le new present
  cases phase with
  | activating other phase =>
      obtain rfl : other = run := ofRun
      obtain ⟨spot, here, same⟩ := Option.map_eq_some_iff.mp stands
      cases same
      exact ⟨request, label, phase, asked, attaches, present, here⟩
  | _ => cases stands

namespace Attaching

/-- The guard that a call waits for is held, by a call that stands at the route. -/
theorem exists_holder {label : String} {ahead : List Place}
    (attaching : Attaching called run later now) (history : History first past called)
    (unused : first.Unused) (hooks : called.broker.hooks = some ⟨gate, run⟩)
    (present : now.jobs[id]? = some (.attach label (.activating run (.queued place ahead)))) :
    ∃ slot holder, now.slot? run place = some slot ∧ slot.guard.holder = some holder ∧
      now.postOf? holder = some (.route run place) := by
  have ours : (AttachPhase.activating run (.queued place ahead)).places.Sublist
    (called.positions run label) := attaching.places_sublist history unused hooks rfl present
  obtain ⟨_, slot, _, there⟩ :=
    attaching.routes history unused hooks (ours.subset (List.mem_cons_self ..))
  have guard : now.guardAt? (.route run place) = some slot.guard := by simp [State.guardAt?, there]
  have lines := (history.append attaching.history).lines unused
  have mine : id ∈ slot.guard.line := (lines.members guard).mpr (State.postOf?_of_some present)
  cases held : slot.guard.holder with
  | none => simp [Guard.line, held, lines.granted guard held] at mine
  | some holder =>
      have first : holder ∈ slot.guard.line := by simp [Guard.line, held]
      exact ⟨slot, holder, there, held, (lines.members guard).mp first⟩

/-- As long as some calls are without an answer, one of them does not wait for a guard. -/
theorem exists_ready (attaching : Attaching called run later now)
    (history : History first past called) (unused : first.Unused)
    (hooks : called.broker.hooks = some ⟨gate, run⟩)
    (nobody : ∀ {id place}, id < called.jobs.length →
      called.postOf? id ≠ some (.route run place))
    (unanswered : ¬now.AnsweredSince called.jobs.length) :
    ∃ id label phase, called.jobs.length ≤ id ∧ now.jobs[id]? = some (.attach label phase) ∧
      (∀ answer, phase ≠ .done answer) ∧
      ∀ place ahead, phase = .activating run (.queued place ahead) →
        ∃ slot, now.slot? run place = some slot ∧ slot.guard.holder = some id := by
  have calls := attaching.calls hooks
  obtain ⟨id, found, new, present, undone⟩ : ∃ id found, called.jobs.length ≤ id ∧
      now.jobs[id]? = some found ∧ found.isDone = false := by
    simp only [State.AnsweredSince, not_forall, Bool.not_eq_true] at unanswered
    obtain ⟨found, among, undone⟩ := unanswered
    obtain ⟨index, there⟩ := List.mem_iff_getElem?.mp among
    rw [List.getElem?_drop] at there
    exact ⟨_, found, Nat.le_add_right .., there, undone⟩
  obtain ⟨_, label, phase, _, _, _, rfl⟩ := calls.exists_of_le new present
  by_cases waits : ∃ place ahead, phase = .activating run (.queued place ahead)
  · -- Who holds the guard that the call waits for is ready.
    obtain ⟨place, ahead, rfl⟩ := waits
    obtain ⟨slot, holder, there, held, post⟩ :=
      attaching.exists_holder history unused hooks present
    have behind : called.jobs.length ≤ holder := by
      by_contra old
      have stood : called.postOf? holder = some (.route run place) := by
        rwa [State.postOf?, ← calls.old (Nat.lt_of_not_le old)]
      exact nobody (Nat.lt_of_not_le old) stood
    obtain ⟨_, other, stands, _, _, theirs, here⟩ := calls.stands behind post
    refine ⟨holder, other, _, behind, theirs, by rintro _ ⟨⟩, ?_⟩
    rintro _ _ ⟨⟩
    cases here
    exact ⟨slot, there, held⟩
  · refine ⟨id, label, phase, new, present, ?_, fun place ahead same =>
      absurd ⟨place, ahead, same⟩ waits⟩
    rintro answer rfl
    cases undone

/-- **All calls can come to their answers.** -/
theorem complete (attaching : Attaching called run later now)
    (history : History first past called) (unused : first.Unused)
    (hooks : called.broker.hooks = some ⟨gate, run⟩)
    (nobody : ∀ {id place}, id < called.jobs.length →
      called.postOf? id ≠ some (.route run place)) :
    ∃ more after, Attaching called run (later ++ more) after ∧
      requestsIn (later ++ more) = requestsIn later ∧ after.AnsweredSince called.jobs.length := by
  generalize measured : now.effortSince run called.jobs.length = effort
  induction effort using Nat.strongRecOn generalizing later now with
  | ind effort ih =>
      by_cases answered : now.AnsweredSince called.jobs.length
      · exact ⟨[], now, by rwa [List.append_nil], by rw [List.append_nil], answered⟩
      · obtain ⟨id, label, phase, new, present, undone, clear⟩ :=
          attaching.exists_ready history unused hooks nobody answered
        obtain ⟨more, next, after, alone, there, steady, less⟩ :=
          attaching.advance history unused hooks new present undone clear
        obtain ⟨onward, requests⟩ := attaching.solo new alone
        have fewer := State.effortSince_lt new present there (fun _ => alone.jobs_of_ne) steady less
        obtain ⟨further, last, rest, same, done⟩ := ih _ (measured ▸ fewer) onward rfl
        rw [List.append_assoc] at rest same
        exact ⟨more ++ further, last, rest, same.trans requests, done⟩

end Attaching

end

end TopicRelay
