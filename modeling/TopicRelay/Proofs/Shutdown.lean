import TopicRelay.Proofs.Routing

/-!
# How a run is shut down

A stop goes through the routes of its run one after the other.  It waits for the guard of
each, and so for any call that has claimed the route; it takes the relay out, and waits for
it to end.  A route it has passed is settled: it has no relay and is not started, no call
has claimed it, and the relays that it ever had have ended (`State.Settled`).  Nothing
unsettles a route whose run starts no routes any more.

`Shutdown` says where the relays of a run are while it is being stopped, and that a run starts
no routes any more unless a start is setting it up or the bridge is in it.  A run that the bridge
was in once is from then on in service, being stopped, or dead, which means that all its routes
are settled (`State.Left`).

Every other run that no start is setting up is dead as well, unless it was abandoned
(`History.left_or_abandons`): a start whose broker does not start gives its run up without stopping
the routes (`Occurrence.Abandons`).  Hooks reach the broker before it is started, so a route may be
in use already; it is not if no call comes that early (`History.not_abandons`).
-/

namespace TopicRelay

set_option autoImplicit false

/-! ## Settled routes -/

/-- Nothing is left of what was once started for a route, and nobody is starting it. -/
structure State.Settled (state : State) (run : RunId) (place : Place) : Prop where
  empty : ∀ {slot}, state.slot? run place = some slot → slot.relay = none ∧ slot.started = false
  unclaimed : ∀ {job}, ¬state.Claims job run place
  ended : ∀ {relay : RelayId} {found : Relay}, state.relays[relay]? = some found →
    found.run = run → found.place = place → found.phase = .ended

/-- All routes of a run are settled, and it does not start routes any more. -/
structure State.Dead (state : State) (run : RunId) : Prop where
  refuses : state.accepting? run = some false
  settled : ∀ place, state.Settled run place

namespace State

variable {state next : State} {move : Move} {effects : List Effect} {run : RunId} {place : Place}

/-- Where a run has no route there is nothing to settle. -/
theorem Settled.of_slot?_eq_none (own : Ownership state) (nowhere : state.slot? run place = none) :
    state.Settled run place where
  empty := fun found => by simp [nowhere] at found
  unclaimed := fun claims => by
    obtain ⟨slot, found, _⟩ := own.claimed claims
    simp [nowhere] at found
  ended := fun present sameRun samePlace => by
    obtain ⟨slot, found, _⟩ := own.placed ⟨_, present, sameRun, samePlace⟩
    simp [nowhere] at found

/-- A settled route stays settled unless it is claimed. -/
theorem Settled.step (settled : state.Settled run place) (moved : Moves state move next effects)
    (unclaimed : ∀ {job}, ¬next.Claims job run place) : next.Settled run place where
  empty := by
    intro slot found
    cases moved.routing with
    | kept keeps =>
        rcases keeps.backward found with still | ⟨before, present, relay, started⟩
        · exact still
        · obtain ⟨empty, unmarked⟩ := settled.empty present
          refine ⟨relay.trans empty, ?_⟩
          cases marked : slot.started with
          | false => rfl
          | true => exact (started marked).symm.trans unmarked
    | @spawned job topic there spot ahead mailbox opened route present here =>
        have apart : (there, spot) ≠ (run, place) := by
          rintro ⟨⟩
          exact settled.unclaimed ⟨_, present, rfl⟩
        exact settled.empty ((slot?_modifySlot_of_ne apart).symm.trans found)
    | @withdrawn job there spot ahead slot relay present before held occupied =>
        have apart : (there, spot) ≠ (run, place) := by
          rintro ⟨⟩
          simp [(settled.empty before).1] at occupied
        exact settled.empty ((slot?_modifySlot_of_ne apart).symm.trans found)
  unclaimed := unclaimed
  ended := by
    rintro relay found present rfl rfl
    rcases moved.relay_origin present with ⟨before, was, sameRun, samePlace, finished⟩ |
      ⟨_, _, claims⟩
    · exact finished (settled.ended was sameRun.symm samePlace.symm)
    · exact absurd claims settled.unclaimed

/-- A settled route of a run that starts no routes stays settled. -/
theorem Settled.step_of_refusing (settled : state.Settled run place)
    (moved : Moves state move next effects) (refuses : state.accepting? run = some false) :
    next.Settled run place := by
  refine settled.step moved fun claims => ?_
  rcases moved.claims claims with before | ⟨_, accepts, _⟩
  · exact settled.unclaimed before
  · simp [refuses] at accepts

/-- **A dead run stays dead.** -/
theorem Dead.step (dead : state.Dead run) (moved : Moves state move next effects) :
    next.Dead run :=
  ⟨moved.refusing dead.refuses,
    fun place => (dead.settled place).step_of_refusing moved dead.refuses⟩

end State

/-! ## The invariant -/

/-- A stop waits for a relay to end. -/
def State.Joining (state : State) (run : RunId) (place : Place) (relay : RelayId) : Prop :=
  ∃ (job : JobId) (ahead : List Place),
    state.jobs[job]? = some (.stop (.joining run place relay ahead))

/-- The run that a stop is stopping and the routes that it has not passed yet. -/
def StopPhase.remaining? : StopPhase → Option (RunId × List Place)
  | .approaching run ahead => some (run, ahead)
  | .claiming run place ahead | .joining run place _ ahead => some (run, place :: ahead)
  | _ => none

/-- How a run is shut down, as far as it is. -/
structure Shutdown (state : State) : Prop where
  /-- A relay that is waited for was the last thing in its slot. -/
  joined : ∀ {run place relay}, state.Joining run place relay →
    state.Serves relay run place ∧ (∀ {job}, ¬state.Claims job run place) ∧
      ∀ {slot}, state.slot? run place = some slot → slot.relay = none
  started : ∀ {run place slot}, state.slot? run place = some slot → slot.started = true →
    slot.relay.isSome = true ∨ ∃ relay, state.Joining run place relay
  /-- A relay that has not ended is in its slot, or a stop waits for it. -/
  alive : ∀ {relay : RelayId} {found : Relay}, state.relays[relay]? = some found →
    found.phase ≠ .ended →
      (∃ slot, state.slot? found.run found.place = some slot ∧ slot.relay = some relay) ∨
        state.Joining found.run found.place relay
  passed : ∀ {job : JobId} {phase : StopPhase} {run remaining},
    state.jobs[job]? = some (.stop phase) → phase.remaining? = some (run, remaining) →
      ∀ {place}, place ∉ remaining → state.Settled run place
  refusing : ∀ {run}, run < state.runs.length →
    (∃ job, state.SettingUp job run) ∨ state.running = some run ∨
      state.accepting? run = some false

namespace Shutdown

variable {state next : State} {move : Move} {effects : List Effect} {run : RunId} {place : Place}

theorem of_unused (unused : state.Unused) : Shutdown state where
  joined := fun ⟨_, _, present⟩ => by simp [unused.jobs] at present
  started := fun found _ => by simp [State.slot?, State.run?, unused.runs] at found
  alive := fun present _ => by simp [unused.relays] at present
  passed := fun present _ => by simp [unused.jobs] at present
  refusing := fun bound => by simp [unused.runs] at bound

/-! ### Relays that are waited for -/

/-- A stop goes on waiting for a relay until it has ended. -/
theorem joining_forward {relay : RelayId} (moved : Moves state move next effects)
    (joining : state.Joining run place relay) :
    next.Joining run place relay ∨ state.hasEnded relay = true ∧
      ∀ {slot}, next.slot? run place = some slot → slot.started = false := by
  obtain ⟨job, ahead, present⟩ := joining
  by_cases still : move = .job job
  · subst still
    obtain ⟨after, middle, turn, rfl⟩ := moved.of_stop present
    cases turn with
    | routeStopped ended =>
        refine .inr ⟨ended, fun found => ?_⟩
        obtain ⟨_, _, rfl⟩ := State.exists_of_slot?_modifySlot found
        rfl
  · exact .inl ⟨job, ahead, moved.jobs_of_ne present still⟩

/-- A stop waits for the relay that it has taken out of a slot. -/
theorem joining_backward {relay : RelayId} (moved : Moves state move next effects)
    (joining : next.Joining run place relay) :
    state.Joining run place relay ∨ ∃ job ahead slot,
      state.jobs[job]? = some (.stop (.claiming run place ahead)) ∧
        state.slot? run place = some slot ∧ slot.guard.holder = some job ∧
          slot.relay = some relay ∧
            next = (state.withdraw run place relay).setJob job
              (.stop (.joining run place relay ahead)) := by
  obtain ⟨job, ahead, present⟩ := joining
  rcases moved.jobs_origin present with before | rfl | ⟨request, _, same⟩
  · exact .inl ⟨job, ahead, before⟩
  · obtain ⟨phase, middle, was, turn, rfl⟩ := moved.to_stop present
    cases turn with
    | routeClaimed found held occupied =>
        exact .inr ⟨job, ahead, _, was, found, held, occupied, rfl⟩
  · cases request <;> cases same

/-! ### One move -/

theorem joined_step {relay : RelayId} (shut : Shutdown state) (own : Ownership state)
    (life : Lifecycle state) (moved : Moves state move next effects)
    (joining : next.Joining run place relay) :
    next.Serves relay run place ∧ (∀ {job}, ¬next.Claims job run place) ∧
      ∀ {slot}, next.slot? run place = some slot → slot.relay = none := by
  rcases joining_backward moved joining with before | ⟨job, ahead, slot, present, found, held,
    occupied, same⟩
  · obtain ⟨serves, unclaimed, empty⟩ := shut.joined before
    obtain ⟨job, ahead, present⟩ := before
    have refuses := life.stopping ⟨_, present, rfl⟩
    refine ⟨moved.serves serves, fun claims => ?_, fun found => ?_⟩
    · rcases moved.claims claims with old | ⟨_, accepts, _⟩
      · exact unclaimed old
      · simp [refuses] at accepts
    · exact moved.stays_empty empty unclaimed found
  · subst same
    refine ⟨moved.serves (own.occupied found occupied), fun claims => ?_, fun there => ?_⟩
    · obtain ⟨different, old⟩ := State.claims_setJob_of_none rfl claims
      exact own.claims_elsewhere found held old different rfl
    · obtain ⟨_, _, rfl⟩ := State.exists_of_slot?_modifySlot there
      rfl

theorem started_step {slot : RouteSlot} (shut : Shutdown state)
    (moved : Moves state move next effects) (found : next.slot? run place = some slot)
    (marked : slot.started = true) :
    slot.relay.isSome = true ∨ ∃ relay, next.Joining run place relay := by
  have onward : ∀ {before : RouteSlot}, state.slot? run place = some before →
      slot.relay = before.relay → before.started = true →
        slot.relay.isSome = true ∨ ∃ relay, next.Joining run place relay := by
    intro before present same started
    rcases shut.started present started with occupied | ⟨relay, joining⟩
    · exact .inl (same ▸ occupied)
    · rcases joining_forward moved joining with still | ⟨_, unmarked⟩
      · exact .inr ⟨relay, still⟩
      · simp [unmarked found] at marked
  cases moved.routing with
  | kept keeps =>
      rcases keeps.backward found with ⟨_, unmarked⟩ | ⟨before, present, same, started⟩
      · simp [unmarked] at marked
      · exact onward present same (started marked)
  | @spawned job topic there spot ahead mailbox opened route present here =>
      by_cases same : (there, spot) = (run, place)
      · obtain ⟨rfl, rfl⟩ := Prod.mk.inj same
        obtain ⟨_, _, rfl⟩ := State.exists_of_slot?_modifySlot found
        exact .inl rfl
      · exact onward ((State.slot?_modifySlot_of_ne same).symm.trans found) rfl marked
  | @withdrawn job there spot ahead before relay present was held occupied =>
      by_cases same : (there, spot) = (run, place)
      · obtain ⟨rfl, rfl⟩ := Prod.mk.inj same
        exact .inr ⟨relay, job, ahead, State.jobs_setJob_self present⟩
      · exact onward ((State.slot?_modifySlot_of_ne same).symm.trans found) rfl marked

theorem alive_step {relay : RelayId} {found : Relay} (shut : Shutdown state)
    (own : Ownership state) (moved : Moves state move next effects)
    (present : next.relays[relay]? = some found) (lives : found.phase ≠ .ended) :
    (∃ slot, next.slot? found.run found.place = some slot ∧ slot.relay = some relay) ∨
      next.Joining found.run found.place relay := by
  have fresh : ∀ {run place}, ¬state.Serves state.relays.length run place := by
    rintro run place ⟨_, there, _⟩
    simp at there
  rcases moved.relay_origin present with ⟨before, was, sameRun, samePlace, finished⟩ |
    ⟨rfl, job, claims⟩
  · rw [sameRun, samePlace]
    have lived : before.phase ≠ .ended := fun ended => lives (finished ended)
    rcases shut.alive was lived with ⟨slot, there, occupied⟩ | joining
    · cases moved.routing with
      | kept keeps =>
          obtain ⟨after, now, same⟩ := keeps.forward there
          exact .inl ⟨after, now, same.trans occupied⟩
      | @spawned job topic run place ahead mailbox opened route claimed here =>
          obtain ⟨stands, atSlot, _, empty⟩ := own.claimed ⟨_, claimed, rfl⟩
          have apart : (run, place) ≠ (before.run, before.place) := by
            rintro same
            obtain ⟨rfl, rfl⟩ := Prod.mk.inj same
            cases atSlot.symm.trans there
            simp [empty] at occupied
          exact .inl ⟨slot, (State.slot?_modifySlot_of_ne apart).trans there, occupied⟩
      | @withdrawn job run place ahead stands other claiming atSlot held also =>
          by_cases same : (run, place) = (before.run, before.place)
          · obtain ⟨rfl, rfl⟩ := Prod.mk.inj same
            cases atSlot.symm.trans there
            cases also.symm.trans occupied
            exact .inr ⟨job, ahead, State.jobs_setJob_self claiming⟩
          · exact .inl ⟨slot, (State.slot?_modifySlot_of_ne same).trans there, occupied⟩
    · rcases joining_forward moved joining with still | ⟨ended, _⟩
      · exact .inr still
      · simp only [State.hasEnded, was, beq_iff_eq] at ended
        exact absurd ended lived
  · have serves : next.Serves state.relays.length found.run found.place := ⟨_, present, rfl, rfl⟩
    cases moved.routing with
    | kept keeps => exact absurd (keeps.serves.mp serves) fresh
    | spawned claimed here =>
        rcases State.serves_spawn.mp serves with before | ⟨_, sameRun, samePlace⟩
        · exact absurd before fresh
        · obtain ⟨slot, there, _⟩ := own.claimed ⟨_, claimed, rfl⟩
          rw [sameRun, samePlace]
          exact .inl ⟨_, State.slot?_modifySlot_of_some there, rfl⟩
    | withdrawn _ _ _ _ => exact absurd (State.serves_withdraw.mp serves) fresh

/-- A stop that has the guard of a route without a relay can pass it. -/
theorem settled_of_claiming {job : JobId} {ahead : List Place} {slot : RouteSlot}
    (shut : Shutdown state) (own : Ownership state) (life : Lifecycle state)
    (present : state.jobs[job]? = some (.stop (.claiming run place ahead)))
    (found : state.slot? run place = some slot) (held : slot.guard.holder = some job)
    (empty : slot.relay = none) : state.Settled run place := by
  have nobody : ∀ {relay}, ¬state.Joining run place relay := by
    rintro relay ⟨other, further, joining⟩
    have same := life.oneStop ⟨_, present, rfl⟩ ⟨_, joining, rfl⟩
    subst same
    cases present.symm.trans joining
  refine ⟨fun there => ?_, fun claims => ?_, fun {relay old} was sameRun samePlace => ?_⟩
  · cases found.symm.trans there
    refine ⟨empty, ?_⟩
    cases marked : slot.started with
    | false => rfl
    | true =>
        rcases shut.started found marked with occupied | ⟨relay, joining⟩
        · simp [empty] at occupied
        · exact absurd joining nobody
  · obtain ⟨stands, there, holds, _⟩ := own.claimed claims
    cases found.symm.trans there
    cases held.symm.trans holds
    obtain ⟨_, there, claimed⟩ := claims
    cases present.symm.trans there
    cases claimed
  · by_contra lives
    subst sameRun samePlace
    rcases shut.alive was lives with ⟨stands, there, occupied⟩ | joining
    · cases found.symm.trans there
      simp [empty] at occupied
    · exact nobody joining

/-- A route whose relay was waited for can be passed once the relay has ended. -/
theorem settled_of_joining {job : JobId} {relay : RelayId} {ahead : List Place}
    (shut : Shutdown state) (own : Ownership state)
    (present : state.jobs[job]? = some (.stop (.joining run place relay ahead)))
    (ended : state.hasEnded relay = true) :
    State.Settled ((state.modifySlot run place fun slot => { slot with started := false }).setJob
      job (.stop (.approaching run ahead))) run place := by
  obtain ⟨serves, unclaimed, empty⟩ := shut.joined ⟨job, ahead, present⟩
  refine ⟨fun there => ?_, fun claims => ?_, fun {other old} was sameRun samePlace => ?_⟩
  · obtain ⟨before, found, rfl⟩ := State.exists_of_slot?_modifySlot there
    have bare : before.relay = none := empty found
    exact ⟨bare, rfl⟩
  · exact unclaimed (State.claims_setJob_of_none rfl claims).2
  · have same := own.single ⟨_, was, sameRun, samePlace⟩ serves
    subst same
    have there : state.relays[other]? = some old := was
    simpa only [State.hasEnded, there, beq_iff_eq] using ended

theorem passed_step {job : JobId} {after : StopPhase} {remaining : List Place}
    (shut : Shutdown state) (own : Ownership state) (life : Lifecycle state)
    (moved : Moves state move next effects) (present : next.jobs[job]? = some (.stop after))
    (left : after.remaining? = some (run, remaining)) (past : place ∉ remaining) :
    next.Settled run place := by
  have onward : ∀ {phase : StopPhase}, state.jobs[job]? = some (.stop phase) →
      phase.run? = some run → state.Settled run place → next.Settled run place :=
    fun was stops settled => settled.step_of_refusing moved (life.stopping ⟨_, was, stops⟩)
  rcases moved.jobs_origin present with was | rfl | ⟨request, _, same⟩
  · have stops : after.run? = some run := by
      cases after <;> cases left <;> rfl
    exact onward was stops (shut.passed was left past)
  · obtain ⟨phase, middle, was, turn, rfl⟩ := moved.to_stop present
    cases turn with
    | brokerStopped =>
        cases left
        refine onward was rfl (.of_slot?_eq_none own ?_)
        rw [State.places, List.mem_range, Nat.not_lt] at past
        rw [State.slot?]
        cases found : state.run? run with
        | none => rfl
        | some there => simpa [found] using past
    | routeAsked =>
        cases left
        exact onward was rfl (shut.passed was rfl past)
    | @routeIdle _ spot _ slot found held empty =>
        cases left
        apply onward was rfl
        by_cases here : place = spot
        · subst here
          exact settled_of_claiming shut own life was found held empty
        · exact shut.passed was rfl (by simp [here, past])
    | routeClaimed _ _ _ =>
        cases left
        exact onward was rfl (shut.passed was rfl past)
    | @routeStopped _ spot relay _ ended =>
        cases left
        by_cases here : place = spot
        · subst here
          exact settled_of_joining shut own was ended
        · exact onward was rfl (shut.passed was rfl (by simp [here, past]))
    | _ => cases left
  · cases request <;> cases same
    cases left

/-- A run that is being set up is given to the bridge or given up. -/
theorem refusing_of_settingUp {job : JobId} (life : Lifecycle state)
    (moved : Moves state move next effects) (settingUp : state.SettingUp job run) :
    (∃ job, next.SettingUp job run) ∨ next.running = some run ∨
      (move = .job job ∧ state.jobs[job]? = some (.start (.startingBroker run)) ∧
        next.accepting? run = some false) := by
  obtain ⟨phase, present, setsUp⟩ := settingUp
  by_cases still : move = .job job
  · subst still
    have accepts := life.settingUp ⟨phase, present, setsUp⟩
    obtain ⟨after, middle, turn, rfl⟩ := moved.of_start present
    cases turn with
    | installed =>
        cases setsUp
        exact .inl ⟨job, _, State.jobs_setJob_self present, rfl⟩
    | brokerStarted _ =>
        cases setsUp
        exact .inr (.inl rfl)
    | brokerRefused _ =>
        cases setsUp
        exact .inr (.inr ⟨rfl, present, State.accepting?_refuse_self accepts⟩)
    | _ => cases setsUp
  · exact .inl ⟨job, phase, moved.jobs_of_ne present still, setsUp⟩

/-- A run that the bridge is in stays so until a stop takes it out. -/
theorem running_step (life : Lifecycle state) (moved : Moves state move next effects)
    (running : state.running = some run) :
    next.running = some run ∨ ∃ job, next.Stopping job run := by
  cases moved with
  | start present turn =>
      cases turn with
      | brokerStarted _ =>
          have resting := life.resting ⟨_, present, rfl⟩
          simp [resting] at running
      | _ => exact .inl running
  | stop present turn =>
      cases turn with
      | entered _ runs =>
          cases runs.symm.trans running
          exact .inr ⟨_, _, State.jobs_setJob_self present, rfl⟩
      | _ => exact .inl running
  | attach _ turn => exact .inl (turn.leavesBridge.running.trans running)
  | relay _ turn => exact .inl (turn.leavesBridge.running.trans running)
  | change => exact .inl ((change_leavesBridge state _).running.trans running)
  | _ => exact .inl running

/-- A run that is being stopped goes on being stopped until all its routes are settled. -/
theorem stopping_step {job : JobId} (shut : Shutdown state) (life : Lifecycle state)
    (moved : Moves state move next effects) (stopping : state.Stopping job run) :
    next.Stopping job run ∨ next.Dead run := by
  have refuses := life.stopping stopping
  obtain ⟨phase, present, stops⟩ := stopping
  by_cases still : move = .job job
  · subst still
    obtain ⟨after, middle, turn, rfl⟩ := moved.of_stop present
    have there : middle.jobs[job]? = some (.stop phase) := turn.jobs ▸ present
    have onward : after.run? = some run →
        (middle.setJob job (.stop after)).Stopping job run ∨
          (middle.setJob job (.stop after)).Dead run :=
      fun goes => .inl ⟨after, State.jobs_setJob_self there, goes⟩
    cases turn with
    | routesDone =>
        cases stops
        have dead : state.Dead run := ⟨refuses, fun place => shut.passed present rfl (by simp)⟩
        exact .inr (dead.step moved)
    | brokerStopped => exact onward stops
    | routeAsked => exact onward stops
    | routeIdle _ _ _ => exact onward stops
    | routeClaimed _ _ _ => exact onward stops
    | routeStopped _ => exact onward stops
    | _ => cases stops
  · exact .inl ⟨phase, moved.jobs_of_ne present still, stops⟩

/-- There are no more runs than before, except for one that a start is setting up. -/
theorem runs_step (moved : Moves state move next effects) (bound : run < next.runs.length) :
    run < state.runs.length ∨ ∃ job, next.SettingUp job run := by
  cases moved with
  | start present turn =>
      cases turn with
      | discovered =>
          rw [State.setJob, State.addRun, List.length_append, List.length_singleton] at bound
          rcases Nat.lt_succ_iff_lt_or_eq.mp bound with old | rfl
          · exact .inl old
          · exact .inr ⟨_, _, State.jobs_setJob_self present, rfl⟩
      | brokerRefused _ => exact .inl (State.length_runs_refuse ▸ bound)
      | _ => exact .inl bound
  | stop _ turn =>
      left
      cases turn <;> simpa [State.setJob, State.withdraw, State.modifyRelay, State.requestSlot,
        State.releaseSlot, State.releaseGuard, State.closeSink, State.closeSource] using bound
  | attach _ turn => exact .inl (turn.leavesBridge.lt_iff.mp bound)
  | relay _ turn => exact .inl (turn.leavesBridge.lt_iff.mp bound)
  | change => exact .inl ((change_leavesBridge state _).lt_iff.mp bound)
  | _ => exact .inl bound

theorem refusing_step (shut : Shutdown state) (life : Lifecycle state)
    (moved : Moves state move next effects) (bound : run < next.runs.length) :
    (∃ job, next.SettingUp job run) ∨ next.running = some run ∨
      next.accepting? run = some false := by
  rcases runs_step moved bound with old | new
  · rcases shut.refusing old with ⟨job, settingUp⟩ | running | refuses
    · exact (refusing_of_settingUp life moved settingUp).imp id (Or.imp id (·.2.2))
    · rcases running_step life moved running with runs | ⟨job, stops⟩
      · exact .inr (.inl runs)
      · exact .inr (.inr ((life.step moved).stopping stops))
    · exact .inr (.inr (moved.refusing refuses))
  · exact .inl new

/-- **Every move keeps the invariant.** -/
theorem step (shut : Shutdown state) (own : Ownership state) (life : Lifecycle state)
    (moved : Moves state move next effects) : Shutdown next where
  joined := shut.joined_step own life moved
  started := shut.started_step moved
  alive := shut.alive_step own moved
  passed := fun present left _ past => shut.passed_step own life moved present left past
  refusing := shut.refusing_step life moved

end Shutdown

/-- A run that nobody has hold of starts no routes any more. -/
theorem Shutdown.refuses_of_free {state : State} {run : RunId} (shut : Shutdown state)
    (bound : run < state.runs.length) (free : state.holds run = false) :
    state.accepting? run = some false := by
  obtain ⟨resting, _, idle⟩ := State.holds_eq_false_iff.mp free
  rcases shut.refusing bound with ⟨job, phase, present, setsUp⟩ | running | refuses
  · have held := idle _ (List.mem_of_getElem? present)
    simp [Job.holds, setsUp] at held
  · exact absurd running resting
  · exact refuses

/-- The invariant holds after every history. -/
theorem History.shutdown {first now : State} {past : List Occurrence}
    (history : History first past now) (unused : first.Unused) : Shutdown now := by
  induction history with
  | start => exact .of_unused unused
  | move before step ih =>
      exact ih.step (before.ownership unused) (before.lifecycle unused) (step_cases step)

/-! ## A run that the bridge was in -/

/-- The bridge is in a run, a stop is stopping it, or it is dead. -/
def State.Left (state : State) (run : RunId) : Prop :=
  state.running = some run ∨ (∃ job, state.Stopping job run) ∨ state.Dead run

/-- A run that the bridge was in stays in service, being stopped, or dead. -/
theorem State.Left.step {state next : State} {move : Move} {effects : List Effect} {run : RunId}
    (left : state.Left run) (shut : Shutdown state) (life : Lifecycle state)
    (moved : Moves state move next effects) : next.Left run := by
  rcases left with running | ⟨job, stopping⟩ | dead
  · exact (Shutdown.running_step life moved running).imp id .inl
  · exact .inr ((shut.stopping_step life moved stopping).imp_left fun stops => ⟨job, stops⟩)
  · exact .inr (.inr (dead.step moved))

/-! ## Runs that were given up -/

namespace Occurrence

/-- A start has given its run up because the broker did not start, and some route of the run is
not settled. -/
def Abandons (run : RunId) (occurrence : Occurrence) : Prop :=
  ∃ job, occurrence.move = .job job ∧
    occurrence.before.jobs[job]? = some (.start (.startingBroker run)) ∧
      occurrence.after.accepting? run = some false ∧ ∃ place, ¬occurrence.after.Settled run place

/-- A call that is attached to a run has a turn while a start is still setting the run up. -/
def IsEarly (occurrence : Occurrence) : Prop :=
  ∃ job topic run phase id, occurrence.move = .job job ∧
    occurrence.before.jobs[job]? = some (.attach topic (.activating run phase)) ∧
      occurrence.before.SettingUp id run

end Occurrence

/-- A run that nobody is setting up was in the bridge, or is dead, or was abandoned. -/
theorem History.left_or_abandons {first now : State} {past : List Occurrence} {run : RunId}
    (history : History first past now) (unused : first.Unused) (bound : run < now.runs.length) :
    (∃ job, now.SettingUp job run) ∨ now.Left run ∨
      ∃ occurrence ∈ past, occurrence.Abandons run := by
  induction history with
  | start => simp [unused.runs] at bound
  | @move past now next move effects before step ih =>
      have moved := step_cases step
      have life := before.lifecycle unused
      rcases Shutdown.runs_step moved bound with old | new
      · rcases ih old with ⟨job, settingUp⟩ | left | ⟨occurrence, among, abandons⟩
        · rcases Shutdown.refusing_of_settingUp life moved settingUp with sets | runs |
            ⟨same, present, refuses⟩
          · exact .inl sets
          · exact .inr (.inl (.inl runs))
          · by_cases settled : ∀ place, next.Settled run place
            · exact .inr (.inl (.inr (.inr ⟨refuses, settled⟩)))
            · obtain ⟨place, unsettled⟩ := not_forall.mp settled
              exact .inr (.inr ⟨⟨now, move, next, effects⟩, by simp,
                job, same, present, refuses, place, unsettled⟩)
        · exact .inr (.inl (left.step (before.shutdown unused) life moved))
        · exact .inr (.inr ⟨occurrence, by simp [among], abandons⟩)
      · exact .inl new

/-- The routes of a run that has just been set up are settled. -/
theorem State.settled_addRun {state : State} {principal : String} {table : RouteTable}
    {job : JobId} {found : Job} {place : Place} (own : Ownership state)
    (idle : found.claims? = none) :
    State.Settled ((state.addRun (Run.fresh principal table)).setJob job found) state.runs.length
      place where
  empty := fun there => by
    rcases KeepsSlots.of_addRun.backward there with still | ⟨before, present, _⟩
    · exact still
    · exact absurd (State.slot?_eq_some_lt present) (Nat.lt_irrefl _)
  unclaimed := fun claims => by
    obtain ⟨slot, present, _⟩ := own.claimed (State.claims_setJob_of_none idle claims).2
    exact absurd (State.slot?_eq_some_lt present) (Nat.lt_irrefl _)
  ended := fun was sameRun samePlace => by
    obtain ⟨slot, present, _⟩ := own.placed ⟨_, was, sameRun, samePlace⟩
    exact absurd (State.slot?_eq_some_lt present) (Nat.lt_irrefl _)

/-- No route of a run is in use while a start is setting the run up, if no call comes early. -/
theorem History.untouched {first now : State} {past : List Occurrence}
    (history : History first past now) (unused : first.Unused)
    (timely : ∀ occurrence ∈ past, ¬occurrence.IsEarly) {job : JobId} {run : RunId}
    (settingUp : now.SettingUp job run) (place : Place) : now.Settled run place := by
  induction history generalizing job with
  | start =>
      obtain ⟨phase, present, _⟩ := settingUp
      simp [unused.jobs] at present
  | @move past now next move effects before step ih =>
      have moved := step_cases step
      have onward : ∀ {id : JobId}, now.SettingUp id run → next.Settled run place := by
        intro id sets
        have settled := ih (fun occurrence among => timely occurrence (by simp [among])) sets
        refine settled.step moved fun claims => ?_
        rcases moved.claims claims with old | ⟨same, _, topic, ahead, waits⟩
        · exact settled.unclaimed old
        · exact timely ⟨now, move, next, effects⟩ (by simp) ⟨_, _, _, _, _, same, waits, sets⟩
      obtain ⟨after, present, setsUp⟩ := settingUp
      rcases moved.jobs_origin present with was | rfl | ⟨request, _, same⟩
      · exact onward ⟨after, was, setsUp⟩
      · obtain ⟨phase, middle, was, turn, rfl⟩ := moved.to_start present
        cases turn with
        | discovered =>
            cases setsUp
            exact State.settled_addRun (before.ownership unused) rfl
        | installed =>
            cases setsUp
            exact onward ⟨_, was, rfl⟩
        | _ => cases setsUp
      · cases request <;> cases same
        cases setsUp

/-- **No run is abandoned where no call comes early.** -/
theorem History.not_abandons {first now : State} {past : List Occurrence}
    (history : History first past now) (unused : first.Unused)
    (timely : ∀ occurrence ∈ past, ¬occurrence.IsEarly) :
    ∀ occurrence ∈ past, ∀ run, ¬occurrence.Abandons run := by
  rintro occurrence among run ⟨job, same, present, refuses, place, unsettled⟩
  obtain ⟨earlier, later, rfl⟩ := List.append_of_mem among
  obtain ⟨before, step, _⟩ := history.occurrence
  have settled := before.untouched unused (fun _ member => timely _ (by simp [member]))
    ⟨_, present, rfl⟩ place
  have moved := step_cases step
  refine unsettled (settled.step moved fun claims => ?_)
  rcases moved.claims claims with old | ⟨other, accepts, _, _, waits⟩
  · exact settled.unclaimed old
  · cases same.symm.trans other
    cases present.symm.trans waits

end TopicRelay
