import TopicRelay.Proofs.Lifecycle

/-!
# Who may change a route

A job that starts a route has claimed it: the job holds the guard of the route from the
moment it asks for a consumer until it has handed the consumer to a relay or closed it
again.  `Ownership` says that a claimed route has no relay and never had one, and that a
route whose run still starts routes keeps the one relay it gets.  So no two jobs ever
claim the same route, and no route is ever given a second relay (`Ownership.step`).
-/

namespace TopicRelay

set_option autoImplicit false

/-! ## Claims and relays -/

/-- The route that an activation has claimed. -/
def ActivationPhase.claims? : ActivationPhase → Option Place
  | .connecting place _ _ | .producing place _ _ _ _ | .undoing place _ _ _ => some place
  | _ => none

/-- The route of a run that a job has claimed. -/
def Job.claims? : Job → Option (RunId × Place)
  | .attach _ (.activating run phase) => phase.claims?.map fun place => (run, place)
  | _ => none

namespace State

variable {state next : State} {job id : JobId} {relay other : RelayId} {run : RunId} {place : Place}

/-- A job has claimed a route. -/
def Claims (state : State) (job : JobId) (run : RunId) (place : Place) : Prop :=
  ∃ found, state.jobs[job]? = some found ∧ found.claims? = some (run, place)

/-- A relay was set up for a route. -/
def Serves (state : State) (relay : RelayId) (run : RunId) (place : Place) : Prop :=
  ∃ found, state.relays[relay]? = some found ∧ found.run = run ∧ found.place = place

theorem claims_setJob {found : Job} (claims : (state.setJob job found).Claims id run place) :
    (id = job ∧ found.claims? = some (run, place)) ∨ (id ≠ job ∧ state.Claims id run place) := by
  obtain ⟨now, present, claimed⟩ := claims
  rcases jobs_setJob present with ⟨same, rfl⟩ | ⟨different, before⟩
  · exact .inl ⟨same, claimed⟩
  · exact .inr ⟨different, now, before, claimed⟩

theorem claims_setJob_of_none {found : Job} (without : found.claims? = none)
    (claims : (state.setJob job found).Claims id run place) :
    id ≠ job ∧ state.Claims id run place := by
  rcases claims_setJob claims with ⟨_, impossible⟩ | other
  · simp [without] at impossible
  · exact other

theorem claims_congr (same : next.jobs = state.jobs) :
    next.Claims id run place ↔ state.Claims id run place := by
  simp [Claims, same]

theorem serves_congr (same : next.relays = state.relays) :
    next.Serves relay run place ↔ state.Serves relay run place := by
  simp [Serves, same]

/-- A relay goes on serving its route, whatever phase it is in. -/
theorem serves_modifyRelay {change : Relay → Relay}
    (keeps : ∀ found, (change found).run = found.run ∧ (change found).place = found.place) :
    (state.modifyRelay relay change).Serves other run place ↔ state.Serves other run place := by
  simp only [Serves, modifyRelay, List.getElem?_modify]
  constructor
  · rintro ⟨now, present, rfl, rfl⟩
    obtain ⟨found, before, rfl⟩ := Option.map_eq_some_iff.mp present
    refine ⟨found, before, ?_⟩
    split <;> simp [keeps]
  · rintro ⟨found, before, rfl, rfl⟩
    refine ⟨if relay = other then change found else found, by simp [before], ?_⟩
    split <;> simp [keeps]

/-- A relay goes on serving its route when it is told to stop. -/
theorem serves_tellRelays {there : RunId} :
    (state.tellRelays there).Serves relay run place ↔ state.Serves relay run place := by
  constructor
  · rintro ⟨found, present, rfl, rfl⟩
    rcases relays_tellRelays present with ⟨before, was, _, rfl⟩ | ⟨_, was⟩
    · exact ⟨before, was, rfl, rfl⟩
    · exact ⟨found, was, rfl, rfl⟩
  · rintro ⟨found, present, rfl, rfl⟩
    by_cases mine : found.run = there
    · exact ⟨_, relays_tellRelays_self present mine, rfl, rfl⟩
    · exact ⟨found, relays_tellRelays_of_ne present mine, rfl, rfl⟩

theorem serves_withdraw {spot : Place} {there : RunId} :
    (state.withdraw run place relay).Serves other there spot ↔ state.Serves other there spot :=
  serves_modifyRelay fun _ => ⟨rfl, rfl⟩

theorem serves_spawn {route : Route} {mailbox : MailboxId} {spot : Place} {there : RunId} :
    (state.spawn run place route mailbox).Serves relay there spot ↔
      state.Serves relay there spot ∨
        (relay = state.relays.length ∧ there = run ∧ spot = place) := by
  simp only [Serves, spawn, modifySlot, modifyRun, getElem?_concat_eq_some]
  constructor
  · rintro ⟨found, before | ⟨rfl, rfl⟩, rfl, rfl⟩
    · exact .inl ⟨found, before, rfl, rfl⟩
    · exact .inr ⟨rfl, rfl, rfl⟩
  · rintro (⟨found, before, rfl, rfl⟩ | ⟨rfl, rfl, rfl⟩)
    · exact ⟨found, .inl before, rfl, rfl⟩
    · exact ⟨_, .inr ⟨rfl, rfl⟩, rfl, rfl⟩

end State

theorem Forwards.serves {state next : State} {relay id : RelayId} {found : Relay}
    {effects : List Effect} {run : RunId} {place : Place}
    (turn : Forwards state relay found next effects) :
    next.Serves id run place ↔ state.Serves id run place := by
  cases turn <;> exact State.serves_modifyRelay fun _ => ⟨rfl, rfl⟩

/-! ## The invariant -/

/-- How claims, guards, relays and slots of the routes agree. -/
structure Ownership (state : State) : Prop where
  claimed : ∀ {job run place}, state.Claims job run place →
    ∃ slot, state.slot? run place = some slot ∧ slot.guard.holder = some job ∧ slot.relay = none
  unserved : ∀ {job relay run place}, state.Claims job run place → ¬state.Serves relay run place
  occupied : ∀ {run place slot relay}, state.slot? run place = some slot →
    slot.relay = some relay → state.Serves relay run place
  /-- A relay leaves its slot only once its run starts no routes any more. -/
  placed : ∀ {relay run place}, state.Serves relay run place →
    ∃ slot, state.slot? run place = some slot ∧
      (slot.relay = some relay ∨ state.accepting? run = some false)
  single : ∀ {relay other run place}, state.Serves relay run place →
    state.Serves other run place → relay = other

/-- Slots keep their relays and are not marked as started, and relays keep their routes. -/
structure KeepsRoutes (state next : State) : Prop where
  forward : ∀ {run place slot}, state.slot? run place = some slot →
    ∃ after, next.slot? run place = some after ∧ after.relay = slot.relay
  backward : ∀ {run place slot}, next.slot? run place = some slot →
    (slot.relay = none ∧ slot.started = false) ∨
      ∃ before, state.slot? run place = some before ∧ slot.relay = before.relay ∧
        (slot.started = true → before.started = true)
  serves : ∀ {relay run place}, next.Serves relay run place ↔ state.Serves relay run place
  refusing : ∀ {run}, state.accepting? run = some false → next.accepting? run = some false

/-- Slots keep their holders as well. -/
structure KeepsSlots (state next : State) : Prop extends KeepsRoutes state next where
  holders : ∀ {run place slot after holder}, state.slot? run place = some slot →
    next.slot? run place = some after → slot.guard.holder = some holder →
      after.guard.holder = some holder

/-- A relay that is in a slot was in it before. -/
theorem KeepsRoutes.occupied {state next : State} {run : RunId} {place : Place} {slot : RouteSlot}
    {relay : RelayId} (keeps : KeepsRoutes state next) (found : next.slot? run place = some slot)
    (occupied : slot.relay = some relay) :
    ∃ before, state.slot? run place = some before ∧ before.relay = some relay := by
  rcases keeps.backward found with ⟨empty, _⟩ | ⟨before, present, same, _⟩
  · simp [empty] at occupied
  · exact ⟨before, present, same.symm.trans occupied⟩

/-- A slot is changed, but neither its relay nor its mark is set. -/
theorem KeepsRoutes.of_modifySlot {state : State} {run : RunId} {place : Place}
    {change : RouteSlot → RouteSlot} (relay : ∀ slot, (change slot).relay = slot.relay)
    (started : ∀ slot, (change slot).started = true → slot.started = true) :
    KeepsRoutes state (state.modifySlot run place change) where
  forward := by
    intro other spot slot found
    refine ⟨_, by rw [State.slot?_modifySlot, found]; rfl, ?_⟩
    split
    · exact relay slot
    · rfl
  backward := by
    intro other spot slot found
    rw [State.slot?_modifySlot] at found
    obtain ⟨before, present, rfl⟩ := Option.map_eq_some_iff.mp found
    refine .inr ⟨before, present, ?_, ?_⟩
    · split
      · exact relay before
      · rfl
    · intro marked
      split at marked
      · exact started before marked
      · exact marked
  serves := State.serves_congr rfl
  refusing := fun refuses => by rwa [State.accepting?_modifySlot]

theorem KeepsRoutes.setJob {state next : State} {job : JobId} {found : Job}
    (keeps : KeepsRoutes state next) : KeepsRoutes state (next.setJob job found) :=
  ⟨keeps.forward, keeps.backward, keeps.serves, keeps.refusing⟩

/-- Only the runs and the relays of a state matter. -/
theorem KeepsRoutes.congr {state middle next : State} (keeps : KeepsRoutes middle next)
    (runs : middle.runs = state.runs) (relays : middle.relays = state.relays) :
    KeepsRoutes state next where
  forward := fun found => keeps.forward ((State.slot?_congr runs).trans found)
  backward := by
    intro other spot slot found
    refine (keeps.backward found).imp id fun ⟨before, present, same, started⟩ => ?_
    exact ⟨before, (State.slot?_congr runs).symm.trans present, same, started⟩
  serves := keeps.serves.trans (State.serves_congr relays)
  refusing := fun refuses => keeps.refusing ((State.accepting?_congr runs).trans refuses)

namespace KeepsSlots

variable {state next : State} {run : RunId} {place : Place} {job : JobId}

theorem of_slots (slots : ∀ run place, next.slot? run place = state.slot? run place)
    (serves : ∀ {relay run place}, next.Serves relay run place ↔ state.Serves relay run place)
    (refusing : ∀ {run}, state.accepting? run = some false → next.accepting? run = some false) :
    KeepsSlots state next where
  forward := fun found => ⟨_, (slots _ _).trans found, rfl⟩
  backward := fun found => .inr ⟨_, (slots _ _).symm.trans found, rfl, id⟩
  serves := serves
  refusing := refusing
  holders := by
    intro other spot slot after holder found now held
    cases ((slots _ _).trans found).symm.trans now
    exact held

theorem of_runs (runs : next.runs = state.runs) (relays : next.relays = state.relays) :
    KeepsSlots state next :=
  of_slots (fun _ _ => State.slot?_congr runs) (State.serves_congr relays)
    fun refuses => (State.accepting?_congr runs).trans refuses

theorem of_modifySlot {change : RouteSlot → RouteSlot}
    (relay : ∀ slot, (change slot).relay = slot.relay)
    (started : ∀ slot, (change slot).started = true → slot.started = true)
    (holders : ∀ slot holder, slot.guard.holder = some holder →
      (change slot).guard.holder = some holder) :
    KeepsSlots state (state.modifySlot run place change) where
  toKeepsRoutes := .of_modifySlot relay started
  holders := by
    intro other spot slot after holder found now held
    rw [State.slot?_modifySlot, found, Option.map_some, Option.some.injEq] at now
    subst now
    split
    · exact holders slot holder held
    · exact held

/-- Asking for the guard of a route takes it from nobody. -/
theorem of_requestSlot : KeepsSlots state (state.requestSlot run place job) :=
  of_modifySlot (fun _ => rfl) (fun _ => id) fun _ _ held =>
    Guard.holder_request_of_some job held

/-- Marking a route as stopped changes neither its guard nor its relay. -/
theorem of_unmark :
    KeepsSlots state
      (state.modifySlot run place fun slot => { slot with started := false }) :=
  of_modifySlot (fun _ => rfl) (by rintro _ ⟨⟩) fun _ _ => id

theorem of_refuse : KeepsSlots state (state.refuse run) :=
  of_slots (fun _ _ => State.slot?_refuse) (State.serves_congr rfl)
    State.accepting?_refuse_of_false

/-- A run that has just been set up has no relay in any slot. -/
theorem of_addRun {principal : String} {table : RouteTable} :
    KeepsSlots state (state.addRun (Run.fresh principal table)) where
  forward := fun found =>
    ⟨_, (State.slot?_addRun_of_lt (State.slot?_eq_some_lt found)).trans found, rfl⟩
  backward := by
    intro other spot slot found
    by_cases new : other = state.runs.length
    · subst new
      obtain ⟨added, same, atPlace⟩ := State.slot?_eq_some_iff.mp found
      rw [State.run?_addRun, if_pos rfl, Option.some.injEq] at same
      subst same
      simp only [Run.fresh, List.getElem?_map, Option.map_eq_some_iff] at atPlace
      obtain ⟨_, _, rfl⟩ := atPlace
      exact .inl ⟨rfl, rfl⟩
    · have old : (state.addRun (Run.fresh principal table)).run? other = state.run? other := by
        rw [State.run?_addRun, if_neg new]
      rw [State.slot?, old] at found
      exact .inr ⟨slot, found, rfl, id⟩
  serves := State.serves_congr rfl
  refusing := State.accepting?_addRun_of_eq_some
  holders := by
    intro other spot slot after holder found now held
    rw [State.slot?_addRun_of_lt (State.slot?_eq_some_lt found)] at now
    cases found.symm.trans now
    exact held

/-- Telling relays to stop changes no slots. -/
theorem of_tellRelays : KeepsSlots state (state.tellRelays run) :=
  of_slots (fun _ _ => rfl) State.serves_tellRelays id

theorem setJob {found : Job} (keeps : KeepsSlots state next) :
    KeepsSlots state (next.setJob job found) :=
  ⟨keeps.toKeepsRoutes.setJob, keeps.holders⟩

theorem congr {middle : State} (keeps : KeepsSlots middle next) (runs : middle.runs = state.runs)
    (relays : middle.relays = state.relays) : KeepsSlots state next :=
  ⟨keeps.toKeepsRoutes.congr runs relays,
    fun found => keeps.holders ((State.slot?_congr runs).trans found)⟩

end KeepsSlots

theorem Starts.keepsSlots {state next : State} {job : JobId} {phase after : StartPhase}
    {effects : List Effect} (turn : Starts state job phase after next effects) :
    KeepsSlots state next := by
  cases turn
  case discovered => exact .of_addRun
  case brokerRefused => exact .of_refuse
  all_goals exact .of_runs rfl rfl

theorem Forwards.keepsSlots {state next : State} {relay : RelayId} {found : Relay}
    {effects : List Effect} (turn : Forwards state relay found next effects) :
    KeepsSlots state next := by
  have runs : next.runs = state.runs := by cases turn <;> rfl
  exact .of_slots (fun _ _ => State.slot?_congr runs) turn.serves
    (State.accepting?_congr runs).trans

theorem change_keepsSlots (state : State) (change : Change) :
    KeepsSlots state (state.change change) :=
  .of_runs (change_fromOutside state change).runs (change_fromOutside state change).relays

namespace Ownership

variable {state next : State} {job : JobId} {run : RunId} {place : Place}

theorem of_unused (unused : state.Unused) : Ownership state where
  claimed := fun ⟨_, present, _⟩ => by simp [unused.jobs] at present
  unserved := fun ⟨_, present, _⟩ => by simp [unused.jobs] at present
  occupied := fun found _ => by simp [State.slot?, State.run?, unused.runs] at found
  placed := fun ⟨_, present, _⟩ => by simp [unused.relays] at present
  single := fun ⟨_, present, _⟩ => by simp [unused.relays] at present

/-- A move that keeps the slots and gives no job a claim. -/
theorem keep (own : Ownership state) (keeps : KeepsSlots state next)
    (claims : ∀ {id run place}, next.Claims id run place → state.Claims id run place) :
    Ownership next where
  claimed := by
    intro id other spot claim
    obtain ⟨slot, found, held, empty⟩ := own.claimed (claims claim)
    obtain ⟨after, now, same⟩ := keeps.forward found
    exact ⟨after, now, keeps.holders found now held, same.trans empty⟩
  unserved := fun claim serves => own.unserved (claims claim) (keeps.serves.mp serves)
  occupied := by
    intro other spot slot relay found occupied
    obtain ⟨before, present, same⟩ := keeps.occupied found occupied
    exact keeps.serves.mpr (own.occupied present same)
  placed := by
    intro relay other spot serves
    obtain ⟨slot, found, stands⟩ := own.placed (keeps.serves.mp serves)
    obtain ⟨after, now, same⟩ := keeps.forward found
    exact ⟨after, now, stands.imp same.trans keeps.refusing⟩
  single := fun one other => own.single (keeps.serves.mp one) (keeps.serves.mp other)

/-- A job goes on and claims nothing that it had not claimed. -/
theorem advance {before after : Job} (own : Ownership state)
    (present : state.jobs[job]? = some before) (jobs : next.jobs = state.jobs)
    (keeps : KeepsSlots state next)
    (claims : ∀ claim, after.claims? = some claim → before.claims? = some claim) :
    Ownership (next.setJob job after) := by
  apply own.keep keeps.setJob
  intro id run place claim
  rcases State.claims_setJob claim with ⟨rfl, claimed⟩ | ⟨_, other⟩
  · exact ⟨before, present, claims _ claimed⟩
  · exact (State.claims_congr jobs).mp other

/-- A route that has no relay never had one if its run still starts routes. -/
theorem unserved_of_accepting {slot : RouteSlot} {relay : RelayId} (own : Ownership state)
    (found : state.slot? run place = some slot) (empty : slot.relay = none)
    (accepts : state.accepting? run = some true) : ¬state.Serves relay run place := by
  intro serves
  obtain ⟨stands, present, occupied | refuses⟩ := own.placed serves
  · cases found.symm.trans present
    simp [empty] at occupied
  · simp [accepts] at refuses

/-- The holder of a route's guard claims the route, which has no relay. -/
theorem claim_step {topic : String} {phase : ActivationPhase} {slot : RouteSlot}
    (own : Ownership state) (found : state.slot? run place = some slot)
    (held : slot.guard.holder = some job) (empty : slot.relay = none)
    (accepts : state.accepting? run = some true) (claims : phase.claims? = some place) :
    Ownership (state.setJob job (.attach topic (.activating run phase))) := by
  have claim : ∀ {id other spot},
      (state.setJob job (.attach topic (.activating run phase))).Claims id other spot →
        (id = job ∧ other = run ∧ spot = place) ∨ state.Claims id other spot := by
    intro id other spot claimed
    rcases State.claims_setJob claimed with ⟨same, new⟩ | ⟨_, old⟩
    · simp only [Job.claims?, claims, Option.map_some, Option.some.injEq, Prod.mk.injEq] at new
      exact .inl ⟨same, new.1.symm, new.2.symm⟩
    · exact .inr old
  refine {
    claimed := ?_, unserved := ?_, occupied := own.occupied, placed := own.placed
    single := own.single }
  · intro id other spot claimed
    rcases claim claimed with ⟨rfl, rfl, rfl⟩ | old
    · exact ⟨slot, found, held, empty⟩
    · exact own.claimed old
  · intro id relay other spot claimed serves
    rcases claim claimed with ⟨rfl, rfl, rfl⟩ | old
    · exact own.unserved_of_accepting found empty accepts serves
    · exact own.unserved old serves

/-- The claims of other jobs are claims of other routes. -/
theorem claims_elsewhere {id : JobId} {other : RunId} {spot : Place} {slot : RouteSlot}
    (own : Ownership state) (found : state.slot? run place = some slot)
    (held : slot.guard.holder = some job) (claims : state.Claims id other spot)
    (different : id ≠ job) : (run, place) ≠ (other, spot) := by
  rintro ⟨⟩
  obtain ⟨stands, present, holds, _⟩ := own.claimed claims
  cases found.symm.trans present
  exact different (Option.some.inj (holds.symm.trans held))

/-- The holder of a route's guard gives the guard and its claim up. -/
theorem release_step {middle : State} {slot : RouteSlot} {after : Job} (own : Ownership state)
    (found : state.slot? run place = some slot) (held : slot.guard.holder = some job)
    (jobs : middle.jobs = state.jobs) (runs : middle.runs = state.runs)
    (relays : middle.relays = state.relays) (claims : after.claims? = none) :
    Ownership ((middle.releaseSlot run place).setJob job after) := by
  have slots : ∀ {other spot}, (middle.releaseSlot run place).slot? other spot =
      (state.slot? other spot).map fun slot => if run = other ∧ place = spot then
        { slot with guard := slot.guard.release } else slot := by
    intro other spot
    rw [State.releaseSlot, State.slot?_modifySlot, State.slot?_congr runs]
  have claim : ∀ {id other spot}, ((middle.releaseSlot run place).setJob job after).Claims id
      other spot → id ≠ job ∧ state.Claims id other spot := by
    intro id other spot claimed
    exact (State.claims_setJob_of_none claims claimed).imp_right (State.claims_congr jobs).mp
  have serves : ∀ {relay other spot}, ((middle.releaseSlot run place).setJob job after).Serves
      relay other spot ↔ state.Serves relay other spot := State.serves_congr relays
  refine {
    claimed := ?_
    unserved := fun claimed served => own.unserved (claim claimed).2 (serves.mp served)
    occupied := ?_, placed := ?_
    single := fun one other => own.single (serves.mp one) (serves.mp other) }
  · intro id other spot claimed
    obtain ⟨different, old⟩ := claim claimed
    have apart := own.claims_elsewhere found held old different
    obtain ⟨stands, present, holds, empty⟩ := own.claimed old
    refine ⟨stands, ?_, holds, empty⟩
    rw [← State.slot?_congr runs] at present
    exact (State.slot?_modifySlot_of_ne apart).trans present
  · intro other spot now relay present occupied
    obtain ⟨before, old, rfl⟩ := Option.map_eq_some_iff.mp (slots.symm.trans present)
    refine serves.mpr (own.occupied old ?_)
    split at occupied <;> exact occupied
  · intro relay other spot served
    obtain ⟨before, old, stands⟩ := own.placed (serves.mp served)
    refine ⟨_, slots.trans (by rw [old]; rfl), stands.imp ?_ ?_⟩
    · intro occupied
      split <;> exact occupied
    · intro refuses
      exact (State.accepting?_modifySlot _).trans ((State.accepting?_congr runs).trans refuses)

/-- A job hands a route that it has claimed to a new relay. -/
theorem spawn_step {before after : Job} {route : Route} {mailbox : MailboxId}
    (own : Ownership state) (present : state.jobs[job]? = some before)
    (claims : before.claims? = some (run, place)) (gives : after.claims? = none) :
    Ownership ((state.spawn run place route mailbox).setJob job after) := by
  obtain ⟨slot, found, held, empty⟩ := own.claimed ⟨before, present, claims⟩
  have claim : ∀ {id other spot},
      ((state.spawn run place route mailbox).setJob job after).Claims id other spot →
        state.Claims id other spot ∧ (run, place) ≠ (other, spot) := by
    intro id other spot claimed
    obtain ⟨different, old⟩ := State.claims_setJob_of_none gives claimed
    exact ⟨old, own.claims_elsewhere found held old different⟩
  refine { claimed := ?_, unserved := ?_, occupied := ?_, placed := ?_, single := ?_ }
  · intro id other spot claimed
    obtain ⟨old, apart⟩ := claim claimed
    obtain ⟨stands, there, holds, empty⟩ := own.claimed old
    exact ⟨stands, (State.slot?_modifySlot_of_ne apart).trans there, holds, empty⟩
  · intro id relay other spot claimed serves
    obtain ⟨old, apart⟩ := claim claimed
    rcases State.serves_spawn.mp serves with before | ⟨_, rfl, rfl⟩
    · exact own.unserved old before
    · exact apart rfl
  · intro other spot now relay there occupied
    apply State.serves_spawn.mpr
    by_cases here : (run, place) = (other, spot)
    · obtain ⟨rfl, rfl⟩ := Prod.mk.inj here
      obtain ⟨_, _, rfl⟩ := State.exists_of_slot?_modifySlot there
      exact .inr ⟨(Option.some.inj occupied).symm, rfl, rfl⟩
    · exact .inl (own.occupied ((State.slot?_modifySlot_of_ne here).symm.trans there) occupied)
  · intro relay other spot serves
    rcases State.serves_spawn.mp serves with before | ⟨rfl, rfl, rfl⟩
    · have apart : (run, place) ≠ (other, spot) := by
        rintro ⟨⟩
        exact own.unserved ⟨_, present, claims⟩ before
      obtain ⟨stands, there, kept⟩ := own.placed before
      exact ⟨stands, (State.slot?_modifySlot_of_ne apart).trans there,
        kept.imp_right (State.accepting?_modifySlot _).trans⟩
    · exact ⟨_, State.slot?_modifySlot_of_some ((State.slot?_congr rfl).trans found), .inl rfl⟩
  · intro one two other spot first second
    rcases State.serves_spawn.mp first with before | ⟨rfl, rfl, rfl⟩
    · rcases State.serves_spawn.mp second with earlier | ⟨_, rfl, rfl⟩
      · exact own.single before earlier
      · exact absurd before (own.unserved ⟨_, present, claims⟩)
    · rcases State.serves_spawn.mp second with earlier | ⟨rfl, _⟩
      · exact absurd earlier (own.unserved ⟨_, present, claims⟩)
      · rfl

/-- A stop takes the relay out of a route whose run starts no routes any more. -/
theorem withdraw_step {relay : RelayId} {slot : RouteSlot} {after : Job} (own : Ownership state)
    (found : state.slot? run place = some slot) (held : slot.guard.holder = some job)
    (refuses : state.accepting? run = some false) (claims : after.claims? = none) :
    Ownership ((state.withdraw run place relay).setJob job after) := by
  have claim : ∀ {id other spot}, ((state.withdraw run place relay).setJob job after).Claims id
      other spot → state.Claims id other spot ∧ (run, place) ≠ (other, spot) := by
    intro id other spot claimed
    obtain ⟨different, old⟩ := State.claims_setJob_of_none claims claimed
    exact ⟨old, own.claims_elsewhere found held old different⟩
  have serves : ∀ {id other spot}, ((state.withdraw run place relay).setJob job after).Serves
      id other spot ↔ state.Serves id other spot := State.serves_withdraw
  refine {
    claimed := ?_
    unserved := fun claimed served => own.unserved (claim claimed).1 (serves.mp served)
    occupied := ?_, placed := ?_
    single := fun one other => own.single (serves.mp one) (serves.mp other) }
  · intro id other spot claimed
    obtain ⟨old, apart⟩ := claim claimed
    obtain ⟨stands, there, holds, empty⟩ := own.claimed old
    exact ⟨stands, (State.slot?_modifySlot_of_ne apart).trans there, holds, empty⟩
  · intro other spot now id there occupied
    by_cases here : (run, place) = (other, spot)
    · obtain ⟨rfl, rfl⟩ := Prod.mk.inj here
      obtain ⟨_, _, rfl⟩ := State.exists_of_slot?_modifySlot there
      cases occupied
    · exact serves.mpr
        (own.occupied ((State.slot?_modifySlot_of_ne here).symm.trans there) occupied)
  · intro id other spot served
    obtain ⟨stands, there, kept⟩ := own.placed (serves.mp served)
    by_cases here : (run, place) = (other, spot)
    · obtain ⟨rfl, rfl⟩ := Prod.mk.inj here
      exact ⟨_, State.slot?_modifySlot_of_some there,
        .inr ((State.accepting?_modifySlot _).trans refuses)⟩
    · exact ⟨stands, (State.slot?_modifySlot_of_ne here).trans there,
        kept.imp_right (State.accepting?_modifySlot _).trans⟩

/-- The turn of an activation keeps the invariant. -/
theorem activate_step {topic : String} {phase : ActivationPhase} {effects : List Effect}
    {advance : Advance ActivationPhase (Except ActivationFailure Unit)} (own : Ownership state)
    (present : state.jobs[job]? = some (.attach topic (.activating run phase)))
    (turn : Activates state job run topic phase advance next effects) :
    Ownership (next.setJob job (.attach topic (State.attachAfter run advance))) := by
  have onward : ∀ {next : State} {after : AttachPhase}, next.runs = state.runs →
      next.relays = state.relays → next.jobs = state.jobs →
        (∀ claim, (Job.attach topic after).claims? = some claim →
          (Job.attach topic (.activating run phase)).claims? = some claim) →
            Ownership (next.setJob job (.attach topic after)) :=
    fun runs relays jobs claims => own.advance present jobs (.of_runs runs relays) claims
  cases turn with
  | unknown _ => exact onward rfl rfl rfl (by rintro _ ⟨⟩)
  | resolved _ _ => exact onward rfl rfl rfl (by rintro _ ⟨⟩)
  | completed => exact onward rfl rfl rfl (by rintro _ ⟨⟩)
  | asked _ _ => exact own.advance present rfl .of_requestSlot (by rintro _ ⟨⟩)
  | needless _ found held _ => exact own.release_step found held rfl rfl rfl rfl
  | refused _ found held _ _ => exact own.release_step found held rfl rfl rfl rfl
  | claimed _ found held empty accepts => exact own.claim_step found held empty accepts rfl
  | connected _ _ => exact onward rfl rfl rfl fun _ => id
  | unconnected _ _ =>
      obtain ⟨slot, found, held, _⟩ := own.claimed ⟨_, present, rfl⟩
      exact own.release_step found held rfl rfl rfl rfl
  | produced _ => exact onward rfl rfl rfl fun _ => id
  | unproduced _ => exact onward rfl rfl rfl fun _ => id
  | spawned _ => exact own.spawn_step present rfl rfl
  | producerUndone => exact onward rfl rfl rfl fun _ => id
  | consumerUndone _ =>
      obtain ⟨slot, found, held, _⟩ := own.claimed ⟨_, present, rfl⟩
      exact own.release_step found held rfl rfl rfl rfl

/-- The turn of an attachment keeps the invariant. -/
theorem attach_step {topic : String} {phase after : AttachPhase} {effects : List Effect}
    (own : Ownership state) (present : state.jobs[job]? = some (.attach topic phase))
    (turn : Attaches state job topic phase after next effects) :
    Ownership (next.setJob job (.attach topic after)) := by
  cases turn with
  | activated turn => exact own.activate_step present turn
  | _ => exact own.advance present rfl (.of_runs rfl rfl) (by rintro _ ⟨⟩)

/-- The turn of a stop keeps the invariant. -/
theorem stop_step {phase after : StopPhase} {effects : List Effect} (own : Ownership state)
    (life : Lifecycle state) (present : state.jobs[job]? = some (.stop phase))
    (turn : Stops state job phase after next effects) :
    Ownership (next.setJob job (.stop after)) := by
  have onward : ∀ {next : State} {after : StopPhase}, KeepsSlots state next →
      next.jobs = state.jobs → Ownership (next.setJob job (.stop after)) :=
    fun keeps jobs => own.advance present jobs keeps (by rintro _ ⟨⟩)
  cases turn with
  | entered _ _ => exact onward (KeepsSlots.of_refuse.congr rfl rfl) rfl
  | routeAsked => exact onward .of_requestSlot rfl
  | routeIdle found held _ => exact own.release_step found held rfl rfl rfl rfl
  | routeClaimed found held _ =>
      exact own.withdraw_step found held (life.stopping ⟨_, present, rfl⟩) rfl
  | routeStopped _ => exact onward .of_unmark rfl
  | _ => exact onward (.of_runs rfl rfl) rfl

/-- **Every move keeps the invariant.** -/
theorem step {move : Move} {effects : List Effect} (own : Ownership state)
    (life : Lifecycle state) (moved : Moves state move next effects) : Ownership next := by
  cases moved with
  | start present turn =>
      exact own.advance present turn.jobs turn.keepsSlots (by rintro _ ⟨⟩)
  | stop present turn => exact own.stop_step life present turn
  | attach present turn => exact own.attach_step present turn
  | relay _ turn =>
      exact own.keep turn.keepsSlots (State.claims_congr turn.leavesBridge.jobs).mp
  | @arrive request =>
      refine own.keep (.of_runs rfl rfl) ?_
      rintro id run place ⟨found, present, claims⟩
      rcases getElem?_concat_eq_some.mp present with old | ⟨_, rfl⟩
      · exact ⟨found, old, claims⟩
      · cases request <;> cases claims
  | @change change =>
      exact own.keep (change_keepsSlots state change)
        (State.claims_congr (change_leavesBridge state change).jobs).mp
  | forget _ => exact own.keep .of_tellRelays (State.claims_congr rfl).mp
  | closeSource => exact own.keep (.of_runs rfl rfl) (State.claims_congr rfl).mp
  | closeSink => exact own.keep (.of_runs rfl rfl) (State.claims_congr rfl).mp
  | wait => exact own.keep (.of_runs rfl rfl) (State.claims_congr rfl).mp

end Ownership

/-- The invariant holds after every history. -/
theorem History.ownership {first now : State} {past : List Occurrence}
    (history : History first past now) (unused : first.Unused) : Ownership now := by
  have both := history.preserves (P := fun state => Lifecycle state ∧ Ownership state)
    ⟨.of_unused unused, .of_unused unused⟩ fun kept step =>
      ⟨kept.1.step (step_cases step), kept.2.step kept.1 (step_cases step)⟩
  exact both.2

end TopicRelay
