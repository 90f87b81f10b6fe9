import TopicRelay.Proofs.Lines

/-!
# Leaving calls out

`State.without` takes some calls out of a state: the calls that remain are numbered anew, in the
order in which they have arrived, and the guards know them by their new numbers.  Nothing else
changes.

A bridge takes no notice of the numbers of its calls.  As long as no call that is left out stands
in a line, every other call makes the same turns without it, and lets others see the same
(`State.step_without`).
-/

namespace TopicRelay

set_option autoImplicit false

variable {omitted : JobId → Bool}

/-! ## New numbers -/

/-- The number that a call gets once some calls have been left out: the number of the calls before
it that remain. -/
def renumber (omitted : JobId → Bool) : Nat → Nat
  | 0 => 0
  | id + 1 => if omitted id then renumber omitted id else renumber omitted id + 1

/-- The calls that remain, in the order in which they have arrived. -/
def remaining (omitted : JobId → Bool) (jobs : List Job) : List Job :=
  (jobs.zipIdx.filter fun entry => !omitted entry.2).map (·.1)

theorem renumber_mono {id other : Nat} (before : id ≤ other) :
    renumber omitted id ≤ renumber omitted other := by
  induction before with
  | refl => exact Nat.le_refl _
  | step _ ih =>
      rw [renumber]
      split <;> omega

/-- A call that remains keeps its place before the calls that have come after it. -/
theorem renumber_lt {id other : Nat} (stays : omitted id = false) (before : id < other) :
    renumber omitted id < renumber omitted other := by
  have next : renumber omitted (id + 1) = renumber omitted id + 1 := by simp [renumber, stays]
  have later : renumber omitted (id + 1) ≤ renumber omitted other := renumber_mono before
  omega

/-- Different calls that remain have different numbers. -/
theorem renumber_inj {id other : Nat} (stays : omitted id = false)
    (also : omitted other = false) : renumber omitted id = renumber omitted other ↔ id = other := by
  constructor
  · intro same
    rcases Nat.lt_trichotomy id other with before | equal | after
    · have := renumber_lt stays before
      omega
    · exact equal
    · have := renumber_lt also after
      omega
  · exact congrArg _

theorem remaining_concat (jobs : List Job) (last : Job) :
    remaining omitted (jobs ++ [last]) =
      if omitted jobs.length then remaining omitted jobs else remaining omitted jobs ++ [last] := by
  cases left : omitted jobs.length <;> simp [remaining, List.zipIdx_append, left]

theorem length_remaining (jobs : List Job) :
    (remaining omitted jobs).length = renumber omitted jobs.length := by
  induction jobs using List.reverseRecOn with
  | nil => rfl
  | append_singleton jobs last ih =>
      rw [remaining_concat, List.length_append, List.length_singleton, renumber]
      split <;> simp [ih]

/-- The calls that remain are found under their new numbers. -/
theorem getElem?_remaining {id : Nat} (stays : omitted id = false) (jobs : List Job) :
    (remaining omitted jobs)[renumber omitted id]? = jobs[id]? := by
  induction jobs using List.reverseRecOn with
  | nil => rfl
  | append_singleton jobs last ih =>
      rw [remaining_concat, getElem?_concat_eq_ite]
      by_cases new : id = jobs.length
      · subst new
        rw [stays, if_neg (by simp), if_pos rfl, ← length_remaining, List.getElem?_concat_length]
      · rw [if_neg new, ← ih]
        split
        · rfl
        · next lastStays =>
            rw [getElem?_concat_eq_ite, if_neg]
            rw [length_remaining, renumber_inj stays (by simpa using lastStays)]
            exact new

theorem mem_of_mem_remaining {jobs : List Job} {job : Job}
    (among : job ∈ remaining omitted jobs) : job ∈ jobs := by
  obtain ⟨⟨_, id⟩, entry, rfl⟩ := List.mem_map.mp among
  obtain ⟨_, _, same⟩ := List.mem_zipIdx (List.mem_filter.mp entry).1
  exact same ▸ List.getElem_mem _

/-- A call that remains goes on. -/
theorem remaining_set {id : Nat} (stays : omitted id = false) (jobs : List Job) (next : Job) :
    remaining omitted (jobs.set id next) =
      (remaining omitted jobs).set (renumber omitted id) next := by
  rcases Nat.lt_or_ge id jobs.length with inside | beyond
  · induction jobs using List.reverseRecOn with
    | nil => cases inside
    | append_singleton jobs last ih =>
        by_cases old : id < jobs.length
        · have earlier := renumber_lt stays old
          rw [← length_remaining] at earlier
          rw [List.set_append_left _ _ old, remaining_concat, remaining_concat, List.length_set,
            ih old]
          split
          · rfl
          · rw [List.set_append_left _ _ earlier]
        · obtain rfl : id = jobs.length := by
            rw [List.length_append, List.length_singleton] at inside
            omega
          simp [remaining_concat, stays, ← length_remaining]
  · rw [List.set_eq_of_length_le beyond, List.set_eq_of_length_le]
    rw [length_remaining]
    exact renumber_mono beyond

/-- What a call does that is left out makes no difference. -/
theorem remaining_set_of_omitted {id : Nat} (out : omitted id = true) (jobs : List Job)
    (next : Job) : remaining omitted (jobs.set id next) = remaining omitted jobs := by
  induction jobs using List.reverseRecOn with
  | nil => rfl
  | append_singleton jobs last ih =>
      by_cases old : id < jobs.length
      · rw [List.set_append_left _ _ old, remaining_concat, remaining_concat, List.length_set, ih]
      · rw [List.set_append_right _ _ (Nat.le_of_not_lt old)]
        by_cases mine : id = jobs.length
        · simp [mine ▸ out, mine, remaining_concat]
        · rw [List.set_eq_of_length_le]
          rw [List.length_singleton]
          omega

/-- Changing an item and mapping the items may be done in either order. -/
theorem map_modify {α β : Type} {change : α → α} {turn : β → β} (f : α → β)
    (commutes : ∀ item, f (change item) = turn (f item)) (items : List α) (index : Nat) :
    (items.modify index change).map f = (items.map f).modify index turn := by
  apply List.ext_getElem?
  intro spot
  rw [List.getElem?_map, List.getElem?_modify, List.getElem?_modify, List.getElem?_map]
  cases items[spot]? with
  | none => simp
  | some item =>
      by_cases here : index = spot <;> simp [here, commutes]

/-! ## Guards and runs -/

/-- A guard that knows its calls by their new numbers. -/
def Guard.renumbered (omitted : JobId → Bool) (guard : Guard) : Guard where
  holder := guard.holder.map (renumber omitted)
  waiting := guard.waiting.map (renumber omitted)

def RouteSlot.renumbered (omitted : JobId → Bool) (slot : RouteSlot) : RouteSlot :=
  { slot with guard := slot.guard.renumbered omitted }

def Run.renumbered (omitted : JobId → Bool) (run : Run) : Run :=
  { run with slots := run.slots.map (RouteSlot.renumbered omitted) }

namespace Guard

variable {guard : Guard} {job : JobId}

theorem renumbered_request :
    (guard.request job).renumbered omitted =
      (guard.renumbered omitted).request (renumber omitted job) := by
  cases held : guard.holder <;> simp [request, renumbered, held]

theorem renumbered_release :
    guard.release.renumbered omitted = (guard.renumbered omitted).release := by
  cases waits : guard.waiting <;> simp [release, renumbered, waits]

/-- Whoever holds a guard holds it under the new numbers as well, if no call in the line has been
left out. -/
theorem heldBy_renumbered (free : ∀ id ∈ guard.line, omitted id = false)
    (stays : omitted job = false) :
    (guard.renumbered omitted).heldBy (renumber omitted job) = guard.heldBy job := by
  rw [Bool.eq_iff_iff, heldBy_iff, heldBy_iff]
  cases held : guard.holder with
  | none => simp [renumbered, held]
  | some holder =>
      have holderStays := free holder (by simp [line, held])
      simp [renumbered, held, renumber_inj holderStays stays]

end Guard

/-! ## States -/

namespace State

/-- A state without some of its calls. -/
def without (state : State) (omitted : JobId → Bool) : State :=
  { state with
    jobs := remaining omitted state.jobs
    guard := state.guard.renumbered omitted
    runs := state.runs.map (Run.renumbered omitted) }

variable {state : State} {run : RunId} {place : Place} {job : JobId}

theorem run?_without :
    (state.without omitted).run? run = (state.run? run).map (Run.renumbered omitted) := by
  simp [run?, without]

theorem slot?_without :
    (state.without omitted).slot? run place =
      (state.slot? run place).map (RouteSlot.renumbered omitted) := by
  simp only [slot?, run?_without, Option.bind_map]
  cases state.run? run <;> simp [Run.renumbered]

theorem table?_without : (state.without omitted).table? run = state.table? run := by
  simp only [table?, run?_without, Option.map_map]
  rfl

theorem accepting?_without : (state.without omitted).accepting? run = state.accepting? run := by
  simp only [accepting?, run?_without, Option.map_map]
  rfl

theorem route?_without : (state.without omitted).route? run place = state.route? run place := by
  simp only [route?, run?_without, Option.bind_map]
  rfl

theorem places_without : (state.without omitted).places run = state.places run := by
  simp only [places, run?_without, Option.map_map]
  congr 3
  funext found
  simp [Run.renumbered]

/-- Changing a run and leaving calls out may be done in either order. -/
theorem modifyRun_without {change turn : Run → Run}
    (commutes : ∀ found, (change found).renumbered omitted = turn (found.renumbered omitted)) :
    (state.modifyRun run change).without omitted = (state.without omitted).modifyRun run turn := by
  simp only [modifyRun, without, map_modify _ commutes]

theorem modifySlot_without (state : State) {change turn : RouteSlot → RouteSlot}
    (commutes : ∀ slot, (change slot).renumbered omitted = turn (slot.renumbered omitted)) :
    (state.modifySlot run place change).without omitted =
      (state.without omitted).modifySlot run place turn := by
  apply modifyRun_without
  intro found
  simp only [Run.renumbered, map_modify _ commutes]

/-! ## Turns -/

/-- What a turn leads to once calls have been left out. -/
def turnWithout {φ : Type} (omitted : JobId → Bool) (turn : φ × State × List Effect) :
    φ × State × List Effect :=
  (turn.1, turn.2.1.without omitted, turn.2.2)

/-- The holder of the bridge's guard gives it up, whoever has been left out. -/
theorem releaseGuard_without (state : State) :
    state.releaseGuard.without omitted = (state.without omitted).releaseGuard := by
  simp [releaseGuard, without, Guard.renumbered_release]

theorem refuse_without : (state.refuse run).without omitted = (state.without omitted).refuse run :=
  modifyRun_without fun _ => rfl

theorem addRun_without {principal : String} {table : RouteTable} :
    (state.addRun (Run.fresh principal table)).without omitted =
      (state.without omitted).addRun (Run.fresh principal table) := by
  simp only [addRun, without, List.map_append, List.map_cons, List.map_nil]
  congr 3
  simp [Run.renumbered, Run.fresh, RouteSlot.renumbered, Guard.renumbered]

/-- A turn that leads to the same but for the calls that are left out. -/
theorem some_turnWithout {φ : Type} {phase : φ} {next other : State} {effects : List Effect}
    (same : next.without omitted = other) :
    some (phase, other, effects) = (some (phase, next, effects)).map (turnWithout omitted) := by
  rw [← same]
  rfl

theorem startFails_without (state : State) {failure : StartFailure} {effects : List Effect} :
    some ((state.without omitted).startFails failure effects) =
      (some (state.startFails failure effects)).map (turnWithout omitted) :=
  some_turnWithout (releaseGuard_without _)

/-- A start that remains makes the same turns. -/
theorem startTurn_without {phase : StartPhase} (free : ∀ id ∈ state.guard.line, omitted id = false)
    (stays : omitted job = false) :
    (state.without omitted).startTurn (renumber omitted job) phase =
      (state.startTurn job phase).map (turnWithout omitted) := by
  have held : (state.without omitted).guard.heldBy (renumber omitted job) =
      state.guard.heldBy job := Guard.heldBy_renumbered free stays
  have settings : (state.without omitted).settings = state.settings := rfl
  cases phase with
  | arriving =>
      have asked : ({ state with guard := state.guard.request job } : State).without omitted =
          { state.without omitted with
            guard := (state.without omitted).guard.request (renumber omitted job) } := by
        simp [without, Guard.renumbered_request]
      exact some_turnWithout asked
  | queued =>
      have same : (state.without omitted).running = state.running := rfl
      simp only [startTurn, held, startEnters, same]
      cases state.guard.heldBy job with
      | false => rfl
      | true =>
          cases state.running with
          | none => rfl
          | some run => exact some_turnWithout (releaseGuard_without _)
  | resolving =>
      have same : (state.without omitted).currentPrincipal = state.currentPrincipal := rfl
      simp only [startTurn, startResolves, same]
      cases state.currentPrincipal with
      | ok principal => rfl
      | error failure => exact startFails_without _
  | registering principal =>
      have same : (state.without omitted).directory = state.directory := rfl
      have key : (state.without omitted).freshKey principal = state.freshKey principal := rfl
      rw [freshKey, freshKey] at key
      simp only [startTurn, startRegisters, same, key]
      generalize ServiceCredential.issue principal state.settings.appPrefix
        state.settings.keyValidityMonths.toNat state.now state.issued = fresh
      cases state.directory.register fresh with
      | ok directory => rfl
      | error failure =>
          exact startFails_without { state with issued := state.issued + 1 }
  | openingSource principal key =>
      have same : (state.without omitted).upstream = state.upstream := rfl
      simp only [startTurn, startOpensSource, same, settings]
      cases state.upstream.connect (clientId state.settings.clientHost) with
      | ok upstream => rfl
      | error failure => exact startFails_without _
  | openingSink principal key =>
      have same : (state.without omitted).downstream = state.downstream := rfl
      simp only [startTurn, startOpensSink, same]
      rcases state.downstream.connect key with ⟨_ | _, _⟩ <;> rfl
  | closingSource failure => exact startFails_without state.closeSource.1
  | discovering principal =>
      have same : (state.without omitted).listQueues = state.listQueues := rfl
      have scheme : (state.without omitted).scheme = state.scheme := rfl
      have runs : (state.without omitted).runs.length = state.runs.length := by simp [without]
      simp only [startTurn, startDiscovers, same, settings, scheme, runs]
      rcases Discovery.run state.scheme state.settings.queueOwner state.settings.queueKind
        state.listQueues with ⟨_ | _, _⟩
      · rfl
      · exact some_turnWithout addRun_without
  | installing run =>
      have gate : (state.without omitted).gateOf run = state.gateOf run := by
        simp only [gateOf, run?_without, Option.map_map]
        rfl
      simp only [startTurn, startInstalls, gate]
      rfl
  | startingBroker run =>
      have same : (state.without omitted).broker = state.broker := rfl
      have found : ((state.without omitted).run? run).getD (Run.fresh "" {}) =
          ((state.run? run).getD (Run.fresh "" {})).renumbered omitted := by
        rw [run?_without]
        cases state.run? run <;> rfl
      simp only [startTurn, startStartsBroker, same, found]
      cases state.broker.start with
      | ok broker =>
          exact some_turnWithout (releaseGuard_without { state with broker, running := some run })
      | error failure => exact some_turnWithout refuse_without
  | releasingSink failure => rfl
  | releasingSource failure => exact startFails_without state.closeSource.1
  | done result => rfl

/-- A job asks for the guard of a route, whoever has been left out. -/
theorem requestSlot_without :
    (state.requestSlot run place job).without omitted =
      (state.without omitted).requestSlot run place (renumber omitted job) :=
  modifySlot_without _ fun slot => by simp [RouteSlot.renumbered, Guard.renumbered_request]

theorem releaseSlot_without (state : State) :
    (state.releaseSlot run place).without omitted = (state.without omitted).releaseSlot run place :=
  modifySlot_without _ fun slot => by simp [RouteSlot.renumbered, Guard.renumbered_release]

theorem withdraw_without {relay : RelayId} :
    (state.withdraw run place relay).without omitted =
      (state.without omitted).withdraw run place relay := by
  have emptied : (state.modifySlot run place fun slot =>
      { slot with relay := none, guard := slot.guard.release }).without omitted =
        (state.without omitted).modifySlot run place fun slot =>
          { slot with relay := none, guard := slot.guard.release } :=
    modifySlot_without _ fun slot => by simp [RouteSlot.renumbered, Guard.renumbered_release]
  exact congrArg (fun next => next.modifyRelay relay fun found => { found with told := true }) emptied

theorem spawn_without {route : Route} {mailbox : MailboxId} :
    (state.spawn run place route mailbox).without omitted =
      (state.without omitted).spawn run place route mailbox :=
  modifySlot_without { state with relays := _ } fun slot => by
    simp [RouteSlot.renumbered, Guard.renumbered_release, without]

/-- A stop that remains makes the same turns. -/
theorem stopTurn_without {phase : StopPhase} (free : ∀ id ∈ state.guard.line, omitted id = false)
    (alone : ∀ {run place slot}, state.slot? run place = some slot →
      ∀ id ∈ slot.guard.line, omitted id = false)
    (stays : omitted job = false) :
    (state.without omitted).stopTurn (renumber omitted job) phase =
      (state.stopTurn job phase).map (turnWithout omitted) := by
  have held : (state.without omitted).guard.heldBy (renumber omitted job) =
      state.guard.heldBy job := Guard.heldBy_renumbered free stays
  cases phase with
  | arriving =>
      have asked : ({ state with guard := state.guard.request job } : State).without omitted =
          { state.without omitted with
            guard := (state.without omitted).guard.request (renumber omitted job) } := by
        simp [without, Guard.renumbered_request]
      exact some_turnWithout asked
  | queued =>
      have same : (state.without omitted).running = state.running := rfl
      simp only [stopTurn, held, stopEnters, same]
      cases state.guard.heldBy job with
      | false => rfl
      | true =>
          cases state.running with
          | none => exact some_turnWithout (releaseGuard_without _)
          | some run =>
              refine some_turnWithout (refuse_without.trans ?_)
              rw [releaseGuard_without]
              rfl
  | stoppingBroker run =>
      simp only [stopTurn, stopStopsBroker, places_without]
      rfl
  | approaching run places =>
      cases places with
      | nil => rfl
      | cons place ahead => exact some_turnWithout requestSlot_without
  | claiming run place ahead =>
      simp only [stopTurn, slot?_without]
      cases found : state.slot? run place with
      | none => rfl
      | some slot =>
          have mine : (slot.renumbered omitted).guard.heldBy (renumber omitted job) =
              slot.guard.heldBy job := Guard.heldBy_renumbered (alone found) stays
          simp only [Option.map_some, Option.bind_eq_bind, Option.bind_some, mine]
          cases slot.guard.heldBy job with
          | false => rfl
          | true =>
              have same : (slot.renumbered omitted).relay = slot.relay := rfl
              simp only [stopClaims, same]
              cases slot.relay with
              | none => exact some_turnWithout (releaseSlot_without _)
              | some relay => exact some_turnWithout withdraw_without
  | joining run place relay ahead =>
      have same : (state.without omitted).hasEnded relay = state.hasEnded relay := rfl
      simp only [stopTurn, same, stopJoins, route?_without]
      cases state.hasEnded relay with
      | false => rfl
      | true => exact some_turnWithout (modifySlot_without _ fun _ => rfl)
  | closingSink => rfl
  | closingSource => rfl
  | done => rfl

theorem activationAt_without :
    (state.without omitted).activationAt run place = (state.activationAt run place).map
      fun (found, route, slot) => (found.renumbered omitted, route, slot.renumbered omitted) := by
  simp only [activationAt, run?_without]
  cases state.run? run with
  | none => rfl
  | some found =>
      have table : (found.renumbered omitted).table = found.table := rfl
      have slots : (found.renumbered omitted).slots[place]? =
          found.slots[place]?.map (RouteSlot.renumbered omitted) := List.getElem?_map
      simp only [Option.map_some, Option.bind_eq_bind, Option.bind_some, table, slots]
      cases found.table.routes[place]? <;> cases found.slots[place]? <;> rfl

/-- An activation that remains makes the same turns. -/
theorem activationTurn_without {topic : String} {phase : ActivationPhase}
    (alone : ∀ {run place slot}, state.slot? run place = some slot →
      ∀ id ∈ slot.guard.line, omitted id = false)
    (stays : omitted job = false) :
    (state.without omitted).activationTurn (renumber omitted job) run topic phase =
      (state.activationTurn job run topic phase).map (turnWithout omitted) := by
  have upstream : (state.without omitted).upstream = state.upstream := rfl
  have clock : (state.without omitted).clock = state.clock := rfl
  cases phase with
  | resolving =>
      have look : ((state.without omitted).run? run).map (·.table.positions topic) =
          (state.run? run).map (·.table.positions topic) := by
        rw [run?_without, Option.map_map]
        rfl
      simp only [activationTurn, look]
      generalize (state.run? run).map (fun found => found.table.positions topic) = looked
      rcases looked with _ | _ | _ <;> rfl
  | approaching places =>
      cases places with
      | nil => rfl
      | cons place ahead =>
          simp only [activationTurn, activationAt_without]
          cases state.activationAt run place with
          | none => rfl
          | some here => exact some_turnWithout requestSlot_without
  | queued place ahead =>
      simp only [activationTurn, activationAt_without]
      cases there : state.activationAt run place with
      | none => rfl
      | some here =>
          obtain ⟨found, route, slot⟩ := here
          have mine : (slot.renumbered omitted).guard.heldBy (renumber omitted job) =
              slot.guard.heldBy job :=
            Guard.heldBy_renumbered (alone (activationAt_eq_some there).2.1) stays
          have relay : (slot.renumbered omitted).relay = slot.relay := rfl
          have accepting : (found.renumbered omitted).accepting = found.accepting := rfl
          simp only [Option.map_some, Option.bind_eq_bind, Option.bind_some, mine,
            activationClaims, relay, accepting, clock, upstream]
          cases slot.guard.heldBy job with
          | false => rfl
          | true =>
              cases slot.relay with
              | some relay => exact some_turnWithout (releaseSlot_without _)
              | none =>
                  cases found.accepting with
                  | false => exact some_turnWithout (releaseSlot_without _)
                  | true => rfl
  | connecting place ahead due =>
      simp only [activationTurn, activationAt_without, clock]
      cases state.activationAt run place with
      | none => rfl
      | some here =>
          obtain ⟨found, route, slot⟩ := here
          have same : (state.without omitted).subscription route = state.subscription route := rfl
          simp only [Option.map_some, Option.bind_eq_bind, Option.bind_some, activationConnects,
            upstream, same]
          by_cases late : due ≤ state.clock
          · simp only [late, if_true]
            rcases state.upstream.consume (state.subscription route) with ⟨_ | _, between⟩
            · exact some_turnWithout (releaseSlot_without { state with upstream := between })
            · rfl
          · simp only [late, if_false]
            rfl
  | producing place ahead mailbox opened wanted =>
      cases wanted with
      | nil =>
          simp only [activationTurn, activationAt_without]
          cases state.activationAt run place with
          | none => rfl
          | some here => exact some_turnWithout spawn_without
      | cons label wanted =>
          have same : (state.without omitted).downstream = state.downstream := rfl
          simp only [activationTurn, activationProduces, same]
          cases state.downstream.produce label <;> rfl
  | undoing place mailbox opened failure =>
      simp only [activationTurn, activationAt_without]
      cases state.activationAt run place with
      | none => rfl
      | some here =>
          cases opened with
          | nil =>
              exact some_turnWithout (releaseSlot_without { state with upstream := _ })
          | cons label opened => rfl

/-- An attachment that remains makes the same turns. -/
theorem attachTurn_without {topic : String} {phase : AttachPhase}
    (alone : ∀ {run place slot}, state.slot? run place = some slot →
      ∀ id ∈ slot.guard.line, omitted id = false)
    (stays : omitted job = false) :
    (state.without omitted).attachTurn (renumber omitted job) topic phase =
      (state.attachTurn job topic phase).map (turnWithout omitted) := by
  have broker : (state.without omitted).broker = state.broker := rfl
  cases phase with
  | presenting credential =>
      have directory : (state.without omitted).directory = state.directory := rfl
      have now : (state.without omitted).now = state.now := rfl
      simp only [attachTurn, broker, directory, now]
      cases state.broker.isStarted with
      | false => rfl
      | true =>
          rcases state.broker.authorize state.directory state.now credential .consume with
            ⟨_ | _, _⟩ <;> rfl
  | entering =>
      simp only [attachTurn, broker]
      cases state.broker.isStarted <;> cases state.broker.hooks <;> rfl
  | activating run phase =>
      simp only [attachTurn, activationTurn_without alone stays]
      cases state.activationTurn job run topic phase <;> rfl
  | done result => rfl

theorem relayReceives_without {relay : RelayId} {found : Relay} :
    (state.without omitted).relayReceives relay found =
      (state.relayReceives relay found).map fun turn => (turn.1.without omitted, turn.2) := by
  have same : (state.without omitted).upstream = state.upstream := rfl
  simp only [relayReceives, same]
  rcases state.upstream.peek found.mailbox with _ | (_ | _) | _ <;> rfl

/-- Relays take no notice of calls. -/
theorem relayTurn_without {relay : RelayId} {heed : Bool} :
    (state.without omitted).relayTurn relay heed =
      (state.relayTurn relay heed).map fun turn => (turn.1.without omitted, turn.2) := by
  have same : (state.without omitted).relays = state.relays := rfl
  have downstream : (state.without omitted).downstream = state.downstream := rfl
  have clock : (state.without omitted).clock = state.clock := rfl
  simp only [relayTurn, same, relayReceives_without, relaySends, downstream, clock]
  cases state.relays[relay]? with
  | none => rfl
  | some found =>
      cases phase : found.phase with
      | listening =>
          simp only [phase]
          split
          · rfl
          · cases state.relayReceives relay found with
            | some turn => rfl
            | none => cases found.told <;> rfl
      | forwarding messageId payload topics =>
          cases topics with
          | nil => simp only [phase]; rfl
          | cons topic topics =>
              simp only [phase]
              cases state.downstream.send topic payload <;> rfl
      | backingOff due =>
          simp only [phase]
          split
          · rfl
          · split <;> rfl
      | closingConsumer => simp only [phase]; rfl
      | closingProducers topics => cases topics <;> simp only [phase] <;> rfl
      | ended => simp only [phase]; rfl

/-! ## Moves -/

theorem rescript_without {names : Option (List String)} {principal : Option (Option String)} :
    (state.rescript names principal).without omitted =
      (state.without omitted).rescript names principal := by
  have same : (state.without omitted).catalog = state.catalog := rfl
  simp only [rescript, same]
  cases state.catalog.source <;> rfl

/-- What others do does not touch the calls. -/
theorem change_without {change : Change} :
    (state.change change).without omitted = (state.without omitted).change change := by
  cases change with
  | switch fault on => cases fault <;> rfl
  | setNames names => exact rescript_without
  | setPrincipal principal => exact rescript_without
  | _ => rfl

theorem setJob_without {next : Job} (stays : omitted job = false) :
    (state.setJob job next).without omitted =
      (state.without omitted).setJob (renumber omitted job) next := by
  simp only [setJob, without, remaining_set stays]

/-- The turn of a call that is left out makes no difference to the others. -/
theorem setJob_without_of_omitted {next : Job} (out : omitted job = true) :
    (state.setJob job next).without omitted = state.without omitted := by
  simp only [setJob, without, remaining_set_of_omitted out]

/-- A run that nobody has hold of is not held either when some calls are left out. -/
theorem holds_without (free : state.holds run = false) :
    (state.without omitted).holds run = false := by
  simp only [holds, without, Bool.or_eq_false_iff, List.any_eq_false] at free ⊢
  exact ⟨free.1, fun job among => free.2 job (mem_of_mem_remaining among)⟩

/-- No call in a line has been left out. -/
structure Unobstructed (state : State) (omitted : JobId → Bool) : Prop where
  bridge : ∀ id ∈ state.guard.line, omitted id = false
  routes : ∀ {run place slot}, state.slot? run place = some slot →
    ∀ id ∈ slot.guard.line, omitted id = false

/-- **A call that remains makes the same turns.** -/
theorem jobTurn_without (clear : state.Unobstructed omitted) (stays : omitted job = false) :
    (state.without omitted).jobTurn (renumber omitted job) =
      (state.jobTurn job).map fun turn => (turn.1.without omitted, turn.2) := by
  have same : (state.without omitted).jobs[renumber omitted job]? = state.jobs[job]? :=
    getElem?_remaining stays state.jobs
  simp only [jobTurn, same]
  cases state.jobs[job]? with
  | none => rfl
  | some found =>
      cases found with
      | start phase =>
          simp only [startTurn_without clear.bridge stays, Option.map_map, turnWithout,
            Function.comp_def, setJob_without stays]
      | stop phase =>
          simp only [stopTurn_without clear.bridge clear.routes stays, Option.map_map, turnWithout,
            Function.comp_def, setJob_without stays]
      | attach topic phase =>
          simp only [attachTurn_without clear.routes stays, Option.map_map, turnWithout,
            Function.comp_def, setJob_without stays]

end State

/-- A move, with calls known by their new numbers. -/
def Move.renumbered (omitted : JobId → Bool) : Move → Move
  | .job id => .job (renumber omitted id)
  | move => move

/-- Whether a move is the arrival or a turn of a call that is left out. -/
def State.omits (state : State) (omitted : JobId → Bool) : Move → Bool
  | .job id => omitted id
  | .arrive _ => omitted state.jobs.length
  | _ => false

/-- **Every other move can be made without the calls that are left out.**  It lets others see the
same, and leads to the same state but for these calls. -/
theorem State.step_without {state next : State} {move : Move} {effects : List Effect}
    (clear : state.Unobstructed omitted) (stays : state.omits omitted move = false)
    (step : state.step move = some (next, effects)) :
    (state.without omitted).step (move.renumbered omitted) =
      some (next.without omitted, effects) := by
  cases move with
  | job job =>
      exact (jobTurn_without clear stays).trans (congrArg (Option.map _) step)
  | relay relay heed => exact relayTurn_without.trans (congrArg (Option.map _) step)
  | forget run =>
      cases step_cases step with
      | forget free =>
          simp only [State.step, Move.renumbered, holds_without free]
          rfl
  | arrive request =>
      have kept : omitted state.jobs.length = false := stays
      cases step
      simp [State.step, Move.renumbered, arrive, without, remaining_concat, kept]
  | change change =>
      cases step
      simp [State.step, Move.renumbered, change_without]
  | closeSource =>
      cases step
      rfl
  | closeSink =>
      cases step
      rfl
  | wait milliseconds =>
      cases step
      rfl

end TopicRelay
