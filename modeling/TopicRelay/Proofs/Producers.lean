import Mathlib.Algebra.GroupWithZero.Nat
import TopicRelay.Proofs.Routing

/-!
# Who holds the open producers

Every open producer was opened for a route, and is held by the call that is starting the
route or by the relay of the route, until one of the two closes it.  `Accounting` says that
the producers that are open are exactly those that are held, each as often as it was
opened; so every open producer is held for some run (`Accounting.produces`).
-/

namespace TopicRelay

set_option autoImplicit false

/-! ## Sums over lists -/

theorem sum_map_set {α : Type} (weight : α → Nat) {items : List α} {index : Nat} {before : α}
    (after : α) (present : items[index]? = some before) :
    ((items.set index after).map weight).sum + weight before =
      (items.map weight).sum + weight after := by
  induction items generalizing index with
  | nil => simp at present
  | cons item items ih =>
      cases index with
      | zero =>
          cases present
          simp only [List.set_cons_zero, List.map_cons, List.sum_cons]
          omega
      | succ index =>
          have rest := ih (show items[index]? = some before by simpa using present)
          simp only [List.set_cons_succ, List.map_cons, List.sum_cons]
          omega

theorem modify_eq_set {α : Type} {items : List α} {index : Nat} {before : α} (change : α → α)
    (present : items[index]? = some before) :
    items.modify index change = items.set index (change before) := by
  have : Inhabited α := ⟨before⟩
  rw [List.modify_eq_set, present, Option.getD_some]

/-! ## Producers that are held -/

theorem producers_produce {downstream produced : Downstream} {topic : String}
    (opened : downstream.produce topic = .ok produced) :
    produced.producers = downstream.producers ++ [topic] := by
  unfold Downstream.produce at opened
  split at opened
  · cases opened
  · split at opened
    · cases opened
    · split at opened <;> cases opened
      rfl

theorem producers_send {downstream sent : Downstream} {topic payload : String}
    (accepted : downstream.send topic payload = .ok sent) :
    sent.producers = downstream.producers := by
  unfold Downstream.send at accepted
  split at accepted <;> cases accepted
  rfl

theorem producers_connect {downstream next : Downstream} {key : ServiceCredential}
    {outcome : Except TransportFailure Unit} (answer : downstream.connect key = (outcome, next)) :
    next.producers = downstream.producers := by
  unfold Downstream.connect at answer
  dsimp only at answer
  split at answer <;> cases answer <;> rfl

/-- The topics of the producers that a job has opened and neither handed on nor closed. -/
def Job.producers : Job → List String
  | .attach _ (.activating _ (.producing _ _ _ opened _)) => opened
  | .attach _ (.activating _ (.undoing _ _ opened _)) => opened
  | _ => []

/-- The topics of the producers that a relay has not closed. -/
def Relay.producers (relay : Relay) : List String :=
  match relay.phase with
  | .closingProducers topics => topics
  | .ended => []
  | _ => relay.topics

theorem Relay.producers_of_attends {relay : Relay} (attends : relay.phase.attends = true) :
    relay.producers = relay.topics := by
  unfold Relay.producers
  split
  · rename_i phase
    simp [phase, RelayPhase.attends] at attends
  · rename_i phase
    simp [phase, RelayPhase.attends] at attends
  · rfl

theorem Job.producers_eq_nil_of_claims? {job : Job} (idle : job.claims? = none) :
    job.producers = [] := by
  unfold Job.producers
  split <;> first | rfl | cases idle

/-- A call that is starting a route of a run, or a relay of the run, holds a producer. -/
def State.Produces (state : State) (run : RunId) (topic : String) : Prop :=
  (∃ (job : JobId) (found : Job) (place : Place), state.jobs[job]? = some found ∧
      found.claims? = some (run, place) ∧ topic ∈ found.producers) ∨
    ∃ (relay : RelayId) (found : Relay), state.relays[relay]? = some found ∧ found.run = run ∧
      topic ∈ found.producers

/-- How many producers are held for a topic. -/
def State.held (state : State) (topic : String) : Nat :=
  (state.jobs.map fun job => job.producers.count topic).sum +
    (state.relays.map fun relay => relay.producers.count topic).sum

/-- As many producers are open for each topic as are held. -/
def State.Balanced (state : State) : Prop :=
  ∀ topic, state.downstream.producers.count topic = state.held topic

/-- The open producers are those that are held. -/
structure Accounting (state : State) : Prop where
  balanced : state.Balanced
  /-- The producers that are open and those that are wanted are those of the route. -/
  complete : ∀ {job : JobId} {topic run place ahead mailbox opened wanted},
    state.jobs[job]? =
        some (.attach topic (.activating run (.producing place ahead mailbox opened wanted))) →
      ∃ route, state.route? run place = some route ∧ opened ++ wanted = route.topics

namespace Accounting

variable {state next : State} {move : Move} {effects : List Effect}

theorem of_unused (unused : state.Unused) : Accounting state where
  balanced := fun topic => by simp [State.held, unused.jobs, unused.relays, unused.producers]
  complete := fun present => by simp [unused.jobs] at present

/-- A job goes on with its producers. -/
theorem balanced_setJob {job : JobId} {before after : Job} (balanced : state.Balanced)
    (present : state.jobs[job]? = some before) (jobs : next.jobs = state.jobs)
    (relays : next.relays = state.relays)
    (changes : ∀ topic, next.downstream.producers.count topic + before.producers.count topic =
      state.downstream.producers.count topic + after.producers.count topic) :
    (next.setJob job after).Balanced := by
  intro topic
  have balance := balanced topic
  have change := changes topic
  have sum := sum_map_set (fun job : Job => job.producers.count topic) after present
  simp only [State.held, State.setJob, jobs, relays] at balance sum change ⊢
  omega

/-- A relay goes on with its producers. -/
theorem balanced_modifyRelay {relay : RelayId} {found : Relay} {change : Relay → Relay}
    (balanced : state.Balanced) (present : state.relays[relay]? = some found)
    (jobs : next.jobs = state.jobs) (relays : next.relays = state.relays)
    (changes : ∀ topic, next.downstream.producers.count topic + found.producers.count topic =
      state.downstream.producers.count topic + (change found).producers.count topic) :
    (next.modifyRelay relay change).Balanced := by
  intro topic
  have balance := balanced topic
  have moved := changes topic
  have sum := sum_map_set (fun relay : Relay => relay.producers.count topic) (change found)
    present
  simp only [State.held, State.modifyRelay, jobs, relays, modify_eq_set change present]
    at balance sum moved ⊢
  omega

/-- A move that opens and closes no producers. -/
theorem balanced_congr (balanced : state.Balanced)
    (producers : next.downstream.producers = state.downstream.producers)
    (jobs : next.jobs = state.jobs) (relays : next.relays = state.relays) : next.Balanced := by
  intro topic
  simpa only [State.held, producers, jobs, relays] using balanced topic

/-- Relays that are told to stop keep their producers. -/
theorem balanced_tellRelays {run : RunId} (balanced : state.Balanced) :
    (state.tellRelays run).Balanced := by
  intro topic
  have balance := balanced topic
  simp only [State.held] at balance ⊢
  rw [State.map_tellRelays (fun relay => relay.producers.count topic) fun _ => rfl]
  exact balance

/-- A producer that a job holds is open. -/
theorem count_job_le {job : JobId} {found : Job} (balanced : state.Balanced)
    (present : state.jobs[job]? = some found) (topic : String) :
    found.producers.count topic ≤ state.downstream.producers.count topic := by
  have balance := balanced topic
  have sum := sum_map_set (fun job : Job => job.producers.count topic) (.stop .done) present
  have none : (Job.stop .done).producers = [] := rfl
  simp only [State.held, none, List.count_nil] at balance sum
  omega

/-- A producer that a relay holds is open. -/
theorem count_relay_le {relay : RelayId} {found : Relay} (balanced : state.Balanced)
    (present : state.relays[relay]? = some found) (topic : String) :
    found.producers.count topic ≤ state.downstream.producers.count topic := by
  have balance := balanced topic
  have sum := sum_map_set (fun relay : Relay => relay.producers.count topic)
    { found with phase := .ended } present
  have none : Relay.producers { found with phase := .ended } = [] := rfl
  simp only [State.held, none, List.count_nil] at balance sum
  omega

/-- One of the producers of a topic is closed. -/
theorem count_closeProducer (downstream : Downstream) (label topic : String)
    (bound : 0 < downstream.producers.count label) :
    (downstream.closeProducer label).producers.count topic + [label].count topic =
      downstream.producers.count topic := by
  rw [Downstream.closeProducer, List.count_erase, List.count_singleton]
  by_cases same : label = topic
  · subst same
    simp only [beq_self_eq_true, if_true]
    omega
  · simp [same]

/-- The turn of an activation. -/
theorem balanced_activates {job : JobId} {run : RunId} {label : String} {phase : ActivationPhase}
    {advance : Advance ActivationPhase (Except ActivationFailure Unit)} (kept : Accounting state)
    (present : state.jobs[job]? = some (.attach label (.activating run phase)))
    (turn : Activates state job run label phase advance next effects) :
    (next.setJob job (.attach label (State.attachAfter run advance))).Balanced := by
  cases turn with
  | @produced place ahead mailbox opened wanted added downstream produced =>
      refine balanced_setJob kept.balanced present rfl rfl fun topic => ?_
      simp only [producers_produce produced, Job.producers, State.attachAfter, List.count_append]
      omega
  | @spawned place ahead mailbox opened route here =>
      -- What the job has opened is what the route publishes, so the relay holds the same.
      obtain ⟨_, there, all⟩ := kept.complete present
      cases here.symm.trans there
      intro topic
      have balance := kept.balanced topic
      have sum := sum_map_set (fun job : Job => job.producers.count topic)
        (.attach label (State.attachAfter run (.next (.approaching ahead)))) present
      simp only [State.held, State.setJob, State.spawn, State.modifySlot, State.modifyRun,
        State.attachAfter, Job.producers, List.map_append, List.sum_append, List.map_cons,
        List.map_nil, List.sum_singleton, List.count_nil] at balance sum ⊢
      rw [List.append_nil] at all
      have given : (State.newRelay run place route mailbox).producers = opened := all.symm
      rw [given]
      omega
  | @producerUndone place mailbox opened failure added =>
      refine balanced_setJob kept.balanced present rfl rfl fun topic => ?_
      have bound := count_job_le kept.balanced present added
      have closed := count_closeProducer state.downstream added topic
        (by simp only [Job.producers, List.count_cons_self] at bound; omega)
      simp only [Job.producers, State.attachAfter]
      rw [← List.singleton_append, List.count_append]
      omega
  | _ => exact balanced_setJob kept.balanced present rfl rfl fun _ => rfl

/-- The turn of a relay. -/
theorem balanced_forwards {relay : RelayId} {found : Relay} (kept : Accounting state)
    (present : state.relays[relay]? = some found)
    (turn : Forwards state relay found next effects) : next.Balanced := by
  have onward : ∀ {middle : State} {change : Relay → Relay},
      middle.jobs = state.jobs → middle.relays = state.relays →
        middle.downstream.producers = state.downstream.producers →
          (change found).producers = found.producers → (middle.modifyRelay relay change).Balanced :=
    fun jobs relays producers same => balanced_modifyRelay kept.balanced present jobs relays
      fun topic => by rw [producers, same]
  have listens : found.phase.attends = true → ∀ {after : Relay}, after.topics = found.topics →
      after.phase.attends = true → after.producers = found.producers := by
    intro attends after topics still
    rw [Relay.producers_of_attends attends, Relay.producers_of_attends still, topics]
  cases turn with
  | heeded _ phase =>
      have attends : found.phase.attends = true := by
        rcases phase with phase | ⟨due, phase⟩ <;> simp [phase, RelayPhase.attends]
      exact onward rfl rfl rfl (listens attends rfl rfl)
  | sourceEnded phase _ => exact onward rfl rfl rfl (listens (by rw [phase]; rfl) rfl rfl)
  | received phase _ =>
      exact onward rfl rfl rfl (listens (by rw [phase]; rfl) rfl (attends_forwardingOn ..))
  | failed phase _ => exact onward rfl rfl rfl (listens (by rw [phase]; rfl) rfl rfl)
  | sentAll phase => exact onward rfl rfl rfl (listens (by rw [phase]; rfl) rfl rfl)
  | sent phase accepted =>
      exact onward rfl rfl (producers_send accepted)
        (listens (by rw [phase]; rfl) rfl (attends_forwardingOn ..))
  | notSent phase _ =>
      exact onward rfl rfl rfl (listens (by rw [phase]; rfl) rfl (attends_forwardingOn ..))
  | resumed phase _ => exact onward rfl rfl rfl (listens (by rw [phase]; rfl) rfl rfl)
  | consumerClosed phase => exact onward rfl rfl rfl (by simp [Relay.producers, phase])
  | @producerClosed label topics phase =>
      refine balanced_modifyRelay kept.balanced present rfl rfl fun topic => ?_
      have holds : found.producers = label :: topics := by simp [Relay.producers, phase]
      have bound := count_relay_le kept.balanced present label
      have closed := count_closeProducer state.downstream label topic
        (by simp only [holds, List.count_cons_self] at bound; omega)
      rw [holds, ← List.singleton_append, List.count_append]
      simp only [Relay.producers]
      omega
  | ended phase => exact onward rfl rfl rfl (by simp [Relay.producers, phase])

/-- **Every move keeps the balance.** -/
theorem balanced_step {move : Move} (kept : Accounting state) (own : Ownership state)
    (moved : Moves state move next effects) : next.Balanced := by
  cases moved with
  | start present turn =>
      refine balanced_setJob kept.balanced present turn.jobs (by cases turn <;> rfl) fun topic => ?_
      cases turn with
      | sinkOpened answer => simp only [producers_connect answer, Job.producers]
      | sinkUnopened answer => simp only [producers_connect answer, Job.producers]
      | _ => rfl
  | stop present turn =>
      cases turn with
      | @routeClaimed run place ahead slot relay found held occupied =>
          obtain ⟨there, was, _⟩ := own.occupied found occupied
          have told : (state.withdraw run place relay).Balanced :=
            balanced_modifyRelay kept.balanced was rfl rfl fun _ => rfl
          exact balanced_setJob told present rfl rfl fun _ => rfl
      | _ => exact balanced_setJob kept.balanced present rfl rfl fun _ => rfl
  | attach present turn =>
      cases turn with
      | activated turn => exact kept.balanced_activates present turn
      | _ => exact balanced_setJob kept.balanced present rfl rfl fun _ => rfl
  | relay present turn => exact kept.balanced_forwards present turn
  | forget _ => exact balanced_tellRelays kept.balanced
  | @arrive request =>
      intro topic
      have balance := kept.balanced topic
      have idle : request.job.producers = [] := by cases request <;> rfl
      simpa [State.held, State.arrive, idle] using balance
  | @change change =>
      have outside := change_fromOutside state change
      exact balanced_congr kept.balanced outside.producers outside.jobs outside.relays
  | _ => exact balanced_congr kept.balanced rfl rfl rfl

/-- A job opens its producers in the order of its route, and leaves none out. -/
theorem complete_step {move : Move} {job : JobId} {topic : String} {run : RunId} {place : Place}
    {ahead : List Place} {mailbox : MailboxId} {opened wanted : List String}
    (kept : Accounting state) (moved : Moves state move next effects)
    (present : next.jobs[job]? =
      some (.attach topic (.activating run (.producing place ahead mailbox opened wanted)))) :
    ∃ route, next.route? run place = some route ∧ opened ++ wanted = route.topics := by
  have onward : ∀ {opened wanted : List String},
      state.jobs[job]? =
          some (.attach topic (.activating run (.producing place ahead mailbox opened wanted))) →
        ∃ route, next.route? run place = some route ∧ opened ++ wanted = route.topics := by
    intro opened wanted was
    obtain ⟨route, here, all⟩ := kept.complete was
    exact ⟨route, moved.route? here, all⟩
  rcases moved.jobs_origin present with was | rfl | ⟨request, _, same⟩
  · exact onward was
  · obtain ⟨phase, middle, was, turn, rfl⟩ := moved.to_attach present
    generalize goes : AttachPhase.activating run (.producing place ahead mailbox opened wanted) =
      after at turn
    cases turn with
    | @activated there phase advance middle effects turn =>
        cases turn with
        | connected here consumed =>
            cases goes
            exact ⟨_, moved.route? here, rfl⟩
        | produced _ =>
            cases goes
            obtain ⟨route, here, all⟩ := onward was
            exact ⟨route, here, by rw [← all, List.append_assoc, List.singleton_append]⟩
        | _ => cases goes
    | _ => cases goes
  · cases request <;> cases same

/-- **Every move keeps the invariant.** -/
theorem step {move : Move} (kept : Accounting state) (own : Ownership state)
    (moved : Moves state move next effects) : Accounting next where
  balanced := kept.balanced_step own moved
  complete := kept.complete_step moved

/-- **Every open producer is held for some run.** -/
theorem produces (kept : Accounting state) {topic : String}
    (isOpen : topic ∈ state.downstream.producers) : ∃ run, state.Produces run topic := by
  have balance := kept.balanced topic
  have opened := List.count_pos_iff.mpr isOpen
  rw [balance, State.held, Nat.add_pos_iff_pos_or_pos, List.sum_pos_iff_exists_pos_nat,
    List.sum_pos_iff_exists_pos_nat] at opened
  rcases opened with ⟨count, among, positive⟩ | ⟨count, among, positive⟩
  · obtain ⟨found, member, rfl⟩ := List.mem_map.mp among
    obtain ⟨job, present⟩ := List.mem_iff_getElem?.mp member
    have holds := List.count_pos_iff.mp positive
    cases claims : found.claims? with
    | none => simp [Job.producers_eq_nil_of_claims? claims] at holds
    | some site => exact ⟨site.1, .inl ⟨job, found, site.2, present, claims, holds⟩⟩
  · obtain ⟨found, member, rfl⟩ := List.mem_map.mp among
    obtain ⟨relay, present⟩ := List.mem_iff_getElem?.mp member
    exact ⟨found.run, .inr ⟨relay, found, present, rfl, List.count_pos_iff.mp positive⟩⟩

end Accounting

/-- The invariant holds after every history. -/
theorem History.accounting {first now : State} {past : List Occurrence}
    (history : History first past now) (unused : first.Unused) : Accounting now := by
  induction history with
  | start => exact .of_unused unused
  | move before step ih => exact ih.step (before.ownership unused) (step_cases step)

end TopicRelay
