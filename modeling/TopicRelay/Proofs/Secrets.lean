import TopicRelay.Proofs.Authorization
import TopicRelay.Proofs.Refusals

/-!
# What secrets decide

A secret only decides whether it proves a name.  What a client is told, what is reported of it, the
principal that it is taken for and everything that happens to the routes are the same for all
secrets that prove the name, and the same for all that do not.

`State.exchanged` puts other secrets into the calls that have still to present theirs.  The turns of
all other calls take no notice of that, and the turn in which a secret is presented comes out the
same if the other secret is as good (`State.step_exchanged`); so the same history takes place with
the other secrets (`History.secrets_only_admit`).
-/

namespace TopicRelay

set_option autoImplicit false

/-! ## Secrets that prove a name -/

namespace Directory

/-- A secret proves a name at an instant: by a stored key of that principal which has not expired,
or as the password in the first row of the name. -/
def Vouches (directory : Directory) (now : Instant) (name : String) (secret : Secret) : Prop :=
  (∃ entry ∈ directory.keys, entry.2.principal = name ∧ entry.2.secret = secret ∧
      now.isBefore entry.2.expiresAt = true) ∨
    ∃ row, directory.document.FirstRow name row ∧ .chosen row.password = secret

/-- Both secrets prove a name at an instant or neither does.  A directory that is unavailable has no
way to tell. -/
def Equates (directory : Directory) (now : Instant) (name : String) (left right : Secret) : Prop :=
  directory.unavailable = false →
    (directory.Vouches now name left ↔ directory.Vouches now name right)

/-- What a name is refused with whose secret does not prove it. -/
def refusal (directory : Directory) (name : String) : IdentityFailure :=
  if (directory.row? name).isSome then .invalidSecret name else .unknownPrincipal name

variable {directory : Directory} {now : Instant} {name : String} {secret left right : Secret}

theorem validate_of_vouches (available : directory.unavailable = false)
    (vouched : directory.Vouches now name secret) :
    directory.validate now ⟨name, secret⟩ =
      .ok ⟨name, Names.ofList (directory.rolesOf name)⟩ := by
  rw [validate_eq_ok_iff]
  refine ⟨available, vouched.imp ?_ ?_, rfl⟩
  · rintro ⟨entry, among, accepted⟩
    exact ⟨entry, among, RegisteredKey.accepts_iff.mpr accepted⟩
  · rintro ⟨row, first, chosen⟩
    exact ⟨row, row?_eq_some_iff.mpr first, chosen⟩

theorem validate_of_not_vouches (available : directory.unavailable = false)
    (unproved : ¬directory.Vouches now name secret) :
    directory.validate now ⟨name, secret⟩ = .error (directory.refusal name) := by
  obtain ⟨noKey, noRow⟩ := not_or.mp unproved
  have unknown : ¬(directory.keys.any fun entry => entry.2.accepts now ⟨name, secret⟩) = true := by
    rw [List.any_eq_true]
    rintro ⟨entry, among, accepted⟩
    exact noKey ⟨entry, among, RegisteredKey.accepts_iff.mp accepted⟩
  rw [validate, available, if_neg Bool.false_ne_true, if_neg unknown, refusal]
  cases found : directory.row? name with
  | none => rfl
  | some row =>
      exact if_neg fun chosen => noRow ⟨row, row?_eq_some_iff.mp found, chosen⟩

/-- **A directory only tells secrets that prove a name from those that do not.** -/
theorem validate_congr (same : directory.Equates now name left right) :
    directory.validate now ⟨name, left⟩ = directory.validate now ⟨name, right⟩ := by
  cases available : directory.unavailable with
  | true => simp only [validate, available, if_true]
  | false =>
      by_cases vouched : directory.Vouches now name left
      · rw [validate_of_vouches available vouched,
          validate_of_vouches available ((same available).mp vouched)]
      · rw [validate_of_not_vouches available vouched,
          validate_of_not_vouches available (mt (same available).mpr vouched)]

/-- Two secrets are alike if both are accepted or neither is. -/
theorem equates_iff :
    directory.Equates now name left right ↔
      (directory.validate now ⟨name, left⟩).isOk = (directory.validate now ⟨name, right⟩).isOk := by
  constructor
  · intro same
    rw [validate_congr same]
  · intro same available
    have accepts : ∀ secret, (directory.validate now ⟨name, secret⟩).isOk = true ↔
        directory.Vouches now name secret := by
      intro secret
      by_cases vouched : directory.Vouches now name secret
      · simp [validate_of_vouches available vouched, vouched, Except.isOk, Except.toBool]
      · simp [validate_of_not_vouches available vouched, vouched, Except.isOk, Except.toBool]
    rw [← accepts, ← accepts, same]

instance : Decidable (directory.Equates now name left right) :=
  decidable_of_iff _ equates_iff.symm

end Directory

section

variable {directory : Directory} {now : Instant} {name : String} {left right : Secret}

theorem Gate.authenticate_congr (same : directory.Equates now name left right) :
    authenticate directory now ⟨name, left⟩ = authenticate directory now ⟨name, right⟩ := by
  rw [authenticate, authenticate, Directory.validate_congr same]

theorem Gate.check_congr (same : directory.Equates now name left right) (gate : Gate)
    (action : Action) :
    gate.check directory now ⟨name, left⟩ action =
      gate.check directory now ⟨name, right⟩ action := by
  rw [check, check, authenticate_congr same]

theorem Broker.authorize_congr (same : directory.Equates now name left right) (broker : Broker)
    (action : Action) :
    broker.authorize directory now ⟨name, left⟩ action =
      broker.authorize directory now ⟨name, right⟩ action := by
  rw [authorize, authorize]
  cases broker.hooks with
  | none => rfl
  | some hooks => exact Gate.check_congr same hooks.gate action

end

/-! ## Turns take no notice of other calls -/

namespace State

/-- A state in which other calls are under way. -/
def withJobs (jobs : List Job) (state : State) : State := { state with jobs := jobs }

/-- What a turn leads to where other calls are under way. -/
def turnWithJobs {φ : Type} (jobs : List Job) (turn : φ × State × List Effect) :
    φ × State × List Effect :=
  (turn.1, turn.2.1.withJobs jobs, turn.2.2)

section

variable {jobs : List Job} {job : JobId} (state : State)

theorem startTurn_withJobs (phase : StartPhase) :
    (state.withJobs jobs).startTurn job phase =
      (state.startTurn job phase).map (turnWithJobs jobs) := by
  have settings : (state.withJobs jobs).settings = state.settings := rfl
  cases phase with
  | queued =>
      have held : (state.withJobs jobs).guard.heldBy job = state.guard.heldBy job := rfl
      have running : (state.withJobs jobs).running = state.running := rfl
      simp only [startTurn, startEnters, held, running]
      cases state.guard.heldBy job <;> cases state.running <;> rfl
  | resolving =>
      have same : (state.withJobs jobs).currentPrincipal = state.currentPrincipal := rfl
      simp only [startTurn, startResolves, same]
      cases state.currentPrincipal <;> rfl
  | registering principal =>
      have same : (state.withJobs jobs).directory = state.directory := rfl
      have key : (state.withJobs jobs).freshKey principal = state.freshKey principal := rfl
      rw [freshKey, freshKey] at key
      simp only [startTurn, startRegisters, same, key]
      generalize ServiceCredential.issue principal state.settings.appPrefix
        state.settings.keyValidityMonths.toNat state.now state.issued = fresh
      cases state.directory.register fresh <;> rfl
  | openingSource principal key =>
      have same : (state.withJobs jobs).upstream = state.upstream := rfl
      simp only [startTurn, startOpensSource, same, settings]
      cases state.upstream.connect (clientId state.settings.clientHost) <;> rfl
  | openingSink principal key =>
      have same : (state.withJobs jobs).downstream = state.downstream := rfl
      simp only [startTurn, startOpensSink, same]
      rcases state.downstream.connect key with ⟨_ | _, _⟩ <;> rfl
  | discovering principal =>
      have same : (state.withJobs jobs).listQueues = state.listQueues := rfl
      have scheme : (state.withJobs jobs).scheme = state.scheme := rfl
      simp only [startTurn, startDiscovers, same, scheme, settings]
      rcases Discovery.run state.scheme state.settings.queueOwner state.settings.queueKind
        state.listQueues with ⟨_ | _, _⟩ <;> rfl
  | startingBroker run =>
      have same : (state.withJobs jobs).broker = state.broker := rfl
      simp only [startTurn, startStartsBroker, same]
      cases state.broker.start <;> rfl
  | _ => rfl

theorem stopTurn_withJobs (phase : StopPhase) :
    (state.withJobs jobs).stopTurn job phase =
      (state.stopTurn job phase).map (turnWithJobs jobs) := by
  cases phase with
  | queued =>
      have held : (state.withJobs jobs).guard.heldBy job = state.guard.heldBy job := rfl
      have running : (state.withJobs jobs).running = state.running := rfl
      simp only [stopTurn, stopEnters, held, running]
      cases state.guard.heldBy job <;> cases state.running <;> rfl
  | approaching run places => cases places <;> rfl
  | claiming run place ahead =>
      have same : (state.withJobs jobs).slot? run place = state.slot? run place := rfl
      simp only [stopTurn, same]
      cases state.slot? run place with
      | none => rfl
      | some slot =>
          simp only [Option.bind_eq_bind, Option.bind_some, stopClaims]
          cases slot.guard.heldBy job <;> cases slot.relay <;> rfl
  | joining run place relay ahead =>
      have same : (state.withJobs jobs).hasEnded relay = state.hasEnded relay := rfl
      simp only [stopTurn, same]
      cases state.hasEnded relay <;> rfl
  | _ => rfl

theorem activationTurn_withJobs (run : RunId) (topic : String) (phase : ActivationPhase) :
    (state.withJobs jobs).activationTurn job run topic phase =
      (state.activationTurn job run topic phase).map (turnWithJobs jobs) := by
  have at_place : ∀ place, (state.withJobs jobs).activationAt run place =
      state.activationAt run place := fun _ => rfl
  cases phase with
  | resolving =>
      have look : (state.withJobs jobs).run? run = state.run? run := rfl
      simp only [activationTurn, look]
      generalize (state.run? run).map (fun found => found.table.positions topic) = looked
      rcases looked with _ | _ | _ <;> rfl
  | approaching places =>
      cases places with
      | nil => rfl
      | cons place ahead =>
          simp only [activationTurn, at_place]
          cases state.activationAt run place <;> rfl
  | queued place ahead =>
      simp only [activationTurn, at_place]
      cases state.activationAt run place with
      | none => rfl
      | some here =>
          obtain ⟨found, route, slot⟩ := here
          simp only [Option.bind_eq_bind, Option.bind_some, activationClaims]
          cases slot.guard.heldBy job <;> cases slot.relay <;> cases found.accepting <;> rfl
  | connecting place ahead due =>
      have clock : (state.withJobs jobs).clock = state.clock := rfl
      have upstream : (state.withJobs jobs).upstream = state.upstream := rfl
      simp only [activationTurn, at_place, clock]
      cases state.activationAt run place with
      | none => rfl
      | some here =>
          obtain ⟨found, route, slot⟩ := here
          have same : (state.withJobs jobs).subscription route = state.subscription route := rfl
          simp only [Option.bind_eq_bind, Option.bind_some, activationConnects, upstream, same]
          rcases state.upstream.consume (state.subscription route) with ⟨_ | _, _⟩ <;>
            by_cases late : due ≤ state.clock <;> simp only [late, if_true, if_false] <;> rfl
  | producing place ahead mailbox opened wanted =>
      cases wanted with
      | nil =>
          simp only [activationTurn, at_place]
          cases state.activationAt run place <;> rfl
      | cons label wanted =>
          have same : (state.withJobs jobs).downstream = state.downstream := rfl
          simp only [activationTurn, activationProduces, same]
          cases state.downstream.produce label <;> rfl
  | undoing place mailbox opened failure =>
      simp only [activationTurn, at_place]
      cases state.activationAt run place <;> cases opened <;> rfl

/-- Relays take no notice of calls. -/
theorem relayTurn_withJobs (relay : RelayId) (heed : Bool) :
    (state.withJobs jobs).relayTurn relay heed =
      (state.relayTurn relay heed).map fun turn => (turn.1.withJobs jobs, turn.2) := by
  have same : (state.withJobs jobs).relays = state.relays := rfl
  have downstream : (state.withJobs jobs).downstream = state.downstream := rfl
  have clock : (state.withJobs jobs).clock = state.clock := rfl
  have receives : ∀ found, (state.withJobs jobs).relayReceives relay found =
      (state.relayReceives relay found).map fun turn => (turn.1.withJobs jobs, turn.2) := by
    intro found
    have upstream : (state.withJobs jobs).upstream = state.upstream := rfl
    simp only [relayReceives, upstream]
    rcases state.upstream.peek found.mailbox with _ | (_ | _) | _ <;> rfl
  simp only [relayTurn, same, receives, relaySends, downstream, clock]
  cases state.relays[relay]? with
  | none => rfl
  | some found =>
      cases phase : found.phase with
      | listening =>
          simp only [phase]
          cases state.relayReceives relay found <;> cases found.told <;> cases heed <;> rfl
      | forwarding messageId payload topics =>
          cases topics with
          | nil => simp only [phase]; rfl
          | cons topic topics =>
              simp only [phase]
              cases state.downstream.send topic payload <;> rfl
      | backingOff due =>
          simp only [phase]
          split
          · rfl
          · split <;> rfl
      | closingConsumer => simp only [phase]; rfl
      | closingProducers topics => cases topics <;> simp only [phase] <;> rfl
      | ended => simp only [phase]; rfl

theorem change_withJobs (change : Change) :
    (state.withJobs jobs).change change = (state.change change).withJobs jobs := by
  have rescripted : ∀ names principal, (state.withJobs jobs).rescript names principal =
      (state.rescript names principal).withJobs jobs := by
    intro names principal
    have same : (state.withJobs jobs).catalog = state.catalog := rfl
    simp only [rescript, same]
    cases state.catalog.source <;> rfl
  cases change with
  | switch fault on => cases fault <;> rfl
  | setNames names => exact rescripted _ _
  | setPrincipal principal => exact rescripted _ _
  | _ => rfl

end

end State

/-! ## Exchanging secrets -/

/-- A phase, with another secret if it is still to be presented. -/
def AttachPhase.exchanged (secret : Secret) : AttachPhase → AttachPhase
  | .presenting credential => .presenting { credential with secret := secret }
  | phase => phase

/-- A call, with another secret if it has still to present it. -/
def Job.exchanged (secret : Secret) : Job → Job
  | .attach topic phase => .attach topic (phase.exchanged secret)
  | job => job

/-- A request, with another secret if it comes with one. -/
def Request.exchanged (secret : Secret) : Request → Request
  | .subscribe topic credential => .subscribe topic { credential with secret := secret }
  | request => request

/-- A move, with another secret if it is the arrival of a client. -/
def Move.exchanged (secret : Secret) : Move → Move
  | .arrive request => .arrive (request.exchanged secret)
  | move => move

namespace State

/-- A state in which each call that has still to present its secret has another one. -/
def exchanged (secrets : JobId → Secret) (state : State) : State :=
  state.withJobs (state.jobs.mapIdx fun id job => job.exchanged (secrets id))

/-- The call that presents a credential in its turn, and the credential. -/
def presented? (state : State) : Move → Option (JobId × Credential)
  | .job id =>
    match state.jobs[id]? with
    | some (.attach _ (.presenting credential)) => some (id, credential)
    | _ => none
  | _ => none

/-- If the move presents a secret, the other secret proves the name just as well or as badly. -/
def Indifferent (state : State) (secrets : JobId → Secret) (move : Move) : Prop :=
  ∀ turn ∈ state.presented? move,
    state.directory.Equates state.now turn.2.principal turn.2.secret (secrets turn.1)

instance (state : State) (secrets : JobId → Secret) (move : Move) :
    Decidable (state.Indifferent secrets move) :=
  inferInstanceAs (Decidable (∀ turn ∈ state.presented? move,
    state.directory.Equates state.now turn.2.principal turn.2.secret (secrets turn.1)))

end State

/-- What happened, with other secrets. -/
def Occurrence.exchanged (secrets : JobId → Secret) (occurrence : Occurrence) : Occurrence where
  before := occurrence.before.exchanged secrets
  move := occurrence.move.exchanged (secrets occurrence.before.jobs.length)
  after := occurrence.after.exchanged secrets
  effects := occurrence.effects

section

variable {secrets : JobId → Secret} {state next : State} {id : JobId}

theorem Request.job_exchanged (secret : Secret) (request : Request) :
    (request.exchanged secret).job = request.job.exchanged secret := by
  cases request <;> rfl

theorem Job.reply?_exchanged (secret : Secret) (job : Job) :
    (job.exchanged secret).reply? = job.reply? := by
  cases job with
  | attach topic phase => cases phase <;> rfl
  | _ => rfl

/-- The secret has been presented once the turn is over. -/
theorem Attaches.exchanged_after {topic : String} {phase after : AttachPhase}
    {effects : List Effect} (turn : Attaches state id topic phase after next effects)
    (secret : Secret) : after.exchanged secret = after := by
  cases turn with
  | @activated run _ advance _ _ _ => rcases advance with _ | (_ | _) <;> rfl
  | _ => rfl

/-- A turn that leaves the calls alone. -/
theorem State.withJobs_exchanged (kept : next.jobs = state.jobs) :
    next.withJobs (state.exchanged secrets).jobs = next.exchanged secrets := by
  simp only [State.exchanged, withJobs, kept]

/-- A call goes on in the same way, whatever the secrets of the others. -/
theorem State.setJob_exchanged (kept : next.jobs = state.jobs) {job : Job}
    (presented : job.exchanged (secrets id) = job) :
    (next.withJobs (state.exchanged secrets).jobs).setJob id job =
      (next.setJob id job).exchanged secrets := by
  simp only [setJob, State.exchanged, withJobs, kept]
  rw [List.mapIdx_set, presented]

/-- What one turn of a call that has presented its secret leads to. -/
theorem State.turn_exchanged {φ : Type} {result : Option (φ × State × List Effect)}
    {job : φ → Job}
    (goesOn : ∀ {after next effects}, result = some (after, next, effects) →
      next.jobs = state.jobs ∧ (job after).exchanged (secrets id) = job after) :
    ((result.map (turnWithJobs (state.exchanged secrets).jobs)).map
        fun (after, next, effects) => (next.setJob id (job after), effects)) =
      (result.map fun (after, next, effects) => (next.setJob id (job after), effects)).map
        fun turn => (turn.1.exchanged secrets, turn.2) := by
  cases result with
  | none => rfl
  | some turn =>
      obtain ⟨after, next, effects⟩ := turn
      obtain ⟨kept, presented⟩ := goesOn rfl
      exact congrArg (fun state => some (state, effects)) (setJob_exchanged kept presented)

/-- A call has hold of the same run, whatever its secret. -/
theorem Job.holds_exchanged (secret : Secret) (job : Job) (run : RunId) :
    (job.exchanged secret).holds run = job.holds run := by
  cases job with
  | attach topic phase => cases phase <;> rfl
  | _ => rfl

theorem State.holds_exchanged (state : State) (run : RunId) :
    (state.exchanged secrets).holds run = state.holds run := by
  have jobs : (state.exchanged secrets).jobs.any (Job.holds run) =
      state.jobs.any (Job.holds run) := by
    rw [Bool.eq_iff_iff]
    simp [State.exchanged, withJobs, List.mem_iff_getElem, Job.holds_exchanged]
  simp only [holds, jobs]
  rfl

/-- A secret that is as good has the same effect. -/
theorem State.attachTurn_exchanged {topic : String} {phase : AttachPhase}
    (present : state.jobs[id]? = some (.attach topic phase))
    (alike : state.Indifferent secrets (.job id)) :
    (state.exchanged secrets).attachTurn id topic (phase.exchanged (secrets id)) =
      (state.attachTurn id topic phase).map (turnWithJobs (state.exchanged secrets).jobs) := by
  cases phase with
  | presenting credential =>
      have broker : (state.exchanged secrets).broker = state.broker := rfl
      have directory : (state.exchanged secrets).directory = state.directory := rfl
      have now : (state.exchanged secrets).now = state.now := rfl
      have presents : (id, credential) ∈ state.presented? (.job id) := by simp [presented?, present]
      have same := Broker.authorize_congr (alike _ presents) state.broker .consume
      simp only [attachTurn, AttachPhase.exchanged, broker, directory, now, ← same]
      rcases state.broker.authorize state.directory state.now credential .consume with
        ⟨_ | _, events⟩ <;> cases state.broker.isStarted <;> rfl
  | entering =>
      have broker : (state.exchanged secrets).broker = state.broker := rfl
      simp only [attachTurn, AttachPhase.exchanged, broker]
      cases state.broker.isStarted <;> cases state.broker.hooks <;> rfl
  | activating run phase =>
      have turn : (state.exchanged secrets).activationTurn id run topic phase =
          (state.activationTurn id run topic phase).map
            (turnWithJobs (state.exchanged secrets).jobs) :=
        activationTurn_withJobs state run topic phase
      simp only [attachTurn, AttachPhase.exchanged, turn]
      cases state.activationTurn id run topic phase <;> rfl
  | done result => rfl

/-- The turn of a call, with other secrets. -/
theorem State.jobTurn_exchanged (alike : state.Indifferent secrets (.job id)) :
    (state.exchanged secrets).jobTurn id =
      (state.jobTurn id).map fun turn => (turn.1.exchanged secrets, turn.2) := by
  have found : (state.exchanged secrets).jobs[id]? =
      state.jobs[id]?.map (Job.exchanged (secrets id)) := by
    simp [State.exchanged, withJobs]
  simp only [jobTurn, found]
  cases present : state.jobs[id]? with
  | none => rfl
  | some job =>
      cases job with
      | start phase =>
          have turn : (state.exchanged secrets).startTurn id phase =
              (state.startTurn id phase).map (turnWithJobs (state.exchanged secrets).jobs) :=
            startTurn_withJobs state phase
          simp only [Option.map_some, Job.exchanged, turn]
          exact turn_exchanged fun turned => ⟨(startTurn_cases turned).jobs, rfl⟩
      | stop phase =>
          have turn : (state.exchanged secrets).stopTurn id phase =
              (state.stopTurn id phase).map (turnWithJobs (state.exchanged secrets).jobs) :=
            stopTurn_withJobs state phase
          simp only [Option.map_some, Job.exchanged, turn]
          exact turn_exchanged fun turned => ⟨(stopTurn_cases turned).jobs, rfl⟩
      | attach topic phase =>
          simp only [Option.map_some, Job.exchanged, attachTurn_exchanged present alike]
          refine turn_exchanged fun turned => ?_
          have attaches := attachTurn_cases turned
          exact ⟨attaches.leavesBridge.jobs,
            congrArg (Job.attach topic) (attaches.exchanged_after (secrets id))⟩

/-- **A move comes out the same, whatever the secrets,** if the one that it presents is as good. -/
theorem State.step_exchanged {move : Move} (alike : state.Indifferent secrets move) :
    (state.exchanged secrets).step (move.exchanged (secrets state.jobs.length)) =
      (state.step move).map fun turn => (turn.1.exchanged secrets, turn.2) := by
  cases move with
  | job id => exact jobTurn_exchanged alike
  | relay relay heed =>
      have turn : (state.exchanged secrets).relayTurn relay heed =
          (state.relayTurn relay heed).map fun turn =>
            (turn.1.withJobs (state.exchanged secrets).jobs, turn.2) :=
        relayTurn_withJobs state relay heed
      refine turn.trans (Option.map_congr fun (next, effects) turned => ?_)
      obtain ⟨_, _, forwards⟩ := relayTurn_cases turned
      exact congrArg (·, effects) (withJobs_exchanged forwards.leavesBridge.jobs)
  | forget run =>
      simp only [step, Move.exchanged, holds_exchanged]
      split <;> rfl
  | arrive request =>
      simp [step, Move.exchanged, arrive, State.exchanged, withJobs, Request.job_exchanged,
        List.mapIdx_append]
  | change change =>
      have changed : (state.exchanged secrets).change change =
          (state.change change).withJobs (state.exchanged secrets).jobs :=
        change_withJobs state change
      have kept := (change_leavesBridge state change).jobs
      exact congrArg (fun next => some (next, [])) (changed.trans (withJobs_exchanged kept))
  | closeSource => rfl
  | closeSink => rfl
  | wait milliseconds => rfl

/-- The same history takes place with other secrets. -/
theorem History.exchanged {first now : State} {past : List Occurrence}
    (history : History first past now)
    (alike : ∀ occurrence ∈ past, occurrence.before.Indifferent secrets occurrence.move) :
    History (first.exchanged secrets) (past.map (·.exchanged secrets)) (now.exchanged secrets) := by
  induction history with
  | start => exact .start
  | @move past now next move effects before step ih =>
      rw [List.forall_mem_append, List.forall_mem_singleton] at alike
      have turned := State.step_exchanged alike.2
      rw [step] at turned
      rw [List.map_append]
      exact .move (ih alike.1) turned

/-- Nobody can tell two states apart by the calls that are under way. -/
theorem State.withJobs_resembles (state : State) (jobs : List Job) :
    (state.withJobs jobs).Resembles state where
  upstream := rfl
  downstream := rfl
  broker := rfl
  directory := rfl
  catalog := rfl
  relays := rfl
  running := rfl
  clock := rfl
  now := rfl
  tables := fun _ => rfl
  accepting := fun _ => rfl
  routes := fun _ _ => rfl
  answers := by
    intro instruction
    cases instruction with
    | subscribe topic client =>
        have same : (state.withJobs jobs).credential? client = state.credential? client := rfl
        simp only [Errand.begin, same]
        cases state.credential? client <;> rfl
    | notify topic =>
        have same : (state.withJobs jobs).broker = state.broker := rfl
        simp only [Errand.begin, same]
        cases state.broker.hooks <;> rfl
    | authorize client action =>
        have same : (state.withJobs jobs).credential? client = state.credential? client := rfl
        simp only [Errand.begin, Errand.authorize, same]
        cases state.credential? client <;> rfl
    | route id =>
        have same : (state.withJobs jobs).runningRun? = state.runningRun? := rfl
        simp only [Errand.begin, same]
        cases state.runningRun? <;> rfl
    | _ => rfl

theorem State.exchanged_of_idle {first : State} (idle : first.jobs = []) :
    first.exchanged secrets = first := by
  cases first
  simp_all [State.exchanged, State.withJobs]

/-- Every call has the answer that it had. -/
theorem State.reply?_exchanged (state : State) (secrets : JobId → Secret) (id : JobId) :
    ((state.exchanged secrets).jobs[id]?).bind Job.reply? =
      (state.jobs[id]?).bind Job.reply? := by
  simp only [State.exchanged, State.withJobs, List.getElem?_mapIdx, Option.bind_map,
    Function.comp_def, Job.reply?_exchanged]

/-- **Secrets only decide whether they are accepted.**  Two secrets that both prove a name or both
fail to lead to the same principal or the same failure and to the same reports, whatever is asked
for it, of whichever gate and broker.  And if the clients of a bridge come with other secrets, each
as good as the one that it stands for, then the same may happen to the bridge: move by move, others
see the same effects, the bridge looks the same, and every call has the same answer. -/
theorem History.secrets_only_admit :
    (∀ {directory : Directory} {now : Instant} {name : String} {left right : Secret},
      directory.Equates now name left right →
        Gate.authenticate directory now ⟨name, left⟩ =
          Gate.authenticate directory now ⟨name, right⟩ ∧
        (∀ (gate : Gate) (action : Action), gate.check directory now ⟨name, left⟩ action =
          gate.check directory now ⟨name, right⟩ action) ∧
        ∀ (broker : Broker) (action : Action),
          broker.authorize directory now ⟨name, left⟩ action =
            broker.authorize directory now ⟨name, right⟩ action) ∧
    ∀ {first now : State} {past : List Occurrence} {secrets : JobId → Secret},
      History first past now →
      (∀ occurrence ∈ past, occurrence.before.Indifferent secrets occurrence.move) →
        History (first.exchanged secrets) (past.map (·.exchanged secrets))
          (now.exchanged secrets) ∧
        (first.jobs = [] → first.exchanged secrets = first) ∧
        (past.map (·.exchanged secrets)).map (·.effects) = past.map (·.effects) ∧
        (∀ occurrence ∈ past,
          (occurrence.before.exchanged secrets).Resembles occurrence.before) ∧
        (now.exchanged secrets).Resembles now ∧
        ∀ id : JobId, ((now.exchanged secrets).jobs[id]?).bind Job.reply? =
          (now.jobs[id]?).bind Job.reply? := by
  constructor
  · intro directory now name left right same
    exact ⟨Gate.authenticate_congr same, Gate.check_congr same,
      fun broker action => Broker.authorize_congr same broker action⟩
  · intro first now past secrets history alike
    refine ⟨history.exchanged alike, State.exchanged_of_idle, ?_,
      fun _ _ => State.withJobs_resembles _ _, State.withJobs_resembles _ _,
      State.reply?_exchanged now secrets⟩
    rw [List.map_map]
    rfl

end

/-- A bridge of a principal that has a password. -/
def State.staffed : State :=
  (Session.create {} ⟨.scripted ["Q"] (some "SERVICE"), false⟩
    { document := { principals := [⟨"SERVICE", "password", ["CWMS Users"]⟩] } } {} ⟨0, 0⟩).state

/-- The key of the bridge serves one client as well as the password, and another guess serves the
other client as badly. -/
def otherSecrets : JobId → Secret
  | 1 => .issued 0
  | _ => .chosen "another guess"

/-- A client subscribes with the password and another one guesses: the key and another guess have
the same effects. -/
theorem key_admits_like_password :
    ∃ past now, History State.staffed past now ∧ past.length = 21 ∧
      (∀ occurrence ∈ past, occurrence.before.Indifferent otherSecrets occurrence.move) ∧
      History State.staffed (past.map (·.exchanged otherSecrets)) (now.exchanged otherSecrets) ∧
      (now.exchanged otherSecrets).downstream.producers = ["Q"] ∧
      (now.jobs[2]?).any Job.isRefused = true ∧
      Gate.authenticate now.directory now.now ⟨"SERVICE", .chosen "password"⟩ =
        Gate.authenticate now.directory now.now ⟨"SERVICE", .issued 0⟩ := by
  obtain ⟨past, now, history, checked⟩ := History.exists_of_record State.staffed
    (startMoves 0 ++ .arrive (.subscribe "Q" ⟨"SERVICE", .chosen "password"⟩) ::
      List.replicate 8 (.job 1) ++
      [.arrive (.subscribe "Q" ⟨"SERVICE", .chosen "guess"⟩), .job 2])
    (fun past now => past.length == 21 && now.downstream.producers == ["Q"] &&
      (now.jobs[2]?).any Job.isRefused &&
      (past.all fun occurrence =>
        decide (occurrence.before.Indifferent otherSecrets occurrence.move)) &&
      decide (now.directory.Equates now.now "SERVICE" (.chosen "password") (.issued 0))) rfl
  simp only [Bool.and_eq_true, beq_iff_eq, List.all_eq_true, decide_eq_true_eq] at checked
  obtain ⟨⟨⟨⟨moves, producers⟩, refused⟩, alike⟩, same⟩ := checked
  obtain ⟨other, start, _, _, looks, _⟩ := History.secrets_only_admit.2 history alike
  rw [start rfl] at other
  exact ⟨past, now, history, moves, alike, other, looks.downstream ▸ producers, refused,
    (History.secrets_only_admit.1 same).1⟩

end TopicRelay
