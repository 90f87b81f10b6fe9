import TopicRelay.Proofs.Setup

/-!
# A call that comes before its run is in service

The hooks of a run reach the broker before the broker is started, so a broker may tell them about
subscribers early.  If it then refuses to start, the start closes both connections and lets the run
start no more routes, but it does not stop those that were started meanwhile.  Such a run is
forsaken (`State.Forsaken`): stops go through the routes of the run that the bridge is in, and it
never is in this one.

`History.keeps_abandoned_relay` says what becomes of such a route: it keeps its relay for good, and
the relay ends only because its mailbox does or because the run is forgotten.  That can happen once
a further start has installed other hooks (`History.forgets_abandoned_iff`).
-/

namespace TopicRelay

set_option autoImplicit false

/-! ## Runs that nobody stops -/

/-- A run starts no routes any more, the bridge is not in it, and no stop is stopping it. -/
structure State.Forsaken (state : State) (run : RunId) : Prop where
  refuses : state.accepting? run = some false
  resting : state.running ≠ some run
  unstopped : ∀ job, ¬state.Stopping job run

/-- An abandoned run is forsaken. -/
theorem Occurrence.Abandons.forsaken {occurrence : Occurrence} {run : RunId}
    (abandons : occurrence.Abandons run) (life : Lifecycle occurrence.before)
    (moved : Moves occurrence.before occurrence.move occurrence.after occurrence.effects) :
    occurrence.after.Forsaken run := by
  obtain ⟨before, move, next, effects⟩ := occurrence
  obtain ⟨job, rfl, present, refuses, _⟩ := abandons
  have accepts : before.accepting? run = some true := life.settingUp ⟨_, present, rfl⟩
  change Moves before (.job job) next effects at moved
  obtain ⟨after, middle, turn, rfl⟩ := moved.of_start present
  refine ⟨refuses, ?_, fun id stopping => ?_⟩
  · cases turn with
    | brokerStarted _ => exact absurd (accepts.symm.trans refuses) (by simp)
    | brokerRefused _ =>
        intro running
        cases (life.resting ⟨_, present, rfl⟩).symm.trans running
  · rcases State.stopping_setJob stopping with ⟨_, _, same, _⟩ | ⟨_, phase, was, stops⟩
    · cases same
    · have stopped := life.stopping ⟨phase, turn.jobs ▸ was, stops⟩
      simp [accepts] at stopped

namespace State.Forsaken

variable {state next : State} {move : Move} {effects : List Effect} {run : RunId}

/-- A forsaken run stays forsaken. -/
theorem step (forsaken : state.Forsaken run) (life : Lifecycle state)
    (moved : Moves state move next effects) : next.Forsaken run where
  refuses := moved.refusing forsaken.refuses
  resting := by
    have still : next.running = state.running → next.running ≠ some run :=
      fun same => same ▸ forsaken.resting
    cases moved with
    | start present turn =>
        cases turn with
        | @brokerStarted other _ _ _ =>
            rintro ⟨⟩
            have accepts := life.settingUp ⟨_, present, rfl⟩
            simp [forsaken.refuses] at accepts
        | _ => exact still rfl
    | stop _ turn =>
        cases turn with
        | entered _ _ => rintro ⟨⟩
        | _ => exact still rfl
    | attach _ turn => exact still turn.leavesBridge.running
    | relay _ turn => exact still turn.leavesBridge.running
    | change => exact still (change_leavesBridge state _).running
    | _ => exact still rfl
  unstopped := by
    rintro job ⟨after, present, stops⟩
    rcases moved.jobs_origin present with was | rfl | ⟨request, _, same⟩
    · exact forsaken.unstopped job ⟨after, was, stops⟩
    · obtain ⟨phase, middle, was, turn, rfl⟩ := moved.to_stop present
      cases turn with
      | entered _ running =>
          cases stops
          exact forsaken.resting running
      | brokerStopped => exact forsaken.unstopped job ⟨_, was, stops⟩
      | routeAsked => exact forsaken.unstopped job ⟨_, was, stops⟩
      | routeIdle _ _ _ => exact forsaken.unstopped job ⟨_, was, stops⟩
      | routeClaimed _ _ _ => exact forsaken.unstopped job ⟨_, was, stops⟩
      | routeStopped _ => exact forsaken.unstopped job ⟨_, was, stops⟩
      | _ => cases stops
    · cases request <;> cases same
      cases stops

end State.Forsaken

/-! ## Their routes -/

/-- While no stop is stopping a run its routes keep their relays, and nobody tells these to stop
unless the run is forgotten. -/
theorem Moves.keeps_relay {state next : State} {move : Move} {effects : List Effect} {run : RunId}
    {place : Place} {relay : RelayId} (moved : Moves state move next effects)
    (own : Ownership state) (unstopped : ∀ job, ¬state.Stopping job run)
    (holds : ∃ slot, state.slot? run place = some slot ∧ slot.relay = some relay) :
    (∃ slot, next.slot? run place = some slot ∧ slot.relay = some relay) ∧
      ∀ found, next.relays[relay]? = some found → ∃ before, state.relays[relay]? = some before ∧
        (found.told = true ↔ before.told = true ∨ move = .forget run) := by
  obtain ⟨slot, found, occupied⟩ := holds
  obtain ⟨served, was, sameRun, samePlace⟩ := own.occupied found occupied
  constructor
  · cases moved.routing with
    | kept keeps =>
        obtain ⟨after, now, same⟩ := keeps.forward found
        exact ⟨after, now, same.trans occupied⟩
    | @spawned job topic there spot ahead mailbox opened route claimed here =>
        have apart : (there, spot) ≠ (run, place) := by
          rintro ⟨⟩
          exact own.unserved ⟨_, claimed, rfl⟩ ⟨served, was, sameRun, samePlace⟩
        exact ⟨slot, (State.slot?_modifySlot_of_ne apart).trans found, occupied⟩
    | @withdrawn job there spot ahead before other stops atSlot held also =>
        have apart : (there, spot) ≠ (run, place) := by
          rintro ⟨⟩
          exact unstopped job ⟨_, stops, rfl⟩
        exact ⟨slot, (State.slot?_modifySlot_of_ne apart).trans found, occupied⟩
  · intro after present
    by_cases forgets : move = .forget run
    · subst forgets
      cases moved with
      | forget _ =>
          cases (State.relays_tellRelays_self was sameRun).symm.trans present
          exact ⟨served, was, by simp⟩
    · refine ⟨served, was, ?_⟩
      cases moved.origin present with
      | kept again =>
          cases was.symm.trans again
          simp [forgets]
      | told again same why =>
          cases was.symm.trans again
          cases why with
          | stopped stops there also =>
              -- the stop has found the relay in a slot of a run that it is stopping
              obtain ⟨other, also, theirs, _⟩ := own.occupied there also
              cases was.symm.trans also
              exact absurd ⟨_, stops, congrArg some (theirs.symm.trans sameRun)⟩ (unstopped _)
          | forgotten mine _ => exact absurd (sameRun ▸ mine) forgets
      | moved again _ _ same =>
          cases was.symm.trans again
          simp [congrArg Relay.told same, forgets]
      | spawned new _ _ _ =>
          subst new
          simp at was

/-- **A route that was in use when its run was abandoned is never stopped by a call.**  A start has
given its run up because the broker did not start, and a route of the run has its relay already.
Whatever happens later, the route keeps that relay.  The relay is told to stop when the run is
forgotten and at no other moment, and until then it leaves its loop only if its mailbox has
ended. -/
theorem History.keeps_abandoned_relay {first last : State} {past later : List Occurrence}
    {occurrence : Occurrence} {run : RunId} {place : Place} {slot : RouteSlot} {relay : RelayId}
    (history : History first (past ++ occurrence :: later) last) (unused : first.Unused)
    (abandons : occurrence.Abandons run) (found : occurrence.before.slot? run place = some slot)
    (occupied : slot.relay = some relay) :
    (∃ held, last.slot? run place = some held ∧ held.relay = some relay) ∧
      ∀ served, last.relays[relay]? = some served →
        (served.told = true ↔ ∃ forgetting ∈ later, forgetting.move = .forget run) ∧
          (served.phase.loops = false → (∃ forgetting ∈ later, forgetting.move = .forget run) ∨
            last.upstream.HasEnded served.mailbox) := by
  have relaying := history.relaying unused
  obtain ⟨before, step, rest⟩ := history.occurrence
  have begun := before.append (.single step)
  suffices kept : last.Forsaken run ∧
      (∃ held, last.slot? run place = some held ∧ held.relay = some relay) ∧
        ∀ served, last.relays[relay]? = some served →
          (served.told = true ↔ ∃ forgetting ∈ later, forgetting.move = .forget run) by
    refine ⟨kept.2.1, fun served present => ⟨kept.2.2 served present, fun out => ?_⟩⟩
    exact (relaying.left present out).imp_left (kept.2.2 served present).mp
  clear history relaying
  induction rest with
  | start =>
      have life := before.lifecycle unused
      have own := before.ownership unused
      have moved := step_cases step
      have forsaken := abandons.forsaken life moved
      obtain ⟨job, turn, present, _⟩ := abandons
      have accepts := life.settingUp ⟨_, present, rfl⟩
      have unstopped : ∀ job, ¬occurrence.before.Stopping job run := fun job stopping =>
        by cases accepts.symm.trans (life.stopping stopping)
      obtain ⟨holds, told⟩ := moved.keeps_relay own unstopped ⟨slot, found, occupied⟩
      refine ⟨forsaken, holds, fun served now => ?_⟩
      obtain ⟨_, was, heard⟩ := told served now
      have untold : ¬served.told = true := by
        intro hears
        rcases heard.mp hears with earlier | forgets
        · obtain ⟨_, again, rfl, _⟩ := own.occupied found occupied
          cases again.symm.trans was
          cases accepts.symm.trans ((before.relaying unused).told was earlier)
        · cases turn.symm.trans forgets
      simp [untold]
  | @move later now next move effects rest step ih =>
      obtain ⟨forsaken, holds, untold⟩ := ih
      have all := begun.append rest
      have moved := step_cases step
      obtain ⟨still, told⟩ :=
        moved.keeps_relay (all.ownership unused) forsaken.unstopped holds
      refine ⟨forsaken.step (all.lifecycle unused) moved, still, fun served present => ?_⟩
      obtain ⟨before, was, heard⟩ := told served present
      simp [heard, untold before was, or_and_right, exists_or]

/-! ## Forgetting them -/

/-- Who has hold of a forsaken run: the broker, if its hooks still lead there, and the calls that
are attached to it. -/
theorem State.Forsaken.holds_eq_false_iff {state : State} {run : RunId}
    (forsaken : state.Forsaken run) (life : Lifecycle state) :
    state.holds run = false ↔ (¬∃ gate, state.broker.hooks = some ⟨gate, run⟩) ∧
      ∀ topic phase, .attach topic (.activating run phase) ∉ state.jobs := by
  rw [State.holds_eq_false_iff]
  constructor
  · rintro ⟨_, elsewhere, idle⟩
    refine ⟨fun ⟨gate, hooks⟩ => elsewhere _ hooks rfl, fun topic phase among => ?_⟩
    have held := idle _ among
    simp [Job.holds] at held
  · rintro ⟨elsewhere, unattached⟩
    refine ⟨forsaken.resting, ?_, fun job among => ?_⟩
    · rintro ⟨gate, _⟩ hooks rfl
      exact elsewhere ⟨gate, hooks⟩
    · obtain ⟨id, present⟩ := List.mem_iff_getElem?.mp among
      rw [← Bool.not_eq_true]
      intro held
      cases job with
      | start phase =>
          have accepts := life.settingUp ⟨phase, present, by simpa [Job.holds] using held⟩
          cases accepts.symm.trans forsaken.refuses
      | stop phase => exact forsaken.unstopped id ⟨phase, present, by simpa [Job.holds] using held⟩
      | attach topic phase =>
          cases phase with
          | activating other inner =>
              obtain rfl : other = run := by simpa [Job.holds] using held
              exact unattached topic inner among
          | _ => cases held

/-- **An abandoned run is forgotten once other hooks are installed.**  The hooks at the broker lead
to the run until a further start installs its own; then the run can be forgotten, as soon as no call
is attached to it any more. -/
theorem History.forgets_abandoned_iff {first last : State} {past later : List Occurrence}
    {occurrence : Occurrence} {run : RunId}
    (history : History first (past ++ occurrence :: later) last) (unused : first.Unused)
    (abandons : occurrence.Abandons run) :
    (last.step (.forget run)).isSome = true ↔
      (∃ installing ∈ later, ∃ other, installing.Installs other) ∧
        ∀ topic phase, .attach topic (.activating run phase) ∉ last.jobs := by
  obtain ⟨before, step, rest⟩ := history.occurrence
  have begun := before.append (.single step)
  suffices kept : last.Forsaken run ∧ ((∃ gate, last.broker.hooks = some ⟨gate, run⟩) ↔
      ¬∃ installing ∈ later, ∃ other, installing.Installs other) by
    have free := kept.1.holds_eq_false_iff (history.lifecycle unused)
    rw [kept.2, not_not] at free
    rw [← free]
    cases held : last.holds run <;> simp [State.step, held]
  clear history
  induction rest with
  | start =>
      have moved := step_cases step
      refine ⟨abandons.forsaken (before.lifecycle unused) moved, by simp, fun _ => ?_⟩
      obtain ⟨job, turn, present, _⟩ := abandons
      obtain ⟨gate, hooks⟩ := (before.setup unused).installed present
      rcases moved.hooks_cases with same | ⟨other, _, mine, there, _⟩
      · exact ⟨gate, same.trans hooks⟩
      · cases turn.symm.trans mine
        cases present.symm.trans there
  | @move later now next move effects rest step ih =>
      obtain ⟨forsaken, lead⟩ := ih
      have all := begun.append rest
      have moved := step_cases step
      refine ⟨forsaken.step (all.lifecycle unused) moved, ?_⟩
      simp only [List.mem_append, List.mem_singleton, or_and_right, exists_or, exists_eq_left]
      by_cases installs : ∃ other, Occurrence.Installs other ⟨now, move, next, effects⟩
      · refine iff_of_false ?_ (not_not_intro (.inr installs))
        obtain ⟨other, job, rfl, there⟩ := installs
        obtain ⟨_, _, turn, rfl⟩ := moved.of_start there
        cases turn
        rintro ⟨gate, ⟨⟩⟩
        cases ((all.lifecycle unused).settingUp ⟨_, there, rfl⟩).symm.trans forsaken.refuses
      · rcases moved.hooks_cases with same | ⟨job, other, mine, there, _⟩
        · rw [same, lead]
          exact not_congr ⟨.inl, (·.resolve_right installs)⟩
        · exact absurd ⟨other, job, mine, there⟩ installs

/-- The run whose broker a start is about to start. -/
def Job.startingBroker? : Job → Option RunId
  | .start (.startingBroker run) => some run
  | _ => none

theorem Job.startingBroker?_eq_some_iff {job : Job} {run : RunId} :
    job.startingBroker? = some run ↔ job = .start (.startingBroker run) := by
  unfold Job.startingBroker?
  split <;> simp_all

/-- The hook of a run is told about a subscriber before the broker refuses to start.  When both
calls have their answers the route is still started, and its relay is in its loop with a producer
open. -/
theorem early_relay_outlives_failed_start :
    ∃ past occurrence later last slot found,
      History (State.scripted ["Q"]) (past ++ occurrence :: later) last ∧
        occurrence.Abandons 0 ∧ last.Calm ∧
          (last.jobs[0]?.bind Job.failure?).isSome = true ∧
            last.slot? 0 0 = some slot ∧ slot.started = true ∧ slot.relay = some 0 ∧
              last.relays[0]? = some found ∧ found.phase.loops = true ∧ found.told = false ∧
                last.downstream.producers = ["Q"] := by
  obtain ⟨past, refused, history, checked⟩ :=
    History.exists_of_record (State.scripted ["Q"])
      (.change (.switch .brokerStart true) :: .arrive .start :: List.replicate 8 (.job 0) ++
        .arrive (.notify 0 "Q") :: List.replicate 7 (.job 1))
      (fun _ refused => refused.jobs[0]?.any (fun job => job.startingBroker? == some 0) &&
        (refused.slot? 0 0).any (fun slot => slot.relay == some 0) &&
          (refused.record [.job 0, .job 0, .job 0]).any fun reached =>
            reached.1.head?.any (fun occurrence => occurrence.after.accepting? 0 == some false &&
              (occurrence.after.slot? 0 0).any fun slot => slot.relay == some 0) &&
            reached.2.jobs.all Job.isDone && (reached.2.jobs[0]?.bind Job.failure?).isSome &&
              (reached.2.slot? 0 0).any (·.started) && reached.2.relays[0]?.any (·.phase.loops) &&
                reached.2.downstream.producers == ["Q"]) rfl
  simp only [Bool.and_eq_true, Option.any_eq_true, beq_iff_eq] at checked
  obtain ⟨⟨⟨_, starting, broker⟩, before, was, occupied⟩, ⟨turns, last⟩, recorded,
    ⟨⟨⟨⟨gives, calm⟩, failed⟩, slot, there, started⟩, found, present, loops⟩, producers⟩ := checked
  obtain ⟨next, effects, later, _, rest, rfl⟩ := record_cons_eq_some recorded
  obtain ⟨_, first, refuses, after, now, stays⟩ := gives
  cases first
  have whole := history.append (.of_record recorded)
  have abandons : Occurrence.Abandons 0 ⟨refused, .job 0, next, effects⟩ :=
    ⟨0, rfl, starting.trans (congrArg some (Job.startingBroker?_eq_some_iff.mp broker)), refuses, 0,
      fun settled => by simp [(settled.empty now).1] at stays⟩
  obtain ⟨⟨held, atSlot, holds⟩, untold⟩ :=
    whole.keeps_abandoned_relay (State.scripted_unused _) abandons was occupied
  cases there.symm.trans atSlot
  have kept : ¬∃ forgetting ∈ later, forgetting.move = .forget 0 := fun ⟨_, among, forgets⟩ => by
    simpa [forgets] using move_mem_of_record rest among
  exact ⟨past, _, later, last, slot, found, whole, abandons, State.calm_iff_all.mpr calm, failed,
    there, started, holds, present, loops,
    Bool.not_eq_true _ ▸ mt (untold found present).1.mp kept, producers⟩

end TopicRelay
