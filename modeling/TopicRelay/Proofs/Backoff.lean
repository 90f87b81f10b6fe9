import Mathlib.Algebra.Group.Nat.Defs
import TopicRelay.Proofs.Fidelity

/-!
# How long failures to receive are waited out

A relay that fails to receive waits before it tries again, and how long depends on how often it has
failed in a row: 100 milliseconds the first time, twice as long each time after, and five seconds at
most (`Relay.waitAfter`).  The relay carries only the next wait along; that this is the one of the
failures since its last message, or since it was set up, is the invariant of its loop
(`Relay.Paced`).

While a relay waits it neither receives nor sends (`History.asleep`), and a relay that has left its
loop never does (`History.silent_of_left`).  `History.failures_waited_out` puts this together with
what ends the wait.
-/

namespace TopicRelay

set_option autoImplicit false

/-! ## Failures in a row -/

/-- Whether a delivery is a failure to receive. -/
def Delivery.isFailure : Delivery → Bool
  | .message _ => false
  | .failure _ => true

/-- How many of the last deliveries are failures, with no message between them. -/
def failuresInARow (deliveries : List Delivery) : Nat :=
  (deliveries.reverse.takeWhile Delivery.isFailure).length

@[simp] theorem failuresInARow_concat_message (deliveries : List Delivery) (content : Message) :
    failuresInARow (deliveries ++ [.message content]) = 0 := by
  simp [failuresInARow, Delivery.isFailure]

@[simp] theorem failuresInARow_concat_failure (deliveries : List Delivery) (reason : String) :
    failuresInARow (deliveries ++ [.failure reason]) = failuresInARow deliveries + 1 := by
  rw [failuresInARow, List.reverse_append, List.reverse_singleton, List.singleton_append,
    List.takeWhile_cons_of_pos rfl, List.length_cons, failuresInARow]

/-! ## Waits -/

namespace Relay

/-- How long is waited after some failures in a row, in milliseconds. -/
def waitAfter (failures : Nat) : Nat := min (100 * 2 ^ (failures - 1)) 5000

theorem waitAfter_le (failures : Nat) : waitAfter failures ≤ lastBackoff := Nat.min_le_right ..

/-- After one more failure the wait is twice as long, up to five seconds. -/
theorem nextBackoff_waitAfter {failures : Nat} (some : 0 < failures) :
    nextBackoff (waitAfter failures) = waitAfter (failures + 1) := by
  obtain ⟨fewer, rfl⟩ := Nat.exists_eq_add_of_lt some
  simp only [nextBackoff, waitAfter, lastBackoff, Nat.zero_add, Nat.add_sub_cancel, Nat.pow_succ]
  omega

end Relay

/-- Whether a relay is about to receive or to send. -/
def RelayPhase.isAwake : RelayPhase → Bool
  | .listening | .forwarding _ _ _ => true
  | _ => false

@[simp] theorem isAwake_forwardingOn (messageId payload : String) (topics : List String) :
    (Relay.forwardingOn messageId payload topics).isAwake = true := by
  cases topics <;> rfl

/-- A relay carries along how long it has to wait: while it waits, this wait, and otherwise the one
after the next failure. -/
structure Relay.Paced (found : Relay) (failures : Nat) : Prop where
  awake : found.phase.isAwake = true → found.backoff = waitAfter (failures + 1)
  backingOff : ∀ {due}, found.phase = .backingOff due →
    0 < failures ∧ found.backoff = waitAfter failures
  bounded : found.backoff ≤ lastBackoff

namespace Relay.Paced

variable {state next : State} {move : Move} {effects : List Effect} {relay : RelayId}
  {found after : Relay} {failures : Nat}

/-- A relay that is neither waiting nor awake. -/
theorem of_left (bounded : found.backoff ≤ lastBackoff) (out : found.phase.loops = false) :
    found.Paced failures where
  awake := fun awake => by cases phase : found.phase <;> simp_all [RelayPhase.isAwake,
    RelayPhase.loops]
  backingOff := fun phase => by simp [phase, RelayPhase.loops] at out
  bounded := bounded

/-- A relay that is awake. -/
theorem of_awake (awake : found.phase.isAwake = true)
    (same : found.backoff = waitAfter (failures + 1)) : found.Paced failures where
  awake := fun _ => same
  backingOff := fun phase => by simp [phase, RelayPhase.isAwake] at awake
  bounded := same ▸ waitAfter_le _

/-- The turn of a relay. -/
theorem forwards {deliveries : List Delivery} (paced : found.Paced (failuresInARow deliveries))
    (turn : Forwards state relay found next effects) (present : state.relays[relay]? = some found)
    (now : next.relays[relay]? = some after) :
    after.Paced (failuresInARow (deliveries ++ effects.filterMap (Effect.delivery? relay))) := by
  have awake : found.phase.isAwake = true →
      found.backoff = waitAfter (failuresInARow deliveries + 1) := paced.awake
  cases turn <;> cases (State.relays_modifyRelay_self present).symm.trans now
  case heeded => exact of_left paced.bounded rfl
  case sourceEnded => exact of_left paced.bounded rfl
  case received message phase peeked =>
    simp only [List.filterMap_cons, List.filterMap_nil, Effect.delivery?, if_true,
      failuresInARow_concat_message]
    exact of_awake (isAwake_forwardingOn ..) rfl
  case failed reason phase peeked =>
    simp only [List.filterMap_cons, List.filterMap_nil, Effect.delivery?, if_true,
      failuresInARow_concat_failure]
    have waited := awake (by rw [phase]; rfl)
    exact ⟨by rintro ⟨⟩, fun _ => ⟨Nat.succ_pos _, waited⟩, paced.bounded⟩
  case resumed due phase late =>
    obtain ⟨some, same⟩ := paced.backingOff phase
    rw [List.filterMap_nil, List.append_nil]
    exact of_awake rfl ((congrArg nextBackoff same).trans (nextBackoff_waitAfter some))
  case sentAll messageId payload phase =>
    rw [List.filterMap_nil, List.append_nil]
    exact of_awake rfl (awake (by rw [phase]; rfl))
  case sent phase _ =>
    simp only [List.filterMap_cons, List.filterMap_nil, Effect.delivery?, List.append_nil]
    exact of_awake (isAwake_forwardingOn ..) (awake (by rw [phase]; rfl))
  case notSent phase _ =>
    simp only [List.filterMap_cons, List.filterMap_nil, Effect.delivery?, List.append_nil]
    exact of_awake (isAwake_forwardingOn ..) (awake (by rw [phase]; rfl))
  case consumerClosed => exact of_left paced.bounded rfl
  case producerClosed => exact of_left paced.bounded rfl
  case ended => exact of_left paced.bounded rfl

end Relay.Paced

section

variable {state next : State} {move : Move} {effects : List Effect} {relay : RelayId}
  {past : List Occurrence}

theorem deliveredTo_concat (last : Occurrence) :
    deliveredTo relay (past ++ [last]) =
      deliveredTo relay past ++ last.effects.filterMap (Effect.delivery? relay) := by
  simp [deliveredTo]

/-- A move that is not the turn of a relay delivers nothing to it. -/
theorem deliveredTo_concat_of_other (moved : Moves state move next effects)
    (other : ∀ heed, move ≠ .relay relay heed) :
    deliveredTo relay (past ++ [⟨state, move, next, effects⟩]) = deliveredTo relay past := by
  have start : Silent relay [] := by simp [Silent]
  have silent : Silent relay [⟨state, move, next, effects⟩] := start.concat (moved.silent other)
  have none := silent.deliveredTo
  rw [deliveredTo, List.flatMap_append]
  exact (congrArg (deliveredTo relay past ++ ·) none).trans (List.append_nil _)

end

/-- **Every relay waits as long as it should**, at every moment of its loop. -/
theorem History.paced {first now : State} {past : List Occurrence} {relay : RelayId}
    {found : Relay} (history : History first past now) (unused : first.Unused)
    (present : now.relays[relay]? = some found) :
    found.Paced (failuresInARow (deliveredTo relay past)) := by
  induction history generalizing found with
  | start => simp [unused.relays] at present
  | @move past now next move effects before step ih =>
      have moved := step_cases step
      by_cases mine : ∃ heed, move = .relay relay heed
      · obtain ⟨heed, rfl⟩ := mine
        cases moved with
        | relay was turn =>
            rw [deliveredTo_concat]
            exact (ih was).forwards turn was present
      · have other : ∀ heed, move ≠ .relay relay heed := fun heed same => mine ⟨heed, same⟩
        rw [deliveredTo_concat_of_other moved other]
        cases moved.origin present with
        | kept was => exact ih was
        | told was same _ =>
            obtain ⟨awake, backingOff, bounded⟩ := ih was
            subst same
            exact ⟨awake, backingOff, bounded⟩
        | moved _ is _ _ => exact absurd is (other _)
        | spawned new _ _ same =>
            have absent : now.relays[relay]? = none := by simp [new]
            rw [(before.silent_of_absent absent).deliveredTo, same]
            exact .of_awake rfl rfl

/-! ## Waiting -/

section

variable {state next : State} {move : Move} {effects : List Effect} {relay : RelayId}
  {found after : Relay} {due : Nat}

/-- Time does not go back. -/
theorem Moves.clock_le (moved : Moves state move next effects) : state.clock ≤ next.clock := by
  cases moved with
  | start _ turn => exact Nat.le_of_eq (by cases turn <;> rfl)
  | stop _ turn => exact Nat.le_of_eq (by cases turn <;> rfl)
  | attach _ turn =>
      cases turn with
      | activated turn => exact Nat.le_of_eq (by cases turn <;> rfl)
      | _ => exact Nat.le_refl _
  | relay _ turn => exact Nat.le_of_eq (by cases turn <;> rfl)
  | @change change =>
      cases change with
      | switch fault on => cases fault <;> exact Nat.le_refl _
      | setNames names =>
          simp only [State.change, State.rescript]
          split <;> exact Nat.le_refl _
      | setPrincipal principal =>
          simp only [State.change, State.rescript]
          split <;> exact Nat.le_refl _
      | _ => exact Nat.le_refl _
  | wait => exact Nat.le_add_right ..
  | _ => exact Nat.le_refl _

/-- A relay that receives or sends is awake. -/
theorem Moves.awake (moved : Moves state move next effects)
    (present : state.relays[relay]? = some found)
    (acts : ∃ effect ∈ effects, effect.relay? = some relay) : found.phase.isAwake = true := by
  obtain ⟨effect, among, mine⟩ := acts
  by_cases turn : ∃ heed, move = .relay relay heed
  · obtain ⟨heed, rfl⟩ := turn
    cases moved with
    | relay there turn =>
        cases present.symm.trans there
        cases turn <;> simp_all [RelayPhase.isAwake, Effect.relay?]
  · exact absurd mine (moved.silent (fun heed same => turn ⟨heed, same⟩) effect among)

/-- A relay that waits until some moment goes on waiting, or the moment has come, or it has left its
loop. -/
def RelayPhase.Rests (phase : RelayPhase) (due clock : Nat) : Prop :=
  phase = .backingOff due ∨ due ≤ clock ∨ phase.loops = false

/-- A relay that has left its loop does not come back. -/
theorem Forwards.loops_of_left (turn : Forwards state relay found next effects)
    (present : state.relays[relay]? = some found) (now : next.relays[relay]? = some after)
    (out : found.phase.loops = false) : after.phase.loops = false := by
  cases turn with
  | heeded _ _ | sourceEnded _ _ | consumerClosed _ | producerClosed _ | ended _ =>
      cases (State.relays_modifyRelay_self present).symm.trans now
      rfl
  | _ => simp_all [RelayPhase.loops]

theorem RelayPhase.Rests.step (rests : found.phase.Rests due state.clock)
    (moved : Moves state move next effects) (present : state.relays[relay]? = some found)
    (now : next.relays[relay]? = some after) : after.phase.Rests due next.clock := by
  have later := moved.clock_le
  by_cases mine : ∃ heed, move = .relay relay heed
  · obtain ⟨heed, rfl⟩ := mine
    cases moved with
    | relay was turn =>
        cases present.symm.trans was
        rcases rests with waits | late | out
        · cases turn with
          | heeded _ _ =>
              cases (State.relays_modifyRelay_self present).symm.trans now
              exact .inr (.inr rfl)
          | resumed phase late =>
              cases phase.symm.trans waits
              exact .inr (.inl (Nat.le_trans late later))
          | _ => simp_all
        · exact .inr (.inl (Nat.le_trans late later))
        · exact .inr (.inr (turn.loops_of_left present now out))
  · rw [moved.phase_kept present now fun heed same => mine ⟨heed, same⟩]
    exact rests.imp_right (Or.imp_left fun late => Nat.le_trans late later)

end

section

variable {middle now : State} {later : List Occurrence} {relay : RelayId} {found : Relay}

/-- **A relay that waits neither receives nor sends anything before its time.** -/
theorem History.asleep {due : Nat} (rest : History middle later now)
    (present : middle.relays[relay]? = some found) (rests : found.phase.Rests due middle.clock) :
    (∃ still, now.relays[relay]? = some still ∧ still.phase.Rests due now.clock) ∧
      ∀ occurrence ∈ later, (∃ effect ∈ occurrence.effects, effect.relay? = some relay) →
        due ≤ occurrence.before.clock := by
  induction rest with
  | start => exact ⟨⟨found, present, rests⟩, by simp⟩
  | @move later now next move effects before step ih =>
      have moved := step_cases step
      obtain ⟨⟨still, there, resting⟩, earlier⟩ := ih
      obtain ⟨after, here, _⟩ := moved.relay_kept there
      refine ⟨⟨after, here, resting.step moved there here⟩, fun occurrence among acts => ?_⟩
      rcases List.mem_append.mp among with old | last
      · exact earlier occurrence old acts
      · cases List.mem_singleton.mp last
        have awake := moved.awake there acts
        rcases resting with waits | late | out
        · simp [waits, RelayPhase.isAwake] at awake
        · exact late
        · cases phase : still.phase <;>
            simp_all [RelayPhase.isAwake, RelayPhase.loops]

/-- **A relay that has left its loop receives and sends nothing any more.** -/
theorem History.silent_of_left (rest : History middle later now)
    (present : middle.relays[relay]? = some found) (out : found.phase.loops = false) :
    Silent relay later := by
  intro occurrence among effect shown acts
  -- It would rest until any moment, however late.
  have rests : found.phase.Rests (occurrence.before.clock + 1) middle.clock := .inr (.inr out)
  exact Nat.not_succ_le_self _
    ((rest.asleep present rests).2 occurrence among ⟨effect, shown, acts⟩)

/-- A relay that has no turn goes on waiting. -/
theorem History.phase_kept (rest : History middle later now)
    (present : middle.relays[relay]? = some found)
    (still : ∀ occurrence ∈ later, occurrence.isTurnOf relay = false) :
    ∃ after, now.relays[relay]? = some after ∧ after.phase = found.phase := by
  induction rest with
  | start => exact ⟨found, present, rfl⟩
  | @move later now next move effects before step ih =>
      have moved := step_cases step
      obtain ⟨between, there, same⟩ := ih fun occurrence among => still occurrence (by simp [among])
      obtain ⟨after, here, _⟩ := moved.relay_kept there
      refine ⟨after, here, (moved.phase_kept there here fun heed is => ?_).trans same⟩
      have turn := still ⟨now, move, next, effects⟩ (by simp)
      subst is
      simp [Occurrence.isTurnOf] at turn

end

/-! ## Failing to receive -/

section

variable {state next : State} {move : Move} {effects : List Effect} {relay : RelayId}
  {found : Relay}

theorem Effect.delivery?_eq_some_iff {effect : Effect} {delivery : Delivery} :
    effect.delivery? relay = some delivery ↔ effect = .received relay delivery := by
  cases effect <;> simp [Effect.delivery?]

/-- A relay that fails to receive reports how long it is going to wait, and waits. -/
theorem Moves.of_failure {reason : String} (moved : Moves state move next effects)
    (failed : Effect.received relay (.failure reason) ∈ effects) :
    ∃ found, state.relays[relay]? = some found ∧ found.phase = .listening ∧
      next.relays[relay]? =
          some { found with phase := .backingOff (state.clock + found.backoff) } ∧
        next.clock = state.clock ∧
          effects = [.received relay (.failure reason),
            .report (.receiveFailed found.route found.backoff ⟨reason, []⟩)] := by
  by_cases turn : ∃ heed, move = .relay relay heed
  · obtain ⟨heed, rfl⟩ := turn
    cases moved with
    | @relay _ _ found _ _ present turn =>
        cases turn with
        | failed phase _ =>
            obtain rfl : reason = _ := by simpa using failed
            exact ⟨found, present, phase, State.relays_modifyRelay_self present, rfl, rfl⟩
        | _ => simp at failed
  · exact absurd rfl (moved.silent (fun heed same => turn ⟨heed, same⟩) _ failed)

/-- The turn of a relay that waits. -/
theorem relayTurn_of_backingOff {due : Nat} (present : state.relays[relay]? = some found)
    (phase : found.phase = .backingOff due) (heed : Bool) :
    state.relayTurn relay heed =
      if found.told && (heed || state.clock < due) then some (state.relayHeeds relay found)
      else if due ≤ state.clock then
        some (state.modifyRelay relay fun found =>
          { found with backoff := Relay.nextBackoff found.backoff, phase := .listening }, [])
      else none := by
  simp [State.relayTurn, present, phase]

end

/-- What ends the wait of a relay: before its time only the signal to stop, and when its time has
come the relay may listen again.  A relay that heeds the signal receives and sends nothing any
more. -/
structure State.Waits (state : State) (relay : RelayId) (found : Relay) (due : Nat) : Prop where
  present : state.relays[relay]? = some found
  phase : found.phase = .backingOff due
  /-- Nothing but the signal ends the wait before its time. -/
  unheeding : state.clock < due → found.told = false →
    ∀ heed, state.step (.relay relay heed) = none
  /-- The signal ends the wait at once. -/
  heeding : found.told = true → ∀ heed, state.clock < due ∨ heed = true →
    ∃ next, state.step (.relay relay heed) = some (next, [.report (.relayStopped found.route)]) ∧
      ∀ {later last}, History next later last → Silent relay later
  /-- The wait is over when its time has come. -/
  ends : due ≤ state.clock → ∃ next after, state.step (.relay relay false) = some (next, []) ∧
    next.relays[relay]? = some after ∧ after.phase = .listening

theorem State.waits_of_backingOff {state : State} {relay : RelayId} {found : Relay} {due : Nat}
    (present : state.relays[relay]? = some found) (phase : found.phase = .backingOff due) :
    state.Waits relay found due where
  present := present
  phase := phase
  unheeding := fun early untold heed => by
    have late : ¬due ≤ state.clock := Nat.not_le.mpr early
    simp [State.step, relayTurn_of_backingOff present phase, untold, late]
  heeding := fun told heed choice => by
    refine ⟨(state.relayHeeds relay found).1, ?_, fun rest => rest.silent_of_left
      (State.relays_modifyRelay_self present) rfl⟩
    rcases choice with early | rfl
    · simp [State.step, relayTurn_of_backingOff present phase, told, early, State.relayHeeds]
    · simp [State.step, relayTurn_of_backingOff present phase, told, State.relayHeeds]
  ends := fun late => by
    refine ⟨state.modifyRelay relay fun found =>
      { found with backoff := Relay.nextBackoff found.backoff, phase := .listening }, _, ?_,
      State.relays_modifyRelay_self present, rfl⟩
    have early : ¬state.clock < due := Nat.not_lt.mpr late
    simp [State.step, relayTurn_of_backingOff present phase, early, late]

/-- **Failures to receive are waited out.**  A relay that has failed to receive for the `k`-th time
in a row, since it was set up or since its last message, waits `min (100 * 2 ^ (k - 1)) 5000`
milliseconds, as it reports.  Until then it neither receives nor sends anything, whatever happens
meanwhile; unless it is told to stop, it has no turn, and if it is told, it has one at once, in
which it stops for good (`State.Waits`).  No wait ever exceeds five seconds, so that none overflows
when it is doubled. -/
theorem History.failures_waited_out {first now : State} {past later : List Occurrence}
    {failing : Occurrence} {relay : RelayId} {reason : String}
    (history : History first (past ++ failing :: later) now) (unused : first.Unused)
    (failed : Effect.received relay (.failure reason) ∈ failing.effects) :
    let failures := failuresInARow (deliveredTo relay past) + 1
    let wait := min (100 * 2 ^ (failures - 1)) 5000
    let due := failing.before.clock + wait
    (∃ found, failing.after.relays[relay]? = some found ∧ found.phase = .backingOff due ∧
        failing.effects = [.received relay (.failure reason),
          .report (.receiveFailed found.route wait ⟨reason, []⟩)]) ∧
      (∀ {earlier content}, deliveredTo relay past = earlier ++ [.message content] → wait = 100) ∧
      (∀ occurrence ∈ later, (∃ effect ∈ occurrence.effects, effect.relay? = some relay) →
        due ≤ occurrence.before.clock) ∧
      ((∀ occurrence ∈ later, occurrence.isTurnOf relay = false) →
        ∃ found, now.Waits relay found due) ∧
      ∀ {other : RelayId} {found : Relay}, now.relays[other]? = some found →
        found.backoff * 2 ≤ 10000 := by
  intro failures wait due
  obtain ⟨before, step, rest⟩ := history.occurrence
  obtain ⟨found, present, listens, after, clock, shown⟩ := (step_cases step).of_failure failed
  have waits : found.backoff = wait := (before.paced unused present).awake (by rw [listens]; rfl)
  rw [waits] at after shown
  refine ⟨⟨_, after, rfl, shown⟩, fun reset => ?_, (rest.asleep after (.inl rfl)).2,
    fun still => ?_, fun there => ?_⟩
  · simp [wait, failures, reset]
  · obtain ⟨resting, here, same⟩ := rest.phase_kept after still
    exact ⟨resting, State.waits_of_backingOff here same⟩
  · have bounded := (history.paced unused there).bounded
    rw [Relay.lastBackoff] at bounded
    omega

/-- The seventh failure in a row is waited out for five seconds.  The relay is told to stop
meanwhile. -/
theorem seventh_failure_is_waited_out :
    ∃ past failing later now found, History (State.scripted ["Q"]) (past ++ failing :: later) now ∧
      failuresInARow (deliveredTo 0 past) = 6 ∧ failing.before.clock = 6300 ∧
        (∃ reason, failing.effects = [.received 0 (.failure reason),
          .report (.receiveFailed "Q" 5000 ⟨reason, []⟩)]) ∧
          now.Waits 0 found 11300 ∧ found.told = true ∧ now.clock < 11300 := by
  obtain ⟨past, before, history, checked⟩ :=
    History.exists_of_record (State.scripted ["Q"])
      (startMoves 0 ++ .arrive (.attach "Q") :: List.replicate 8 (.job 1) ++
        List.replicate 7 (.change (.deliver "Q" (.failure "down"))) ++
          [100, 200, 400, 800, 1600, 3200].flatMap fun wait =>
            [.relay 0 false, .wait wait, .relay 0 false])
      (fun past before => failuresInARow (deliveredTo 0 past) == 6 && before.clock == 6300 &&
        (before.step (.relay 0 false)).any fun turned =>
          ((turned.2.filterMap (Effect.delivery? 0)).any Delivery.isFailure &&
            turned.1.relays[0]?.any (·.route == "Q")) &&
            (turned.1.record (.arrive .stop :: List.replicate 5 (.job 2))).any fun reached =>
              reached.1.all (fun occurrence => !occurrence.isTurnOf 0) &&
                reached.2.clock == 6300 && reached.2.relays[0]?.any (·.told)) rfl
  simp only [Bool.and_eq_true, beq_iff_eq, Option.any_eq_true, List.any_eq_true,
    List.all_eq_true, Bool.not_eq_true', List.mem_filterMap] at checked
  obtain ⟨⟨failures, clock⟩, ⟨after, effects⟩, step, ⟨⟨delivery, ⟨effect, among, delivered⟩, fails⟩,
    relay, there, route⟩, ⟨later, now⟩, recorded, ⟨still, early⟩, told, here, heard⟩ := checked
  cases delivery with
  | message content => cases fails
  | failure reason =>
      have failed := Effect.delivery?_eq_some_iff.mp delivered ▸ among
      have whole := history.append ((History.single step).append (.of_record recorded))
      obtain ⟨⟨found, present, _, shown⟩, _, _, waiting, _⟩ :=
        whole.failures_waited_out (State.scripted_unused _) failed
      obtain ⟨resting, waits⟩ := waiting still
      dsimp only at present shown waits
      rw [failures] at shown waits
      rw [clock] at waits
      cases there.symm.trans present
      cases here.symm.trans waits.present
      exact ⟨past, _, later, now, told, whole, failures, clock, ⟨reason, route ▸ shown⟩, waits,
        heard, early ▸ by decide⟩

end TopicRelay
