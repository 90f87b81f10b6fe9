import TopicRelay.Proofs.AtMostOnce
import TopicRelay.Proofs.Shutdown

/-!
# The mark of a route and its relay

A route is marked as started by the call that gives it its relay, under the guard of the route.
A stop takes the relay out under the guard, but takes the mark away later, without the guard:
it first waits for the relay to end.  So the mark and the slot disagree while a stop waits, and
at no other time.

Any move but the last turn of a stop at a route leaves the mark of the route where it is
(`Moves.keepsMark`), and a route that a stop has passed is settled for good
(`History.settled_of_passes`).  So every route that has a relay is marked (`History.marked`), and
as long as a run starts routes, no other route of it is (`History.started_eq`).
`History.mark_follows_relay` puts together what this means for a route whose starts and whose stop
interleave in any way.
-/

namespace TopicRelay

set_option autoImplicit false

/-! ## Keeping a mark -/

namespace Occurrence

/-- Whether a stop is done with a route that it had before it: it has found the route without a
relay, or the relay has ended and the stop has marked the route as stopped. -/
def passes (run : RunId) (place : Place) (occurrence : Occurrence) : Bool :=
  match occurrence.move with
  | .job job =>
    match occurrence.before.jobs[job]?, occurrence.after.jobs[job]? with
    | some (.stop phase), some (.stop (.approaching other ahead)) =>
      other == run && phase.remaining? == some (run, place :: ahead)
    | _, _ => false
  | _ => false

theorem passes_iff {run : RunId} {place : Place} {occurrence : Occurrence} :
    occurrence.passes run place = true ↔
      ∃ job phase ahead, occurrence.move = .job job ∧
        occurrence.before.jobs[job]? = some (.stop phase) ∧
          phase.remaining? = some (run, place :: ahead) ∧
            occurrence.after.jobs[job]? = some (.stop (.approaching run ahead)) := by
  constructor
  · intro passes
    unfold Occurrence.passes at passes
    split at passes
    · rename_i job move
      split at passes
      · rename_i phase other ahead before after
        simp only [Bool.and_eq_true, beq_iff_eq] at passes
        obtain ⟨rfl, remains⟩ := passes
        exact ⟨job, phase, ahead, move, before, remains, after⟩
      · cases passes
    · cases passes
  · rintro ⟨job, phase, ahead, move, before, remains, after⟩
    simp [passes, move, before, after, remains]

end Occurrence

/-- A route that is marked as started. -/
def State.IsMarked (state : State) (run : RunId) (place : Place) : Prop :=
  ∃ slot, state.slot? run place = some slot ∧ slot.started = true

namespace State.IsMarked

variable {state next : State} {run other : RunId} {place spot : Place}

theorem congr (marked : state.IsMarked run place)
    (slots : ∀ run place, next.slot? run place = state.slot? run place) :
    next.IsMarked run place := by
  obtain ⟨slot, found, started⟩ := marked
  exact ⟨slot, (slots run place).trans found, started⟩

theorem modifySlot {change : RouteSlot → RouteSlot} (marked : state.IsMarked run place)
    (keeps : (other, spot) = (run, place) →
      ∀ slot : RouteSlot, slot.started = true → (change slot).started = true) :
    (state.modifySlot other spot change).IsMarked run place := by
  obtain ⟨slot, found, started⟩ := marked
  by_cases same : (other, spot) = (run, place)
  · obtain ⟨rfl, rfl⟩ := Prod.mk.inj same
    exact ⟨change slot, State.slot?_modifySlot_of_some found, keeps rfl slot started⟩
  · exact ⟨slot, (State.slot?_modifySlot_of_ne same).trans found, started⟩

/-- The guard of a route is asked for or given up. -/
theorem of_guard {middle : State} (turn : Guard → Guard) (marked : state.IsMarked run place)
    (runs : middle.runs = state.runs) :
    (middle.modifySlot other spot fun slot =>
      { slot with guard := turn slot.guard }).IsMarked run place :=
  (marked.congr fun _ _ => State.slot?_congr runs).modifySlot fun _ _ => id

/-- A run is set up. -/
theorem addRun {added : Run} (marked : state.IsMarked run place) :
    (state.addRun added).IsMarked run place := by
  obtain ⟨slot, found, started⟩ := marked
  exact ⟨slot, (State.slot?_addRun_of_lt (State.slot?_eq_some_lt found)).trans found, started⟩

end State.IsMarked

/-- **A mark is left where it is** by every move but that of a stop which passes the route. -/
theorem Moves.keepsMark {state next : State} {move : Move} {effects : List Effect} {run : RunId}
    {place : Place} (moved : Moves state move next effects) (marked : state.IsMarked run place) :
    next.IsMarked run place ∨ Occurrence.passes run place ⟨state, move, next, effects⟩ = true := by
  have still : ∀ {after : State}, after.runs = state.runs → after.IsMarked run place :=
    fun runs => marked.congr fun _ _ => State.slot?_congr runs
  cases moved with
  | start _ turn =>
      left
      cases turn with
      | discovered _ => exact marked.addRun.congr fun _ _ => State.slot?_congr rfl
      | brokerRefused _ => exact marked.congr fun _ _ => State.slot?_refuse
      | _ => exact still rfl
  | @stop job _ _ _ _ present turn =>
      cases turn with
      | entered _ _ => exact .inl (marked.congr fun _ _ => State.slot?_refuse)
      | routeAsked => exact .inl ((marked.of_guard (·.request _) rfl).congr fun _ _ => rfl)
      | routeIdle _ _ _ => exact .inl ((marked.of_guard Guard.release rfl).congr fun _ _ => rfl)
      | @routeClaimed other spot _ _ _ _ _ _ =>
          have emptied : (state.modifySlot other spot fun slot =>
              { slot with relay := none, guard := slot.guard.release }).IsMarked run place :=
            marked.modifySlot fun _ _ => id
          exact .inl (emptied.congr fun _ _ => State.slot?_congr rfl)
      | @routeStopped other spot relay ahead ended =>
          by_cases same : (other, spot) = (run, place)
          · obtain ⟨rfl, rfl⟩ := Prod.mk.inj same
            exact .inr (Occurrence.passes_iff.mpr
              ⟨job, _, ahead, rfl, present, rfl, State.jobs_setJob_self present⟩)
          · have unmarked : (state.modifySlot other spot fun slot =>
                { slot with started := false }).IsMarked run place :=
              marked.modifySlot fun here => absurd here same
            exact .inl (unmarked.congr fun _ _ => State.slot?_congr rfl)
      | _ => exact .inl (still rfl)
  | attach _ turn =>
      left
      cases turn with
      | @activated other _ _ _ _ turn =>
          cases turn with
          | asked _ _ => exact (marked.of_guard (·.request _) rfl).congr fun _ _ => rfl
          | needless _ _ _ _ => exact (marked.of_guard Guard.release rfl).congr fun _ _ => rfl
          | refused _ _ _ _ _ => exact (marked.of_guard Guard.release rfl).congr fun _ _ => rfl
          | unconnected _ _ => exact (marked.of_guard Guard.release rfl).congr fun _ _ => rfl
          | consumerUndone _ => exact (marked.of_guard Guard.release rfl).congr fun _ _ => rfl
          | @spawned spot _ _ _ _ _ =>
              have given : (state.modifySlot other spot fun slot =>
                  { slot with
                    relay := some state.relays.length, started := true
                    guard := slot.guard.release }).IsMarked run place :=
                marked.modifySlot fun _ _ _ => rfl
              exact given.congr fun _ _ => State.slot?_congr rfl
          | _ => exact still rfl
      | _ => exact still rfl
  | relay _ turn => exact .inl (still (by cases turn <;> rfl))
  | change => exact .inl (still (change_fromOutside _ _).runs)
  | _ => exact .inl (still rfl)

/-- A route stays marked as long as no stop passes it. -/
theorem History.isMarked {middle now : State} {later : List Occurrence} {run : RunId}
    {place : Place} (rest : History middle later now) (marked : middle.IsMarked run place)
    (unpassed : ∀ occurrence ∈ later, occurrence.passes run place = false) :
    now.IsMarked run place := by
  induction rest with
  | start => exact marked
  | @move later now next move effects before step ih =>
      have earlier := ih fun occurrence among => unpassed occurrence (by simp [among])
      have last := unpassed ⟨now, move, next, effects⟩ (by simp)
      exact ((step_cases step).keepsMark earlier).resolve_right (by simp [last])

/-! ## Past a stop -/

theorem StopPhase.run?_of_remaining? {phase : StopPhase} {run : RunId} {places : List Place}
    (remains : phase.remaining? = some (run, places)) : phase.run? = some run := by
  cases phase <;> cases remains <;> rfl

/-- A route that a stop passes is settled, and its run starts no routes any more. -/
theorem Moves.settled_of_passes {state next : State} {move : Move} {effects : List Effect}
    {run : RunId} {place : Place} (moved : Moves state move next effects) (shut : Shutdown state)
    (own : Ownership state) (life : Lifecycle state)
    (passes : Occurrence.passes run place ⟨state, move, next, effects⟩ = true) :
    next.Settled run place ∧ next.accepting? run = some false := by
  obtain ⟨job, phase, ahead, rfl, was, remains, passed⟩ := Occurrence.passes_iff.mp passes
  have refuses := life.stopping ⟨phase, was, StopPhase.run?_of_remaining? remains⟩
  refine ⟨?_, moved.refusing refuses⟩
  obtain ⟨_, _, turn, rfl⟩ := Moves.of_stop moved was
  cases (State.jobs_setJob_self (turn.jobs ▸ was)).symm.trans passed
  cases turn with
  | brokerStopped => cases remains
  | routeIdle found held empty =>
      cases remains
      exact (Shutdown.settled_of_claiming shut own life was found held empty).step_of_refusing moved
        refuses
  | routeStopped ended =>
      cases remains
      exact Shutdown.settled_of_joining shut own was ended

/-- **A route that a stop has passed is settled for good.** -/
theorem History.settled_of_passes {first now : State} {past : List Occurrence} {run : RunId}
    {place : Place} {occurrence : Occurrence} (history : History first past now)
    (unused : first.Unused) (among : occurrence ∈ past)
    (passes : occurrence.passes run place = true) :
    now.Settled run place ∧ now.accepting? run = some false := by
  induction history with
  | start => cases among
  | @move past now next move effects before step ih =>
      have moved := step_cases step
      rcases List.mem_append.mp among with earlier | last
      · obtain ⟨settled, refuses⟩ := ih earlier
        exact ⟨settled.step_of_refusing moved refuses, moved.refusing refuses⟩
      · cases List.mem_singleton.mp last
        exact moved.settled_of_passes (before.shutdown unused) (before.ownership unused)
          (before.lifecycle unused) passes

/-- Nobody gives a settled route a relay. -/
theorem Moves.not_spawns_of_settled {state next : State} {move : Move} {effects : List Effect}
    {run : RunId} {place : Place} (moved : Moves state move next effects)
    (settled : state.Settled run place) :
    Occurrence.starts run place ⟨state, move, next, effects⟩ = false := by
  cases starts : Occurrence.starts run place ⟨state, move, next, effects⟩ with
  | false => rfl
  | true =>
      simp only [Occurrence.starts, Occurrence.site?, Bool.and_eq_true, beq_iff_eq] at starts
      obtain ⟨here, spawns⟩ := starts
      rcases moved.of_site here with ⟨_, _, _, _, _, present, atPlace, turn, _⟩ | ⟨_, _, _, turn⟩
      · cases turn with
        | spawned _ =>
            cases atPlace
            exact absurd ⟨_, present, rfl⟩ settled.unclaimed
        | _ => cases spawns
      · cases turn <;> cases spawns

/-! ## Routes that have a relay -/

/-- A route that has a relay is marked as started. -/
structure State.Marked (state : State) : Prop where
  started : ∀ {run : RunId} {place : Place} {slot : RouteSlot},
    state.slot? run place = some slot → slot.relay.isSome = true → slot.started = true

/-- **Every move keeps the marks right.** -/
theorem State.Marked.step {state next : State} {move : Move} {effects : List Effect}
    (marked : state.Marked) (shut : Shutdown state) (own : Ownership state) (life : Lifecycle state)
    (moved : Moves state move next effects) : next.Marked where
  started := by
    intro run place slot found occupied
    have onward : ∀ {before : RouteSlot}, state.slot? run place = some before →
        slot.relay = before.relay → slot.started = true := by
      intro before was same
      have started := marked.started was (same ▸ occupied)
      rcases moved.keepsMark ⟨before, was, started⟩ with ⟨after, now, still⟩ | passes
      · cases found.symm.trans now
        exact still
      · obtain ⟨settled, _⟩ := moved.settled_of_passes shut own life passes
        simp [(settled.empty found).1] at occupied
    cases moved.routing with
    | kept keeps =>
        rcases keeps.backward found with ⟨empty, _⟩ | ⟨before, was, same, _⟩
        · simp [empty] at occupied
        · exact onward was same
    | @spawned job topic there spot ahead mailbox opened route present here =>
        by_cases same : (there, spot) = (run, place)
        · obtain ⟨rfl, rfl⟩ := Prod.mk.inj same
          obtain ⟨_, _, rfl⟩ := State.exists_of_slot?_modifySlot found
          rfl
        · exact onward ((State.slot?_modifySlot_of_ne same).symm.trans found) rfl
    | @withdrawn job there spot ahead before relay present was held also =>
        by_cases same : (there, spot) = (run, place)
        · obtain ⟨rfl, rfl⟩ := Prod.mk.inj same
          obtain ⟨_, _, rfl⟩ := State.exists_of_slot?_modifySlot found
          cases occupied
        · exact onward ((State.slot?_modifySlot_of_ne same).symm.trans found) rfl

/-- After every history a route that has a relay is marked as started. -/
theorem History.marked {first now : State} {past : List Occurrence}
    (history : History first past now) (unused : first.Unused) : now.Marked := by
  induction history with
  | start => exact ⟨fun found => by simp [State.slot?, State.run?, unused.runs] at found⟩
  | move before step ih =>
      exact ih.step (before.shutdown unused) (before.ownership unused) (before.lifecycle unused)
        (step_cases step)

/-- While a run starts routes, those of its routes are marked as started that have a relay. -/
theorem History.started_eq {first now : State} {past : List Occurrence} {run : RunId}
    {place : Place} {slot : RouteSlot} (history : History first past now) (unused : first.Unused)
    (accepts : now.accepting? run = some true) (found : now.slot? run place = some slot) :
    slot.started = slot.relay.isSome := by
  cases started : slot.started with
  | false =>
      cases occupied : slot.relay.isSome with
      | false => rfl
      | true => exact started.symm.trans ((history.marked unused).started found occupied)
  | true =>
      rcases (history.shutdown unused).started found started with
        occupied | ⟨relay, job, ahead, present⟩
      · exact occupied.symm
      · -- A stop that waits for a relay of the run has made the run start no routes.
        have refuses := (history.lifecycle unused).stopping ⟨_, present, rfl⟩
        simp [accepts] at refuses

/-- A route whose relay a stop waits for is marked as started. -/
theorem History.isMarked_of_joining {first now : State} {past : List Occurrence} {run : RunId}
    {place : Place} {relay : RelayId} (history : History first past now) (unused : first.Unused)
    (joining : now.Joining run place relay) : now.IsMarked run place := by
  induction history with
  | start =>
      obtain ⟨_, _, present⟩ := joining
      simp [unused.jobs] at present
  | @move past now next move effects before step ih =>
      have moved := step_cases step
      rcases Shutdown.joining_backward moved joining with
        was | ⟨job, ahead, slot, _, found, _, occupied, rfl⟩
      · refine (moved.keepsMark (ih was)).resolve_right ?_
        intro passes
        obtain ⟨other, phase, further, rfl, there, remains, passed⟩ :=
          Occurrence.passes_iff.mp passes
        -- The run is being stopped by one stop, which cannot both wait and be done with the route.
        obtain ⟨job, ahead, present⟩ := joining
        have apart : job ≠ other := by
          rintro rfl
          cases present.symm.trans passed
        have waits := (moved.jobs_origin present).resolve_right (by simp [apart.symm])
        exact apart ((before.lifecycle unused).oneStop ⟨_, waits, rfl⟩
          ⟨phase, there, StopPhase.run?_of_remaining? remains⟩)
      · have started := (before.marked unused).started found (by simp [occupied])
        exact ⟨_, State.slot?_modifySlot_of_some found, started⟩

/-! ## Starts and the stop of a route -/

/-- **The mark of a route follows its relay**, however the calls that start the route and the stop
of its run interleave, and whoever holds the guard of the route.  While no stop waits for the relay
that it has taken out, the route is marked exactly if it has a relay; while one does, the route is
marked and has none.  A mark that was set is there until the stop has passed the route.  And once
the stop has passed it, the route is neither marked nor given a relay ever again. -/
theorem History.mark_follows_relay {first middle now : State} {past later : List Occurrence}
    {run : RunId} {place : Place} {slot : RouteSlot} (history : History first past middle)
    (unused : first.Unused) (rest : History middle later now)
    (found : now.slot? run place = some slot) :
    ((∀ relay, ¬now.Joining run place relay) →
        (slot.started = true ↔ slot.relay.isSome = true)) ∧
      (∀ relay, now.Joining run place relay → slot.started = true ∧ slot.relay = none) ∧
      (middle.IsMarked run place → (∀ occurrence ∈ later, occurrence.passes run place = false) →
        slot.started = true) ∧
      ∀ occurrence ∈ past, occurrence.passes run place = true →
        slot.started = false ∧ slot.relay = none ∧
          ∀ other ∈ later, other.starts run place = false := by
  have whole := history.append rest
  have ofMarked : now.IsMarked run place → slot.started = true := by
    rintro ⟨there, present, started⟩
    cases found.symm.trans present
    exact started
  refine ⟨fun idle => ⟨fun started => ?_, fun occupied => ?_⟩,
    fun relay joining => ⟨?_, ?_⟩, ?_, ?_⟩
  · rcases (whole.shutdown unused).started found started with occupied | ⟨relay, joining⟩
    · exact occupied
    · exact absurd joining (idle relay)
  · exact (whole.marked unused).started found occupied
  · exact ofMarked (whole.isMarked_of_joining unused joining)
  · exact ((whole.shutdown unused).joined joining).2.2 found
  · exact fun marked unpassed => ofMarked (rest.isMarked marked unpassed)
  · intro occurrence among passes
    obtain ⟨settled, _⟩ := whole.settled_of_passes unused (List.mem_append_left later among) passes
    obtain ⟨empty, unmarked⟩ := settled.empty found
    refine ⟨unmarked, empty, fun other happened => ?_⟩
    obtain ⟨before, after, rfl⟩ := List.append_of_mem happened
    obtain ⟨reaches, step, _⟩ := rest.occurrence
    have reached := (history.append reaches).settled_of_passes unused
      (List.mem_append_left before among) passes
    exact (step_cases step).not_spawns_of_settled reached.1

/-- The phase of a call that is a stop. -/
def Job.stopPhase? : Job → Option StopPhase
  | .stop phase => some phase
  | _ => none

theorem Job.stopPhase?_eq_some_iff {job : Job} {phase : StopPhase} :
    job.stopPhase? = some phase ↔ job = .stop phase := by
  cases job <;> simp [stopPhase?]

/-- A call for the topic of a route comes while a stop waits for the relay of the route, and another
one after the stop has passed the route: the route is marked until the stop has passed it, and not
any more at the end. -/
theorem late_starts_set_no_mark :
    ∃ past stopping between stopped later now waits ends,
      History (State.scripted ["Q"]) past stopping ∧ stopping.slot? 0 0 = some waits ∧
        waits.guard.holder = some 3 ∧ waits.started = true ∧ waits.relay = none ∧
          History stopping between stopped ∧ History stopped later now ∧
            now.slot? 0 0 = some ends ∧ ends.started = false ∧ ends.relay = none ∧
              ∀ occurrence ∈ later, occurrence.starts 0 0 = false := by
  obtain ⟨past, stopping, history, checked⟩ :=
    History.exists_of_record (State.scripted ["Q"])
      (startMoves 0 ++ .arrive (.attach "Q") :: List.replicate 8 (.job 1) ++
        .arrive .stop :: List.replicate 5 (.job 2) ++ [.arrive (.notify 0 "Q"), .job 3, .job 3])
      (fun _ stopping =>
        stopping.jobs[2]?.bind Job.stopPhase? == some (.joining 0 0 0 []) &&
          (stopping.slot? 0 0).any (fun waits => waits.guard.holder == some 3) &&
            (stopping.record (.job 3 :: List.replicate 4 (.relay 0 true) ++ [.job 2])).any
              fun reached => reached.1.any (Occurrence.passes 0 0) &&
                (reached.2.record [.arrive (.notify 0 "Q"), .job 4, .job 4, .job 4]).any
                  fun last => (last.2.slot? 0 0).isSome) rfl
  simp only [Bool.and_eq_true, beq_iff_eq, Option.any_eq_true, List.any_eq_true,
    Option.bind_eq_some_iff, Job.stopPhase?_eq_some_iff, Option.isSome_iff_exists] at checked
  obtain ⟨⟨⟨_, present, rfl⟩, waits, there, held⟩, ⟨between, stopped⟩, recorded,
    ⟨occurrence, among, passes⟩, ⟨later, now⟩, followed, ends, found⟩ := checked
  obtain ⟨_, window, _, _⟩ := history.mark_follows_relay (State.scripted_unused _) .start there
  obtain ⟨started, empty⟩ := window 0 ⟨2, [], present⟩
  have reached := History.of_record recorded
  have rest := History.of_record followed
  obtain ⟨_, _, _, past⟩ :=
    (history.append reached).mark_follows_relay (State.scripted_unused _) rest found
  obtain ⟨unmarked, bare, unstarted⟩ := past occurrence (List.mem_append_right _ among) passes
  exact ⟨_, stopping, between, stopped, later, now, waits, ends, history, there, held, started,
    empty, reached, rest, found, unmarked, bare, unstarted⟩

end TopicRelay
