import TopicRelay.Proofs.Activations
import TopicRelay.Proofs.Fidelity
import TopicRelay.Proofs.Producers
import TopicRelay.Proofs.Progress

/-!
# No handle leaks

A handle is opened by a call that activates a route, and the call or the relay of the route closes
it.  `Activations` follows the calls.  A relay is given a consumer and a producer for each topic of
its route; it closes none of them as long as it is in its loop, and closes them one after the other
when it has left the loop, in whichever way that came about (`History.handles_closed`), which
nothing can keep it from doing (`State.CanEnd.of_left`).  Until it has closed its consumer the
consumer's end of its mailbox is open, and not longer (`History.isAttended_mailbox`).

So whenever no call is activating a route and no relay is about to end, the producers that are open
are those of the routes whose relay is in its loop: `State.liveRoutes` counts each such route once,
and `History.no_handle_leaks` puts all this together.
-/

namespace TopicRelay

set_option autoImplicit false

/-! ## What a relay closes -/

/-- The handles that a relay has closed, in order. -/
def handlesClosedBy (relay : RelayId) (past : List Occurrence) : List Handle :=
  (past.filter (·.isTurnOf relay)).flatMap fun occurrence =>
    occurrence.effects.filterMap Effect.closed?

/-- The handles that a relay was given. -/
def Relay.handles (found : Relay) : List Handle :=
  .consumer found.mailbox :: found.topics.map .producer

/-- The handles that a relay has still to close. -/
def Relay.handlesLeft (found : Relay) : List Handle :=
  match found.phase with
  | .closingProducers topics => topics.map .producer
  | .ended => []
  | _ => found.handles

theorem Relay.handlesLeft_of_attends {found : Relay} (attends : found.phase.attends = true) :
    found.handlesLeft = found.handles := by
  unfold Relay.handlesLeft
  split
  · rename_i phase
    simp [phase, RelayPhase.attends] at attends
  · rename_i phase
    simp [phase, RelayPhase.attends] at attends
  · rfl

theorem Relay.handlesLeft_congr {found after : Relay} (phase : after.phase = found.phase)
    (mailbox : after.mailbox = found.mailbox) (topics : after.topics = found.topics) :
    after.handlesLeft = found.handlesLeft := by
  simp only [handlesLeft, handles, phase, mailbox, topics]

section

variable {state next : State} {move : Move} {effects : List Effect} {relay : RelayId}
  {past : List Occurrence}

theorem handlesClosedBy_concat_own {heed : Bool} :
    handlesClosedBy relay (past ++ [⟨state, .relay relay heed, next, effects⟩]) =
      handlesClosedBy relay past ++ effects.filterMap Effect.closed? := by
  simp [handlesClosedBy, Occurrence.isTurnOf]

theorem handlesClosedBy_concat_other (other : ∀ heed, move ≠ .relay relay heed) :
    handlesClosedBy relay (past ++ [⟨state, move, next, effects⟩]) =
      handlesClosedBy relay past := by
  have idle : Occurrence.isTurnOf relay ⟨state, move, next, effects⟩ = false := by
    cases move with
    | relay moving heed =>
        rw [Occurrence.isTurnOf, beq_eq_false_iff_ne]
        rintro rfl
        exact other heed rfl
    | _ => rfl
  simp [handlesClosedBy, idle]

/-- A relay closes in its turn the first of what it has still to close, or nothing. -/
theorem Forwards.handlesLeft {found after : Relay} (turn : Forwards state relay found next effects)
    (present : state.relays[relay]? = some found) (now : next.relays[relay]? = some after) :
    effects.filterMap Effect.closed? ++ after.handlesLeft = found.handlesLeft := by
  have listens : found.phase.attends = true → after.phase.attends = true →
      after.handlesLeft = found.handlesLeft := by
    intro attends still
    rw [Relay.handlesLeft_of_attends attends, Relay.handlesLeft_of_attends still,
      turn.relay_eq present now]
    rfl
  cases turn with
  | heeded _ phase =>
      have attends : found.phase.attends = true := by
        rcases phase with phase | ⟨due, phase⟩ <;> simp [phase, RelayPhase.attends]
      cases (State.relays_modifyRelay_self present).symm.trans now
      exact listens attends rfl
  | consumerClosed phase =>
      cases (State.relays_modifyRelay_self present).symm.trans now
      simp [Relay.handlesLeft, Relay.handles, phase, Effect.closed?]
  | producerClosed phase =>
      cases (State.relays_modifyRelay_self present).symm.trans now
      simp [Relay.handlesLeft, phase, Effect.closed?]
  | ended phase =>
      cases (State.relays_modifyRelay_self present).symm.trans now
      simp [Relay.handlesLeft, phase]
  | received phase _ =>
      cases (State.relays_modifyRelay_self present).symm.trans now
      exact listens (by rw [phase]; rfl) (attends_forwardingOn ..)
  | sent phase _ =>
      cases (State.relays_modifyRelay_self present).symm.trans now
      exact listens (by rw [phase]; rfl) (attends_forwardingOn ..)
  | notSent phase _ =>
      cases (State.relays_modifyRelay_self present).symm.trans now
      exact listens (by rw [phase]; rfl) (attends_forwardingOn ..)
  | sourceEnded phase _ | failed phase _ | sentAll phase | resumed phase _ =>
      cases (State.relays_modifyRelay_self present).symm.trans now
      exact listens (by rw [phase]; rfl) rfl

end

/-- **A relay closes what it was given, one handle after the other and each once.** -/
theorem History.handles_closed {first now : State} {past : List Occurrence} {relay : RelayId}
    (history : History first past now) (absent : first.relays[relay]? = none) :
    (now.relays[relay]? = none → handlesClosedBy relay past = []) ∧
      ∀ {found : Relay}, now.relays[relay]? = some found →
        handlesClosedBy relay past ++ found.handlesLeft = found.handles := by
  induction history with
  | start => simp [absent, handlesClosedBy]
  | @move past now next move effects before step ih =>
      have moved := step_cases step
      obtain ⟨unborn, closing⟩ := ih
      by_cases mine : ∃ heed, move = .relay relay heed
      · obtain ⟨heed, rfl⟩ := mine
        cases moved with
        | @relay _ _ found _ _ present turn =>
            obtain ⟨after, here, mailbox, topics, _⟩ := (step_cases step).relay_kept present
            refine ⟨fun gone => by simp [gone] at here, fun {last} there => ?_⟩
            cases here.symm.trans there
            rw [handlesClosedBy_concat_own, List.append_assoc, turn.handlesLeft present here,
              closing present]
            simp only [Relay.handles, mailbox, topics]
      · have other : ∀ heed, move ≠ .relay relay heed := fun heed same => mine ⟨heed, same⟩
        rw [handlesClosedBy_concat_other other]
        cases was : now.relays[relay]? with
        | some found =>
            obtain ⟨after, here, mailbox, topics, _⟩ := moved.relay_kept was
            refine ⟨fun gone => by simp [gone] at here, fun {last} there => ?_⟩
            cases here.symm.trans there
            have phase := moved.phase_kept was here other
            rw [Relay.handlesLeft_congr phase mailbox topics, closing was]
            simp only [Relay.handles, mailbox, topics]
        | none =>
            refine ⟨fun _ => unborn was, fun {last} there => ?_⟩
            cases moved.origin there with
            | kept present => simp [was] at present
            | told present _ _ => simp [was] at present
            | moved present _ _ _ => simp [was] at present
            | spawned _ _ _ same =>
                rw [unborn was, same]
                rfl

/-- **The consumer of a relay is open as long as the relay has not closed it.** -/
theorem History.isAttended_mailbox {first now : State} {past : List Occurrence} {relay : RelayId}
    {found : Relay} (history : History first past now) (unused : first.Unused)
    (present : now.relays[relay]? = some found) :
    now.upstream.isAttended found.mailbox = found.phase.attends := by
  cases attends : found.phase.attends with
  | true =>
      have holds : found.consumer? = some ((found.run, found.place), found.mailbox) := by
        simp [Relay.consumer?, attends]
      exact (history.custody unused).tended (.relay present holds)
  | false =>
      have closing := (history.handles_closed (by simp [unused.relays])).2 present
      have left : .consumer found.mailbox ∉ found.handlesLeft := by
        cases phase : found.phase <;> simp_all [Relay.handlesLeft, RelayPhase.attends]
      have closed : .consumer found.mailbox ∈ handlesClosedBy relay past :=
        (List.mem_append.mp (closing ▸ List.mem_cons_self)).resolve_right left
      obtain ⟨occurrence, among, within⟩ := List.mem_flatMap.mp closed
      obtain ⟨effect, shown, closes⟩ := List.mem_filterMap.mp within
      have is : effect = .consumerClosed found.mailbox := by
        cases effect <;> simp_all [Effect.closed?]
      rw [← Bool.not_eq_true, history.isAttended_iff unused]
      exact fun never => never occurrence (List.mem_filter.mp among).1 (is ▸ shown)

/-! ## The end of a relay -/

/-- A relay can come to its end by its own turns. -/
def State.CanEnd (state : State) (relay : RelayId) : Prop :=
  ∃ more after ended, History state more after ∧
    (∀ occurrence ∈ more, occurrence.isTurnOf relay = true) ∧
      after.relays[relay]? = some ended ∧ ended.phase = .ended

namespace State.CanEnd

variable {state next : State} {relay : RelayId} {found : Relay} {effects : List Effect}

theorem of_turn {heed : Bool} (turned : state.relayTurn relay heed = some (next, effects))
    (ends : next.CanEnd relay) : state.CanEnd relay := by
  obtain ⟨more, after, ended, rest, only, present, phase⟩ := ends
  have step : state.step (.relay relay heed) = some (next, effects) := turned
  refine ⟨_, after, ended, (History.single step).append rest, fun occurrence among => ?_, present,
    phase⟩
  rcases List.mem_append.mp among with first | later
  · rw [List.mem_singleton.mp first]
    exact beq_self_eq_true relay
  · exact only occurrence later

theorem of_closingProducers {topics : List String} (present : state.relays[relay]? = some found)
    (phase : found.phase = .closingProducers topics) : state.CanEnd relay := by
  induction topics generalizing state found with
  | nil =>
      have turned : state.relayTurn relay true = some (state.setRelayPhase relay .ended, []) := by
        simp [State.relayTurn, present, phase]
      exact of_turn turned
        ⟨[], _, _, .start, by simp, State.relays_modifyRelay_self present, rfl⟩
  | cons topic topics ih =>
      have turned : state.relayTurn relay true =
          some (({ state with downstream := state.downstream.closeProducer topic }).setRelayPhase
            relay (.closingProducers topics), [.producerClosed topic]) := by
        simp [State.relayTurn, present, phase]
      exact of_turn turned (ih (State.relays_modifyRelay_self present) rfl)

/-- **Nothing keeps a relay that has left its loop from ending.** -/
theorem of_left (present : state.relays[relay]? = some found) (out : found.phase.loops = false) :
    state.CanEnd relay := by
  cases phase : found.phase with
  | listening | forwarding _ _ _ | backingOff _ => simp [phase, RelayPhase.loops] at out
  | ended => exact ⟨[], state, found, .start, by simp, present, phase⟩
  | closingProducers topics => exact of_closingProducers present phase
  | closingConsumer =>
      have turned : state.relayTurn relay true =
          some ({ state with
              upstream := state.upstream.closeConsumer found.mailbox }.setRelayPhase relay
                (.closingProducers found.topics), [.consumerClosed found.mailbox]) := by
        simp [State.relayTurn, present, phase]
      exact of_turn turned
        (of_closingProducers (State.relays_modifyRelay_self present) rfl)

end State.CanEnd

/-! ## The routes in service -/

namespace State

/-- Whether a relay of a route is in its loop. -/
def isServed (state : State) (run : RunId) (place : Place) : Bool :=
  state.relays.any fun found =>
    found.phase.loops && (found.run == run && found.place == place)

/-- The routes of all runs whose relay is in its loop. -/
def liveSites (state : State) : List (RunId × Place) :=
  (List.range state.runs.length).flatMap fun run =>
    ((state.places run).filter (state.isServed run)).map fun place => (run, place)

/-- The routes whose relay is in its loop, each once. -/
def liveRoutes (state : State) : List Route :=
  state.liveSites.flatMap fun (run, place) => (state.route? run place).toList

theorem isServed_iff {state : State} {run : RunId} {place : Place} :
    state.isServed run place = true ↔
      ∃ found ∈ state.relays, found.phase.loops = true ∧ found.run = run ∧ found.place = place := by
  simp [isServed]

theorem mem_liveSites {state : State} {site : RunId × Place} :
    site ∈ state.liveSites ↔
      (state.slot? site.1 site.2).isSome = true ∧ state.isServed site.1 site.2 = true := by
  obtain ⟨run, place⟩ := site
  have there : ∀ run place, place ∈ state.places run ↔ (state.slot? run place).isSome = true := by
    intro run place
    cases present : state.run? run <;> simp [places, slot?, present]
  have bound : (state.slot? run place).isSome = true → run < state.runs.length := by
    intro some
    obtain ⟨slot, found⟩ := Option.isSome_iff_exists.mp some
    obtain ⟨_, present, _⟩ := Option.bind_eq_some_iff.mp found
    exact (List.getElem?_eq_some_iff.mp present).1
  simp only [liveSites, List.mem_flatMap, List.mem_range, List.mem_map, List.mem_filter, there,
    Prod.mk.injEq]
  constructor
  · rintro ⟨_, _, _, here, rfl, rfl⟩
    exact here
  · exact fun here => ⟨run, bound here.1, place, here, rfl, rfl⟩

theorem liveSites_nodup (state : State) : state.liveSites.Nodup := by
  rw [liveSites, List.nodup_flatMap]
  constructor
  · intro run _
    exact (List.nodup_range.filter _).map fun left right same => (Prod.mk.inj same).2
  · refine List.nodup_range.imp fun {run other} apart => ?_
    simp only [Function.onFun, List.disjoint_left, List.mem_map]
    rintro _ ⟨place, _, rfl⟩ ⟨spot, _, same⟩
    exact apart (Prod.mk.inj same).1.symm

end State

/-- The relays that are in their loops serve the routes in service, each of them one. -/
theorem History.sites_perm {first now : State} {past : List Occurrence}
    (history : History first past now) (unused : first.Unused) :
    ((now.relays.filter (·.phase.loops)).map fun found => (found.run, found.place)).Perm
      now.liveSites := by
  have own := history.ownership unused
  have distinct : (now.relays.map fun found => (found.run, found.place)).Nodup := by
    rw [List.nodup_iff_getElem?_ne_getElem?]
    intro relay other less bound same
    rw [List.length_map] at bound
    have earlier : relay < now.relays.length := Nat.lt_trans less bound
    simp only [List.getElem?_map, List.getElem?_eq_getElem bound,
      List.getElem?_eq_getElem earlier, Option.map_some, Option.some.injEq,
      Prod.mk.injEq] at same
    have serves : now.Serves relay now.relays[other].run now.relays[other].place :=
      ⟨_, List.getElem?_eq_getElem earlier, same⟩
    exact Nat.ne_of_lt less (own.single serves ⟨_, List.getElem?_eq_getElem bound, rfl, rfl⟩)
  refine (List.perm_ext_iff_of_nodup (distinct.sublist (List.filter_sublist.map _))
    now.liveSites_nodup).mpr fun site => ?_
  rw [State.mem_liveSites, State.isServed_iff, List.mem_map]
  constructor
  · rintro ⟨found, among, rfl⟩
    obtain ⟨member, loops⟩ := List.mem_filter.mp among
    obtain ⟨relay, present⟩ := List.mem_iff_getElem?.mp member
    obtain ⟨route, here, _⟩ := (history.relaying unused).route present
    exact ⟨by rw [(history.slotted unused).isSome_slot?, here]; rfl, found, member, loops, rfl, rfl⟩
  · rintro ⟨_, found, member, loops, inRun, atPlace⟩
    exact ⟨found, List.mem_filter.mpr ⟨member, loops⟩, Prod.ext inRun atPlace⟩

/-- Items that contribute nothing are left out. -/
theorem flatMap_eq_of_filter {α β : Type} {contents kept : α → List β} {keep : α → Bool}
    {items : List α} (same : ∀ item ∈ items, contents item = if keep item then kept item else []) :
    items.flatMap contents = (items.filter keep).flatMap kept := by
  induction items with
  | nil => rfl
  | cons item items ih =>
      have rest := ih fun other among => same other (List.mem_cons_of_mem _ among)
      rw [List.flatMap_cons, rest, same item (List.mem_cons_self ..), List.filter_cons]
      cases keep item <;> simp

/-- The producers that the relays hold are those of the routes in service, if no relay is about to
end. -/
theorem History.held_perm {first now : State} {past : List Occurrence}
    (history : History first past now) (unused : first.Unused)
    (calm : ∀ found ∈ now.relays, found.phase.loops = true ∨ found.phase = .ended) :
    (now.relays.flatMap Relay.producers).Perm (now.liveRoutes.flatMap (·.topics)) := by
  let topicsAt : RunId × Place → List String := fun (run, place) =>
    (now.route? run place).toList.flatMap (·.topics)
  have relays : now.relays.flatMap Relay.producers =
      ((now.relays.filter (·.phase.loops)).map fun found =>
        (found.run, found.place)).flatMap topicsAt := by
    rw [List.flatMap_map]
    refine flatMap_eq_of_filter fun found among => ?_
    obtain ⟨relay, present⟩ := List.mem_iff_getElem?.mp among
    obtain ⟨route, here, topics⟩ := (history.relaying unused).route present
    rcases calm found among with loops | ended
    · rw [Relay.producers_of_attends (RelayPhase.attends_of_loops loops), loops, if_pos rfl, topics]
      simp [topicsAt, here]
    · simp [Relay.producers, ended, RelayPhase.loops]
  rw [relays, State.liveRoutes, List.flatMap_assoc]
  exact (history.sites_perm unused).flatMap_right _

/-- A route in service has a topic once. -/
theorem History.topics_nodup_of_live {first now : State} {past : List Occurrence} {route : Route}
    (history : History first past now) (unused : first.Unused) (live : route ∈ now.liveRoutes) :
    route.topics.Nodup := by
  obtain ⟨⟨run, place⟩, _, among⟩ := List.mem_flatMap.mp live
  obtain ⟨table, found, atPlace⟩ := State.route?_eq_some_iff.mp (Option.mem_toList.mp among)
  obtain ⟨scheme, queues, rfl⟩ := history.tabled unused found
  exact RouteTable.topics_nodup_addAll scheme (by simp) queues route (List.mem_of_getElem? atPlace)

/-- The producers that are open are those of the routes in service, whenever no call is activating a
route and no relay is about to end. -/
theorem History.producers_perm {first now : State} {past : List Occurrence}
    (history : History first past now) (unused : first.Unused)
    (idle : ∀ job ∈ now.jobs, job.claims? = none)
    (calm : ∀ found ∈ now.relays, found.phase.loops = true ∨ found.phase = .ended) :
    now.downstream.producers.Perm (now.liveRoutes.flatMap (·.topics)) := by
  refine List.Perm.trans (List.perm_iff_count.mpr fun topic => ?_) (history.held_perm unused calm)
  have noJobs : (now.jobs.map fun job => job.producers.count topic).sum = 0 := by
    rw [List.sum_eq_zero_iff_forall_eq_nat]
    intro count among
    obtain ⟨job, member, rfl⟩ := List.mem_map.mp among
    rw [Job.producers_eq_nil_of_claims? (idle job member), List.count_nil]
  rw [(history.accounting unused).balanced topic, State.held, noJobs, Nat.zero_add,
    List.count_flatMap]
  rfl

/-- **No handle leaks.**  Whatever the routes are and whatever the connections answer, what a call
that attaches a subscriber has shown to the connections is one activation after the other.  One
that has failed has closed each handle that it had opened, and has set up no relay; each of the
others has set up one relay, which was given the consumer and the producers, in the order of the
topics.  A relay closes nothing in its loop, and when it has left the loop, everything.  And
whenever no call is activating a route and no relay is about to end, the producers that are open are
those of the routes in service, one for each topic of each route.  The consumers that are open are
those that nobody has closed. -/
theorem History.no_handle_leaks {first now : State} {past : List Occurrence}
    (history : History first past now) :
    (∀ {job : JobId} {topic : String} {answer : Except SubscribeFailure Unit},
      first.jobs[job]? = none → now.jobs[job]? = some (.attach topic (.done answer)) →
        ∃ (run : RunId) (made : List Activation),
          dealingsOf job past = made.flatMap Activation.effects ∧
          (∀ activation ∈ made, activation.IsOf now run job past) ∧
          (∀ activation ∈ made, activation.failure?.isSome = true →
            (activation.effects.filterMap Effect.closed?).Perm
                (activation.effects.filterMap Effect.opened?) ∧
              activation.effects.filterMap Effect.spawned? = []) ∧
          (∀ activation ∈ made, activation.failure? = none →
            ∃ (relay : RelayId) (found : Relay), now.relays[relay]? = some found ∧
              found.handles =
                .consumer found.mailbox :: activation.route.topics.map .producer ∧
              activation.effects.filterMap Effect.opened? = found.handles ∧
              activation.effects.filterMap Effect.closed? = [] ∧
              activation.effects.filterMap Effect.spawned? = [relay]) ∧
          ((∃ activation ∈ made, activation.failure?.isSome = true) ↔
            ∃ id failure, answer = .error (.activation (.startFailed id failure)))) ∧
    (∀ {relay : RelayId} {found : Relay},
      first.relays[relay]? = none → now.relays[relay]? = some found →
        (found.phase.loops = true → handlesClosedBy relay past = []) ∧
        (found.phase.loops = false →
          handlesClosedBy relay past <+: found.handles ∧ now.CanEnd relay) ∧
        (found.phase = .ended → handlesClosedBy relay past = found.handles)) ∧
    (first.Unused → (∀ job ∈ now.jobs, job.claims? = none) →
      (∀ found ∈ now.relays, found.phase.loops = true ∨ found.phase = .ended) →
        now.downstream.producers.Perm (now.liveRoutes.flatMap (·.topics)) ∧
          ∀ route ∈ now.liveRoutes, route.topics.Nodup) ∧
    (first.Unused → ∀ mailbox, now.upstream.isAttended mailbox = true ↔
      ∀ occurrence ∈ past, .consumerClosed mailbox ∉ occurrence.effects) := by
  refine ⟨fun absent present => ?_, fun {relay found} absent present => ?_,
    fun unused idle calm => ⟨history.producers_perm unused idle calm, fun route live =>
      history.topics_nodup_of_live unused live⟩, fun unused _ => history.isAttended_iff unused⟩
  · obtain ⟨run, made, undertaken, failed⟩ := (history.engaged absent present).answered
    have log := undertaken.log
    rw [List.append_nil] at log
    refine ⟨run, made, log, undertaken.each, fun activation _ fails => Activation.closes_all fails,
      fun activation among unfailed => ?_, failed⟩
    obtain ⟨mailbox, relay, started⟩ := Activation.outcome_of_unfailed unfailed
    obtain ⟨opened, closed, spawned⟩ := Activation.hands_over started
    obtain ⟨found, there, _, _, rfl, topics⟩ := (undertaken.each activation among).handed started
    have given : found.handles =
        .consumer found.mailbox :: activation.route.topics.map .producer := by
      rw [Relay.handles, topics]
    exact ⟨relay, found, there, given, opened.trans given.symm, closed, spawned⟩
  · have closing := (history.handles_closed absent).2 present
    refine ⟨fun loops => ?_, fun out => ⟨⟨_, closing⟩, .of_left present out⟩, fun ended => ?_⟩
    · rw [Relay.handlesLeft_of_attends (RelayPhase.attends_of_loops loops)] at closing
      simpa using closing
    · have nothing : found.handlesLeft = [] := by simp [Relay.handlesLeft, ended]
      rwa [nothing, List.append_nil] at closing

/-- Two routes have a topic in common.  Both were to be started, and the second failed at its own
topic; then it was started on its own.  Since the connection to the queues is closed, the relay of
the first has ended, and the producers that are open are those of the second. -/
theorem shared_topic_survives_closing :
    ∃ past now found, ∃ made : List Activation,
      History (State.scripted ["CWMS_20.SPK_A", "CWMS_20.SPK_B"]) past now ∧
      dealingsOf 1 past = made.flatMap Activation.effects ∧
      (∃ activation ∈ made, activation.failure?.isSome = true ∧
        (activation.effects.filterMap Effect.closed?).Perm
          (activation.effects.filterMap Effect.opened?)) ∧
      now.relays[0]? = some found ∧ found.topics = ["CDA.SPK.ALL", "CDA.SPK.A"] ∧
      handlesClosedBy 0 past = found.handles ∧
      now.downstream.producers.Perm ["CDA.SPK.ALL", "CDA.SPK.B"] := by
  obtain ⟨past, now, history, checked⟩ :=
    History.exists_of_record (State.scripted ["CWMS_20.SPK_A", "CWMS_20.SPK_B"])
      (startMoves 0 ++ .change (.blockTopic "CDA.SPK.B" true) ::
        .arrive (.attach "CDA.SPK.ALL") :: List.replicate 15 (.job 1) ++
          .change (.blockTopic "CDA.SPK.B" false) ::
            .arrive (.attach "CDA.SPK.B") :: List.replicate 9 (.job 2) ++
              .closeSource :: List.replicate 5 (.relay 0 false))
      (fun _ now => (now.jobs[1]?.bind Job.answered?) ==
          some ("CDA.SPK.ALL", .error (.activation (.startFailed "CWMS_20.SPK_B"
            ⟨"producer blocked", ["quota exceeded"]⟩))) && now.jobs.all (·.claims?.isNone) &&
        now.relays.all (fun found => found.phase.loops || found.phase == .ended) &&
        now.relays[0]?.any (fun found => found.phase == .ended &&
          found.topics == ["CDA.SPK.ALL", "CDA.SPK.A"]) &&
        now.liveRoutes.flatMap (·.topics) == ["CDA.SPK.ALL", "CDA.SPK.B"]) rfl
  simp only [Bool.and_eq_true, beq_iff_eq, Option.any_eq_true, List.all_eq_true, Bool.or_eq_true,
    Option.isNone_iff_eq_none, Option.bind_eq_some_iff, Job.answered?_eq_some_iff] at checked
  obtain ⟨⟨⟨⟨⟨_, failing, rfl⟩, idle⟩, calm⟩, found, present, ended, topics⟩, live⟩ := checked
  obtain ⟨calls, relays, runs, _⟩ := history.no_handle_leaks
  obtain ⟨run, made, log, _, closes, _, failed⟩ := calls rfl failing
  obtain ⟨activation, among, fails⟩ := failed.mpr ⟨_, _, rfl⟩
  refine ⟨past, now, found, made, history, log, ⟨activation, among, fails,
    (closes activation among fails).1⟩, present, topics, (relays rfl present).2.2 ended, ?_⟩
  exact live ▸ (runs (State.scripted_unused _) idle calm).1

end TopicRelay
