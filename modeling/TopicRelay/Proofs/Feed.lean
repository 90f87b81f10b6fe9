import TopicRelay.Proofs.Relays

/-!
# What a successful attachment leaves behind

An attachment that is answered with success has passed all routes of its topic, and a route
that it has passed has a relay as long as the run of the route starts routes
(`State.Passing`).  So while the bridge is in the run, every route of the topic has a relay.
The relay is in its loop, unless its mailbox has ended: an attachment does not look whether
the relay of a route that was started earlier is still in its loop, and a route is given no
second relay (`ended_relay_is_kept`).

What a relay receives it offers to each of its topics, once and in the order in which it came
(`History.offers`).  `History.live_feed` puts the two together.
-/

namespace TopicRelay

set_option autoImplicit false

/-! ## Routes that were passed -/

/-- A route has a relay in its slot. -/
def State.Occupied (state : State) (run : RunId) (place : Place) : Prop :=
  ∃ slot relay, state.slot? run place = some slot ∧ slot.relay = some relay

/-- The routes that an activation has still to pass, once it knows the routes of its topic and
unless it is failing. -/
def ActivationPhase.remaining? : ActivationPhase → Option (List Place)
  | .approaching places => some places
  | .queued place ahead | .connecting place ahead _ | .producing place ahead _ _ _ =>
    some (place :: ahead)
  | .resolving | .undoing _ _ _ _ => none

/-- The routes of its topic that an activation has passed have a relay, unless their run starts
no routes any more. -/
def State.Passing (state : State) : Prop :=
  ∀ {job : JobId} {topic : String} {run : RunId} {phase : ActivationPhase}
    {remaining : List Place},
    state.jobs[job]? = some (.attach topic (.activating run phase)) →
      phase.remaining? = some remaining →
        ∃ table, state.table? run = some table ∧
          (state.accepting? run = some true →
            ∀ place ∈ table.positions topic, place ∈ remaining ∨ state.Occupied run place)

section

variable {state next : State} {move : Move} {effects : List Effect} {run : RunId} {place : Place}

/-- A run that starts routes has started them before. -/
theorem Moves.accepted {table : RouteTable} (moved : Moves state move next effects)
    (found : state.table? run = some table) (accepts : next.accepting? run = some true) :
    state.accepting? run = some true := by
  obtain ⟨there, inRun, _⟩ := Option.map_eq_some_iff.mp found
  have known : state.accepting? run = some there.accepting := by simp [State.accepting?, inRun]
  cases accepting : there.accepting with
  | true => exact accepting ▸ known
  | false => simp [moved.refusing (accepting ▸ known)] at accepts

/-- A route keeps its relay as long as its run starts routes. -/
theorem State.Occupied.step (occupied : state.Occupied run place) (life : Lifecycle state)
    (moved : Moves state move next effects) (accepts : next.accepting? run = some true) :
    next.Occupied run place := by
  obtain ⟨slot, relay, found, holds⟩ := occupied
  cases moved.routing with
  | kept keeps =>
      obtain ⟨after, now, same⟩ := keeps.forward found
      exact ⟨after, relay, now, same.trans holds⟩
  | @spawned job topic there spot ahead mailbox opened route present here =>
      by_cases same : (there, spot) = (run, place)
      · obtain ⟨rfl, rfl⟩ := Prod.mk.inj same
        exact ⟨_, _, State.slot?_modifySlot_of_some found, rfl⟩
      · exact ⟨slot, relay, (State.slot?_modifySlot_of_ne same).trans found, holds⟩
  | @withdrawn job there spot ahead before other present was held also =>
      by_cases same : (there, spot) = (run, place)
      · obtain ⟨rfl, rfl⟩ := Prod.mk.inj same
        have refuses := moved.refusing (life.stopping ⟨_, present, rfl⟩)
        simp [refuses] at accepts
      · exact ⟨slot, relay, (State.slot?_modifySlot_of_ne same).trans found, holds⟩

/-- The turn of an activation: the route that it passes has a relay. -/
theorem Activates.passes {job : JobId} {topic : String} {phase after : ActivationPhase}
    {remaining : List Place} (own : Ownership state)
    (present : state.jobs[job]? = some (.attach topic (.activating run phase)))
    (turn : Activates state job run topic phase (.next after) next effects)
    (left : after.remaining? = some remaining) :
    (∃ table, phase = .resolving ∧ state.table? run = some table ∧
        table.positions topic = remaining) ∨
      ∃ before, phase.remaining? = some before ∧
        ∀ place ∈ before, place ∈ remaining ∨ next.Occupied run place := by
  cases turn with
  | resolved found positions =>
      cases left
      exact .inl ⟨_, rfl, found, positions⟩
  | asked _ _ =>
      cases left
      exact .inr ⟨_, rfl, fun _ => .inl⟩
  | @needless place ahead route slot relay here found held occupied =>
      cases left
      refine .inr ⟨_, rfl, fun spot among => ?_⟩
      rcases List.mem_cons.mp among with rfl | later
      · exact .inr ⟨_, relay, State.slot?_modifySlot_of_some found, occupied⟩
      · exact .inl later
  | claimed _ _ _ _ _ =>
      cases left
      exact .inr ⟨_, rfl, fun _ => .inl⟩
  | connected _ _ =>
      cases left
      exact .inr ⟨_, rfl, fun _ => .inl⟩
  | produced _ =>
      cases left
      exact .inr ⟨_, rfl, fun _ => .inl⟩
  | @spawned place ahead mailbox opened route here =>
      cases left
      obtain ⟨slot, found, _⟩ := own.claimed ⟨_, present, rfl⟩
      refine .inr ⟨_, rfl, fun spot among => ?_⟩
      rcases List.mem_cons.mp among with rfl | later
      · exact .inr ⟨_, _, State.slot?_modifySlot_of_some found, rfl⟩
      · exact .inl later
  | unproduced _ => cases left
  | producerUndone => cases left

/-- **Every move keeps the invariant.** -/
theorem State.Passing.step (passing : state.Passing) (own : Ownership state)
    (life : Lifecycle state) (moved : Moves state move next effects) : next.Passing := by
  intro job topic run phase remaining present left
  have onward : ∀ {before : ActivationPhase} {earlier : List Place},
      state.jobs[job]? = some (.attach topic (.activating run before)) →
        before.remaining? = some earlier →
          (∀ place ∈ earlier, place ∈ remaining ∨ next.Occupied run place) →
            ∃ table, next.table? run = some table ∧ (next.accepting? run = some true →
              ∀ place ∈ table.positions topic, place ∈ remaining ∨ next.Occupied run place) := by
    intro before earlier was ahead shrinks
    obtain ⟨table, found, passed⟩ := passing was ahead
    refine ⟨table, moved.table? found, fun accepts place among => ?_⟩
    rcases passed (moved.accepted found accepts) place among with waits | occupied
    · exact shrinks place waits
    · exact .inr (occupied.step life moved accepts)
  rcases moved.jobs_origin present with was | rfl | ⟨request, _, same⟩
  · exact onward was left fun _ => .inl
  · obtain ⟨before, middle, was, turn, rfl⟩ := moved.to_attach present
    generalize goes : AttachPhase.activating run phase = after at turn
    cases turn with
    | entered _ _ =>
        cases goes
        cases left
    | @activated there earlier advance middle effects turn =>
        cases advance with
        | next advanced =>
            cases goes
            rcases turn.passes own was left with ⟨table, rfl, found, positions⟩ |
              ⟨ahead, waiting, shrinks⟩
            · exact ⟨table, moved.table? found, fun _ place among => .inl (positions ▸ among)⟩
            · exact onward was waiting shrinks
        | finish result => cases result <;> cases goes
    | _ => cases goes
  · cases request <;> cases same
    cases left

end

/-- The invariant holds after every history. -/
theorem History.passing {first now : State} {past : List Occurrence}
    (history : History first past now) (unused : first.Unused) : now.Passing := by
  induction history with
  | start =>
      intro job topic run phase remaining present
      simp [unused.jobs] at present
  | move before step ih =>
      exact ih.step (before.ownership unused) (before.lifecycle unused) (step_cases step)

/-! ## What a relay receives and offers -/

namespace Effect

/-- The relay that has received or offered something. -/
def relay? : Effect → Option RelayId
  | .received relay _ | .sent relay _ _ | .notSent relay _ _ => some relay
  | _ => none

/-- The payload of the message that a relay has received. -/
def received? (relay : RelayId) : Effect → Option String
  | .received other (.message message) => if other = relay then some message.payload else none
  | _ => none

/-- The payload that a relay has offered to a topic, whether the topic took it or not. -/
def offered? (relay : RelayId) (topic : String) : Effect → Option String
  | .sent other label payload | .notSent other label payload =>
    if other = relay ∧ label = topic then some payload else none
  | _ => none

theorem received?_eq_none {relay : RelayId} {effect : Effect}
    (silent : effect.relay? ≠ some relay) : effect.received? relay = none := by
  unfold received?
  split
  · rename_i other message
    exact if_neg fun same => silent (congrArg some same)
  · rfl

theorem offered?_eq_none {relay : RelayId} {topic : String} {effect : Effect}
    (silent : effect.relay? ≠ some relay) : effect.offered? relay topic = none := by
  unfold offered?
  split
  · exact if_neg fun same => silent (congrArg some same.1)
  · exact if_neg fun same => silent (congrArg some same.1)
  · rfl

end Effect

/-- The payloads of the messages that a relay has received, in order. -/
def receivedBy (relay : RelayId) (past : List Occurrence) : List String :=
  past.flatMap fun occurrence => occurrence.effects.filterMap (Effect.received? relay)

/-- The payloads that a relay has offered to a topic, in order. -/
def offeredTo (relay : RelayId) (topic : String) (past : List Occurrence) : List String :=
  past.flatMap fun occurrence => occurrence.effects.filterMap (Effect.offered? relay topic)

/-- What a relay has still to offer to a topic. -/
def RelayPhase.pending (topic : String) : RelayPhase → List String
  | .forwarding _ payload topics => List.replicate (topics.count topic) payload
  | _ => []

@[simp] theorem pending_forwardingOn (topic messageId payload : String) (topics : List String) :
    (Relay.forwardingOn messageId payload topics).pending topic =
      List.replicate (topics.count topic) payload := by
  cases topics <;> rfl

theorem pending_forwarding_cons (topic messageId payload label : String) (topics : List String) :
    (RelayPhase.forwarding messageId payload (label :: topics)).pending topic =
      (if label = topic then [payload] else []) ++
        List.replicate (topics.count topic) payload := by
  by_cases same : label = topic
  · simp [RelayPhase.pending, same, List.replicate_succ]
  · simp [RelayPhase.pending, same]

/-- What a relay has received in its turn it has offered or has still to offer. -/
theorem Forwards.offers {state next : State} {relay : RelayId} {found after : Relay}
    {effects : List Effect} {topic : String} (turn : Forwards state relay found next effects)
    (present : state.relays[relay]? = some found) (now : next.relays[relay]? = some after)
    (once : found.topics.count topic = 1) :
    found.phase.pending topic ++ effects.filterMap (Effect.received? relay) =
      effects.filterMap (Effect.offered? relay topic) ++ after.phase.pending topic := by
  cases turn with
  | received phase _ =>
      cases (State.relays_modifyRelay_self present).symm.trans now
      rw [phase, pending_forwardingOn, once]
      simp [RelayPhase.pending, List.filterMap_cons, Effect.received?, Effect.offered?]
  | sent phase _ =>
      cases (State.relays_modifyRelay_self present).symm.trans now
      rw [phase, pending_forwarding_cons, pending_forwardingOn]
      simp only [List.filterMap_cons, List.filterMap_nil, Effect.received?, Effect.offered?]
      split <;> simp [*]
  | notSent phase _ =>
      cases (State.relays_modifyRelay_self present).symm.trans now
      rw [phase, pending_forwarding_cons, pending_forwardingOn]
      simp only [List.filterMap_cons, List.filterMap_nil, Effect.received?, Effect.offered?]
      split <;> simp [*]
  | heeded _ phase =>
      cases (State.relays_modifyRelay_self present).symm.trans now
      rcases phase with phase | ⟨due, phase⟩ <;> rw [phase] <;> rfl
  | _ =>
      cases (State.relays_modifyRelay_self present).symm.trans now
      rw [‹found.phase = _›]
      rfl

/-- A relay receives and offers something in its own turns only. -/
theorem Moves.silent {state next : State} {move : Move} {effects : List Effect} {relay : RelayId}
    (moved : Moves state move next effects) (other : ∀ heed, move ≠ .relay relay heed) :
    ∀ effect ∈ effects, effect.relay? ≠ some relay := by
  have plain : effects.all Effect.isPlain = true →
      ∀ effect ∈ effects, effect.relay? ≠ some relay := by
    intro all effect among
    have plainly := List.all_eq_true.mp all effect among
    cases effect <;> simp [Effect.isPlain, Effect.relay?] at plainly ⊢
  cases moved with
  | start _ turn => exact plain turn.plain
  | stop _ turn => exact plain turn.plain
  | attach _ turn =>
      cases turn with
      | activated turn => cases turn <;> simp [Effect.relay?]
      | unauthorized => exact plain (all_isPlain_reports _)
      | admitted => exact plain (all_isPlain_reports _)
      | _ => exact plain rfl
  | @relay moving heed found next effects present turn =>
      have elsewhere : moving ≠ relay := fun same => other heed (by rw [same])
      cases turn <;> simp [Effect.relay?, elsewhere]
  | _ => exact plain rfl

/-- One move of the bridge: what a relay has received it has offered or has still to offer. -/
theorem Moves.offers {state next : State} {move : Move} {effects : List Effect} {relay : RelayId}
    {found : Relay} {topic : String} (moved : Moves state move next effects)
    (present : state.relays[relay]? = some found) (once : found.topics.count topic = 1) :
    ∃ after, next.relays[relay]? = some after ∧ after.mailbox = found.mailbox ∧
      after.topics = found.topics ∧
        found.phase.pending topic ++ effects.filterMap (Effect.received? relay) =
          effects.filterMap (Effect.offered? relay topic) ++ after.phase.pending topic := by
  obtain ⟨after, now, _⟩ := moved.serves ⟨found, present, rfl, rfl⟩
  refine ⟨after, now, ?_⟩
  by_cases mine : ∃ heed, move = .relay relay heed
  · obtain ⟨heed, rfl⟩ := mine
    cases moved with
    | relay there turn =>
        cases present.symm.trans there
        have same := turn.relay_eq present now
        exact ⟨by rw [same], by rw [same], turn.offers present now once⟩
  · have silent := moved.silent fun heed same => mine ⟨heed, same⟩
    have none : effects.filterMap (Effect.received? relay) = [] ∧
        effects.filterMap (Effect.offered? relay topic) = [] :=
      ⟨List.filterMap_eq_nil_iff.mpr fun _ among => Effect.received?_eq_none (silent _ among),
        List.filterMap_eq_nil_iff.mpr fun _ among => Effect.offered?_eq_none (silent _ among)⟩
    rw [none.1, none.2, List.append_nil, List.nil_append]
    cases moved.origin now with
    | kept was =>
        cases present.symm.trans was
        exact ⟨rfl, rfl, rfl⟩
    | told was same _ =>
        cases present.symm.trans was
        rw [same]
        exact ⟨rfl, rfl, rfl⟩
    | moved _ is _ _ => exact absurd ⟨_, is⟩ mine
    | spawned new _ _ _ =>
        subst new
        simp at present

/-- **What a relay has received it has offered, or has still to offer**, to each of its topics,
once and in the order in which it came. -/
theorem History.offers {middle now : State} {later : List Occurrence} {relay : RelayId}
    {found : Relay} {topic : String} (history : History middle later now)
    (present : middle.relays[relay]? = some found) (once : found.topics.count topic = 1) :
    ∃ still, now.relays[relay]? = some still ∧ still.mailbox = found.mailbox ∧
      still.topics = found.topics ∧
        found.phase.pending topic ++ receivedBy relay later =
          offeredTo relay topic later ++ still.phase.pending topic := by
  induction history with
  | start => exact ⟨found, present, rfl, rfl, by simp [receivedBy, offeredTo]⟩
  | move before step ih =>
      obtain ⟨still, there, mailbox, topics, balance⟩ := ih
      obtain ⟨after, now, sameMailbox, sameTopics, turn⟩ :=
        (step_cases step).offers there (topics ▸ once)
      refine ⟨after, now, sameMailbox.trans mailbox, sameTopics.trans topics, ?_⟩
      simp only [receivedBy, offeredTo, List.flatMap_append, List.flatMap_singleton] at balance ⊢
      rw [← List.append_assoc, balance, List.append_assoc, turn, List.append_assoc]

/-! ## Attachments that were answered with success -/

/-- A call that attaches a subscriber to a topic of a run. -/
def Job.isAttaching (run : RunId) (topic : String) : Job → Bool
  | .attach label (.activating there _) => label == topic && there == run
  | _ => false

theorem Job.isAttaching_iff {job : Job} {run : RunId} {topic : String} :
    job.isAttaching run topic = true ↔ ∃ phase, job = .attach topic (.activating run phase) := by
  unfold isAttaching
  constructor
  · intro attaching
    split at attaching
    · rename_i label there phase
      simp only [Bool.and_eq_true, beq_iff_eq] at attaching
      obtain ⟨rfl, rfl⟩ := attaching
      exact ⟨phase, rfl⟩
    · cases attaching
  · rintro ⟨phase, rfl⟩
    simp

/-- A call that has attached a subscriber to a topic. -/
def Job.isAttached (topic : String) : Job → Bool
  | .attach label (.done (.ok _)) => label == topic
  | _ => false

/-- Whether the call that attaches a subscriber to a topic of a run was answered with success. -/
def Occurrence.attaches (run : RunId) (topic : String) (occurrence : Occurrence) : Bool :=
  match occurrence.move with
  | .job job => occurrence.before.jobs[job]?.any (Job.isAttaching run topic) &&
      occurrence.after.jobs[job]?.any (Job.isAttached topic)
  | _ => false

theorem Occurrence.attaches_iff {run : RunId} {topic : String} {occurrence : Occurrence} :
    occurrence.attaches run topic = true ↔ ∃ job phase, occurrence.move = .job job ∧
      occurrence.before.jobs[job]? = some (.attach topic (.activating run phase)) ∧
        occurrence.after.jobs[job]? = some (.attach topic (.done (.ok ()))) := by
  constructor
  · intro attaches
    unfold Occurrence.attaches at attaches
    split at attaches
    · rename_i job move
      simp only [Bool.and_eq_true, Option.any_eq_true] at attaches
      obtain ⟨⟨before, present, attaching⟩, after, now, attached⟩ := attaches
      obtain ⟨phase, rfl⟩ := Job.isAttaching_iff.mp attaching
      unfold Job.isAttached at attached
      split at attached <;> simp_all
    · cases attaches
  · rintro ⟨job, phase, move, present, now⟩
    simp [attaches, move, present, now, Job.isAttaching, Job.isAttached]

/-- An attachment succeeds once it has passed all routes. -/
theorem Moves.of_attached {state next : State} {effects : List Effect} {job : JobId}
    {run : RunId} {topic : String} {phase : ActivationPhase}
    (moved : Moves state (.job job) next effects)
    (present : state.jobs[job]? = some (.attach topic (.activating run phase)))
    (answered : next.jobs[job]? = some (.attach topic (.done (.ok ())))) :
    phase = .approaching [] := by
  obtain ⟨after, middle, turn, rfl⟩ := moved.of_attach present
  cases (State.jobs_setJob_self (turn.leavesBridge.jobs ▸ present)).symm.trans answered
  generalize goes : AttachPhase.done (.ok ()) = after at turn
  cases turn with
  | @activated _ _ advance _ _ turn =>
      cases advance with
      | next advanced => cases goes
      | finish result =>
          cases result with
          | error failure => cases goes
          | ok value =>
              cases turn
              rfl

/-- A route that has a relay has one as long as its run starts routes. -/
theorem History.occupied {first middle now : State} {past later : List Occurrence} {run : RunId}
    {place : Place} {table : RouteTable} (history : History first past middle)
    (unused : first.Unused) (found : middle.table? run = some table)
    (occupied : middle.accepting? run = some true → middle.Occupied run place)
    (rest : History middle later now) (accepts : now.accepting? run = some true) :
    now.Occupied run place := by
  induction rest with
  | start => exact occupied accepts
  | move before step ih =>
      have moved := step_cases step
      have held := ih (moved.accepted (before.table? found) accepts)
      exact held.step ((history.append before).lifecycle unused) moved accepts

/-- A relay takes the payloads of the queue of a route to a topic. -/
structure State.Feeds (state : State) (run : RunId) (place : Place) (topic : String)
    (relay : RelayId) (found : Relay) : Prop where
  placed : ∃ slot, state.slot? run place = some slot ∧ slot.relay = some relay
  present : state.relays[relay]? = some found
  untold : found.told = false
  publishes : found.topics.count topic = 1
  /-- The relay is in its loop, or its consumer has got the last delivery of its mailbox. -/
  live : found.phase.loops = true ∨ state.upstream.HasEnded found.mailbox

/-- The relay of a route of a topic feeds the topic while the run of the route starts routes. -/
theorem State.Occupied.feeds {state : State} {run : RunId} {place : Place} {topic : String}
    {table : RouteTable} (occupied : state.Occupied run place) (own : Ownership state)
    (tabled : state.Tabled) (kept : Relaying state) (accepts : state.accepting? run = some true)
    (found : state.table? run = some table) (among : place ∈ table.positions topic) :
    ∃ relay found, state.Feeds run place topic relay found := by
  obtain ⟨slot, relay, there, holds⟩ := occupied
  obtain ⟨feeding, present, rfl, rfl⟩ := own.occupied there holds
  have untold : feeding.told = false := by
    cases told : feeding.told with
    | false => rfl
    | true => simp [kept.told present told] at accepts
  refine ⟨relay, feeding, ⟨slot, there, holds⟩, present, untold, ?_, ?_⟩
  · obtain ⟨scheme, queues, rfl⟩ := tabled found
    obtain ⟨published, atPlace, publishes⟩ :=
      (RouteTable.indexed_build scheme queues).mem_positions.mp among
    obtain ⟨route, here, topics⟩ := kept.route present
    obtain ⟨_, again, same⟩ := State.route?_eq_some_iff.mp here
    cases found.symm.trans again
    cases atPlace.symm.trans same
    rw [topics]
    exact RouteTable.count_topics_build scheme queues (List.mem_of_getElem? atPlace) publishes
  · cases loops : feeding.phase.loops with
    | true => exact .inl rfl
    | false =>
        rcases kept.left present loops with told | ended
        · simp [untold] at told
        · exact .inr ended

/-- **A successful attachment means a live feed, until the queue side closes it.**  Once an
attachment to a topic of a run has been answered with success, and as long as the bridge is in the
run, every route of the topic has a relay that feeds the topic: it was not told to stop, and it is
in its loop unless its consumer has got the last delivery of its mailbox, which then gets no more.
Whatever the relay receives from any moment on it offers to the topic, each message once and in
order, after what it had still to offer. -/
theorem History.live_feed {first now : State} {earlier later : List Occurrence}
    {answer : Occurrence} {run : RunId} {topic : String}
    (history : History first (earlier ++ answer :: later) now) (unused : first.Unused)
    (answered : answer.attaches run topic = true) (running : now.running = some run) :
    ∃ table, now.table? run = some table ∧ ∀ place ∈ table.positions topic,
      ∃ relay found, now.Feeds run place topic relay found ∧
        ∀ {after : List Occurrence} {last : State}, History now after last →
          (now.upstream.HasEnded found.mailbox → last.upstream.HasEnded found.mailbox) ∧
            ∃ still, last.relays[relay]? = some still ∧
              found.phase.pending topic ++ receivedBy relay after =
                offeredTo relay topic after ++ still.phase.pending topic := by
  obtain ⟨before, step, rest⟩ := history.occurrence
  obtain ⟨job, phase, is, present, done⟩ := Occurrence.attaches_iff.mp answered
  have moved : Moves answer.before (.job job) answer.after answer.effects := is ▸ step_cases step
  have passed := moved.of_attached present done
  subst passed
  obtain ⟨table, found, all⟩ := before.passing unused present rfl
  have accepts := (history.lifecycle unused).running running
  have whole : History answer.before (answer :: later) now :=
    (History.single step).append rest
  have still := whole.table? found
  refine ⟨table, still, fun place among => ?_⟩
  have occupied : now.Occupied run place :=
    before.occupied unused found (fun starts => (all starts place among).resolve_left (by simp))
      whole accepts
  obtain ⟨relay, feeding, feeds⟩ := occupied.feeds (history.ownership unused)
    (history.tabled unused) (history.relaying unused) accepts still among
  refine ⟨relay, feeding, feeds, fun onward => ⟨fun ended => ?_, ?_⟩⟩
  · exact history.hasEnded unused ended onward
  · obtain ⟨last, present, _, _, balance⟩ := onward.offers feeds.present feeds.publishes
    exact ⟨last, present, balance⟩

/-- The second subscriber of a topic finds the relay that was set up for the first, and what is
delivered then is offered to the topic. -/
theorem second_subscriber_is_fed :
    ∃ past now found later last, History (State.scripted ["Q"]) past now ∧
      now.Feeds 0 0 "Q" 0 found ∧ History now later last ∧ offeredTo 0 "Q" later = ["x"] := by
  obtain ⟨occurrences, now, history, checked⟩ := History.exists_of_record (State.scripted ["Q"])
    (startMoves 0 ++ .arrive (.attach "Q") :: List.replicate 8 (.job 1) ++
      .arrive (.attach "Q") :: List.replicate 5 (.job 2))
    (fun past now => past.getLast?.any (Occurrence.attaches 0 "Q") && now.running == some 0 &&
      now.relays.map (·.phase) == [.listening] &&
        (now.table? 0).any (·.positions "Q" == [0]) &&
          (now.record [.change (.deliver "Q" (.message ⟨none, .text "x"⟩)), .relay 0 false,
            .relay 0 false]).any fun reached =>
              receivedBy 0 reached.1 == ["x"] && reached.2.relays.map (·.phase) == [.listening]) rfl
  simp only [Bool.and_eq_true, beq_iff_eq, Option.any_eq_true, Prod.exists] at checked
  obtain ⟨⟨⟨⟨⟨answer, final, attaches⟩, running⟩, phases⟩, table, found, positions⟩, later, last,
    recorded, received, after⟩ := checked
  obtain ⟨past, rfl⟩ := List.getLast?_eq_some_iff.mp final
  obtain ⟨_, same, fed⟩ := history.live_feed (State.scripted_unused _) attaches running
  cases found.symm.trans same
  obtain ⟨relay, feeding, feeds, onward⟩ := fed 0 (by simp [positions])
  obtain ⟨_, still, present, balance⟩ := onward (.of_record recorded)
  have listens : ∀ {state : State} {found : Relay}, state.relays.map (·.phase) = [.listening] →
      state.relays[relay]? = some found → relay = 0 ∧ found.phase = .listening := by
    intro state found phases present
    have there : (state.relays.map (·.phase))[relay]? = some found.phase := by simp [present]
    rw [phases, List.getElem?_singleton] at there
    split at there
    · rename_i first
      exact ⟨first, (Option.some.inj there).symm⟩
    · cases there
  obtain ⟨rfl, phase⟩ := listens phases feeds.present
  rw [phase, (listens after present).2, received] at balance
  exact ⟨_, now, feeding, later, last, history, feeds, .of_record recorded, by
    simpa [RelayPhase.pending] using balance.symm⟩

/-- An attachment is answered with success although the relay of the only route of its topic has
left its loop: someone has closed the connection to the queues before. -/
theorem ended_relay_is_kept :
    ∃ past answer now, History (State.scripted ["Q"]) (past ++ [answer]) now ∧
      answer.attaches 0 "Q" = true ∧ now.running = some 0 ∧
        ∃ slot relay found, now.slot? 0 0 = some slot ∧ slot.relay = some relay ∧
          now.relays[relay]? = some found ∧ found.phase.loops = false := by
  obtain ⟨occurrences, now, history, checked⟩ := History.exists_of_record (State.scripted ["Q"])
    (startMoves 0 ++ .arrive (.attach "Q") :: List.replicate 8 (.job 1) ++
      [.closeSource, .relay 0 false, .arrive (.attach "Q")] ++ List.replicate 5 (.job 2))
    (fun past now => past.getLast?.any (Occurrence.attaches 0 "Q") && now.running == some 0 &&
      (now.slot? 0 0).any (·.relay == some 0) && now.relays[0]?.any (!·.phase.loops)) rfl
  simp only [Bool.and_eq_true, beq_iff_eq, Option.any_eq_true, Bool.not_eq_true'] at checked
  obtain ⟨⟨⟨⟨answer, last, attaches⟩, running⟩, slot, there, holds⟩, found, present, out⟩ := checked
  obtain ⟨past, rfl⟩ := List.getLast?_eq_some_iff.mp last
  exact ⟨past, answer, now, history, attaches, running, slot, 0, found, there, holds, present, out⟩

end TopicRelay
