import TopicRelay.Proofs.Custody

/-!
# What a relay makes of its deliveries

A relay takes the deliveries out of its mailbox in order and offers the payload of each message
to every topic of its route, once, before it takes the next.  What a topic that refuses nothing
has got from the relay is thus at every moment a beginning of what was delivered, and between two
messages it is all that the relay has received, for all such topics alike.  A payload that is
being offered is offered to all remaining topics: the relay looks at no signal meanwhile and waits
for nothing (`History.offered_in_full`).

Several relays may send to one topic.  What the topic has got altogether is what each of them
has sent, merged in some order (`Interleaves`).  `History.faithful` puts this together.
-/

namespace TopicRelay

set_option autoImplicit false

/-! ## Merging lists -/

/-- A list is made up of several lists, each in its own order. -/
def Interleaves {ι α : Type} [DecidableEq ι] (parts : ι → List α) (whole : List α) : Prop :=
  ∃ tagged : List (ι × α), tagged.map (·.2) = whole ∧
    ∀ part, (tagged.filter fun entry => entry.1 = part).map (·.2) = parts part

/-! ## What is sent -/

/-- The payload that a topic has taken from a relay. -/
def Effect.sent? (relay : RelayId) (topic : String) : Effect → Option String
  | .sent other label payload => if other = relay ∧ label = topic then some payload else none
  | _ => none

/-- A payload that a topic has taken, with the relay it came from. -/
def Effect.sentFrom? (topic : String) : Effect → Option (RelayId × String)
  | .sent relay label payload => if label = topic then some (relay, payload) else none
  | _ => none

/-- The payloads that a topic has taken from a relay, in order. -/
def sentTo (relay : RelayId) (topic : String) (past : List Occurrence) : List String :=
  past.flatMap fun occurrence => occurrence.effects.filterMap (Effect.sent? relay topic)

/-- Every payload that a topic has taken, with the relay it came from. -/
def arrivals (topic : String) (past : List Occurrence) : List (RelayId × String) :=
  past.flatMap fun occurrence => occurrence.effects.filterMap (Effect.sentFrom? topic)

/-- Whether a topic has refused what a relay has offered to it. -/
def Effect.refuses (relay : RelayId) (topic : String) : Effect → Bool
  | .notSent other label _ => other == relay && label == topic
  | _ => false

/-- A topic has refused nothing that a relay has offered to it. -/
def NeverRefuses (relay : RelayId) (topic : String) (past : List Occurrence) : Prop :=
  ∀ occurrence ∈ past, occurrence.effects.any (Effect.refuses relay topic) = false

/-- A topic that refuses nothing takes whatever is offered to it. -/
theorem sentTo_eq_offeredTo {relay : RelayId} {topic : String} {past : List Occurrence}
    (takes : NeverRefuses relay topic past) :
    sentTo relay topic past = offeredTo relay topic past := by
  refine List.flatMap_congr fun occurrence among => List.filterMap_congr fun effect shown => ?_
  cases effect with
  | notSent other label payload =>
      refine (if_neg ?_).symm
      rintro ⟨rfl, rfl⟩
      have accepted := List.any_eq_false.mp (takes occurrence among) _ shown
      simp [Effect.refuses] at accepted
  | _ => rfl

/-- Of all that a topic has taken, a relay has sent its part. -/
theorem arrivals_filter (relay : RelayId) (topic : String) (past : List Occurrence) :
    ((arrivals topic past).filter fun entry => entry.1 = relay).map (·.2) =
      sentTo relay topic past := by
  have each : ∀ effect : Effect, ((effect.sentFrom? topic).filter fun entry =>
      decide (entry.1 = relay)).map (·.2) = effect.sent? relay topic := by
    intro effect
    cases effect with
    | sent other label payload =>
        by_cases here : label = topic <;> by_cases mine : other = relay <;>
          simp [Effect.sentFrom?, Effect.sent?, here, mine]
    | _ => rfl
  simp only [arrivals, sentTo, List.filter_flatMap, List.map_flatMap, List.filter_filterMap,
    List.map_filterMap, each]

theorem sent_produce {downstream produced : Downstream} {topic : String}
    (opened : downstream.produce topic = .ok produced) : produced.sent = downstream.sent := by
  unfold Downstream.produce at opened
  split at opened
  · cases opened
  · split at opened
    · cases opened
    · split at opened <;> cases opened
      rfl

theorem sent_send {downstream accepting : Downstream} {topic payload : String}
    (accepted : downstream.send topic payload = .ok accepting) :
    accepting.sent = downstream.sent ++ [(topic, payload)] := by
  unfold Downstream.send at accepted
  split at accepted <;> cases accepted
  rfl

theorem sent_connect {downstream next : Downstream} {key : ServiceCredential}
    {outcome : Except TransportFailure Unit} (answer : downstream.connect key = (outcome, next)) :
    next.sent = downstream.sent := by
  unfold Downstream.connect at answer
  dsimp only at answer
  split at answer <;> cases answer <;> rfl

theorem sent_change (state : State) (change : Change) :
    (state.change change).downstream.sent = state.downstream.sent := by
  cases change with
  | switch fault on => cases fault <;> rfl
  | setNames names =>
      simp only [State.change, State.rescript]
      split <;> rfl
  | setPrincipal principal =>
      simp only [State.change, State.rescript]
      split <;> rfl
  | _ => rfl

/-- Only relays send. -/
theorem Moves.sent_eq {state next : State} {move : Move} {effects : List Effect}
    (moved : Moves state move next effects) (other : ∀ relay heed, move ≠ .relay relay heed) :
    next.downstream.sent = state.downstream.sent := by
  cases moved with
  | start _ turn =>
      cases turn with
      | sinkOpened answer => exact sent_connect answer
      | sinkUnopened answer => exact sent_connect answer
      | _ => rfl
  | stop _ turn => cases turn <;> rfl
  | attach _ turn =>
      cases turn with
      | activated turn =>
          cases turn with
          | produced opened => exact sent_produce opened
          | _ => rfl
      | _ => rfl
  | @relay relay heed found next effects _ _ => exact absurd rfl (other relay heed)
  | change => exact sent_change state _
  | _ => rfl

/-- One move of the bridge: a topic gets what is sent to it. -/
theorem Moves.arrives {state next : State} {move : Move} {effects : List Effect}
    (moved : Moves state move next effects) (topic : String) :
    next.downstream.payloads topic = state.downstream.payloads topic ++
      (effects.filterMap (Effect.sentFrom? topic)).map (·.2) := by
  by_cases mine : ∃ relay heed, move = .relay relay heed
  · obtain ⟨relay, heed, rfl⟩ := mine
    cases moved with
    | relay present turn =>
        cases turn with
        | @sent _ payload label _ _ _ accepted =>
            simp only [Downstream.payloads, State.setRelayPhase, State.modifyRelay,
              sent_send accepted, List.filter_append, List.map_append]
            by_cases here : label = topic <;> simp [Effect.sentFrom?, here]
        | _ => exact (List.append_nil _).symm
  · have other : ∀ relay heed, move ≠ .relay relay heed := fun relay heed same =>
      mine ⟨relay, heed, same⟩
    have none : effects.filterMap (Effect.sentFrom? topic) = [] := by
      refine List.filterMap_eq_nil_iff.mpr fun effect among => ?_
      cases effect with
      | sent relay label payload => exact absurd rfl (moved.silent (other relay) _ among)
      | _ => rfl
    rw [none, Downstream.payloads, moved.sent_eq other]
    exact (List.append_nil _).symm

/-- **What a topic has got is what the relays have sent to it, merged in some order.** -/
theorem History.merged {first now : State} {past : List Occurrence}
    (history : History first past now) (topic : String) :
    ∃ merged, now.downstream.payloads topic = first.downstream.payloads topic ++ merged ∧
      Interleaves (fun relay => sentTo relay topic past) merged := by
  refine ⟨(arrivals topic past).map (·.2), ?_, arrivals topic past, rfl,
    fun relay => arrivals_filter relay topic past⟩
  induction history with
  | start => simp [arrivals]
  | move _ step ih =>
      rw [(step_cases step).arrives topic, ih]
      simp [arrivals]

/-! ## What a relay has still to offer -/

/-- The topics to which a relay has still to send the present payload. -/
def RelayPhase.unserved : RelayPhase → List String
  | .forwarding _ _ topics => topics
  | _ => []

@[simp] theorem unserved_forwardingOn (messageId payload : String) (topics : List String) :
    (Relay.forwardingOn messageId payload topics).unserved = topics := by
  cases topics <;> rfl

theorem RelayPhase.pending_of_unserved {phase : RelayPhase} (served : phase.unserved = [])
    (topic : String) : phase.pending topic = [] := by
  cases phase with
  | forwarding messageId payload topics =>
      change topics = [] at served
      rw [served]
      rfl
  | _ => rfl

/-- A relay that offers a payload to its topics does not wait, whether it was told to stop or
not. -/
theorem relayTurn_isSome_of_unserved {state : State} {relay : RelayId} {found : Relay}
    (present : state.relays[relay]? = some found) (unserved : found.phase.unserved ≠ [])
    (heed : Bool) : (state.relayTurn relay heed).isSome = true := by
  cases phase : found.phase with
  | forwarding messageId payload topics =>
      cases topics with
      | nil => simp [phase, RelayPhase.unserved] at unserved
      | cons topic topics => simp [State.relayTurn, present, phase]
  | _ => simp [phase, RelayPhase.unserved] at unserved

/-- A relay that offers a payload goes on to the next topic and receives nothing. -/
theorem Forwards.serves_next {state next : State} {relay : RelayId} {found after : Relay}
    {effects : List Effect} {topic : String} {topics : List String}
    (turn : Forwards state relay found next effects) (present : state.relays[relay]? = some found)
    (now : next.relays[relay]? = some after) (unserved : found.phase.unserved = topic :: topics) :
    after.phase.unserved = topics ∧ effects.filterMap (Effect.received? relay) = [] := by
  cases turn with
  | sent phase _ =>
      cases (State.relays_modifyRelay_self present).symm.trans now
      rw [phase] at unserved
      cases unserved
      exact ⟨unserved_forwardingOn .., rfl⟩
  | notSent phase _ =>
      cases (State.relays_modifyRelay_self present).symm.trans now
      rw [phase] at unserved
      cases unserved
      exact ⟨unserved_forwardingOn .., rfl⟩
  | heeded _ phase =>
      rcases phase with phase | ⟨due, phase⟩ <;> simp [phase, RelayPhase.unserved] at unserved
  | _ =>
      rw [‹found.phase = _›] at unserved
      cases unserved

/-- A relay offers a payload to the topics that it has still to serve, which are topics of its
route. -/
theorem Forwards.offers_among {state next : State} {relay : RelayId} {found after : Relay}
    {effects : List Effect} (turn : Forwards state relay found next effects)
    (present : state.relays[relay]? = some found) (now : next.relays[relay]? = some after)
    (last : found.phase.unserved <:+ found.topics) :
    after.phase.unserved <:+ after.topics ∧
      ∀ topic ∉ found.topics, effects.filterMap (Effect.offered? relay topic) = [] := by
  have elsewhere : ∀ {label : String} {topics : List String},
      found.phase.unserved = label :: topics → ∀ topic ∉ found.topics, label ≠ topic := by
    rintro label topics unserved topic outside rfl
    exact outside (last.subset (by simp [unserved]))
  cases turn with
  | received phase _ =>
      cases (State.relays_modifyRelay_self present).symm.trans now
      rw [unserved_forwardingOn]
      exact ⟨List.suffix_rfl, fun _ _ => rfl⟩
  | sent phase _ =>
      cases (State.relays_modifyRelay_self present).symm.trans now
      rw [phase] at last elsewhere
      refine ⟨?_, fun topic outside => by simp [Effect.offered?, elsewhere rfl topic outside]⟩
      exact unserved_forwardingOn .. ▸ (List.suffix_cons ..).trans last
  | notSent phase _ =>
      cases (State.relays_modifyRelay_self present).symm.trans now
      rw [phase] at last elsewhere
      refine ⟨?_, fun topic outside => by simp [Effect.offered?, elsewhere rfl topic outside]⟩
      exact unserved_forwardingOn .. ▸ (List.suffix_cons ..).trans last
  | _ =>
      cases (State.relays_modifyRelay_self present).symm.trans now
      exact ⟨List.nil_suffix, fun _ _ => rfl⟩

/-! ## What a relay has received and offered altogether -/

/-- What a relay has received it has offered, or is offering, to each topic of its route, and it
has offered nothing to other topics. -/
structure Dispatches (relay : RelayId) (found : Relay) (past : List Occurrence) : Prop where
  last : found.phase.unserved <:+ found.topics
  elsewhere : ∀ topic ∉ found.topics, offeredTo relay topic past = []
  balanced : ∀ topic, found.topics.count topic = 1 →
    receivedBy relay past = offeredTo relay topic past ++ found.phase.pending topic

section

variable {state next : State} {move : Move} {effects : List Effect} {relay : RelayId}
  {past : List Occurrence}

theorem receivedBy_concat (last : Occurrence) :
    receivedBy relay (past ++ [last]) =
      receivedBy relay past ++ last.effects.filterMap (Effect.received? relay) := by
  simp [receivedBy]

theorem offeredTo_concat (topic : String) (last : Occurrence) :
    offeredTo relay topic (past ++ [last]) =
      offeredTo relay topic past ++ last.effects.filterMap (Effect.offered? relay topic) := by
  simp [offeredTo]

/-- A move that is not the turn of a relay adds nothing to what it has received and offered. -/
theorem Moves.adds_nothing (moved : Moves state move next effects)
    (other : ∀ heed, move ≠ .relay relay heed) :
    effects.filterMap (Effect.received? relay) = [] ∧
      ∀ topic, effects.filterMap (Effect.offered? relay topic) = [] := by
  have silent := moved.silent other
  exact ⟨List.filterMap_eq_nil_iff.mpr fun _ among => Effect.received?_eq_none (silent _ among),
    fun _ =>
      List.filterMap_eq_nil_iff.mpr fun _ among => Effect.offered?_eq_none (silent _ among)⟩

/-- A relay stays in its phase until it has a turn. -/
theorem Moves.phase_kept {found after : Relay} (moved : Moves state move next effects)
    (present : state.relays[relay]? = some found) (now : next.relays[relay]? = some after)
    (other : ∀ heed, move ≠ .relay relay heed) : after.phase = found.phase := by
  cases moved.origin now with
  | kept was =>
      cases present.symm.trans was
      rfl
  | told was same _ =>
      cases present.symm.trans was
      rw [same]
  | moved _ is _ _ => exact absurd is (other _)
  | spawned new _ _ _ =>
      subst new
      simp at present

/-- A relay that is not there has no turn. -/
theorem Moves.other_of_absent (moved : Moves state move next effects)
    (absent : state.relays[relay]? = none) (heed : Bool) : move ≠ .relay relay heed := by
  rintro rfl
  cases moved with
  | relay present _ => simp [absent] at present

/-- A relay has received and offered nothing. -/
def Silent (relay : RelayId) (past : List Occurrence) : Prop :=
  ∀ occurrence ∈ past, ∀ effect ∈ occurrence.effects, effect.relay? ≠ some relay

theorem Silent.concat {last : Occurrence} (silent : Silent relay past)
    (still : ∀ effect ∈ last.effects, effect.relay? ≠ some relay) :
    Silent relay (past ++ [last]) := by
  intro occurrence among
  rcases List.mem_append.mp among with earlier | new
  · exact silent occurrence earlier
  · cases List.mem_singleton.mp new
    exact still

/-- Before it is set up, a relay receives and offers nothing. -/
theorem History.silent_of_absent {first now : State} (history : History first past now)
    (absent : now.relays[relay]? = none) : Silent relay past := by
  induction history with
  | start => simp [Silent]
  | @move past now next move effects before step ih =>
      have moved := step_cases step
      have was : now.relays[relay]? = none := by
        cases present : now.relays[relay]? with
        | none => rfl
        | some found =>
            obtain ⟨after, there, _⟩ := moved.relay_kept present
            simp [absent] at there
      exact (ih was).concat (moved.silent (moved.other_of_absent was))

namespace Silent

theorem deliveredTo (silent : Silent relay past) : deliveredTo relay past = [] := by
  refine List.flatMap_eq_nil_iff.mpr fun occurrence among =>
    List.filterMap_eq_nil_iff.mpr fun effect shown => ?_
  have other := silent occurrence among effect shown
  cases effect with
  | received receiver delivery => exact if_neg fun same => other (congrArg some same)
  | _ => rfl

theorem receivedBy (silent : Silent relay past) : receivedBy relay past = [] :=
  List.flatMap_eq_nil_iff.mpr fun occurrence among => List.filterMap_eq_nil_iff.mpr fun _ shown =>
    Effect.received?_eq_none (silent occurrence among _ shown)

theorem offeredTo (silent : Silent relay past) (topic : String) : offeredTo relay topic past = [] :=
  List.flatMap_eq_nil_iff.mpr fun occurrence among => List.filterMap_eq_nil_iff.mpr fun _ shown =>
    Effect.offered?_eq_none (silent occurrence among _ shown)

end Silent

/-- A relay that has just been set up. -/
theorem Dispatches.of_silent {found : Relay} (listens : found.phase = .listening)
    (silent : Silent relay past) : Dispatches relay found past where
  last := by simp [listens, RelayPhase.unserved]
  elsewhere := fun topic _ => silent.offeredTo topic
  balanced := fun topic _ => by
    simp [silent.receivedBy, silent.offeredTo topic, listens, RelayPhase.pending]

/-- One move of the bridge. -/
theorem Dispatches.step {found after : Relay} (kept : Dispatches relay found past)
    (moved : Moves state move next effects) (present : state.relays[relay]? = some found)
    (now : next.relays[relay]? = some after) :
    Dispatches relay after (past ++ [⟨state, move, next, effects⟩]) := by
  obtain ⟨still, there, _, topics, _⟩ := moved.relay_kept present
  cases now.symm.trans there
  have balanced : ∀ topic, after.topics.count topic = 1 →
      receivedBy relay (past ++ [⟨state, move, next, effects⟩]) =
        offeredTo relay topic (past ++ [⟨state, move, next, effects⟩]) ++
          after.phase.pending topic := by
    intro topic once
    rw [topics] at once
    obtain ⟨_, again, _, _, turn⟩ := moved.offers present once
    cases now.symm.trans again
    rw [receivedBy_concat, kept.balanced topic once, List.append_assoc, turn, offeredTo_concat,
      List.append_assoc]
  have rest : after.phase.unserved <:+ after.topics ∧
      ∀ topic ∉ found.topics, effects.filterMap (Effect.offered? relay topic) = [] := by
    by_cases mine : ∃ heed, move = .relay relay heed
    · obtain ⟨heed, rfl⟩ := mine
      cases moved with
      | relay was turn =>
          cases present.symm.trans was
          exact turn.offers_among present now kept.last
    · have other : ∀ heed, move ≠ .relay relay heed := fun heed same => mine ⟨heed, same⟩
      refine ⟨?_, fun topic _ => (moved.adds_nothing other).2 topic⟩
      rw [moved.phase_kept present now other, topics]
      exact kept.last
  refine ⟨rest.1, fun topic outside => ?_, balanced⟩
  rw [topics] at outside
  rw [offeredTo_concat, kept.elsewhere topic outside, rest.2 topic outside, List.append_nil]

/-- **What every relay has received and offered altogether.** -/
theorem History.dispatches {first now : State} {found : Relay} (history : History first past now)
    (unused : first.Unused) (present : now.relays[relay]? = some found) :
    Dispatches relay found past := by
  induction history generalizing found with
  | start => simp [unused.relays] at present
  | @move past now next move effects before step ih =>
      have moved := step_cases step
      cases was : now.relays[relay]? with
      | some old => exact (ih was).step moved was present
      | none =>
          refine .of_silent ?_ ((before.silent_of_absent was).concat
            (moved.silent (moved.other_of_absent was)))
          cases moved.origin present with
          | spawned _ _ _ same => rw [same]; rfl
          | kept there => simp [was] at there
          | told there _ _ => simp [was] at there
          | moved there _ _ _ => simp [was] at there

/-! ## Offering a payload in full -/

/-- Whether a move is the turn of a relay. -/
def Occurrence.isTurnOf (relay : RelayId) (occurrence : Occurrence) : Bool :=
  match occurrence.move with
  | .relay other _ => other == relay
  | _ => false

/-- A relay that has offered everything has received nothing that it has not offered. -/
theorem Dispatches.offered_of_served {found : Relay} {later : List Occurrence} {topic : String}
    (kept : Dispatches relay found (past ++ later)) (once : found.topics.count topic = 1)
    (served : found.phase.unserved = []) (none : receivedBy relay later = []) :
    receivedBy relay past <+: offeredTo relay topic (past ++ later) := by
  have all := kept.balanced topic once
  rw [RelayPhase.pending_of_unserved served, List.append_nil] at all
  have apart : receivedBy relay (past ++ later) = receivedBy relay past ++ receivedBy relay later :=
    List.flatMap_append ..
  have same : offeredTo relay topic (past ++ later) = receivedBy relay past := by
    rw [← all, apart, none, List.append_nil]
  exact same ▸ List.prefix_rfl

/-- A relay with some topics to serve has received nothing since then, and each of its turns has
brought it nearer to the end. -/
structure Nearing (relay : RelayId) (topics : List String) (later : List Occurrence)
    (found : Relay) : Prop where
  none : receivedBy relay later = []
  nearer : found.phase.unserved.length + later.countP (Occurrence.isTurnOf relay) ≤ topics.length

/-- The relay serves its next topic. -/
theorem Nearing.turn {found after : Relay} {topics rest : List String} {label : String}
    {later : List Occurrence} {heed : Bool} (nearing : Nearing relay topics later found)
    (turn : Forwards state relay found next effects) (present : state.relays[relay]? = some found)
    (now : next.relays[relay]? = some after) (unserved : found.phase.unserved = label :: rest) :
    Nearing relay topics (later ++ [⟨state, .relay relay heed, next, effects⟩]) after := by
  obtain ⟨left, noReceipt⟩ := turn.serves_next present now unserved
  have counts : Occurrence.isTurnOf relay ⟨state, .relay relay heed, next, effects⟩ = true :=
    beq_self_eq_true relay
  have nearer := nearing.nearer
  constructor
  · rw [receivedBy_concat, nearing.none, noReceipt, List.append_nil]
  · rw [unserved, List.length_cons] at nearer
    rw [List.countP_append, List.countP_singleton, if_pos counts, left]
    omega

/-- Someone else has a turn. -/
theorem Nearing.other {found after : Relay} {topics : List String} {later : List Occurrence}
    (nearing : Nearing relay topics later found) (moved : Moves state move next effects)
    (present : state.relays[relay]? = some found) (now : next.relays[relay]? = some after)
    (other : ∀ heed, move ≠ .relay relay heed) :
    Nearing relay topics (later ++ [⟨state, move, next, effects⟩]) after := by
  have idle : Occurrence.isTurnOf relay ⟨state, move, next, effects⟩ = false := by
    cases move with
    | relay moving heed => exact beq_false_of_ne fun same => other heed (by rw [same])
    | _ => rfl
  constructor
  · rw [receivedBy_concat, nearing.none, (moved.adds_nothing other).1, List.append_nil]
  · rw [List.countP_append, List.countP_singleton, idle, moved.phase_kept present now other]
    exact nearing.nearer

end

/-- **A payload that is being offered is offered to all topics.**  Once a relay has had as many
turns as it has topics still to serve, it has offered all that it had received to each topic of its
route, whatever it was told meanwhile. -/
theorem History.offered_in_full {first now last : State} {past later : List Occurrence}
    {relay : RelayId} {found : Relay} {topic : String} (history : History first past now)
    (unused : first.Unused) (present : now.relays[relay]? = some found)
    (once : found.topics.count topic = 1) (rest : History now later last)
    (turns : found.phase.unserved.length ≤ later.countP (Occurrence.isTurnOf relay)) :
    receivedBy relay past <+: offeredTo relay topic (past ++ later) := by
  have served : ∀ {later : List Occurrence} {last : State} {still : Relay},
      History now later last → last.relays[relay]? = some still → receivedBy relay later = [] →
        still.phase.unserved = [] →
          receivedBy relay past <+: offeredTo relay topic (past ++ later) := by
    intro later last still rest there none served
    obtain ⟨_, here, _, topics, _⟩ := rest.relay_kept present
    cases there.symm.trans here
    exact ((history.append rest).dispatches unused there).offered_of_served (topics ▸ once)
      served none
  have progress : receivedBy relay past <+: offeredTo relay topic (past ++ later) ∨
      ∃ still, last.relays[relay]? = some still ∧
        Nearing relay found.phase.unserved later still := by
    clear turns
    induction rest with
    | start => exact .inr ⟨found, present, rfl, by simp⟩
    | @move later middle next move effects before step ih =>
        have moved := step_cases step
        have onward : receivedBy relay past <+: offeredTo relay topic (past ++ later) →
            receivedBy relay past <+:
              offeredTo relay topic (past ++ (later ++ [⟨middle, move, next, effects⟩])) := by
          intro offered
          rw [← List.append_assoc, offeredTo_concat]
          exact offered.trans (List.prefix_append ..)
        rcases ih with offered | ⟨still, there, nearing⟩
        · exact .inl (onward offered)
        obtain ⟨after, now, _⟩ := moved.relay_kept there
        by_cases mine : ∃ heed, move = .relay relay heed
        · obtain ⟨heed, rfl⟩ := mine
          cases moved with
          | relay was turn =>
              cases there.symm.trans was
              cases unserved : still.phase.unserved with
              | nil => exact .inl (onward (served before there nearing.none unserved))
              | cons label topics => exact .inr ⟨after, now, nearing.turn turn there now unserved⟩
        · exact .inr ⟨after, now, nearing.other moved there now fun heed same =>
            mine ⟨heed, same⟩⟩
  rcases progress with offered | ⟨still, there, nearing⟩
  · exact offered
  · have nearer := nearing.nearer
    exact served rest there nearing.none (List.eq_nil_of_length_eq_zero (by omega))

/-! ## Fidelity -/

/-- A relay offers each payload to a topic of its route once. -/
theorem History.count_topics {first now : State} {past : List Occurrence} {relay : RelayId}
    {found : Relay} {topic : String} (history : History first past now) (unused : first.Unused)
    (present : now.relays[relay]? = some found) (publishes : topic ∈ found.topics) :
    found.topics.count topic = 1 := by
  obtain ⟨route, here, topics⟩ := (history.relaying unused).route present
  obtain ⟨_, there, atPlace⟩ := State.route?_eq_some_iff.mp here
  obtain ⟨scheme, queues, rfl⟩ := history.tabled unused there
  rw [topics] at publishes ⊢
  exact RouteTable.count_topics_build scheme queues (List.mem_of_getElem? atPlace) publishes

theorem Dispatches.length_pending_le {relay : RelayId} {found : Relay} {past : List Occurrence}
    {topic : String} (kept : Dispatches relay found past)
    (once : found.topics.count topic = 1) : (found.phase.pending topic).length ≤ 1 := by
  have last := kept.last
  cases phase : found.phase with
  | forwarding messageId payload topics =>
      rw [phase] at last
      have bound := last.sublist.count_le topic
      rw [RelayPhase.pending, List.length_replicate]
      exact once ▸ bound
  | _ => exact Nat.zero_le _

/-- What was not offered was not sent. -/
theorem sentTo_eq_nil {relay : RelayId} {topic : String} {past : List Occurrence}
    (none : offeredTo relay topic past = []) : sentTo relay topic past = [] := by
  refine List.flatMap_eq_nil_iff.mpr fun occurrence among =>
    List.filterMap_eq_nil_iff.mpr fun effect shown => ?_
  have offered := List.filterMap_eq_nil_iff.mp (List.flatMap_eq_nil_iff.mp none _ among) _ shown
  cases effect with
  | sent other label payload => exact offered
  | _ => rfl

/-- **Relays are faithful.**  After every history of a bridge, however its relays, its calls and
the deliveries to its queues have interleaved, every relay has received what was delivered to its
consumer, in order and up to what still waits.  A topic of its route that has refused nothing has
got a beginning of the delivered payloads, and between two messages all that the relay has
received.  Each payload is offered once to each topic of the route and to no other topic; at most
one is on its way, and it is offered in full by the relay's own next turns, for which it never has
to wait, whatever it is told.  No two relays serve the same route, and what a topic has got is what
the relays have sent to it, merged in some order. -/
theorem History.faithful {first now : State} {past : List Occurrence}
    (history : History first past now) (unused : first.Unused) :
    (∀ {relay : RelayId} {found : Relay}, now.relays[relay]? = some found →
      depositedIn found.mailbox past =
          deliveredTo relay past ++ now.upstream.waiting found.mailbox ∧
        (∀ topic ∈ found.topics,
          (NeverRefuses relay topic past →
            sentTo relay topic past <+: payloads (depositedIn found.mailbox past) ∧
              (found.phase.unserved = [] →
                sentTo relay topic past = payloads (deliveredTo relay past))) ∧
          payloads (deliveredTo relay past) =
              offeredTo relay topic past ++ found.phase.pending topic ∧
            (found.phase.pending topic).length ≤ 1 ∧
            ∀ {later : List Occurrence} {last : State}, History now later last →
              found.phase.unserved.length ≤ later.countP (Occurrence.isTurnOf relay) →
                payloads (deliveredTo relay past) <+: offeredTo relay topic (past ++ later)) ∧
        (found.phase.unserved ≠ [] → ∀ heed, (now.step (.relay relay heed)).isSome = true) ∧
        (∀ topic ∉ found.topics, sentTo relay topic past = []) ∧
        ∀ {other : RelayId}, now.Serves other found.run found.place → other = relay) ∧
      ∀ topic, ∃ merged,
        now.downstream.payloads topic = first.downstream.payloads topic ++ merged ∧
          Interleaves (fun relay => sentTo relay topic past) merged := by
  refine ⟨fun {relay found} present => ?_, history.merged⟩
  have deposited : depositedIn found.mailbox past =
      deliveredTo relay past ++ now.upstream.waiting found.mailbox := by
    rw [history.deposited unused, History.start.takenFrom_eq unused history present]
  have kept := history.dispatches unused present
  refine ⟨deposited, fun topic publishes => ?_, relayTurn_isSome_of_unserved present,
    fun topic outside => sentTo_eq_nil (kept.elsewhere topic outside),
    fun serves => (history.ownership unused).single serves ⟨found, present, rfl, rfl⟩⟩
  have once := history.count_topics unused present publishes
  have balanced := kept.balanced topic once
  rw [payloads_deliveredTo]
  refine ⟨fun takes => ?_, balanced, kept.length_pending_le once, fun rest turns =>
    history.offered_in_full unused present once rest turns⟩
  rw [sentTo_eq_offeredTo takes, deposited, payloads_append, payloads_deliveredTo, balanced]
  refine ⟨?_, fun served => ?_⟩
  · rw [List.append_assoc]
    exact List.prefix_append ..
  · rw [RelayPhase.pending_of_unserved served, List.append_nil]

/-- Two routes share a topic, and another topic refuses everything.  The first relay is told to
stop while it waits with a message before it, takes the message all the same, and is told so in
vain again when it has served one of its topics. -/
theorem told_relay_is_faithful :
    ∃ past now found later last,
      History (State.scripted ["CWMS_20.SPK_A", "CWMS_20.SPK_B"]) past now ∧
        now.relays[0]? = some found ∧ found.told = true ∧ History now later last ∧
          payloads (depositedIn found.mailbox past) = ["a", "c"] ∧
            sentTo 0 "CDA.SPK.A" past = ["a"] ∧
              sentTo 0 "CDA.SPK.A" past <+: payloads (depositedIn found.mailbox past) ∧
                ["a", "c"] <+: offeredTo 0 "CDA.SPK.A" (past ++ later) ∧
                  now.downstream.payloads "CDA.SPK.ALL" = ["b", "a", "c"] ∧
                    Interleaves (fun relay => sentTo relay "CDA.SPK.ALL" past)
                      ["b", "a", "c"] := by
  obtain ⟨past, now, history, checked⟩ :=
    History.exists_of_record (State.scripted ["CWMS_20.SPK_A", "CWMS_20.SPK_B"])
      (startMoves 0 ++ .arrive (.attach "CDA.SPK.ALL") :: List.replicate 15 (.job 1) ++
        [.change (.rejectPayloads "CDA.SPK.B" true),
          .change (.deliver "CWMS_20.SPK_A" (.message ⟨none, .text "a"⟩)),
          .change (.deliver "CWMS_20.SPK_A" (.failure "lost")),
          .change (.deliver "CWMS_20.SPK_B" (.message ⟨none, .text "b"⟩)),
          .change (.deliver "CWMS_20.SPK_A" (.message ⟨none, .text "c"⟩)),
          .relay 1 false, .relay 0 false, .relay 1 false, .relay 0 false, .relay 0 false,
          .relay 0 false, .wait 100, .relay 0 false, .relay 1 false, .arrive .stop, .job 2,
          .job 2, .job 2, .job 2, .job 2, .relay 0 false, .relay 0 true])
      (fun past now => now.relays[0]?.any (fun found => found.told &&
          found.topics.contains "CDA.SPK.A" && found.phase.unserved.length == 1 &&
            payloads (depositedIn found.mailbox past) == ["a", "c"]) &&
        past.all (fun past => !past.effects.any (Effect.refuses 0 "CDA.SPK.A")) &&
          sentTo 0 "CDA.SPK.A" past == ["a"] && payloads (deliveredTo 0 past) == ["a", "c"] &&
            now.downstream.payloads "CDA.SPK.ALL" == ["b", "a", "c"] &&
              (now.record [.relay 0 true]).any fun reached =>
                reached.1.countP (Occurrence.isTurnOf 0) == 1) rfl
  simp only [Bool.and_eq_true, beq_iff_eq, Option.any_eq_true, List.contains_iff_mem,
    List.all_eq_true, Bool.not_eq_true'] at checked
  obtain ⟨⟨⟨⟨⟨⟨found, present, ⟨⟨told, publishes⟩, unserved⟩, deposited⟩, takes⟩, sent⟩, received⟩,
    arrived⟩, ⟨later, last⟩, recorded, turn⟩ := checked
  have onward : History now later last := .of_record recorded
  obtain ⟨each, all⟩ := history.faithful (State.scripted_unused _)
  obtain ⟨_, topics, _⟩ := each present
  obtain ⟨accepted, _, _, full⟩ := topics _ publishes
  obtain ⟨merged, got, parts⟩ := all "CDA.SPK.ALL"
  have whole : merged = ["b", "a", "c"] := by
    rw [arrived] at got
    exact got.symm
  exact ⟨past, now, found, later, last, history, present, told, onward, deposited, sent,
    (accepted takes).1, received ▸ full onward (Nat.le_of_eq (unserved.trans turn.symm)), arrived,
    whole ▸ parts⟩

end TopicRelay
