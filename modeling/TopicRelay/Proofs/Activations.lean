import TopicRelay.Proofs.Custody
import TopicRelay.Proofs.Refusals

/-!
# What an activation does with its handles

To activate a route a call asks the queue for a consumer and then each topic of the route for a
producer.  It hands all of them to a relay, or, if a topic refuses, closes the producers that it has
got and then the consumer.  `Activation.effects` is what the connections see of an activation that
is over, `Activation.closes_all` says that one that has failed has closed what it had opened, and
`Activation.hands_over` that the others have opened all that the route needs and closed nothing.

A call activates one route after the other, and stops at the first that fails.  So what the
connections have seen of a call is what its activations have shown, one after the other, and a part
of what the present one shows (`History.engaged`).
-/

namespace TopicRelay

set_option autoImplicit false

/-! ## Handles -/

/-- What a connection gives out and is to get back. -/
inductive Handle where
  | consumer (mailbox : MailboxId)
  | producer (topic : String)
  deriving DecidableEq, Repr

namespace Effect

/-- The handle that was opened. -/
def opened? : Effect → Option Handle
  | .consumerOpened mailbox => some (.consumer mailbox)
  | .producerOpened topic => some (.producer topic)
  | _ => none

/-- The handle that was closed. -/
def closed? : Effect → Option Handle
  | .consumerClosed mailbox => some (.consumer mailbox)
  | .producerClosed topic => some (.producer topic)
  | _ => none

/-- The relay that was set up. -/
def spawned? : Effect → Option RelayId
  | .relaySpawned relay => some relay
  | _ => none

end Effect

/-- A producer is opened for each topic. -/
def openings (topics : List String) : List Effect :=
  topics.flatMap fun topic => [.producerRequested topic, .producerOpened topic]

theorem openings_concat (topics : List String) (last : String) :
    openings (topics ++ [last]) =
      openings topics ++ [.producerRequested last, .producerOpened last] := by
  simp [openings]

theorem opened_openings (topics : List String) :
    (openings topics).filterMap Effect.opened? = topics.map .producer := by
  rw [List.map_eq_flatMap]
  simp [openings, List.filterMap_flatMap, List.filterMap_cons, Effect.opened?]

theorem closed_openings (topics : List String) :
    (openings topics).filterMap Effect.closed? = [] := by
  simp [openings, List.filterMap_flatMap, Effect.closed?]

theorem spawned_openings (topics : List String) :
    (openings topics).filterMap Effect.spawned? = [] := by
  simp [openings, List.filterMap_flatMap, Effect.spawned?]

/-! ## Activations -/

/-- How the activation of a route has ended. -/
inductive ActivationEnd where
  /-- The queue gave no consumer. -/
  | unconnected (failure : TransportFailure)
  /-- A topic gave no producer; those before it had given theirs. -/
  | unproduced (mailbox : MailboxId) (before : List String) (topic : String)
      (failure : TransportFailure)
  /-- A relay has taken over. -/
  | started (mailbox : MailboxId) (relay : RelayId)

/-- An activation of a route that is over. -/
structure Activation where
  place : Place
  route : Route
  outcome : ActivationEnd

namespace Activation

/-- Why an activation has failed, if it has. -/
def failure? (activation : Activation) : Option TransportFailure :=
  match activation.outcome with
  | .unconnected failure | .unproduced _ _ _ failure => some failure
  | .started _ _ => none

/-- What the connections have seen of an activation. -/
def effects (activation : Activation) : List Effect :=
  match activation.outcome with
  | .unconnected _ => [.consumerRequested activation.route.id]
  | .unproduced mailbox before topic _ =>
    [.consumerRequested activation.route.id, .consumerOpened mailbox] ++ openings before ++
      [.producerRequested topic] ++ before.map .producerClosed ++ [.consumerClosed mailbox]
  | .started mailbox relay =>
    [.consumerRequested activation.route.id, .consumerOpened mailbox] ++
      openings activation.route.topics ++ [.relaySpawned relay]

/-- **An activation that has failed has closed each handle that it had opened, and set up no
relay.** -/
theorem closes_all {activation : Activation} (failed : activation.failure?.isSome = true) :
    (activation.effects.filterMap Effect.closed?).Perm
        (activation.effects.filterMap Effect.opened?) ∧
      activation.effects.filterMap Effect.spawned? = [] := by
  obtain ⟨place, route, _ | ⟨mailbox, before, topic, failure⟩ | _⟩ := activation
  · exact ⟨.nil, rfl⟩
  · have opened : (effects ⟨place, route, .unproduced mailbox before topic failure⟩).filterMap
        Effect.opened? = .consumer mailbox :: before.map .producer := by
      simp [effects, List.filterMap_cons, List.filterMap_map, opened_openings, Effect.opened?,
        Function.comp_def]
    have closed : (effects ⟨place, route, .unproduced mailbox before topic failure⟩).filterMap
        Effect.closed? = before.map .producer ++ [.consumer mailbox] := by
      simp [effects, List.filterMap_cons, List.filterMap_map, closed_openings, Effect.closed?,
        Function.comp_def]
    constructor
    · rw [opened, closed]
      exact List.perm_append_singleton ..
    · simp [effects, List.filterMap_cons, List.filterMap_map, spawned_openings, Effect.spawned?,
        Function.comp_def]
  · cases failed

/-- **An activation that has not failed has opened a consumer and a producer for each topic, in
order, has closed none of them and has set up one relay.** -/
theorem hands_over {activation : Activation} {mailbox : MailboxId} {relay : RelayId}
    (started : activation.outcome = .started mailbox relay) :
    activation.effects.filterMap Effect.opened? =
        .consumer mailbox :: activation.route.topics.map .producer ∧
      activation.effects.filterMap Effect.closed? = [] ∧
        activation.effects.filterMap Effect.spawned? = [relay] := by
  refine ⟨?_, ?_, ?_⟩
  · simp [effects, started, List.filterMap_cons, opened_openings, Effect.opened?]
  · simp [effects, started, List.filterMap_cons, closed_openings, Effect.closed?]
  · simp [effects, started, List.filterMap_cons, spawned_openings, Effect.spawned?]

theorem failure?_of_started {activation : Activation} {mailbox : MailboxId} {relay : RelayId}
    (started : activation.outcome = .started mailbox relay) : activation.failure? = none := by
  simp [failure?, started]

theorem outcome_of_unfailed {activation : Activation} (unfailed : activation.failure? = none) :
    ∃ mailbox relay, activation.outcome = .started mailbox relay := by
  obtain ⟨place, route, _ | _ | ⟨mailbox, relay⟩⟩ := activation
  · cases unfailed
  · cases unfailed
  · exact ⟨mailbox, relay, rfl⟩

end Activation

/-- A move of a call was refused by a connection, as the end of an activation says. -/
def Occurrence.Refuses (occurrence : Occurrence) (route : Route) : ActivationEnd → Prop
  | .unconnected failure =>
    (occurrence.before.upstream.consume (occurrence.before.subscription route)).1 = .error failure
  | .unproduced _ _ topic failure => occurrence.before.downstream.produce topic = .error failure
  | .started _ _ => False

namespace Activation

/-- The activation has failed since a connection has refused a turn of the call. -/
def Refused (activation : Activation) (job : JobId) (past : List Occurrence) : Prop :=
  ∃ occurrence ∈ past, occurrence.move = .job job ∧
    occurrence.Refuses activation.route activation.outcome

/-- A call has activated a route of a run. -/
structure IsOf (activation : Activation) (state : State) (run : RunId) (job : JobId)
    (past : List Occurrence) : Prop where
  here : state.route? run activation.place = some activation.route
  /-- Producers are asked for in the order of the route. -/
  part : ∀ {mailbox before topic failure},
    activation.outcome = .unproduced mailbox before topic failure →
      before ++ [topic] <+: activation.route.topics
  refused : activation.failure?.isSome = true → activation.Refused job past
  /-- The relay has the consumer, and the producers in the order of the route. -/
  handed : ∀ {mailbox relay}, activation.outcome = .started mailbox relay →
    ∃ found, state.relays[relay]? = some found ∧ found.run = run ∧
      found.place = activation.place ∧ found.mailbox = mailbox ∧
        found.topics = activation.route.topics

variable {state next : State} {move : Move} {effects : List Effect} {run : RunId} {job : JobId}
  {past : List Occurrence} {activation : Activation}

theorem Refused.append (refused : activation.Refused job past) (more : List Occurrence) :
    activation.Refused job (past ++ more) := by
  obtain ⟨occurrence, among, refuses⟩ := refused
  exact ⟨occurrence, List.mem_append_left _ among, refuses⟩

theorem IsOf.step (of : activation.IsOf state run job past) (moved : Moves state move next effects)
    (more : List Occurrence) : activation.IsOf next run job (past ++ more) where
  here := moved.route? of.here
  part := of.part
  refused := fun failed => (of.refused failed).append more
  handed := by
    intro mailbox relay started
    obtain ⟨found, present, inRun, atPlace, holds, topics⟩ := of.handed started
    obtain ⟨after, now, sameMailbox, sameTopics, sameRun, samePlace⟩ := moved.relay_kept present
    exact ⟨after, now, sameRun.trans inRun, samePlace.trans atPlace, sameMailbox.trans holds,
      sameTopics.trans topics⟩

end Activation

/-! ## Activations under way -/

/-- What the connections have seen so far of the present activation of a call. -/
inductive Shows (state : State) (run : RunId) (job : JobId) (past : List Occurrence) :
    ActivationPhase → List Effect → Prop where
  | resting {phase : ActivationPhase} (idle : phase.claims? = none) :
      Shows state run job past phase []
  | connecting {place : Place} {ahead : List Place} {due : Nat} {route : Route}
      (here : state.route? run place = some route) :
      Shows state run job past (.connecting place ahead due) [.consumerRequested route.id]
  | producing {place : Place} {ahead : List Place} {mailbox : MailboxId}
      {opened wanted : List String} {route : Route} (here : state.route? run place = some route)
      (complete : opened ++ wanted = route.topics) :
      Shows state run job past (.producing place ahead mailbox opened wanted)
        ([.consumerRequested route.id, .consumerOpened mailbox] ++ openings opened)
  | undoing {place : Place} {mailbox : MailboxId} {closed left : List String} {topic : String}
      {failure : TransportFailure} {route : Route} (here : state.route? run place = some route)
      (part : closed ++ left ++ [topic] <+: route.topics)
      (refused : Activation.Refused
        ⟨place, route, .unproduced mailbox (closed ++ left) topic failure⟩ job past) :
      Shows state run job past (.undoing place mailbox left failure)
        ([.consumerRequested route.id, .consumerOpened mailbox] ++ openings (closed ++ left) ++
          [.producerRequested topic] ++ closed.map .producerClosed)

theorem Shows.step {state next : State} {move : Move} {effects seen : List Effect} {run : RunId}
    {job : JobId} {past : List Occurrence} {phase : ActivationPhase}
    (shows : Shows state run job past phase seen) (moved : Moves state move next effects)
    (more : List Occurrence) : Shows next run job (past ++ more) phase seen := by
  cases shows with
  | resting idle => exact .resting idle
  | connecting here => exact .connecting (moved.route? here)
  | producing here complete => exact .producing (moved.route? here) complete
  | undoing here part refused =>
      exact .undoing (moved.route? here) part (refused.append more)

/-- What the connections have seen of an activation after a turn: it goes on, or it has ended. -/
inductive Continues (state : State) (run : RunId) (job : JobId) (past : List Occurrence)
    (phase : ActivationPhase) (seen : List Effect) :
    Advance ActivationPhase (Except ActivationFailure Unit) → Prop where
  | onward {after : ActivationPhase} (still : phase.claims? = none ∨ after.claims? = phase.claims?)
      (shows : Shows state run job past after seen) :
      Continues state run job past phase seen (.next after)
  | started {activation : Activation} {ahead : List Place} {mailbox : MailboxId} {relay : RelayId}
      (ours : phase.place? = some activation.place) (own : activation.IsOf state run job past)
      (ends : activation.outcome = .started mailbox relay)
      (youngest : state.relays.length = relay + 1) (all : seen = activation.effects) :
      Continues state run job past phase seen (.next (.approaching ahead))
  | failed {activation : Activation} {failure : TransportFailure}
      {answer : Except ActivationFailure Unit} (ours : phase.place? = some activation.place)
      (own : activation.IsOf state run job past) (fails : activation.failure? = some failure)
      (all : seen = activation.effects)
      (same : answer = .error (.startFailed activation.route.id failure)) :
      Continues state run job past phase seen (.finish answer)
  | answered {answer : Except ActivationFailure Unit} (nothing : seen = [])
      (other : ∀ id failure, answer ≠ .error (.startFailed id failure)) :
      Continues state run job past phase seen (.finish answer)

/-- **Each turn of an activation shows the next part of it.** -/
theorem Activates.continues {state middle next : State} {run : RunId} {job : JobId} {topic : String}
    {phase : ActivationPhase} {advance : Advance ActivationPhase (Except ActivationFailure Unit)}
    {effects seen : List Effect} {past : List Occurrence}
    (turn : Activates state job run topic phase advance middle effects)
    (moved : Moves state (.job job) next effects) (relays : next.relays = middle.relays)
    (before : Shows state run job past phase seen) :
    Continues next run job (past ++ [⟨state, .job job, next, effects⟩]) phase
      (seen ++ effects.filter fun effect => !effect.isReport) advance := by
  have shows := before.step moved [⟨state, .job job, next, effects⟩]
  have last : (⟨state, .job job, next, effects⟩ : Occurrence) ∈
      past ++ [⟨state, .job job, next, effects⟩] :=
    List.mem_append_right _ (List.mem_singleton_self _)
  generalize past ++ [⟨state, .job job, next, effects⟩] = later at shows last
  clear before
  cases turn with
  | unknown _ =>
      cases shows
      exact .answered rfl (by simp)
  | resolved _ _ =>
      cases shows
      exact .onward (.inl rfl) (.resting rfl)
  | completed =>
      cases shows
      exact .answered rfl (by simp)
  | asked _ _ =>
      cases shows
      exact .onward (.inl rfl) (.resting rfl)
  | needless _ _ _ _ =>
      cases shows
      exact .onward (.inl rfl) (.resting rfl)
  | refused _ _ _ _ _ =>
      cases shows
      exact .answered rfl (by simp)
  | claimed here _ _ _ _ =>
      cases shows
      exact .onward (.inl rfl) (.connecting (moved.route? here))
  | connected here consumed =>
      cases shows with
      | resting idle => cases idle
      | connecting there =>
          cases (moved.route? here).symm.trans there
          exact .onward (.inr rfl) (.producing there rfl)
  | @unconnected place ahead due route failure upstream here refused =>
      cases shows with
      | resting idle => cases idle
      | connecting there =>
          cases (moved.route? here).symm.trans there
          have own : Activation.IsOf ⟨place, route, .unconnected failure⟩ next run job later :=
            ⟨there, by rintro _ _ _ _ ⟨⟩, fun _ => ⟨_, last, rfl, congrArg Prod.fst refused⟩,
              by rintro _ _ ⟨⟩⟩
          exact .failed rfl own rfl rfl rfl
  | @produced place ahead mailbox opened wanted label downstream produced =>
      cases shows with
      | resting idle => cases idle
      | producing there complete =>
          refine .onward (.inr rfl) ?_
          have all : opened ++ [label] ++ wanted = _ := (List.append_assoc ..).trans complete
          have onward : Shows next run job later
              (.producing place ahead mailbox (opened ++ [label]) wanted) _ := .producing there all
          rw [openings_concat, ← List.append_assoc] at onward
          exact onward
  | @unproduced place ahead mailbox opened wanted label failure refused =>
      cases shows with
      | resting idle => cases idle
      | producing there complete =>
          have part : [] ++ opened ++ [label] <+: _ := ⟨wanted, by simpa using complete⟩
          have onward : Shows next run job later (.undoing place mailbox opened failure) _ :=
            .undoing there part ⟨_, last, rfl, refused⟩
          exact .onward (.inr rfl) (by simpa [Effect.isReport] using onward)
  | @spawned place ahead mailbox opened route here =>
      cases shows with
      | resting idle => cases idle
      | producing there complete =>
          cases (moved.route? here).symm.trans there
          have given : next.relays[state.relays.length]? =
              some (State.newRelay run place route mailbox) := by
            rw [relays]
            exact List.getElem?_concat_length
          have own : Activation.IsOf ⟨place, route, .started mailbox state.relays.length⟩ next run
              job later := by
            refine ⟨there, by rintro _ _ _ _ ⟨⟩, by rintro ⟨⟩, ?_⟩
            rintro _ _ ⟨⟩
            exact ⟨_, given, rfl, rfl, rfl, rfl⟩
          rw [List.append_nil] at complete
          exact .started rfl own rfl (by rw [relays]; exact List.length_append ..)
            (by simp [Activation.effects, complete, Effect.isReport])
  | @producerUndone place mailbox opened failure label =>
      cases shows with
      | resting idle => cases idle
      | @undoing _ _ closed _ topic _ route there part refused =>
          rw [← List.singleton_append, ← List.append_assoc] at part refused
          have onward : Shows next run job later (.undoing place mailbox opened failure) _ :=
            .undoing there part refused
          exact .onward (.inr rfl) (by simpa [Effect.isReport] using onward)
  | @consumerUndone place mailbox failure route here =>
      cases shows with
      | resting idle => cases idle
      | @undoing _ _ closed _ topic _ _ there part refused =>
          cases (moved.route? here).symm.trans there
          rw [List.append_nil] at part refused
          have own : Activation.IsOf ⟨place, route, .unproduced mailbox closed topic failure⟩ next
              run job later := by
            refine ⟨there, ?_, fun _ => refused, by rintro _ _ ⟨⟩⟩
            rintro _ _ _ _ ⟨⟩
            exact part
          exact .failed rfl own rfl (by simp [Activation.effects, Effect.isReport]) rfl

/-! ## Calls -/

/-- What the collaborators have noticed of the turns of one call. -/
def dealingsOf (job : JobId) (past : List Occurrence) : List Effect :=
  dealings (past.filter (·.isCallTurn job))

theorem dealingsOf_concat_own {job : JobId} (past : List Occurrence) {last : Occurrence}
    (own : last.isCallTurn job = true) :
    dealingsOf job (past ++ [last]) =
      dealingsOf job past ++ last.effects.filter fun effect => !effect.isReport := by
  rw [dealingsOf, dealingsOf, List.filter_append, List.filter_singleton, own]
  exact dealings_concat _ _

theorem dealingsOf_concat_other {job : JobId} (past : List Occurrence) {last : Occurrence}
    (other : last.isCallTurn job = false) :
    dealingsOf job (past ++ [last]) = dealingsOf job past := by
  rw [dealingsOf, dealingsOf, List.filter_append, List.filter_singleton, other]
  simp

/-- The activations that a call has behind it, and what the connections have seen since. -/
structure Undertaken (state : State) (run : RunId) (job : JobId) (past : List Occurrence)
    (made : List Activation) (seen : List Effect) : Prop where
  each : ∀ activation ∈ made, activation.IsOf state run job past
  log : dealingsOf job past = made.flatMap Activation.effects ++ seen

namespace Undertaken

variable {state next : State} {move : Move} {effects seen : List Effect} {run : RunId}
  {job : JobId} {past : List Occurrence} {made : List Activation}

/-- Someone else moves. -/
theorem other (undertaken : Undertaken state run job past made seen)
    (moved : Moves state move next effects) (still : move ≠ .job job) :
    Undertaken next run job (past ++ [⟨state, move, next, effects⟩]) made seen where
  each := fun activation among => (undertaken.each activation among).step moved _
  log := by
    rw [dealingsOf_concat_other, undertaken.log]
    rwa [← Bool.not_eq_true, Occurrence.isCallTurn_iff]

/-- The call has a turn. -/
theorem own (undertaken : Undertaken state run job past made seen)
    (moved : Moves state (.job job) next effects) :
    Undertaken next run job (past ++ [⟨state, .job job, next, effects⟩]) made
      (seen ++ effects.filter fun effect => !effect.isReport) where
  each := fun activation among => (undertaken.each activation among).step moved _
  log := by
    rw [dealingsOf_concat_own _ (Occurrence.isCallTurn_iff.mpr rfl), undertaken.log,
      List.append_assoc]

/-- The present activation is over. -/
theorem concat {last : Activation} (undertaken : Undertaken state run job past made seen)
    (ours : last.IsOf state run job past) (all : seen = last.effects) :
    Undertaken state run job past (made ++ [last]) [] where
  each := by
    intro activation among
    rcases List.mem_append.mp among with old | new
    · exact undertaken.each activation old
    · rwa [List.mem_singleton.mp new]
  log := by simp [undertaken.log, all]

end Undertaken

/-- How far a call has come with its activations: it stops at the first that fails. -/
inductive Engaged (state : State) (job : JobId) (past : List Occurrence) : AttachPhase → Prop where
  | idle {phase : AttachPhase} (ready : ∀ run inner, phase ≠ .activating run inner)
      (unfailed : ∀ id failure, phase ≠ .done (.error (.activation (.startFailed id failure))))
      (nothing : dealingsOf job past = []) : Engaged state job past phase
  | underWay {run : RunId} {phase : ActivationPhase} {made : List Activation} {seen : List Effect}
      (undertaken : Undertaken state run job past made seen)
      (successes : ∀ activation ∈ made, activation.failure? = none)
      (shows : Shows state run job past phase seen) :
      Engaged state job past (.activating run phase)
  | finished {run : RunId} {answer : Except SubscribeFailure Unit} {made : List Activation}
      (undertaken : Undertaken state run job past made [])
      (successes : ∀ activation ∈ made, activation.failure? = none)
      (unfailed : ∀ id failure, answer ≠ .error (.activation (.startFailed id failure))) :
      Engaged state job past (.done answer)
  | failed {run : RunId} {failure : TransportFailure} {made : List Activation} {last : Activation}
      (undertaken : Undertaken state run job past (made ++ [last]) [])
      (successes : ∀ activation ∈ made, activation.failure? = none)
      (fails : last.failure? = some failure) :
      Engaged state job past (.done (.error (.activation (.startFailed last.route.id failure))))

namespace Engaged

variable {state middle next : State} {move : Move} {effects : List Effect} {job : JobId}
  {topic : String} {past : List Occurrence} {phase after : AttachPhase}

/-- A call that has shown nothing is about to find its routes. -/
theorem begins {run : RunId} (nothing : dealingsOf job past = []) :
    Engaged state job past (.activating run .resolving) := by
  have none : Undertaken state run job past [] [] := ⟨by simp, nothing⟩
  exact .underWay none (by simp) (.resting rfl)

/-- Someone else moves. -/
theorem other (engaged : Engaged state job past phase) (moved : Moves state move next effects)
    (still : move ≠ .job job) :
    Engaged next job (past ++ [⟨state, move, next, effects⟩]) phase := by
  cases engaged with
  | idle ready unfailed nothing =>
      refine .idle ready unfailed ?_
      rwa [dealingsOf_concat_other]
      rwa [← Bool.not_eq_true, Occurrence.isCallTurn_iff]
  | underWay undertaken successes shows =>
      exact .underWay (undertaken.other moved still) successes (shows.step moved _)
  | finished undertaken successes unfailed =>
      exact .finished (undertaken.other moved still) successes unfailed
  | failed undertaken successes fails =>
      exact .failed (undertaken.other moved still) successes fails

/-- The call has shown nothing yet, and its turn shows nothing but reports. -/
theorem nothing_own (nothing : dealingsOf job past = [])
    (reports : effects.all Effect.isReport = true) :
    dealingsOf job (past ++ [⟨state, .job job, next, effects⟩]) = [] := by
  rw [dealingsOf_concat_own _ (Occurrence.isCallTurn_iff.mpr rfl), nothing,
    filter_reports reports, List.append_nil]

/-- The call has a turn. -/
theorem own (engaged : Engaged state job past phase)
    (turn : Attaches state job topic phase after middle effects)
    (moved : Moves state (.job job) next effects) (relays : next.relays = middle.relays) :
    Engaged next job (past ++ [⟨state, .job job, next, effects⟩]) after := by
  have reported : ∀ events : List Event, (events.map Effect.report).all Effect.isReport = true := by
    simp [Effect.isReport]
  cases turn with
  | tooEarly =>
      obtain ⟨_, _, nothing⟩ | _ | _ | _ := engaged
      exact .idle (by simp) (by simp) (nothing_own nothing rfl)
  | unauthorized =>
      obtain ⟨_, _, nothing⟩ | _ | _ | _ := engaged
      exact .idle (by simp) (by simp) (nothing_own nothing (reported _))
  | admitted =>
      obtain ⟨_, _, nothing⟩ | _ | _ | _ := engaged
      exact .idle (by simp) (by simp) (nothing_own nothing (reported _))
  | shutOut =>
      obtain ⟨_, _, nothing⟩ | _ | _ | _ := engaged
      exact .idle (by simp) (by simp) (nothing_own nothing rfl)
  | entered _ _ =>
      obtain ⟨_, _, nothing⟩ | _ | _ | _ := engaged
      exact .begins (nothing_own nothing rfl)
  | @activated run phase advance _ _ turn =>
      cases engaged with
      | idle ready _ _ => exact absurd rfl (ready run phase)
      | @underWay _ _ made seen undertaken successes shows =>
          have onward := undertaken.own moved
          cases turn.continues moved relays shows with
          | onward _ shows => exact .underWay onward successes shows
          | started _ ours ends _ all =>
              refine .underWay (onward.concat ours all) ?_ (.resting rfl)
              intro activation among
              rcases List.mem_append.mp among with old | new
              · exact successes activation old
              · rw [List.mem_singleton.mp new]
                exact Activation.failure?_of_started ends
          | failed _ ours fails all same =>
              subst same
              exact .failed (onward.concat ours all) successes fails
          | @answered answer nothing other =>
              rw [nothing] at onward
              cases answer with
              | ok _ => exact .finished onward successes (by simp)
              | error failure =>
                  refine .finished onward successes ?_
                  rintro id reason ⟨⟩
                  exact other id reason rfl

/-- A call that has its answer has activated some routes, and one of them has failed if that is the
answer. -/
theorem answered {answer : Except SubscribeFailure Unit}
    (engaged : Engaged state job past (.done answer)) :
    ∃ run made, Undertaken state run job past made [] ∧
      ((∃ activation ∈ made, activation.failure?.isSome = true) ↔
        ∃ id failure, answer = .error (.activation (.startFailed id failure))) := by
  have unfailing : ∀ {made : List Activation}, (∀ activation ∈ made, activation.failure? = none) →
      ¬∃ activation ∈ made, activation.failure?.isSome = true := by
    rintro made successes ⟨activation, among, fails⟩
    simp [successes activation among] at fails
  cases engaged with
  | idle _ unfailed nothing =>
      refine ⟨0, [], ⟨by simp, nothing⟩, iff_of_false (by simp) ?_⟩
      rintro ⟨id, failure, rfl⟩
      exact unfailed id failure rfl
  | finished undertaken successes unfailed =>
      refine ⟨_, _, undertaken, iff_of_false (unfailing successes) ?_⟩
      rintro ⟨id, failure, same⟩
      exact unfailed id failure same
  | @failed _ failure made last undertaken _ fails =>
      refine ⟨_, _, undertaken, iff_of_true ⟨last, by simp, ?_⟩ ⟨_, _, rfl⟩⟩
      rw [fails]
      rfl

end Engaged

/-- The topic of an attachment and its answer. -/
def Job.answered? : Job → Option (String × Except SubscribeFailure Unit)
  | .attach topic (.done answer) => some (topic, answer)
  | _ => none

theorem Job.answered?_eq_some_iff {job : Job} {topic : String}
    {answer : Except SubscribeFailure Unit} :
    job.answered? = some (topic, answer) ↔ job = .attach topic (.done answer) := by
  unfold Job.answered?
  split <;> simp_all

/-- A job that has just arrived has shown nothing. -/
theorem History.dealingsOf_eq_nil {first now : State} {past : List Occurrence} {job : JobId}
    (history : History first past now) (absent : now.jobs[job]? = none) :
    dealingsOf job past = [] := by
  have turnless := history.turnless absent
  rw [dealingsOf, List.filter_eq_nil_iff.mpr fun occurrence among => by simp [turnless _ among]]
  rfl

/-- **A call shows its activations one after the other**, whatever goes on meanwhile. -/
theorem History.engaged {first now : State} {past : List Occurrence} {job : JobId} {topic : String}
    {phase : AttachPhase} (history : History first past now) (absent : first.jobs[job]? = none)
    (present : now.jobs[job]? = some (.attach topic phase)) : Engaged now job past phase := by
  induction history generalizing phase with
  | start => simp [absent] at present
  | @move past now next move effects before step ih =>
      have moved := step_cases step
      by_cases mine : move = .job job
      · subst mine
        obtain ⟨phase, middle, was, turn, rfl⟩ := moved.to_attach present
        exact (ih was).own turn moved rfl
      · cases was : now.jobs[job]? with
        | some found =>
            cases (moved.jobs_of_ne was mine).symm.trans present
            exact (ih was).other moved mine
        | none =>
            rcases moved.jobs_origin present with old | own | ⟨request, rfl, arrived⟩
            · simp [was] at old
            · exact absurd own mine
            · have silent :
                  dealingsOf job (past ++ [⟨now, .arrive request, next, effects⟩]) = [] := by
                rw [dealingsOf_concat_other past rfl, before.dealingsOf_eq_nil was]
              cases request <;> cases arrived
              · exact .idle (by simp) (by simp) silent
              · exact .idle (by simp) (by simp) silent
              · exact .begins silent

end TopicRelay
