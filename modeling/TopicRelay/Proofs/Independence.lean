import TopicRelay.Proofs.InService
import TopicRelay.Proofs.Progress

/-!
# Attachments to different routes do not meddle with one another

Calls attach subscribers to topics that have no route in common.  What each of them is going to do
is settled when it arrives (`State.foresee`), the turns of the others do not change it, and its own
turns keep to it (`Foretold`).  So however the calls interleave, and in whichever order they arrive,
each gets the same answer, and the routes, the consumers, the producers and the injected failures
that are left are the same in the end.

Nor does one of them keep another waiting: a guard that a call asks for is asked for by nobody else.
`History.independent_attachments` puts this together.
-/

namespace TopicRelay

set_option autoImplicit false

/-! ## What others see of a call -/

/-- What a call is going to do, if it attaches a subscriber. -/
def State.foreseeCall (state : State) : Job → Forecast
  | .attach topic phase => state.foresee topic phase
  | _ => ⟨.ok (), []⟩

/-- Two calls attach subscribers to topics that have no route in common. -/
def State.Apart (state : State) (run : RunId) (one other : Request) : Prop :=
  ∀ left right, one.attaches? run = some left → other.attaches? run = some right →
    (state.positions run left).Disjoint (state.positions run right)

/-- The topic of a producer that is closed. -/
def Effect.closedTopic? : Effect → Option String
  | .producerClosed topic => some topic
  | _ => none

/-- The topics of the producers that a move closes if it is the turn of a relay. -/
def Occurrence.closedByRelay (occurrence : Occurrence) : List String :=
  match occurrence.move with
  | .relay _ _ => occurrence.effects.filterMap Effect.closedTopic?
  | _ => []

/-- The topics of the producers that relays have closed. -/
def closedByRelays (later : List Occurrence) : List String :=
  later.flatMap Occurrence.closedByRelay

theorem closedByRelays_concat (later : List Occurrence) (last : Occurrence) :
    closedByRelays (later ++ [last]) = closedByRelays later ++ last.closedByRelay := by
  simp [closedByRelays]

/-- The turn of a relay closes the producers that are no longer open. -/
theorem Forwards.closes {state next : State} {relay : RelayId} {found : Relay}
    {effects : List Effect} (turn : Forwards state relay found next effects)
    (kept : Accounting state) (present : state.relays[relay]? = some found) (topic : String) :
    next.downstream.producers.count topic + (effects.filterMap Effect.closedTopic?).count topic =
      state.downstream.producers.count topic := by
  cases turn with
  | sent _ accepted => exact congrArg (List.count topic) (producers_send accepted)
  | @producerClosed label topics phase =>
      have holds : found.producers = label :: topics := by simp [Relay.producers, phase]
      have bound := Accounting.count_relay_le kept.balanced present label
      rw [holds, List.count_cons_self] at bound
      exact Accounting.count_closeProducer state.downstream label topic (by omega)
  | _ => rfl

/-- What is no turn of a call and leaves the relays alone does nothing that counts. -/
theorem Aside.made {state next : State} (aside : Aside state next)
    (relays : next.relays = state.relays) (run : RunId) (entry : Entry) :
    next.made run entry = state.made run entry :=
  State.made_congr aside.subscriptions
    (fun queue => congrArg (fun table : Table Nat => (table.get? queue).getD 0) aside.refusals)
    (fun _ => State.isOccupied_congr aside.runs) relays entry

/-- Producers go from a relay to those that it has closed. -/
theorem Forwards.made {state next : State} {relay : RelayId} {found : Relay}
    {effects : List Effect} (turn : Forwards state relay found next effects)
    (kept : Accounting state) (after : Accounting next)
    (present : state.relays[relay]? = some found) (run : RunId) (entry : Entry) :
    next.made run entry +
        ((effects.filterMap Effect.closedTopic?).map Entry.producer).count entry =
      state.made run entry := by
  have aside := Aside.of_forwards turn
  have injective : Function.Injective Entry.producer := fun _ _ => Entry.producer.inj
  cases entry with
  | producer topic =>
      have closes := turn.closes kept present topic
      have now := after.balanced topic
      have was := kept.balanced topic
      rw [List.count_map_of_injective _ _ injective]
      simp only [State.made, State.held, aside.jobs] at now was ⊢
      omega
  | subscription subscription =>
      rw [List.count_eq_zero_of_not_mem (by simp)]
      simp only [State.made, aside.subscriptions]
      omega
  | refusal queue =>
      rw [List.count_eq_zero_of_not_mem (by simp)]
      simp only [State.made, Upstream.refusalsLeft, aside.refusals]
      omega
  | start place =>
      rw [List.count_eq_zero_of_not_mem (by simp)]
      simp only [State.made, State.isOccupied_congr aside.runs]
      omega

/-! ## The turns of a call -/

/-- A forecast does not depend on the other calls. -/
theorem State.foresee_jobs (state : State) (jobs : List Job) (topic : String) (phase : AttachPhase) :
    ({ state with jobs := jobs } : State).foresee topic phase = state.foresee topic phase := by
  have routes : ∀ run places, ({ state with jobs := jobs } : State).foreseeRoutes run places =
      state.foreseeRoutes run places := fun run places =>
    foreseeRoutes_congr ⟨{ Steady.refl run state with }, fun _ _ => rfl, fun _ _ _ _ => rfl⟩
  have activation : ∀ run phase,
      ({ state with jobs := jobs } : State).foreseeActivation run topic phase =
        state.foreseeActivation run topic phase := by
    intro run phase
    cases phase <;> simp only [foreseeActivation, routes] <;> rfl
  cases phase <;> simp only [foresee, activation]

theorem State.foreseeCall_jobs (state : State) (jobs : List Job) (found : Job) :
    ({ state with jobs := jobs } : State).foreseeCall found = state.foreseeCall found := by
  cases found with
  | attach topic phase => exact state.foresee_jobs jobs topic phase
  | _ => rfl

section

variable {called now next middle : State} {run : RunId} {gate : Gate} {later : List Occurrence}
  {id : Nat} {label : String} {phase after : AttachPhase} {effects : List Effect}

namespace Attachment

/-- The turn of a call leaves the routes of other topics as others find them. -/
theorem alike {places : List Place} (site : Attachment now run label phase)
    (turned : now.attachTurn id label phase = some (after, middle, effects))
    (out : (now.positions run label).Disjoint places) : Alike run places now middle := by
  obtain ⟨gate, hooks⟩ := site.hooks
  rcases site.ofRun.turn_cases hooks turned with ⟨-, rfl, -⟩ | ⟨before, advance, rfl, -, turn⟩
  · exact .refl run places _
  · exact turn.alike site.unique fun place among here =>
      out (site.routes.subset (ActivationPhase.mem_places here)) among

/-- The turn of a call keeps to what was foreseen. -/
theorem foreseen (site : Attachment now run label phase)
    (present : now.jobs[id]? = some (.attach label phase))
    (turned : now.attachTurn id label phase = some (after, middle, effects)) :
    KeepsTo run now (now.foresee label phase) middle (middle.foresee label after) := by
  obtain ⟨gate, hooks⟩ := site.hooks
  rcases site.ofRun.turn_cases hooks turned with
    ⟨rfl, rfl, rfl⟩ | ⟨before, advance, rfl, rfl, turn⟩
  · refine .of_made (fun _ => rfl) ?_
    cases started : State.broker _ |>.isStarted <;> simp [State.foresee, started, hooks]
  · exact turn.foreseen site.own site.kept present site.accepts site.unique
      (site.routes.nodup site.distinct)

/-- What happens at the routes of other topics changes nothing about what a call is going to do. -/
theorem foresee_eq (site : Attachment now run label phase)
    (alike : Alike run (now.positions run label) now next) :
    next.foresee label phase = now.foresee label phase := by
  obtain ⟨gate, hooks⟩ := site.hooks
  exact State.foresee_congr alike hooks site.ofRun fun _ among => site.routes.subset among

end Attachment

end

/-! ## What was foreseen when the calls arrived -/

namespace State

/-- How much the calls that have arrived since some moment are going to do of one kind. -/
def pending (state : State) (since : Nat) (entry : Entry) : Nat :=
  ((state.jobs.drop since).map fun job => (state.foreseeCall job).entries.count entry).sum

/-- How much some calls are going to do of one kind if they arrive. -/
def demand (state : State) (requests : List Request) (entry : Entry) : Nat :=
  (requests.map fun request => (state.foreseeCall request.job).entries.count entry).sum

/-- A call has had a turn that leaves what the others are going to do. -/
theorem pending_setJob {state next : State} {since id : Nat} {before : Job} (after : Job)
    (new : since ≤ id) (present : state.jobs[id]? = some before) (jobs : next.jobs = state.jobs)
    (others : ∀ {index found}, since + index ≠ id → state.jobs[since + index]? = some found →
      next.foreseeCall found = state.foreseeCall found) (entry : Entry) :
    (next.setJob id after).pending since entry + (state.foreseeCall before).entries.count entry =
      state.pending since entry + (next.foreseeCall after).entries.count entry := by
  have there : (state.jobs.drop since)[id - since]? = some before := by
    rwa [List.getElem?_drop, Nat.add_sub_cancel' new]
  have sum := sum_map_set_congr
    (fun job => (state.foreseeCall job).entries.count entry)
    (fun job => (next.foreseeCall job).entries.count entry) after there (by
      intro spot found apart now
      rw [List.getElem?_drop] at now
      rw [others (by omega) now])
  have drops : (next.setJob id after).jobs.drop since =
      (state.jobs.drop since).set (id - since) after := jobs ▸ State.drop_setJob new after
  have calls : ∀ found, (next.setJob id after).foreseeCall found = next.foreseeCall found :=
    next.foreseeCall_jobs _
  simp only [pending, drops, calls]
  exact sum

theorem Apart.symm {state : State} {run : RunId} {one other : Request}
    (apart : state.Apart run one other) : state.Apart run other one :=
  fun left right attachesLeft attachesRight _ amongLeft amongRight =>
    apart right left attachesRight attachesLeft amongRight amongLeft

theorem Apart.of_pairwise {state : State} {run : RunId} {requests : List Request} {left right : Nat}
    {one other : Request} (apart : requests.Pairwise (state.Apart run))
    (asked : requests[left]? = some one) (also : requests[right]? = some other)
    (different : left ≠ right) : state.Apart run one other := by
  obtain ⟨_, rfl⟩ := List.getElem?_eq_some_iff.mp asked
  obtain ⟨_, rfl⟩ := List.getElem?_eq_some_iff.mp also
  rw [List.pairwise_iff_getElem] at apart
  rcases Nat.lt_or_gt_of_ne different with before | behind
  · exact apart left right _ _ before
  · exact (apart right left _ _ behind).symm

end State

/-- The calls that have arrived since some moment keep to what could be foreseen then. -/
structure Foretold (called : State) (run : RunId) (later : List Occurrence) (now : State) :
    Prop where
  answers : ∀ {index request label phase}, (requestsIn later)[index]? = some request →
    now.jobs[called.jobs.length + index]? = some (.attach label phase) →
      (now.foresee label phase).answer = (called.foreseeCall request.job).answer
  entries : ∀ entry, now.made run entry + ((closedByRelays later).map Entry.producer).count entry +
    now.pending called.jobs.length entry =
      called.made run entry + called.demand (requestsIn later) entry
  /-- A topic that has no route in common with those of the calls finds its routes unchanged. -/
  untouched : ∀ {label}, (∀ request ∈ requestsIn later, ∀ other,
      request.attaches? run = some other →
        (called.positions run label).Disjoint (called.positions run other)) →
    Alike run (called.positions run label) called now

namespace Foretold

variable {first called now next : State} {past later : List Occurrence} {run : RunId}
  {gate : Gate} {move : Move} {effects : List Effect}

theorem start (called : State) (run : RunId) : Foretold called run [] called where
  answers := by simp [requestsIn]
  entries := fun entry => by simp [closedByRelays, State.pending, State.demand, requestsIn]
  untouched := fun _ => .refl run _ _

theorem requestsIn_turn {id : JobId} :
    requestsIn (later ++ [⟨now, .job id, next, effects⟩]) = requestsIn later := by
  simp [requestsIn]

/-- A call has a turn. -/
theorem turn {id : Nat} {label : String} {phase after : AttachPhase} {middle : State}
    (told : Foretold called run later now) (attaching : Attaching called run later now)
    (history : History first past called) (unused : first.Unused)
    (running : called.running = some run) (calls : Calls called run (requestsIn later) now)
    (apart : (requestsIn later).Pairwise (called.Apart run)) (new : called.jobs.length ≤ id)
    (present : now.jobs[id]? = some (.attach label phase))
    (turned : now.attachTurn id label phase = some (after, middle, effects)) :
    Foretold called run
      (later ++ [⟨now, .job id, middle.setJob id (.attach label after), effects⟩])
      (middle.setJob id (.attach label after)) := by
  obtain ⟨asker, asking, attaches, site⟩ :=
    attaching.attachment history unused running new present
  have kept := site.foreseen present turned
  have jobs : middle.jobs = now.jobs := (attachTurn_cases turned).leavesBridge.jobs
  have alike : ∀ {places}, (called.positions run label).Disjoint places →
      Alike run places now middle := fun out =>
    site.alike turned (State.positions_congr calls.steady label ▸ out)
  -- What the other calls are going to do is as before.
  have others : ∀ {index found}, called.jobs.length + index ≠ id →
      now.jobs[called.jobs.length + index]? = some found →
        middle.foreseeCall found = now.foreseeCall found := by
    intro index found different there
    obtain ⟨_, other, phase, _, _, _, rfl⟩ := calls.exists_of_le (Nat.le_add_right ..) there
    obtain ⟨request, asked, attached, theirs⟩ :=
      attaching.attachment history unused running (Nat.le_add_right ..) there
    rw [Nat.add_sub_cancel_left] at asked
    have disjoint := State.Apart.of_pairwise apart asking asked (by omega) _ _ attaches attached
    exact theirs.foresee_eq (alike (State.positions_congr calls.steady other ▸ disjoint))
  have mine : called.jobs.length + (id - called.jobs.length) = id := Nat.add_sub_cancel' new
  have there : middle.jobs[id]? = some (.attach label phase) := jobs ▸ present
  refine ⟨?_, ?_, ?_⟩
  · intro index request other before asked answering
    rw [requestsIn_turn] at asked
    refine (congrArg Forecast.answer (middle.foresee_jobs _ other before)).trans ?_
    by_cases own : called.jobs.length + index = id
    · subst own
      cases (State.jobs_setJob_self there).symm.trans answering
      exact kept.answer.trans (told.answers asked present)
    · rw [State.jobs_setJob_of_ne own, jobs] at answering
      exact (congrArg Forecast.answer (others own answering)).trans (told.answers asked answering)
  · intro entry
    have counted := told.entries entry
    have own := kept.entries entry
    have sum := State.pending_setJob (.attach label after) new present jobs others entry
    have made : (middle.setJob id (.attach label after)).made run entry =
      middle.made run entry := rfl
    simp only [State.foreseeCall] at sum
    rw [closedByRelays_concat, requestsIn_turn, made]
    simp only [Occurrence.closedByRelay, List.append_nil]
    omega
  · intro other disjoint
    rw [requestsIn_turn] at disjoint
    exact ((told.untouched disjoint).trans (alike fun place among also =>
      disjoint asker (List.mem_of_getElem? asking) label attaches also among)).setJob

/-- A call arrives. -/
theorem arrival {request : Request} {label : String} (told : Foretold called run later now)
    (hooks : called.broker.hooks = some ⟨gate, run⟩)
    (calls : Calls called run (requestsIn later) now) (attaches : request.attaches? run = some label)
    (apart : ∀ earlier ∈ requestsIn later, called.Apart run earlier request) :
    Foretold called run (later ++ [⟨now, .arrive request, now.arrive request, []⟩])
      (now.arrive request) := by
  obtain ⟨phase, asks, ofRun, starts⟩ := Request.job_of_attaches attaches
  -- Nobody has touched the routes of the call, so it finds what was there.
  have alike : Alike run (called.positions run label) called now :=
    told.untouched fun earlier among other attached =>
      State.Apart.symm (apart earlier among) _ _ attaches attached
  have fresh : now.foreseeCall request.job = called.foreseeCall request.job := by
    rw [asks]
    refine State.foresee_congr alike hooks ofRun ?_
    rcases starts with rfl | rfl <;> exact fun _ among => nomatch among
  have arrived : requestsIn (later ++ [⟨now, .arrive request, now.arrive request, []⟩]) =
      requestsIn later ++ [request] := by rw [requestsIn_append, requestsIn_singleton_arrive]
  have forecasts : ∀ found, (now.arrive request).foreseeCall found = now.foreseeCall found :=
    now.foreseeCall_jobs _
  refine ⟨?_, ?_, ?_⟩
  · intro index asker other before asked answering
    refine (congrArg Forecast.answer (forecasts (.attach other before))).trans ?_
    rw [arrived] at asked
    rcases getElem?_concat_eq_some.mp asked with old | ⟨last, rfl⟩
    · have bound := (List.getElem?_eq_some_iff.mp old).1
      have there : now.jobs[called.jobs.length + index]? = some (.attach other before) := by
        rwa [State.arrive, List.getElem?_append_left (by rw [calls.length]; omega)] at answering
      exact told.answers old there
    · have there : (now.arrive request).jobs[called.jobs.length + index]? = some request.job :=
        getElem?_concat_eq_some.mpr (.inr ⟨by rw [calls.length, last], rfl⟩)
      rw [← Option.some.inj (there.symm.trans answering), fresh]
  · intro entry
    have counted := told.entries entry
    have made : (now.arrive request).made run entry = now.made run entry := rfl
    have more : (now.arrive request).pending called.jobs.length entry =
        now.pending called.jobs.length entry +
          (called.foreseeCall request.job).entries.count entry := by
      simp only [State.pending, calls.drop_arrive, forecasts, List.map_append, List.sum_append,
        List.map_singleton, List.sum_singleton, fresh]
    rw [closedByRelays_concat, arrived, made, more]
    simp only [Occurrence.closedByRelay, List.append_nil, State.demand, List.map_append,
      List.sum_append, List.map_singleton, List.sum_singleton] at counted ⊢
    omega
  · intro other disjoint
    rw [arrived] at disjoint
    exact (told.untouched fun earlier among => disjoint earlier (by simp [among])).arrive

/-- Something goes on that is no turn of a call. -/
theorem aside (told : Foretold called run later now) (attaching : Attaching called run later now)
    (history : History first past called) (unused : first.Unused)
    (running : called.running = some run) (calls : Calls called run (requestsIn later) now)
    (aside : Aside now next)
    (requests : requestsIn (later ++ [⟨now, move, next, effects⟩]) = requestsIn later)
    (made : ∀ entry, next.made run entry +
      ((Occurrence.closedByRelay ⟨now, move, next, effects⟩).map Entry.producer).count entry =
        now.made run entry) :
    Foretold called run (later ++ [⟨now, move, next, effects⟩]) next := by
  have same : ∀ {index found}, now.jobs[called.jobs.length + index]? = some found →
      next.foreseeCall found = now.foreseeCall found := by
    intro index found there
    obtain ⟨_, other, phase, _, _, _, rfl⟩ := calls.exists_of_le (Nat.le_add_right ..) there
    obtain ⟨_, _, _, site⟩ :=
      attaching.attachment history unused running (Nat.le_add_right ..) there
    exact site.foresee_eq (.of_aside aside)
  refine ⟨?_, ?_, ?_⟩
  · intro index asker other before asked answering
    rw [requests] at asked
    rw [aside.jobs] at answering
    exact (congrArg Forecast.answer (same answering)).trans (told.answers asked answering)
  · intro entry
    have counted := told.entries entry
    have done := made entry
    have still : next.pending called.jobs.length entry = now.pending called.jobs.length entry := by
      rw [State.pending, State.pending, aside.jobs]
      congr 1
      refine List.map_congr_left fun found among => ?_
      obtain ⟨index, there⟩ := List.mem_iff_getElem?.mp among
      rw [List.getElem?_drop] at there
      rw [same there]
    rw [closedByRelays_concat, requests, still, List.map_append, List.count_append]
    push_cast
    omega
  · intro other disjoint
    rw [requests] at disjoint
    exact (told.untouched disjoint).trans (.of_aside aside)

/-- **Every incident keeps to what was foreseen.** -/
theorem step (told : Foretold called run later now) (attaching : Attaching called run later now)
    (history : History first past called) (unused : first.Unused)
    (running : called.running = some run)
    (onward : Attaching called run (later ++ [⟨now, move, next, effects⟩]) next)
    (apart : (requestsIn (later ++ [⟨now, move, next, effects⟩])).Pairwise (called.Apart run))
    (incident : Incident called run now move next effects) :
    Foretold called run (later ++ [⟨now, move, next, effects⟩]) next := by
  obtain ⟨gate, hooks⟩ := history.hooks_of_running unused running
  have calls := attaching.calls hooks
  cases incident with
  | turn new present ofRun turned =>
      rw [requestsIn_turn] at apart
      exact told.turn attaching history unused running calls apart new present turned
  | arrival attaches =>
      rw [requestsIn_append, requestsIn_singleton_arrive, List.pairwise_append] at apart
      exact told.arrival hooks calls attaches fun earlier among =>
        apart.2.2 earlier among _ (List.mem_singleton_self _)
  | relay present turn =>
      refine told.aside attaching history unused running calls (.of_forwards turn)
        (by simp [requestsIn]) ?_
      exact turn.made ((history.append attaching.history).accounting unused)
        ((history.append onward.history).accounting unused) present run
  | forgotten =>
      refine told.aside attaching history unused running calls (.of_forget ..)
        (by simp [requestsIn]) ?_
      exact fun entry => by simp [Occurrence.closedByRelay, State.made_tellRelays]
  | delivery =>
      refine told.aside attaching history unused running calls (.of_deliver ..)
        (by simp [requestsIn]) ?_
      exact fun entry => by simp [Occurrence.closedByRelay, (Aside.of_deliver ..).made rfl]
  | elapsed =>
      refine told.aside attaching history unused running calls (.of_wait ..)
        (by simp [requestsIn]) ?_
      exact fun entry => by simp [Occurrence.closedByRelay, (Aside.of_wait ..).made rfl]

end Foretold

/-- **Calls to routes apart do what could be foreseen when they arrived.** -/
theorem Attaching.foretold {first called now : State} {past later : List Occurrence} {run : RunId}
    (attaching : Attaching called run later now) (history : History first past called)
    (unused : first.Unused) (running : called.running = some run)
    (apart : (requestsIn later).Pairwise (called.Apart run)) : Foretold called run later now := by
  obtain ⟨gate, hooks⟩ := history.hooks_of_running unused running
  refine attaching.induction
    (P := fun later now => (requestsIn later).Pairwise (called.Apart run) →
      Foretold called run later now) (fun _ => .start called run) ?_ apart
  intro later now next move effects before told step allowed apart
  have earlier : (requestsIn later).Pairwise (called.Apart run) := by
    rw [requestsIn_append, List.pairwise_append] at apart
    exact apart.1
  exact (told earlier).step before history unused running (before.move step allowed) apart
    ((before.calls hooks).incident step allowed)

/-! ## Once all calls have their answers -/

theorem Job.producers_of_isDone {job : Job} (done : job.isDone = true) : job.producers = [] := by
  cases job with
  | attach topic phase => cases phase <;> first | rfl | cases done
  | _ => rfl

/-- A call that has its answer does nothing any more. -/
theorem State.foreseeCall_of_isDone {state : State} {job : Job} (done : job.isDone = true) :
    (state.foreseeCall job).entries = [] := by
  cases job with
  | attach topic phase => cases phase <;> first | rfl | cases done
  | _ => rfl

theorem State.demand_perm {state : State} {requests others : List Request}
    (same : others.Perm requests) (entry : Entry) :
    state.demand others entry = state.demand requests entry :=
  (same.map _).sum_eq

section

variable {first called now also : State} {past later others : List Occurrence} {run : RunId}
  {gate : Gate}

/-- What has been done is what the calls were going to do. -/
theorem Foretold.made_of_answered (told : Foretold called run later now)
    (answered : now.AnsweredSince called.jobs.length) (entry : Entry) :
    now.made run entry + ((closedByRelays later).map Entry.producer).count entry =
      called.made run entry + called.demand (requestsIn later) entry := by
  have counted := told.entries entry
  have none : now.pending called.jobs.length entry = 0 := by
    refine List.sum_eq_zero fun count among => ?_
    obtain ⟨job, member, rfl⟩ := List.mem_map.mp among
    rw [State.foreseeCall_of_isDone (answered job member), List.count_nil]
  omega

/-- The call for a request, once it has its answer. -/
theorem Foretold.job_of_answered (told : Foretold called run later now)
    (calls : Calls called run (requestsIn later) now)
    (answered : now.AnsweredSince called.jobs.length) {index : Nat} {request : Request}
    (asked : (requestsIn later)[index]? = some request) :
    ∃ label, request.attaches? run = some label ∧ now.jobs[called.jobs.length + index]? =
      some (.attach label (.done (called.foreseeCall request.job).answer)) := by
  obtain ⟨label, phase, attaches, _, there⟩ := calls.new asked
  have among : Job.attach label phase ∈ now.jobs.drop called.jobs.length :=
    List.mem_of_getElem? (by rwa [List.getElem?_drop])
  have done := answered _ among
  cases phase with
  | done answer =>
      rw [← told.answers asked there]
      exact ⟨label, attaches, there⟩
  | _ => cases done

/-- The calls that were there hold the producers that they held, and the new ones hold none. -/
theorem Calls.held_of_answered (calls : Calls called run (requestsIn later) now)
    (answered : now.AnsweredSince called.jobs.length) (topic : String) :
    now.held topic = (called.jobs.map fun job => job.producers.count topic).sum +
      (now.relays.map fun relay => relay.producers.count topic).sum := by
  have old : now.jobs.take called.jobs.length = called.jobs := by
    refine List.ext_getElem? fun id => ?_
    rw [List.getElem?_take]
    split
    · next bound => exact calls.old bound
    · next bound => exact (List.getElem?_eq_none (Nat.le_of_not_lt bound)).symm
  have none : ((now.jobs.drop called.jobs.length).map fun job => job.producers.count topic).sum =
      0 := by
    refine List.sum_eq_zero fun count among => ?_
    obtain ⟨job, member, rfl⟩ := List.mem_map.mp among
    rw [Job.producers_of_isDone (answered job member), List.count_nil]
  rw [State.held, ← List.take_append_drop called.jobs.length now.jobs, List.map_append,
    List.sum_append, none, old, Nat.add_zero]

/-- Two states agree on the routes, the consumers that were ever connected and the failures that
are injected, and the connections are as open in one as in the other. -/
structure State.AgreesWith (also now : State) : Prop where
  routes : ∀ run place,
    (also.slot? run place).map (fun slot => (slot.started, slot.relay.isSome)) =
      (now.slot? run place).map fun slot => (slot.started, slot.relay.isSome)
  subscriptions : also.upstream.subscriptions.Perm now.upstream.subscriptions
  refusals : ∀ queue, also.upstream.refusalsLeft queue = now.upstream.refusalsLeft queue
  source : also.upstream.bare = now.upstream.bare
  sink : also.downstream.bare = now.downstream.bare

/-- Two routes are both started or neither is, if both have a relay or neither has. -/
theorem History.agrees_at {other : List Occurrence} (history : History first past now)
    (unused : first.Unused) (also' : History first other also) (steady : Steady run called now)
    (alsoSteady : Steady run called also) (accepts : called.accepting? run = some true)
    (same : ∀ place, also.isOccupied run place = now.isOccupied run place) (place : Place) :
    (also.slot? run place).map (fun slot => (slot.started, slot.relay.isSome)) =
      (now.slot? run place).map fun slot => (slot.started, slot.relay.isSome) := by
  have there : (also.slot? run place).isSome = (now.slot? run place).isSome := by
    rw [(also'.slotted unused).isSome_slot?, (history.slotted unused).isSome_slot?,
      alsoSteady.route?, steady.route?]
  have occupied := same place
  cases left : also.slot? run place with
  | none =>
      cases right : now.slot? run place with
      | none => rfl
      | some slot => simp [left, right] at there
  | some slot =>
      cases right : now.slot? run place with
      | none => simp [left, right] at there
      | some other =>
          rw [State.isOccupied_of_some left, State.isOccupied_of_some right] at occupied
          have marks := also'.started_eq unused ((alsoSteady.accepting? run).trans accepts) left
          have marked := history.started_eq unused ((steady.accepting? run).trans accepts) right
          simp [marks, marked, occupied]

/-- Histories of the same calls to routes apart have done the same. -/
theorem Attaching.made_eq (attaching : Attaching called run later now)
    (another : Attaching called run others also) (history : History first past called)
    (unused : first.Unused) (running : called.running = some run)
    (apart : (requestsIn later).Pairwise (called.Apart run))
    (same : (requestsIn others).Perm (requestsIn later))
    (answered : now.AnsweredSince called.jobs.length)
    (alsoAnswered : also.AnsweredSince called.jobs.length) (entry : Entry) :
    also.made run entry + ((closedByRelays others).map Entry.producer).count entry =
      now.made run entry + ((closedByRelays later).map Entry.producer).count entry := by
  have told := attaching.foretold history unused running apart
  have alsoTold := another.foretold history unused running
    ((same.pairwise_iff State.Apart.symm).mpr apart)
  rw [told.made_of_answered answered, alsoTold.made_of_answered alsoAnswered, State.demand_perm same]

/-- The producers that are open are those of the calls that were there and those of the relays. -/
theorem Attaching.count_producers (attaching : Attaching called run later now)
    (history : History first past called) (unused : first.Unused)
    (calls : Calls called run (requestsIn later) now)
    (answered : now.AnsweredSince called.jobs.length) (topic : String) :
    (now.downstream.producers.count topic : Int) =
      (called.jobs.map fun job => job.producers.count topic).sum +
        now.made run (.producer topic) := by
  have balance := ((history.append attaching.history).accounting unused).balanced topic
  rw [calls.held_of_answered answered] at balance
  rw [balance, State.made]
  push_cast
  rfl

/-- **Histories of the same calls to routes apart agree.** -/
theorem Attaching.agrees (attaching : Attaching called run later now)
    (another : Attaching called run others also) (history : History first past called)
    (unused : first.Unused) (running : called.running = some run)
    (apart : (requestsIn later).Pairwise (called.Apart run))
    (same : (requestsIn others).Perm (requestsIn later))
    (answered : now.AnsweredSince called.jobs.length)
    (alsoAnswered : also.AnsweredSince called.jobs.length) :
    also.AgreesWith now ∧
      (also.downstream.producers ++ closedByRelays others).Perm
        (now.downstream.producers ++ closedByRelays later) := by
  obtain ⟨gate, hooks⟩ := history.hooks_of_running unused running
  have accepts := (history.lifecycle unused).running running
  have calls := attaching.calls hooks
  have alsoCalls := another.calls hooks
  have made := attaching.made_eq another history unused running apart same answered alsoAnswered
  have elsewhere : ∀ entry, (∀ topic, entry ≠ .producer topic) →
      also.made run entry = now.made run entry := by
    intro entry other
    have both := made entry
    rw [List.count_eq_zero_of_not_mem, List.count_eq_zero_of_not_mem] at both
    · omega
    · simp [eq_comm, other]
    · simp [eq_comm, other]
  have occupied : ∀ place, also.isOccupied run place = now.isOccupied run place := by
    intro place
    have both := elsewhere (.start place) (by simp)
    simp only [State.made] at both
    cases left : also.isOccupied run place <;> cases right : now.isOccupied run place <;>
      simp [left, right] at both ⊢
  refine ⟨?_, ?_⟩
  · exact {
      routes := fun other place => by
        by_cases here : other = run
        · subst here
          exact (history.append attaching.history).agrees_at unused
            (history.append another.history) calls.steady alsoCalls.steady accepts occupied place
        · rw [alsoCalls.steady.elsewhere here, calls.steady.elsewhere here]
      subscriptions := List.perm_iff_count.mpr fun subscription => by
        have both := elsewhere (.subscription subscription) (by simp)
        simp only [State.made] at both
        omega
      refusals := fun queue => by
        have both := elsewhere (.refusal queue) (by simp)
        simp only [State.made] at both
        omega
      source := by rw [alsoCalls.steady.source, calls.steady.source]
      sink := by rw [alsoCalls.steady.sink, calls.steady.sink] }
  · rw [List.perm_iff_count]
    intro topic
    have both := made (.producer topic)
    have injective : Function.Injective Entry.producer := fun _ _ => Entry.producer.inj
    rw [List.count_map_of_injective _ _ injective, List.count_map_of_injective _ _ injective] at both
    have here := attaching.count_producers history unused calls answered topic
    have there := another.count_producers history unused alsoCalls alsoAnswered topic
    rw [List.count_append, List.count_append]
    omega

end

section

variable {first called now also : State} {past later others : List Occurrence} {run : RunId}
  {gate : Gate}

/-! ## Nobody keeps another waiting -/

/-- Nobody holds the guard of a route of a topic. -/
def State.Unheld (state : State) (run : RunId) (topic : String) : Prop :=
  ∀ place ∈ state.positions run topic, ∀ slot, state.slot? run place = some slot →
    slot.guard.holder = none

/-- A call is the only one in the line at a route, so it holds the guard. -/
theorem Attaching.holds_guard {index : Nat} {request : Request} {label : String} {place : Place}
    {ahead : List Place} (attaching : Attaching called run later now)
    (history : History first past called) (unused : first.Unused)
    (hooks : called.broker.hooks = some ⟨gate, run⟩)
    (apart : (requestsIn later).Pairwise (called.Apart run))
    (asked : (requestsIn later)[index]? = some request)
    (attaches : request.attaches? run = some label) (unheld : called.Unheld run label)
    (present : now.jobs[called.jobs.length + index]? =
      some (.attach label (.activating run (.queued place ahead)))) :
    ∃ slot, now.slot? run place = some slot ∧
      slot.guard.holder = some (called.jobs.length + index) := by
  have calls := attaching.calls hooks
  have ours : (AttachPhase.activating run (.queued place ahead)).places.Sublist
    (called.positions run label) := attaching.places_sublist history unused hooks rfl present
  have among := ours.subset (List.mem_cons_self ..)
  obtain ⟨slot, holder, there, held, post⟩ := attaching.exists_holder history unused hooks present
  refine ⟨slot, there, held.trans (congrArg some ?_)⟩
  rcases Nat.lt_or_ge holder called.jobs.length with old | new
  · -- A call that was there would have stood at the route then, and somebody held the guard.
    have stood : called.postOf? holder = some (.route run place) := by
      rwa [State.postOf?, calls.old old] at post
    obtain ⟨_, before, _, was⟩ := (Attaching.start called run).routes history unused hooks among
    have guard : called.guardAt? (.route run place) = some before.guard := by
      simp [State.guardAt?, was]
    have lines := history.lines unused
    have free := unheld place among before was
    have empty : before.guard.line = [] := by
      simp [Guard.line, free, lines.granted guard free]
    simpa [empty] using (lines.members guard).mpr stood
  · by_contra different
    obtain ⟨other, _, phase, asking, attached, stood, here⟩ := calls.stands new post
    have others : index ≠ holder - called.jobs.length := by
      rintro rfl
      exact different (Nat.add_sub_cancel' new).symm
    have disjoint := State.Apart.of_pairwise apart asked asking others _ _ attaches attached
    have theirs : (AttachPhase.activating run phase).places.Sublist
      (called.positions run _) := attaching.places_sublist history unused hooks rfl stood
    exact disjoint among (theirs.subset (ActivationPhase.mem_places here))

/-- **Attachments to different routes are independent of one another.**  Calls attach subscribers to
topics that have no route in common.  In whichever order they arrive and however their turns
interleave, each gets the same answer; and once all have theirs, the same routes are started, the
same consumers have been connected, the same producers are open but for those that relays have
closed, and the same failures are still to come.  Wherever the others stand, each of the calls can
come to its answer by its own turns, unless somebody held a guard of its routes before. -/
theorem History.independent_attachments (history : History first past called)
    (unused : first.Unused) (running : called.running = some run)
    (attaching : Attaching called run later now)
    (apart : (requestsIn later).Pairwise (called.Apart run)) :
    (∀ {others also}, Attaching called run others also →
      (requestsIn others).Perm (requestsIn later) → now.AnsweredSince called.jobs.length →
        also.AnsweredSince called.jobs.length →
          (∀ left right {request}, (requestsIn later)[left]? = some request →
            (requestsIn others)[right]? = some request →
              also.jobs[called.jobs.length + right]? = now.jobs[called.jobs.length + left]?) ∧
          also.AgreesWith now ∧
          (also.downstream.producers ++ closedByRelays others).Perm
            (now.downstream.producers ++ closedByRelays later)) ∧
    ∀ index {request label}, (requestsIn later)[index]? = some request →
      request.attaches? run = some label → called.Unheld run label →
        ∃ more after answer, Solo (called.jobs.length + index) now more after ∧
          after.jobs[called.jobs.length + index]? = some (.attach label (.done answer)) ∧
          ∀ other, other ≠ called.jobs.length + index → after.jobs[other]? = now.jobs[other]? := by
  obtain ⟨gate, hooks⟩ := history.hooks_of_running unused running
  refine ⟨?_, ?_⟩
  · intro others also another same answered alsoAnswered
    obtain ⟨agree, producers⟩ :=
      attaching.agrees another history unused running apart same answered alsoAnswered
    refine ⟨?_, agree, producers⟩
    intro left right request asked alsoAsked
    obtain ⟨label, attaches, there⟩ := (attaching.foretold history unused running
      apart).job_of_answered (attaching.calls hooks) answered asked
    obtain ⟨_, again, here⟩ := (another.foretold history unused running
      ((same.pairwise_iff State.Apart.symm).mpr apart)).job_of_answered (another.calls hooks)
        alsoAnswered alsoAsked
    cases attaches.symm.trans again
    rw [there, here]
  · intro index request label asked attaches unheld
    obtain ⟨_, phase, attached, _, present⟩ := (attaching.calls hooks).new asked
    cases attaches.symm.trans attached
    obtain ⟨more, after, answer, alone, answered⟩ := attaching.finish history unused hooks
      (Nat.le_add_right ..) present fun onward same stands =>
        onward.holds_guard history unused hooks (same ▸ apart) (same ▸ asked) attaches unheld stands
    exact ⟨more, after, answer, alone, answered, fun other => alone.jobs_of_ne⟩

end

/-- Two calls attach subscribers to two topics; the queue of the second refuses its consumer.  They
interleave, or arrive the other way round and come one after the other.  And while the first waits
for its consumer with the guard of its route in its hands, the second comes to its answer. -/
theorem two_attachments_are_independent :
    ∃ past called later now others also partly middle,
      History (State.scripted ["Q", "R"]) past called ∧ called.running = some 0 ∧
      Attaching called 0 later now ∧ requestsIn later = [.attach "Q", .attach "R"] ∧
      Attaching called 0 others also ∧ requestsIn others = [.attach "R", .attach "Q"] ∧
      also.jobs[2]? = now.jobs[1]? ∧ also.jobs[1]? = now.jobs[2]? ∧ also.AgreesWith now ∧
      (also.downstream.producers ++ closedByRelays others).Perm
        (now.downstream.producers ++ closedByRelays later) ∧
      now.downstream.producers = ["Q"] ∧ now.upstream.refusalsLeft "R" = 1 ∧
      Attaching called 0 partly middle ∧ middle.jobs[1]?.bind Job.claims? = some (0, 0) ∧
      ∃ more after answer, Solo 2 middle more after ∧
        after.jobs[2]? = some (.attach "R" (.done answer)) ∧ after.jobs[1]? = middle.jobs[1]? := by
  obtain ⟨past, called, history, checked⟩ := History.exists_of_record (State.scripted ["Q", "R"])
    (startMoves 0 ++ [.change (.refuseConsumers "R" 2)])
    (fun _ called => called.running == some 0 && called.jobs.length == 1 &&
      called.positions 0 "Q" == [0] && called.positions 0 "R" == [1] &&
      (called.slot? 0 1).any (·.guard.holder == none) &&
      (called.record ([.arrive (.attach "Q"), .arrive (.attach "R"), .job 1, .job 2] ++
        List.replicate 4 (.job 1) ++ List.replicate 4 (.job 2) ++ List.replicate 3 (.job 1))).any
          (fun reached => requestsIn reached.1 == [.attach "Q", .attach "R"] &&
            (reached.2.jobs.drop 1).all Job.isDone && reached.2.downstream.producers == ["Q"] &&
              reached.2.upstream.refusalsLeft "R" == 1) &&
      (called.record (.arrive (.attach "R") :: List.replicate 5 (.job 1) ++
        .arrive (.attach "Q") :: List.replicate 8 (.job 2))).any
          (fun reached => requestsIn reached.1 == [.attach "R", .attach "Q"] &&
            (reached.2.jobs.drop 1).all Job.isDone) &&
      (called.record (.arrive (.attach "Q") :: List.replicate 4 (.job 1) ++
        [.arrive (.attach "R")])).any
          fun reached => requestsIn reached.1 == [.attach "Q", .attach "R"] &&
            reached.2.jobs[1]?.bind Job.claims? == some (0, 0)) rfl
  simp only [Bool.and_eq_true, beq_iff_eq, Option.any_eq_true, Prod.exists, List.all_eq_true]
    at checked
  obtain ⟨⟨⟨⟨⟨⟨⟨running, size⟩, first⟩, second⟩, slot, there, free⟩,
    later, now, recorded, ⟨⟨asked, answered⟩, producers⟩, refusals⟩,
    others, also, again, alsoAsked, alsoAnswered⟩,
    partly, middle, started, partlyAsked, claims⟩ := checked
  have attaching : Attaching called 0 later now := .of_record recorded (by rw [size]; rfl)
  have another : Attaching called 0 others also := .of_record again (by rw [size]; rfl)
  have onward : Attaching called 0 partly middle := .of_record started (by rw [size]; rfl)
  have apart : [Request.attach "Q", .attach "R"].Pairwise (called.Apart 0) := by
    have disjoint : called.Apart 0 (.attach "Q") (.attach "R") := by
      rintro _ _ ⟨⟩ ⟨⟩
      simp [first, second]
    simp [disjoint]
  have unheld : called.Unheld 0 "R" := by
    intro place among found present
    rw [second, List.mem_singleton] at among
    subst among
    cases there.symm.trans present
    exact free
  have swapped : (requestsIn others).Perm (requestsIn later) := by
    rw [asked, alsoAsked]
    exact .swap ..
  obtain ⟨same, agree, produced⟩ := (history.independent_attachments (State.scripted_unused _)
    running attaching (asked ▸ apart)).1 another swapped (by rwa [size, State.AnsweredSince])
      (by rwa [size, State.AnsweredSince])
  obtain ⟨more, after, answer, alone, done, still⟩ := (history.independent_attachments
    (State.scripted_unused _) running onward (partlyAsked ▸ apart)).2 1 (by rw [partlyAsked]; rfl) rfl
      unheld
  rw [size] at same alone done still
  exact ⟨past, called, later, now, others, also, partly, middle, history, running, attaching, asked,
    another, alsoAsked, same 0 1 (by rw [asked]; rfl) (by rw [alsoAsked]; rfl),
    same 1 0 (by rw [asked]; rfl) (by rw [alsoAsked]; rfl), agree, produced,
    producers, refusals, onward, claims, more, after, answer, alone, done, still 1 (by decide)⟩

end TopicRelay
