import TopicRelay.Proofs.CallTraces
import TopicRelay.Proofs.Omission

/-!
# Refused subscribers are invisible

A subscriber is refused if the broker is not started, if the gate does not let it in, or if no route
publishes its topic.  All this is found out before anything is done for the subscriber: a call that
may still be refused stands in no line (`Job.post?_of_isPreliminary`), and its turns show nothing but
reports and change nothing but its own phase (`Attaches.preliminary`).

So any of the refused calls can be left out of a history, wherever they stand in it, and what remains
is a history (`History.without`).  `History.refused_are_invisible` says what it has in common with
the history that it was made from.
-/

namespace TopicRelay

set_option autoImplicit false

/-! ## Refusals -/

/-- A failure that is found before anything is done for the subscriber. -/
def SubscribeFailure.isRefusal : SubscribeFailure → Bool
  | .notStarted | .unauthorized => true
  | .activation failure => failure.isRouteNotFound

namespace Job

/-- A call that was refused. -/
def isRefused : Job → Bool
  | .attach _ (.done (.error failure)) => failure.isRefusal
  | _ => false

/-- A call that was refused or may still be. -/
def isPreliminary : Job → Bool
  | .attach _ (.presenting _) | .attach _ .entering | .attach _ (.activating _ .resolving) => true
  | job => job.isRefused

theorem isPreliminary_of_isRefused {job : Job} (refused : job.isRefused = true) :
    job.isPreliminary = true := by
  unfold isPreliminary
  split <;> first | rfl | exact refused

/-- A call that may still be refused stands in no line. -/
theorem post?_of_isPreliminary {job : Job} (preliminary : job.isPreliminary = true) :
    job.post? = none := by
  unfold isPreliminary at preliminary
  split at preliminary
  · rfl
  · rfl
  · rfl
  · unfold isRefused at preliminary
    split at preliminary
    · rfl
    · cases preliminary

end Job

/-- Something that is reported. -/
def Effect.isReport : Effect → Bool
  | .report _ => true
  | _ => false

/-- What the collaborators of a bridge have noticed of it: everything but reports. -/
def dealings (past : List Occurrence) : List Effect :=
  (past.flatMap (·.effects)).filter fun effect => !effect.isReport

theorem dealings_concat (past : List Occurrence) (last : Occurrence) :
    dealings (past ++ [last]) =
      dealings past ++ last.effects.filter fun effect => !effect.isReport := by
  simp [dealings]

theorem filter_reports {effects : List Effect} (reports : effects.all Effect.isReport = true) :
    (effects.filter fun effect => !effect.isReport) = [] := by
  simp_all

theorem no_request_of_reports {effects : List Effect}
    (reports : effects.all Effect.isReport = true) : effects.any Effect.isRequest = false := by
  rw [List.any_eq_false]
  intro effect among
  have reported := List.all_eq_true.mp reports effect among
  cases effect with
  | report event => simp [Effect.isRequest]
  | _ => cases reported

/-- The calls that are written down are among the dealings. -/
theorem callLog_eq_filterMap_dealings (past : List Occurrence) :
    callLog past = (dealings past).filterMap Effect.call? := by
  have called : ∀ effect : Effect,
      (if !effect.isReport then effect.call? else none) = effect.call? := by
    intro effect
    cases effect <;> rfl
  simp only [dealings, List.filterMap_filter, called, List.filterMap_flatMap]
  rfl

/-! ## The turns of a call that is refused -/

section

variable {state next : State} {move : Move} {effects : List Effect} {id job : JobId}

/-- A call that may be refused after a turn might have been refused before it, and the turn shows
nothing but reports. -/
theorem Attaches.preliminary {topic : String} {phase after : AttachPhase}
    (turn : Attaches state job topic phase after next effects)
    (preliminary : (Job.attach topic after).isPreliminary = true) :
    (Job.attach topic phase).isPreliminary = true ∧ next = state ∧
      effects.all Effect.isReport = true := by
  cases turn with
  | tooEarly => exact ⟨rfl, rfl, rfl⟩
  | unauthorized => exact ⟨rfl, rfl, by simp [Effect.isReport]⟩
  | admitted => exact ⟨rfl, rfl, by simp [Effect.isReport]⟩
  | entered _ _ => exact ⟨rfl, rfl, rfl⟩
  | shutOut => exact ⟨rfl, rfl, rfl⟩
  | activated turn =>
      cases turn with
      | unknown _ => exact ⟨rfl, rfl, rfl⟩
      | _ => cases preliminary

/-- The turn of a call that may still be refused after it. -/
theorem Moves.preliminary {after : Job} (moved : Moves state (.job job) next effects)
    (now : next.jobs[job]? = some after) (preliminary : after.isPreliminary = true) :
    ∃ before, state.jobs[job]? = some before ∧ before.isPreliminary = true ∧
      next = state.setJob job after ∧ effects.all Effect.isReport = true := by
  cases after with
  | attach topic phase =>
      obtain ⟨before, middle, was, turn, rfl⟩ := moved.to_attach now
      obtain ⟨earlier, rfl, reports⟩ := turn.preliminary preliminary
      exact ⟨_, was, earlier, rfl, reports⟩
  | start phase => cases preliminary
  | stop phase => cases preliminary

/-- A call that may still be refused might have been refused before. -/
theorem Moves.preliminary_origin {after before : Job} (moved : Moves state move next effects)
    (was : state.jobs[id]? = some before) (now : next.jobs[id]? = some after)
    (preliminary : after.isPreliminary = true) : before.isPreliminary = true := by
  by_cases mine : move = .job id
  · subst mine
    obtain ⟨_, present, earlier, _⟩ := moved.preliminary now preliminary
    cases was.symm.trans present
    exact earlier
  · cases (moved.jobs_of_ne was mine).symm.trans now
    exact preliminary

/-- A call that has its answer keeps it. -/
theorem Moves.keeps_answer {found : Job} (moved : Moves state move next effects)
    (present : state.jobs[id]? = some found) (done : found.isDone = true) :
    next.jobs[id]? = some found := by
  apply moved.jobs_of_ne present
  rintro rfl
  obtain ⟨other, there, flies⟩ := moved.inFlight
  cases present.symm.trans there
  simp [done] at flies

end

theorem History.keeps_answer {middle now : State} {later : List Occurrence} {id : JobId}
    {found : Job} (history : History middle later now) (present : middle.jobs[id]? = some found)
    (done : found.isDone = true) : now.jobs[id]? = some found :=
  history.preserves (P := fun state => state.jobs[id]? = some found) present
    fun kept step => (step_cases step).keeps_answer kept done

/-- All turns of a call that may still be refused. -/
theorem History.preliminary_turns {first now : State} {past : List Occurrence} {id : JobId}
    {found : Job} (history : History first past now) (present : now.jobs[id]? = some found)
    (preliminary : found.isPreliminary = true) :
    ∀ occurrence ∈ past, occurrence.move = .job id →
      occurrence.effects.all Effect.isReport = true ∧
        ∃ after, occurrence.after = occurrence.before.setJob id after := by
  induction history generalizing found with
  | start => simp
  | @move past now next move effects before step ih =>
      have moved := step_cases step
      intro occurrence among mine
      rcases List.mem_append.mp among with old | last
      · obtain ⟨earlier, was⟩ : ∃ earlier, now.jobs[id]? = some earlier := by
          by_contra absent
          have nowhere : now.jobs[id]? = none := by
            cases there : now.jobs[id]? with
            | none => rfl
            | some job => exact absurd ⟨job, there⟩ absent
          have turnless := before.turnless nowhere occurrence old
          simp [Occurrence.isCallTurn_iff.mpr mine] at turnless
        exact ih was (moved.preliminary_origin was present preliminary) occurrence old mine
      · cases List.mem_singleton.mp last
        cases mine
        obtain ⟨_, _, _, same, reports⟩ := moved.preliminary present preliminary
        exact ⟨reports, _, same⟩

/-! ## Histories without some calls -/

section

variable {omitted : JobId → Bool} {first state now : State} {past : List Occurrence}

/-- A move and what it led to, without some calls. -/
def Occurrence.without (occurrence : Occurrence) (omitted : JobId → Bool) : Occurrence where
  before := occurrence.before.without omitted
  move := occurrence.move.renumbered omitted
  after := occurrence.after.without omitted
  effects := occurrence.effects

/-- A history without some calls: neither their arrivals nor their turns are there. -/
def leaveOut (omitted : JobId → Bool) (past : List Occurrence) : List Occurrence :=
  (past.filter fun occurrence => !occurrence.before.omits omitted occurrence.move).map
    (·.without omitted)

/-- The calls that are left out were refused or may still be. -/
def State.Dispensable (state : State) (omitted : JobId → Bool) : Prop :=
  ∀ {id found}, omitted id = true → state.jobs[id]? = some found → found.isPreliminary = true

/-- Calls that can be left out are in nobody's way. -/
theorem Lines.unobstructed (lines : Lines state) (out : state.Dispensable omitted) :
    state.Unobstructed omitted := by
  have stays : ∀ post {guard}, state.guardAt? post = some guard →
      ∀ id ∈ guard.line, omitted id = false := by
    intro post guard found id among
    obtain ⟨job, present, stands⟩ := Option.bind_eq_some_iff.mp ((lines.members found).mp among)
    by_contra left
    have preliminary := out (by simpa using left) present
    simp [Job.post?_of_isPreliminary preliminary] at stands
  refine ⟨stays .bridge rfl, fun {run place slot} found => ?_⟩
  exact stays (.route run place) (by simp [State.guardAt?, found])

theorem State.without_of_unused (unused : state.Unused) : state.without omitted = state := by
  obtain ⟨runs, _, guard, _, jobs, _⟩ := unused
  cases state
  simp_all [State.without, remaining, Guard.renumbered]

/-- The moves of calls that can be left out make no difference to the others. -/
theorem Moves.without_of_omits {next : State} {move : Move} {effects : List Effect}
    (moved : Moves state move next effects) (out : next.Dispensable omitted)
    (omits : state.omits omitted move = true) :
    next.without omitted = state.without omitted ∧ effects.all Effect.isReport = true := by
  cases move with
  | job id =>
      obtain ⟨found, present, _⟩ := moved.inFlight
      have still := moved.job_isSome (Option.isSome_of_eq_some present)
      obtain ⟨after, now⟩ := Option.isSome_iff_exists.mp still
      obtain ⟨_, _, _, rfl, reports⟩ := moved.preliminary now (out omits now)
      exact ⟨State.setJob_without_of_omitted omits, reports⟩
  | arrive request =>
      cases moved
      have left : omitted state.jobs.length = true := omits
      simp [State.arrive, State.without, remaining_concat, left]
  | _ => cases omits

/-- **What remains of a history is a history.** -/
theorem History.without (history : History first past now) (unused : first.Unused)
    (out : now.Dispensable omitted) :
    History first (leaveOut omitted past) (now.without omitted) ∧
      dealings (leaveOut omitted past) = dealings past := by
  induction history with
  | start =>
      rw [State.without_of_unused unused]
      exact ⟨.start, rfl⟩
  | @move past now next move effects before step ih =>
      have moved := step_cases step
      have earlier : now.Dispensable omitted := by
        intro id found left present
        have still := moved.job_isSome (Option.isSome_of_eq_some present)
        obtain ⟨after, there⟩ := Option.isSome_iff_exists.mp still
        exact moved.preliminary_origin present there (out left there)
      obtain ⟨shorter, same⟩ := ih earlier
      cases omits : now.omits omitted move with
      | true =>
          obtain ⟨still, reports⟩ := moved.without_of_omits out omits
          have kept : leaveOut omitted (past ++ [⟨now, move, next, effects⟩]) =
              leaveOut omitted past := by simp [leaveOut, omits]
          rw [kept, still, same, dealings_concat, filter_reports reports, List.append_nil]
          exact ⟨shorter, rfl⟩
      | false =>
          have clear := (before.lines unused).unobstructed earlier
          have steps := State.step_without clear omits step
          have kept : leaveOut omitted (past ++ [⟨now, move, next, effects⟩]) =
              leaveOut omitted past ++ [⟨now.without omitted, move.renumbered omitted,
                next.without omitted, effects⟩] := by simp [leaveOut, omits, Occurrence.without]
          rw [kept, dealings_concat, dealings_concat, same]
          exact ⟨.move shorter steps, rfl⟩

/-- Nobody can tell two states apart but by the calls: the collaborators and the routes stand in
the same way, and every question gets the same answer. -/
structure State.Resembles (other state : State) : Prop where
  upstream : other.upstream = state.upstream
  downstream : other.downstream = state.downstream
  broker : other.broker = state.broker
  directory : other.directory = state.directory
  catalog : other.catalog = state.catalog
  relays : other.relays = state.relays
  running : other.running = state.running
  clock : other.clock = state.clock
  now : other.now = state.now
  tables : ∀ run, other.table? run = state.table? run
  accepting : ∀ run, other.accepting? run = state.accepting? run
  routes : ∀ run place, (other.slot? run place).map (fun slot => (slot.relay, slot.started)) =
    (state.slot? run place).map fun slot => (slot.relay, slot.started)
  answers : ∀ instruction, (Errand.begin other instruction).1.reply? =
    (Errand.begin state instruction).1.reply?

theorem State.runningRun?_without {state : State} :
    (state.without omitted).runningRun? = state.runningRun?.map (Run.renumbered omitted) := by
  have same : (state.without omitted).running = state.running := rfl
  simp only [State.runningRun?, same]
  cases state.running with
  | none => rfl
  | some run => exact State.run?_without

theorem Run.view?_renumbered (run : Run) (id : String) :
    (run.renumbered omitted).view? id = run.view? id := by
  have started : ∀ place, (run.renumbered omitted).isStarted place = run.isStarted place := by
    intro place
    simp only [Run.isStarted, Run.renumbered, List.getElem?_map, Option.map_map]
    rfl
  simp only [Run.view?, started]
  rfl

/-- Without some calls a state looks the same. -/
theorem State.without_resembles (state : State) (omitted : JobId → Bool) :
    (state.without omitted).Resembles state where
  upstream := rfl
  downstream := rfl
  broker := rfl
  directory := rfl
  catalog := rfl
  relays := rfl
  running := rfl
  clock := rfl
  now := rfl
  tables := fun _ => State.table?_without
  accepting := fun _ => State.accepting?_without
  routes := by
    intro run place
    rw [State.slot?_without, Option.map_map]
    rfl
  answers := by
    intro instruction
    have running : (state.without omitted).runningRun? =
        state.runningRun?.map (Run.renumbered omitted) := State.runningRun?_without
    have topics : ∀ scope, (state.without omitted).advertisedTopics scope =
        state.advertisedTopics scope := by
      intro scope
      simp only [State.advertisedTopics, running]
      cases state.runningRun? <;> rfl
    cases instruction with
    | subscribe topic client =>
        have same : (state.without omitted).credential? client = state.credential? client := rfl
        simp only [Errand.begin, same]
        cases state.credential? client <;> rfl
    | notify topic =>
        have same : (state.without omitted).broker = state.broker := rfl
        simp only [Errand.begin, same]
        cases state.broker.hooks <;> rfl
    | authorize client action =>
        have same : (state.without omitted).credential? client = state.credential? client := rfl
        simp only [Errand.begin, Errand.authorize, same]
        cases state.credential? client <;> rfl
    | topics scope => simp only [Errand.begin, topics, Errand.answer]
    | describe scope =>
        simp only [Errand.begin, Errand.answer, State.description, topics]
        rfl
    | servicePrincipal =>
        simp only [Errand.begin, Errand.answer, running, Option.map_map]
        rfl
    | route id =>
        simp only [Errand.begin, running]
        cases state.runningRun? with
        | none => rfl
        | some run => simp only [Option.map_some, Run.view?_renumbered, Errand.answer]
    | _ => rfl

/-- A call was refused. -/
def State.Refuses (state : State) (id : JobId) : Prop :=
  ∃ found, state.jobs[id]? = some found ∧ found.isRefused = true

theorem State.dispensable_of_refuses (refused : ∀ id, omitted id = true → now.Refuses id) :
    now.Dispensable omitted := by
  intro id found out present
  obtain ⟨other, there, refusal⟩ := refused id out
  cases present.symm.trans there
  exact Job.isPreliminary_of_isRefused refusal

/-- The turn in which a client presents itself that the gate does not let in as a consumer. -/
theorem State.refuses_of_barred {state next : State} {id : JobId} {topic : String}
    {credential : Credential} {effects : List Effect}
    (presents : state.jobs[id]? = some (.attach topic (.presenting credential)))
    (barred : (state.broker.authorize state.directory state.now credential .consume).1 = false)
    (step : state.step (.job id) = some (next, effects)) : next.Refuses id := by
  simp only [State.step, State.jobTurn, presents, State.attachTurn] at step
  rcases verdict : state.broker.authorize state.directory state.now credential .consume with
    ⟨allowed, events⟩
  rw [verdict] at barred
  cases barred
  cases started : state.broker.isStarted <;>
    · simp only [started, verdict, Bool.not_true, Bool.not_false, Bool.false_eq_true, if_true,
        if_false, Option.map_some, Option.some.injEq, Prod.mk.injEq] at step
      obtain ⟨rfl, _⟩ := step
      exact ⟨_, State.jobs_setJob_self presents, rfl⟩

/-- A refusal is an answer. -/
theorem History.refuses {middle : State} {later : List Occurrence} {id : JobId}
    (history : History middle later now) (refused : middle.Refuses id) : now.Refuses id := by
  obtain ⟨found, present, refusal⟩ := refused
  refine ⟨found, history.keeps_answer present ?_, refusal⟩
  unfold Job.isRefused at refusal
  split at refusal
  · rfl
  · cases refusal

/-- **Refused subscribers are invisible.**  Whatever a bridge has done, any of the calls that were
refused can be left out of it: what remains is again something that the bridge may have done.  The
other calls have the same answers, the collaborators have noticed the same, and every state on the
way looks the same: the payloads that were sent and those that wait, the subscriptions, the open
producers and the routes.  And a client whom the gate does not let in as a consumer has not a single
consumer requested for it. -/
theorem History.refused_are_invisible {first now : State} {past : List Occurrence}
    (history : History first past now) (unused : first.Unused) (omitted : JobId → Bool)
    (refused : ∀ id, omitted id = true → now.Refuses id) :
    History first (leaveOut omitted past) (now.without omitted) ∧
      (∀ id, omitted id = false →
        (now.without omitted).jobs[renumber omitted id]? = now.jobs[id]?) ∧
      dealings (leaveOut omitted past) = dealings past ∧
      callLog (leaveOut omitted past) = callLog past ∧
      (∀ occurrence ∈ past, (occurrence.before.without omitted).Resembles occurrence.before) ∧
      (now.without omitted).Resembles now ∧
      ∀ {earlier asked later id topic credential}, past = earlier ++ asked :: later →
        asked.move = .job id →
        asked.before.jobs[id]? = some (.attach topic (.presenting credential)) →
        (asked.before.broker.authorize asked.before.directory asked.before.now credential
          .consume).1 = false →
        ∀ occurrence ∈ past, occurrence.move = .job id →
          occurrence.effects.any Effect.isRequest = false ∧
            occurrence.after.upstream = occurrence.before.upstream := by
  obtain ⟨shorter, same⟩ := history.without unused (State.dispensable_of_refuses refused)
  refine ⟨shorter, fun id stays => getElem?_remaining stays now.jobs, same, ?_,
    fun occurrence _ => State.without_resembles _ _, State.without_resembles _ _, ?_⟩
  · rw [callLog_eq_filterMap_dealings, same, ← callLog_eq_filterMap_dealings]
  · intro earlier asked later id topic credential split mine presents barred occurrence among own
    obtain ⟨_, step, rest⟩ := (split ▸ history).occurrence
    rw [mine] at step
    obtain ⟨found, present, refusal⟩ := rest.refuses (State.refuses_of_barred presents barred step)
    obtain ⟨reports, after, changed⟩ := history.preliminary_turns present
      (Job.isPreliminary_of_isRefused refusal) occurrence among own
    exact ⟨no_request_of_reports reports, by rw [changed]; rfl⟩

end

/-- One call comes before the start, one is not let in, one asks for a topic that nobody publishes,
and one is served.  Without the first three, the start and the last call remain. -/
theorem three_refusals_leave_no_trace :
    ∃ past now, History (State.scripted ["Q"]) past now ∧
      (∀ id ∈ [0, 2, 3], now.Refuses id) ∧ past.length = 26 ∧
      History (State.scripted ["Q"]) (leaveOut (fun id => [0, 2, 3].contains id) past)
        (now.without fun id => [0, 2, 3].contains id) ∧
      (leaveOut (fun id => [0, 2, 3].contains id) past).length = 19 ∧
      (now.without fun id => [0, 2, 3].contains id).jobs.length = 2 ∧
      dealings (leaveOut (fun id => [0, 2, 3].contains id) past) = dealings past ∧
      now.downstream.producers = ["Q"] := by
  obtain ⟨past, now, history, checked⟩ := History.exists_of_record (State.scripted ["Q"])
    ([.arrive (.attach "Q"), .job 0] ++ startMoves 1 ++
      [.arrive (.subscribe "Q" ⟨"NOBODY", .chosen "guess"⟩), .job 2, .arrive (.attach "nowhere"),
        .job 3, .job 3, .arrive (.attach "Q")] ++ List.replicate 8 (.job 4))
    (fun past now => [0, 2, 3].all (fun id => now.jobs[id]?.any Job.isRefused) &&
      past.length == 26 && (leaveOut (fun id => [0, 2, 3].contains id) past).length == 19 &&
        (now.without fun id => [0, 2, 3].contains id).jobs.length == 2 &&
          now.downstream.producers == ["Q"]) rfl
  simp only [Bool.and_eq_true, beq_iff_eq, List.all_eq_true, Option.any_eq_true] at checked
  obtain ⟨⟨⟨⟨refused, moves⟩, fewer⟩, jobs⟩, producers⟩ := checked
  obtain ⟨remains, _, same, _⟩ := history.refused_are_invisible (State.scripted_unused ["Q"])
    (fun id => [0, 2, 3].contains id) fun id out => refused id (by simpa using out)
  exact ⟨past, now, history, refused, moves, remains, fewer, jobs, same, producers⟩

end TopicRelay
