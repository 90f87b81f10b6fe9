import TopicRelay.Proofs.Connectivity

/-!
# A start that overlaps a stop

A start holds the guard of the bridge throughout, but a stop gives it up as soon as it has
taken the run out.  So a start may open its connections while a stop has still to close
those of the run before, and the stop then closes what the start has opened.  `overlapped`
says of a history that the connection to the queues was last opened in such a moment.

Without this, a bridge that runs has its broker started and both connections open, from the
moment each is opened (`Whole`); with it, the connection to the queues is lost.  Once no
start and no stop is in flight, `History.coherent_at_rest_iff` gives the exact condition
under which the bridge, its broker and its connections agree.
-/

namespace TopicRelay

set_option autoImplicit false

/-! ## What a history says about overlaps -/

/-- A stop that has taken a run out and not closed the connection to the queues yet. -/
def Job.isClosing : Job → Bool
  | .stop phase => phase.hasSource
  | _ => false

/-- The connection to the queues is opened. -/
def Effect.isSourceOpening : Effect → Bool
  | .call .sourceOpen opened => opened
  | _ => false

/-- Whether a move has opened the connection to the queues. -/
def Occurrence.opensSource (occurrence : Occurrence) : Bool :=
  occurrence.effects.any Effect.isSourceOpening

/-- Whether the connection to the queues was last opened while a stop had still to close it. -/
def overlapped (past : List Occurrence) : Bool :=
  past.foldl (fun flag occurrence =>
    if occurrence.opensSource then occurrence.before.jobs.any Job.isClosing else flag) false

theorem Job.hasSource_of_isClosing {job : Job} (closing : job.isClosing = true) :
    job.hasSource = true := by
  cases job with
  | stop phase => exact closing
  | _ => cases closing

/-- No start and no stop is in flight. -/
structure State.AtRest (state : State) : Prop where
  starts : ¬state.Has Job.isStarting
  stops : ¬state.Has Job.isStopping

/-- The bridge is running, its broker is started and its connections are open, or none of it. -/
structure State.Coherent (state : State) : Prop where
  broker : state.broker.isStarted = state.running.isSome
  source : state.upstream.isOpen = state.running.isSome
  sink : state.downstream.isOpen = state.running.isSome

/-- Someone else closes a connection of the bridge. -/
def Move.isForeign : Move → Bool
  | .closeSource | .closeSink => true
  | _ => false

theorem overlapped_concat (past : List Occurrence) (last : Occurrence) :
    overlapped (past ++ [last]) =
      if last.opensSource then last.before.jobs.any Job.isClosing else overlapped past := by
  simp [overlapped]

/-- The connection to the queues was opened while a stop had still to close it, and not again
since. -/
theorem overlapped_iff {past : List Occurrence} :
    overlapped past = true ↔
      ∃ earlier opening later, past = earlier ++ opening :: later ∧ opening.opensSource = true ∧
        opening.before.Has Job.isClosing ∧ ∀ other ∈ later, other.opensSource = false := by
  induction past using List.reverseRecOn with
  | nil => simp [overlapped]
  | append_singleton past last ih =>
      rw [overlapped_concat]
      cases opens : last.opensSource with
      | true =>
          rw [if_pos rfl, ← State.has_iff_any]
          constructor
          · intro closing
            exact ⟨past, last, [], rfl, opens, closing, by simp⟩
          · rintro ⟨earlier, opening, later, whole, _, closing, quiet⟩
            cases later using List.reverseRecOn with
            | nil =>
                obtain ⟨_, rfl⟩ := List.append_singleton_inj.mp whole
                exact closing
            | append_singleton others other =>
                rw [← List.cons_append, ← List.append_assoc] at whole
                obtain ⟨_, rfl⟩ := List.append_singleton_inj.mp whole
                simp [quiet last (by simp)] at opens
      | false =>
          rw [if_neg (by simp), ih]
          constructor
          · rintro ⟨earlier, opening, later, rfl, opened, closing, quiet⟩
            refine ⟨earlier, opening, later ++ [last], by simp, opened, closing, ?_⟩
            intro other among
            rcases List.mem_append.mp among with before | same
            · exact quiet other before
            · cases List.mem_singleton.mp same
              exact opens
          · rintro ⟨earlier, opening, later, whole, opened, closing, quiet⟩
            cases later using List.reverseRecOn with
            | nil =>
                obtain ⟨_, rfl⟩ := List.append_singleton_inj.mp whole
                simp [opens] at opened
            | append_singleton others other =>
                rw [← List.cons_append, ← List.append_assoc] at whole
                obtain ⟨rfl, rfl⟩ := List.append_singleton_inj.mp whole
                exact ⟨earlier, opening, others, rfl, opened, closing, fun other among =>
                  quiet other (List.mem_append_left _ among)⟩

/-! ## Who opens the connection to the queues -/

@[simp] theorem any_isSourceOpening_stepReport {ε : Type} [Reported ε] (step : StopStep)
    (outcome : Except ε Unit) :
    (State.stepReport step outcome).any Effect.isSourceOpening = false := by
  cases outcome <;> rfl

/-- The connection to the queues is opened by a start. -/
theorem Moves.of_sourceOpening {state next : State} {move : Move} {effects : List Effect}
    (moved : Moves state move next effects) (opens : effects.any Effect.isSourceOpening = true) :
    ∃ job principal key upstream, state.jobs[job]? = some (.start (.openingSource principal key)) ∧
      upstream.isOpen = true ∧
        next = ({ state with upstream := upstream } : State).setJob job
          (.start (.openingSink principal key)) := by
  cases moved with
  | start present turn =>
      cases turn with
      | sourceOpened connected =>
          exact ⟨_, _, _, _, present, isOpen_connect_upstream connected, rfl⟩
      | _ => simp [Effect.isSourceOpening, State.closeSource, State.closeSink] at opens
  | stop _ turn =>
      refine absurd opens ?_
      cases turn <;> simp [Effect.isSourceOpening, State.closeSource, State.closeSink]
  | attach _ turn =>
      cases turn with
      | activated turn => cases turn <;> cases opens
      | _ => simp [Effect.isSourceOpening] at opens
  | relay _ turn => cases turn <;> cases opens
  | _ => cases opens

/-! ## A bridge that has lost nothing -/

/-- What a bridge that runs, or a start, has opened is open, and no stop is going to close it. -/
structure Whole (state : State) : Prop where
  running : state.running.isSome = true →
    state.broker.isStarted = true ∧ state.downstream.isOpen = true ∧
      state.upstream.isOpen = true ∧ ¬state.Has Job.isClosing
  source : ∀ {job : JobId} {phase : StartPhase}, state.jobs[job]? = some (.start phase) →
    phase.hasSource = true → state.upstream.isOpen = true ∧ ¬state.Has Job.isClosing
  sink : ∀ {job : JobId} {phase : StartPhase}, state.jobs[job]? = some (.start phase) →
    phase.hasSink = true → state.downstream.isOpen = true

namespace Whole

variable {state next : State} {job : JobId}

theorem of_unused (unused : state.Unused) : Whole state where
  running := fun runs => by simp [unused.running] at runs
  source := fun present _ => by simp [unused.jobs] at present
  sink := fun present _ => by simp [unused.jobs] at present

/-- Nothing is taken out of service, and no call comes to open or to close something. -/
theorem keep (whole : Whole state) (running : next.running = state.running)
    (service : KeepsService state next)
    (starts : ∀ {job : JobId} {phase : StartPhase}, next.jobs[job]? = some (.start phase) →
      phase.hasSource = true → state.jobs[job]? = some (.start phase))
    (closing : next.Has Job.isClosing → state.Has Job.isClosing) : Whole next where
  running := by
    intro runs
    obtain ⟨broker, sink, source, alone⟩ := whole.running (running ▸ runs)
    exact ⟨service.broker.trans broker, service.sink.trans sink, service.source.trans source,
      fun has => alone (closing has)⟩
  source := by
    intro job phase present has
    obtain ⟨source, alone⟩ := whole.source (starts present has) has
    exact ⟨service.source.trans source, fun has => alone (closing has)⟩
  sink := by
    intro job phase present has
    have hasSource := StartPhase.hasSource_of_hasSink has
    exact service.sink.trans (whole.sink (starts present hasSource) has)

/-- Nothing is claimed of a bridge that is in no run while no start has opened anything. -/
theorem of_idle (resting : next.running = none)
    (starts : ∀ {job : JobId} {phase : StartPhase}, next.jobs[job]? = some (.start phase) →
      phase.hasSource = true → False) : Whole next where
  running := fun runs => by simp [resting] at runs
  source := fun present has => (starts present has).elim
  sink := fun present has => (starts present (StartPhase.hasSource_of_hasSink has)).elim

/-- While a stop is closing, the bridge is in no run and no start has opened anything. -/
theorem idle_of_closing (whole : Whole state) (closing : state.Has Job.isClosing) :
    state.running = none ∧ ∀ {job : JobId} {phase : StartPhase},
      state.jobs[job]? = some (.start phase) → phase.hasSource = true → False := by
  refine ⟨?_, fun present has => (whole.source present has).2 closing⟩
  cases runs : state.running with
  | none => rfl
  | some run => exact absurd closing (whole.running (by simp [runs])).2.2.2

/-- Another call has a turn: a start that has opened something has not moved. -/
theorem starts_setJob {after : Job} {id : JobId} {phase : StartPhase}
    (present : (next.setJob job after).jobs[id]? = some (.start phase))
    (jobs : next.jobs = state.jobs)
    (waits : ∀ phase, after = .start phase → phase.hasSource = false)
    (has : phase.hasSource = true) : state.jobs[id]? = some (.start phase) := by
  rcases State.jobs_setJob present with ⟨_, same⟩ | ⟨_, before⟩
  · simp [waits phase same.symm] at has
  · exact jobs ▸ before

theorem closing_setJob {after : Job} (jobs : next.jobs = state.jobs)
    (open_ : after.isClosing = false) (has : (next.setJob job after).Has Job.isClosing) :
    state.Has Job.isClosing := by
  obtain ⟨id, found, present, closing⟩ := has
  rcases State.jobs_setJob present with ⟨_, rfl⟩ | ⟨_, before⟩
  · simp [open_] at closing
  · exact ⟨id, found, jobs ▸ before, closing⟩

/-- A start that is under way has a turn: no other start has opened anything. -/
theorem start_turn {before after : StartPhase} (life : Lifecycle state)
    (present : state.jobs[job]? = some (.start before)) (underWay : before.underWay = true)
    (jobs : next.jobs = state.jobs)
    (running : next.running.isSome = true →
      next.broker.isStarted = true ∧ next.downstream.isOpen = true ∧
        next.upstream.isOpen = true ∧ ¬state.Has Job.isClosing)
    (source : after.hasSource = true → next.upstream.isOpen = true ∧ ¬state.Has Job.isClosing)
    (sink : after.hasSink = true → next.downstream.isOpen = true) :
    Whole (next.setJob job (.start after)) := by
  have held := life.inCharge ⟨before, present, underWay⟩
  have closing : (next.setJob job (.start after)).Has Job.isClosing → state.Has Job.isClosing :=
    closing_setJob jobs rfl
  have mine : ∀ {id : JobId} {phase : StartPhase},
      (next.setJob job (.start after)).jobs[id]? = some (.start phase) →
        phase.hasSource = true → phase = after := by
    intro id phase there has
    rcases State.jobs_setJob there with ⟨_, same⟩ | ⟨different, earlier⟩
    · cases same
      rfl
    · exact absurd (life.starting_eq held
        ⟨phase, jobs ▸ earlier, StartPhase.underWay_of_hasSource has⟩) different
  refine ⟨fun runs => ?_, fun there has => ?_, fun there has => ?_⟩
  · obtain ⟨broker, sink, source, alone⟩ := running runs
    exact ⟨broker, sink, source, fun has => alone (closing has)⟩
  · cases mine there has
    obtain ⟨source, alone⟩ := source has
    exact ⟨source, fun has => alone (closing has)⟩
  · cases mine there (StartPhase.hasSource_of_hasSink has)
    exact sink has

/-- The turn of a start. -/
theorem start_step {phase after : StartPhase} {effects : List Effect} (whole : Whole state)
    (life : Lifecycle state) (present : state.jobs[job]? = some (.start phase))
    (turn : Starts state job phase after next effects)
    (apart : effects.any Effect.isSourceOpening = true → ¬state.Has Job.isClosing) :
    Whole (next.setJob job (.start after)) := by
  have resting : phase.underWay = true → ∀ {goal : Prop}, state.running.isSome = true → goal := by
    intro underWay goal runs
    simp [life.resting ⟨phase, present, underWay⟩] at runs
  have source : phase.hasSource = true →
      state.upstream.isOpen = true ∧ ¬state.Has Job.isClosing := whole.source present
  have sink : phase.hasSink = true → state.downstream.isOpen = true := whole.sink present
  have untouched : next.running = state.running → KeepsService state next →
      next.jobs = state.jobs → after.hasSource = false →
        Whole (next.setJob job (.start after)) := by
    intro running service jobs quiet
    refine whole.keep running ⟨service.broker, service.sink, service.source⟩
      (fun there => starts_setJob there jobs ?_) (closing_setJob jobs rfl)
    rintro _ ⟨⟩
    exact quiet
  cases turn with
  | asked => exact untouched rfl ⟨rfl, rfl, rfl⟩ rfl rfl
  | needless _ _ => exact untouched rfl ⟨rfl, rfl, rfl⟩ rfl rfl
  | entered _ _ => exact untouched rfl ⟨rfl, rfl, rfl⟩ rfl rfl
  | sourceOpened connected =>
      exact start_turn life present rfl rfl (resting rfl)
        (fun _ => ⟨isOpen_connect_upstream connected, apart rfl⟩) (by rintro ⟨⟩)
  | sinkOpened connected =>
      exact start_turn life present rfl rfl (resting rfl) (fun _ => source rfl)
        (fun _ => isOpen_connect_downstream connected)
  | brokerStarted started =>
      exact start_turn life present rfl rfl
        (fun _ => ⟨isStarted_start started, sink rfl, source rfl⟩) (by rintro ⟨⟩) (by rintro ⟨⟩)
  | sinkUnopened _ =>
      exact start_turn life present rfl rfl (resting rfl) (fun _ => source rfl) (by rintro ⟨⟩)
  | discovered =>
      exact start_turn life present rfl rfl (resting rfl) (fun _ => source rfl) fun _ => sink rfl
  | undiscovered =>
      exact start_turn life present rfl rfl (resting rfl) (fun _ => source rfl) fun _ => sink rfl
  | installed =>
      exact start_turn life present rfl rfl (resting rfl) (fun _ => source rfl) fun _ => sink rfl
  | brokerRefused _ =>
      exact start_turn life present rfl rfl (resting rfl) (fun _ => source rfl) fun _ => sink rfl
  | sinkGivenUp =>
      exact start_turn life present rfl rfl (resting rfl) (fun _ => source rfl) (by rintro ⟨⟩)
  | _ =>
      exact start_turn life present rfl rfl (resting rfl) (by rintro ⟨⟩) (by rintro ⟨⟩)

/-- The turn of a stop. -/
theorem stop_step {phase after : StopPhase} {effects : List Effect} (whole : Whole state)
    (life : Lifecycle state) (present : state.jobs[job]? = some (.stop phase))
    (turn : Stops state job phase after next effects) :
    Whole (next.setJob job (.stop after)) := by
  have starts : ∀ {id : JobId} {opened : StartPhase},
      (next.setJob job (.stop after)).jobs[id]? = some (.start opened) →
        opened.hasSource = true → state.jobs[id]? = some (.start opened) :=
    fun there => starts_setJob there turn.jobs (by rintro _ ⟨⟩)
  have late : phase.hasSource = true → next.running = state.running →
      Whole (next.setJob job (.stop after)) := by
    intro has running
    obtain ⟨resting, none⟩ := whole.idle_of_closing ⟨job, _, present, has⟩
    exact of_idle (running.trans resting) fun there opened => none (starts there opened) opened
  cases turn with
  | asked => exact whole.keep rfl ⟨rfl, rfl, rfl⟩ starts (closing_setJob rfl rfl)
  | idle _ _ => exact whole.keep rfl ⟨rfl, rfl, rfl⟩ starts (closing_setJob rfl rfl)
  | entered held _ =>
      refine of_idle rfl fun there has => ?_
      have starting : state.Starting _ :=
        ⟨_, starts there has, StartPhase.underWay_of_hasSource has⟩
      cases life.starting_eq held starting
      cases present.symm.trans (starts there has)
  | _ => exact late rfl rfl

/-- The connection to the queues is opened anew while no stop is going to close it. -/
theorem of_opening {move : Move} {effects : List Effect} (life : Lifecycle state)
    (moved : Moves state move next effects) (opens : effects.any Effect.isSourceOpening = true)
    (apart : ¬state.Has Job.isClosing) : Whole next := by
  obtain ⟨job, principal, key, upstream, present, opened, rfl⟩ := moved.of_sourceOpening opens
  exact start_turn life present rfl rfl
    (fun runs => by simp [life.resting ⟨_, present, rfl⟩] at runs)
    (fun _ => ⟨opened, apart⟩) (by rintro ⟨⟩)

/-- **Every move of the bridge keeps the invariant**, unless it opens the connection to the
queues while a stop has still to close it. -/
theorem step {move : Move} {effects : List Effect} (whole : Whole state) (life : Lifecycle state)
    (moved : Moves state move next effects) (own : move.isForeign = false)
    (apart : effects.any Effect.isSourceOpening = true → ¬state.Has Job.isClosing) :
    Whole next := by
  cases moved with
  | start present turn => exact whole.start_step life present turn apart
  | stop present turn => exact whole.stop_step life present turn
  | attach present turn =>
      have leaves := turn.leavesBridge
      have service := turn.keepsService
      exact whole.keep leaves.running ⟨service.broker, service.sink, service.source⟩
        (fun there => starts_setJob there leaves.jobs (by rintro _ ⟨⟩))
        (closing_setJob leaves.jobs rfl)
  | relay _ turn =>
      have leaves := turn.leavesBridge
      exact whole.keep leaves.running turn.keepsService (fun there _ => leaves.jobs ▸ there)
        (State.has_congr leaves.jobs.symm)
  | @arrive request =>
      refine whole.keep rfl ⟨rfl, rfl, rfl⟩ ?_ ?_
      · intro id phase there has
        rcases getElem?_concat_eq_some.mp there with before | ⟨_, same⟩
        · exact before
        · cases request <;> cases same
          cases has
      · rintro ⟨id, found, there, closing⟩
        rcases getElem?_concat_eq_some.mp there with before | ⟨_, rfl⟩
        · exact ⟨id, found, before, closing⟩
        · cases request <;> cases closing
  | @change change =>
      have leaves := change_leavesBridge state change
      exact whole.keep leaves.running (change_keepsService state change)
        (fun there _ => leaves.jobs ▸ there) (State.has_congr leaves.jobs.symm)
  | forget _ => exact whole.keep rfl ⟨rfl, rfl, rfl⟩ (fun there _ => there) id
  | closeSource => cases own
  | closeSink => cases own
  | wait => exact whole.keep rfl ⟨rfl, rfl, rfl⟩ (fun there _ => there) id

end Whole

/-! ## A connection that a stop closes under a bridge that runs -/

/-- Nothing but a start opens the connection to the queues. -/
theorem Moves.isOpen_upstream {state next : State} {move : Move} {effects : List Effect}
    (moved : Moves state move next effects) (quiet : effects.any Effect.isSourceOpening = false)
    (opened : next.upstream.isOpen = true) : state.upstream.isOpen = true := by
  cases moved with
  | start _ turn =>
      cases turn with
      | sourceOpened _ => cases quiet
      | sourceGivenUp => cases opened
      | allGivenUp => cases opened
      | _ => exact opened
  | stop _ turn =>
      cases turn with
      | sourceClosed => cases opened
      | _ => exact opened
  | attach _ turn => exact turn.keepsService.source.symm.trans opened
  | relay _ turn => exact turn.keepsService.source.symm.trans opened
  | change => exact (change_keepsService state _).source.symm.trans opened
  | closeSource => cases opened
  | _ => exact opened

/-- A stop goes on closing until the connection to the queues is closed. -/
theorem Moves.isClosing {state next : State} {move : Move} {effects : List Effect}
    (moved : Moves state move next effects) (closing : state.Has Job.isClosing) :
    next.Has Job.isClosing ∨ next.upstream.isOpen = false := by
  cases moved with
  | start present turn =>
      exact .inl (State.has_setJob (State.has_congr turn.jobs closing)
        (turn.jobs ▸ present) (by rintro ⟨⟩))
  | @stop job phase after next effects present turn =>
      have there : next.jobs[job]? = some (.stop phase) := turn.jobs ▸ present
      have onward : (phase.hasSource = true → after.hasSource = true) →
          (next.setJob job (.stop after)).Has Job.isClosing := fun keeps =>
        State.has_setJob (State.has_congr turn.jobs closing) there
          (show (Job.stop phase).isClosing = true → (Job.stop after).isClosing = true from keeps)
      cases turn with
      | sourceClosed => exact .inr rfl
      | entered _ _ => exact .inl (onward fun _ => rfl)
      | asked => exact .inl (onward id)
      | idle _ _ => exact .inl (onward id)
      | _ => exact .inl (onward fun _ => rfl)
  | attach present turn =>
      have jobs := turn.leavesBridge.jobs
      exact .inl (State.has_setJob (State.has_congr jobs closing) (jobs ▸ present) (by rintro ⟨⟩))
  | relay _ turn => exact .inl (State.has_congr turn.leavesBridge.jobs closing)
  | arrive => exact .inl (State.has_arrive _ closing)
  | change => exact .inl (State.has_congr (change_leavesBridge state _).jobs closing)
  | _ => exact .inl closing

/-- What a history without foreign moves says about the connection to the queues. -/
theorem History.whole_or_closing {first now : State} {past : List Occurrence}
    (history : History first past now) (unused : first.Unused)
    (own : ∀ occurrence ∈ past, occurrence.move.isForeign = false) :
    (overlapped past = false → Whole now) ∧
      (overlapped past = true → now.Has Job.isClosing ∨ now.upstream.isOpen = false) := by
  induction history with
  | start => exact ⟨fun _ => .of_unused unused, by rintro ⟨⟩⟩
  | @move past now next move effects before step ih =>
      obtain ⟨whole, shadow⟩ := ih fun occurrence among => own occurrence (by simp [among])
      have moved := step_cases step
      rw [overlapped_concat]
      cases opens : (Occurrence.mk now move next effects).opensSource with
      | true =>
          rw [if_pos rfl, ← Bool.not_eq_true, ← State.has_iff_any]
          exact ⟨fun apart => .of_opening (before.lifecycle unused) moved opens apart,
            fun finished => moved.isClosing finished⟩
      | false =>
          rw [if_neg (by simp)]
          refine ⟨fun apart => ?_, fun finished => ?_⟩
          · exact (whole apart).step (before.lifecycle unused) moved
              (own ⟨now, move, next, effects⟩ (by simp))
              fun opened => absurd (opened.symm.trans opens) (by simp)
          · rcases shadow finished with closing | closed
            · exact moved.isClosing closing
            · right
              cases opened : next.upstream.isOpen with
              | false => rfl
              | true => simp [moved.isOpen_upstream opens opened] at closed

/-- **When a bridge, its broker and its connections agree.**  After any history in which nobody
else has closed a connection, once no start and no stop is in flight, the bridge is running, its
broker started and its two connections open, or none of this, unless the bridge is running and
the connection to the queues was last opened while a stop had still to close it. -/
theorem History.coherent_at_rest_iff {first now : State} {past : List Occurrence}
    (history : History first past now) (unused : first.Unused)
    (own : ∀ occurrence ∈ past, occurrence.move.isForeign = false) (rest : now.AtRest) :
    now.Coherent ↔ ¬(now.running.isSome = true ∧ overlapped past = true) := by
  obtain ⟨whole, shadow⟩ := history.whole_or_closing unused own
  have idle : ∀ {flag : Job → Bool}, (∀ job, flag job = true → job.hasSource = true) →
      ¬now.Has flag := by
    rintro flag has ⟨id, found, present, flagged⟩
    rcases Job.inFlight_of_hasSource (has found flagged) with starting | stopping
    · exact rest.starts ⟨id, found, present, starting⟩
    · exact rest.stops ⟨id, found, present, stopping⟩
  constructor
  · rintro coherent ⟨runs, lost⟩
    have shut := (shadow lost).resolve_left (idle fun _ => Job.hasSource_of_isClosing)
    rw [coherent.source] at shut
    simp [runs] at shut
  · intro apart
    cases runs : now.running.isSome with
    | true =>
        have clear : overlapped past = false := by
          rw [← Bool.not_eq_true]
          exact fun lost => apart ⟨runs, lost⟩
        obtain ⟨broker, sink, source, _⟩ := (whole clear).running runs
        exact ⟨broker.trans runs.symm, source.trans runs.symm, sink.trans runs.symm⟩
    | false =>
        obtain ⟨broker, sink, source⟩ := (history.connectivity unused).outOfService
          (by simpa using runs) (idle fun _ => id)
        exact ⟨broker.trans runs.symm, source.trans runs.symm, sink.trans runs.symm⟩

/-- A start that opens its connections after a stop has stopped the broker and before it has
closed the connections of the run before. -/
theorem start_amid_stop_is_incoherent :
    ∃ past now, History (State.scripted ["Q"]) past now ∧ now.AtRest ∧
      now.running = some 1 ∧ now.broker.isStarted = true ∧ ¬now.Coherent := by
  obtain ⟨past, now, history, checked⟩ := History.exists_of_record (State.scripted ["Q"])
    (startMoves 0 ++ [.arrive .stop, .job 1, .job 1, .job 1] ++ startMoves 2 ++
      List.replicate 5 (.job 1))
    (fun past now => past.all (fun occurrence => !occurrence.move.isForeign) &&
      !now.jobs.any Job.isStarting && !now.jobs.any Job.isStopping && now.running == some 1 &&
        now.broker.isStarted && overlapped past) rfl
  simp only [Bool.and_eq_true, List.all_eq_true, Bool.not_eq_true', beq_iff_eq] at checked
  obtain ⟨⟨⟨⟨⟨own, noStart⟩, noStop⟩, running⟩, started⟩, finished⟩ := checked
  have rest : now.AtRest :=
    ⟨by simp [State.has_iff_any, noStart], by simp [State.has_iff_any, noStop]⟩
  refine ⟨past, now, history, rest, running, started, fun coherent => ?_⟩
  exact (history.coherent_at_rest_iff (State.scripted_unused ["Q"]) own rest).mp coherent
    ⟨by simp [running], finished⟩

end TopicRelay
