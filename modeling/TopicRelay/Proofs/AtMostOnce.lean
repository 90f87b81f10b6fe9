import TopicRelay.Proofs.Routing

/-!
# A route is activated at most once

Any number of calls may try to start the same route, by way of the same topic or of
different ones, and any of them may fail at any point.  What they do to the route is read
off their history: the consumers that its moves have opened and not closed
(`openConsumers`), the moves that have asked for one (`Occurrence.requests`), and the moves
that have given the route its relay (`Occurrence.starts`).

The invariant is that an open consumer is held, by the job that has claimed the route or by
the relay of the route (`State.Holds`).  By `Ownership` there is only one such holder, and
none while a job asks for a consumer.  `History.activated_at_most_once` says what follows
from this for every history.
-/

namespace TopicRelay

set_option autoImplicit false

/-! ## The moves of a route -/

/-- The route that a phase of an activation is about. -/
def ActivationPhase.place? : ActivationPhase → Option Place
  | .queued place _ | .connecting place _ _ | .producing place _ _ _ _ | .undoing place _ _ _ =>
    some place
  | .resolving | .approaching _ => none

/-- The route of a run that a call is about to start. -/
def Job.site? : Job → Option (RunId × Place)
  | .attach _ (.activating run phase) => phase.place?.map fun place => (run, place)
  | _ => none

/-- The route of a run that a move is about: a call starts it, or it is the route of a relay. -/
def State.site? (state : State) : Move → Option (RunId × Place)
  | .job job => state.jobs[job]?.bind Job.site?
  | .relay relay _ => state.relays[relay]?.map fun found => (found.run, found.place)
  | _ => none

/-- The consumers that are open once an effect has been seen. -/
def Effect.tally (consumers : List MailboxId) : Effect → List MailboxId
  | .consumerOpened mailbox => consumers ++ [mailbox]
  | .consumerClosed mailbox => consumers.erase mailbox
  | _ => consumers

/-- Whether something happens to the consumer or the relay of a route. -/
def Effect.isOfRoute : Effect → Bool
  | .consumerRequested _ | .consumerOpened _ | .consumerClosed _ | .relaySpawned _ => true
  | _ => false

/-- Whether a consumer is asked for. -/
def Effect.isRequest : Effect → Bool
  | .consumerRequested _ => true
  | _ => false

/-- Whether a route is given a relay. -/
def Effect.isSpawn : Effect → Bool
  | .relaySpawned _ => true
  | _ => false

theorem Effect.any_isOfRoute_of_request {effects : List Effect}
    (requests : effects.any Effect.isRequest = true) : effects.any Effect.isOfRoute = true := by
  obtain ⟨effect, among, request⟩ := List.any_eq_true.mp requests
  exact List.any_eq_true.mpr ⟨effect, among, by cases effect <;> first | rfl | cases request⟩

namespace Occurrence

/-- The route that a move was about. -/
def site? (occurrence : Occurrence) : Option (RunId × Place) :=
  occurrence.before.site? occurrence.move

/-- Whether a move has asked for a consumer of a route. -/
def requests (run : RunId) (place : Place) (occurrence : Occurrence) : Bool :=
  occurrence.site? == some (run, place) && occurrence.effects.any Effect.isRequest

/-- Whether a move has started a route. -/
def starts (run : RunId) (place : Place) (occurrence : Occurrence) : Bool :=
  occurrence.site? == some (run, place) && occurrence.effects.any Effect.isSpawn

/-- The consumers of a route that are open after a move. -/
def tally (run : RunId) (place : Place) (consumers : List MailboxId) (occurrence : Occurrence) :
    List MailboxId :=
  if occurrence.site? = some (run, place) then occurrence.effects.foldl Effect.tally consumers
  else consumers

end Occurrence

/-- The consumers that the moves of a route have opened and not closed. -/
def openConsumers (run : RunId) (place : Place) (past : List Occurrence) : List MailboxId :=
  past.foldl (Occurrence.tally run place) []

/-! ## What the moves of a route may lead to -/

/-- Reports and calls do nothing to the consumers and relays of routes. -/
theorem any_isOfRoute_of_plain {effects : List Effect}
    (plain : effects.all Effect.isPlain = true) : effects.any Effect.isOfRoute = false := by
  rw [← Bool.not_eq_true, List.any_eq_true]
  rintro ⟨effect, among, ofRoute⟩
  have plainly := List.all_eq_true.mp plain effect among
  cases effect <;> simp [Effect.isPlain, Effect.isOfRoute] at plainly ofRoute

/-- Consumers are asked for, opened and closed, and relays set up, by the moves of routes only. -/
theorem Moves.site?_isSome {state next : State} {move : Move} {effects : List Effect}
    (moved : Moves state move next effects) (shown : effects.any Effect.isOfRoute = true) :
    (state.site? move).isSome = true := by
  cases moved with
  | start _ turn => simp [any_isOfRoute_of_plain turn.plain] at shown
  | stop _ turn => simp [any_isOfRoute_of_plain turn.plain] at shown
  | @attach job topic phase after next effects present turn =>
      cases turn with
      | @activated run phase advance next effects turn =>
          cases turn with
          | unknown _ => cases shown
          | resolved _ _ => cases shown
          | completed => cases shown
          | asked _ _ => cases shown
          | _ => simp [State.site?, present, Job.site?, ActivationPhase.place?]
      | _ => simp [Effect.isOfRoute] at shown
  | relay present _ => simp [State.site?, present]
  | _ => cases shown

/-! ## Who holds a consumer -/

/-- The consumer that a job has opened and neither handed on nor closed, with its route. -/
def Job.consumer? : Job → Option ((RunId × Place) × MailboxId)
  | .attach _ (.activating run (.producing place _ mailbox _ _)) => some ((run, place), mailbox)
  | .attach _ (.activating run (.undoing place mailbox _ _)) => some ((run, place), mailbox)
  | _ => none

/-- The consumer that a relay has not closed, with its route. -/
def Relay.consumer? (relay : Relay) : Option ((RunId × Place) × MailboxId) :=
  if relay.phase.attends then some ((relay.run, relay.place), relay.mailbox) else none

/-- A job or a relay holds a consumer of a route. -/
inductive State.Holds (state : State) (run : RunId) (place : Place) (mailbox : MailboxId) :
    Prop where
  | job {job : JobId} {found : Job} (present : state.jobs[job]? = some found)
      (holds : found.consumer? = some ((run, place), mailbox))
  | relay {relay : RelayId} {found : Relay} (present : state.relays[relay]? = some found)
      (holds : found.consumer? = some ((run, place), mailbox))

theorem Job.claims?_of_consumer? {job : Job} {site : RunId × Place} {mailbox : MailboxId}
    (holds : job.consumer? = some (site, mailbox)) : job.claims? = some site := by
  unfold Job.consumer? at holds
  split at holds <;> cases holds <;> rfl

theorem Relay.of_consumer? {relay : Relay} {run : RunId} {place : Place} {mailbox : MailboxId}
    (holds : relay.consumer? = some ((run, place), mailbox)) :
    relay.run = run ∧ relay.place = place ∧ relay.mailbox = mailbox := by
  simp only [Relay.consumer?, Option.ite_none_right_eq_some, Option.some.injEq,
    Prod.mk.injEq] at holds
  exact ⟨holds.2.1.1, holds.2.1.2, holds.2.2⟩

namespace State

variable {state next : State} {job : JobId} {run : RunId} {place : Place}
  {mailbox other : MailboxId}

/-- Two jobs that have claimed the same route are one job. -/
theorem Claims.unique {id : JobId} (own : Ownership state) (claims : state.Claims job run place)
    (also : state.Claims id run place) : job = id := by
  obtain ⟨slot, found, held, _⟩ := own.claimed claims
  obtain ⟨stands, there, holds, _⟩ := own.claimed also
  cases found.symm.trans there
  exact Option.some.inj (held.symm.trans holds)

/-- A route has one open consumer at most. -/
theorem Holds.unique (own : Ownership state) (holds : state.Holds run place mailbox)
    (also : state.Holds run place other) : mailbox = other := by
  cases holds with
  | @job job found present holds =>
      have claims : state.Claims job run place := ⟨_, present, Job.claims?_of_consumer? holds⟩
      cases also with
      | @job id second there held =>
          have same := claims.unique own ⟨_, there, Job.claims?_of_consumer? held⟩
          subst same
          cases present.symm.trans there
          cases holds.symm.trans held
          rfl
      | relay there held =>
          obtain ⟨sameRun, samePlace, _⟩ := Relay.of_consumer? held
          exact absurd ⟨_, there, sameRun, samePlace⟩ (own.unserved claims)
  | @relay relay found present holds =>
      obtain ⟨sameRun, samePlace, sameMailbox⟩ := Relay.of_consumer? holds
      have serves : state.Serves relay run place := ⟨_, present, sameRun, samePlace⟩
      cases also with
      | job there held =>
          exact absurd serves (own.unserved ⟨_, there, Job.claims?_of_consumer? held⟩)
      | relay there held =>
          obtain ⟨alsoRun, alsoPlace, alsoMailbox⟩ := Relay.of_consumer? held
          have same := own.single serves ⟨_, there, alsoRun, alsoPlace⟩
          subst same
          cases present.symm.trans there
          exact sameMailbox.symm.trans alsoMailbox

/-- While a job that has claimed a route has no consumer for it, nobody has. -/
theorem Claims.unheld {found : Job} (own : Ownership state)
    (present : state.jobs[job]? = some found) (claims : found.claims? = some (run, place))
    (without : found.consumer? = none) : ¬state.Holds run place mailbox := by
  intro holds
  cases holds with
  | job there held =>
      have same := Claims.unique own ⟨_, present, claims⟩
        ⟨_, there, Job.claims?_of_consumer? held⟩
      subst same
      cases present.symm.trans there
      simp [without] at held
  | relay there held =>
      obtain ⟨sameRun, samePlace, _⟩ := Relay.of_consumer? held
      exact own.unserved ⟨_, present, claims⟩ ⟨_, there, sameRun, samePlace⟩

/-! ## Holding on to a consumer -/

/-- No relay lets go of its consumer. -/
def KeepsConsumers (state next : State) : Prop :=
  ∀ {relay : RelayId} {found : Relay}, state.relays[relay]? = some found →
    ∃ later, next.relays[relay]? = some later ∧ later.consumer? = found.consumer?

theorem keepsConsumers_of_relays (same : next.relays = state.relays) :
    KeepsConsumers state next :=
  fun present => ⟨_, same ▸ present, rfl⟩

theorem keepsConsumers_modifyRelay {relay : RelayId} {found : Relay} {change : Relay → Relay}
    (present : state.relays[relay]? = some found)
    (keeps : (change found).consumer? = found.consumer?) :
    KeepsConsumers state (state.modifyRelay relay change) := by
  intro other there before
  by_cases same : other = relay
  · subst same
    cases present.symm.trans before
    exact ⟨change found, relays_modifyRelay_self present, keeps⟩
  · exact ⟨there, (relays_modifyRelay_of_ne same).trans before, rfl⟩

theorem keepsConsumers_tellRelays {told : RunId} : KeepsConsumers state (state.tellRelays told) := by
  intro relay found present
  by_cases mine : found.run = told
  · exact ⟨_, relays_tellRelays_self present mine, rfl⟩
  · exact ⟨found, relays_tellRelays_of_ne present mine, rfl⟩

/-- A consumer is held on to where no job is changed and no relay lets go of its consumer. -/
theorem Holds.frame (holds : state.Holds run place mailbox)
    (jobs : ∀ {id : JobId} {found : Job}, state.jobs[id]? = some found →
      next.jobs[id]? = some found)
    (relays : KeepsConsumers state next) : next.Holds run place mailbox := by
  cases holds with
  | job there held => exact .job (jobs there) held
  | relay there held =>
      obtain ⟨later, now, same⟩ := relays there
      exact .relay now (same.trans held)

/-- A job goes on without letting go of a consumer. -/
theorem Holds.advance {before after : Job} (holds : state.Holds run place mailbox)
    (present : state.jobs[job]? = some before) (jobs : next.jobs = state.jobs)
    (relays : KeepsConsumers state next)
    (keeps : before.consumer? = some ((run, place), mailbox) →
      after.consumer? = some ((run, place), mailbox)) :
    (next.setJob job after).Holds run place mailbox := by
  cases holds with
  | @job id found there held =>
      by_cases same : id = job
      · subst same
        cases present.symm.trans there
        exact .job (jobs_setJob_self (jobs ▸ present)) (keeps held)
      · exact .job ((jobs_setJob_of_ne same).trans (jobs ▸ there)) held
  | relay there held =>
      obtain ⟨later, now, same⟩ := relays there
      exact .relay now (same.trans held)

end State

/-! ## What a move does to the consumers of a route -/

/-- What a move that is about a route, if it is about one, does to the consumers of routes. -/
inductive Consumption (state next : State) (site : Option (RunId × Place))
    (effects : List Effect) : Prop where
  | quiet (silent : site.isSome → ∀ consumers, effects.foldl Effect.tally consumers = consumers)
      (keeps : ∀ {run place mailbox}, state.Holds run place mailbox →
        next.Holds run place mailbox)
  | opened {run : RunId} {place : Place} {mailbox : MailboxId} (here : site = some (run, place))
      (shown : ∀ consumers, effects.foldl Effect.tally consumers = consumers ++ [mailbox])
      (free : ∀ {other}, ¬state.Holds run place other) (holds : next.Holds run place mailbox)
      (keeps : ∀ {run place mailbox}, state.Holds run place mailbox →
        next.Holds run place mailbox)
  | closed {run : RunId} {place : Place} {mailbox : MailboxId} (here : site = some (run, place))
      (shown : ∀ consumers, effects.foldl Effect.tally consumers = consumers.erase mailbox)
      (held : state.Holds run place mailbox)
      (keeps : ∀ {other spot mailbox}, (run, place) ≠ (other, spot) →
        state.Holds other spot mailbox → next.Holds other spot mailbox)

namespace Consumption

variable {state next : State} {job : JobId} {run : RunId}

/-- The turn of an activation. -/
theorem of_activates {topic : String} {phase : ActivationPhase} {effects : List Effect}
    {advance : Advance ActivationPhase (Except ActivationFailure Unit)} (own : Ownership state)
    (present : state.jobs[job]? = some (.attach topic (.activating run phase)))
    (turn : Activates state job run topic phase advance next effects) :
    Consumption state (next.setJob job (.attach topic (State.attachAfter run advance)))
      (phase.place?.map fun place => (run, place)) effects := by
  have quiet : ∀ {next : State} {after : AttachPhase} {effects : List Effect},
      next.jobs = state.jobs → next.relays = state.relays →
        (∀ consumers, effects.foldl Effect.tally consumers = consumers) →
          (∀ held, (Job.attach topic (.activating run phase)).consumer? = some held →
            (Job.attach topic after).consumer? = some held) →
              Consumption state (next.setJob job (.attach topic after))
                (phase.place?.map fun place => (run, place)) effects :=
    fun jobs relays silent keeps => .quiet (fun _ => silent) fun holds =>
      holds.advance present jobs (State.keepsConsumers_of_relays relays) (keeps _)
  cases turn with
  | unknown _ => exact quiet rfl rfl (fun _ => rfl) (by rintro _ ⟨⟩)
  | resolved _ _ => exact quiet rfl rfl (fun _ => rfl) (by rintro _ ⟨⟩)
  | completed => exact quiet rfl rfl (fun _ => rfl) (by rintro _ ⟨⟩)
  | asked _ _ => exact quiet rfl rfl (fun _ => rfl) (by rintro _ ⟨⟩)
  | needless _ _ _ _ => exact quiet rfl rfl (fun _ => rfl) (by rintro _ ⟨⟩)
  | refused _ _ _ _ _ => exact quiet rfl rfl (fun _ => rfl) (by rintro _ ⟨⟩)
  | claimed _ _ _ _ _ => exact quiet rfl rfl (fun _ => rfl) (by rintro _ ⟨⟩)
  | connected _ _ =>
      exact .opened rfl (fun _ => rfl) (State.Claims.unheld own present rfl rfl)
        (.job (State.jobs_setJob_self present) rfl) fun holds =>
          holds.advance present rfl (State.keepsConsumers_of_relays rfl) (by rintro ⟨⟩)
  | unconnected _ _ => exact quiet rfl rfl (fun _ => rfl) (by rintro _ ⟨⟩)
  | produced _ => exact quiet rfl rfl (fun _ => rfl) fun _ => id
  | unproduced _ => exact quiet rfl rfl (fun _ => rfl) fun _ => id
  | @spawned place ahead mailbox opened route here =>
      refine .quiet (fun _ _ => rfl) ?_
      intro other spot consumer holds
      cases holds with
      | @job id found there held =>
          by_cases same : id = job
          · -- The consumer goes from the job to the relay that it sets up.
            subst same
            cases present.symm.trans there
            cases held
            exact .relay (getElem?_concat_eq_some.mpr (.inr ⟨rfl, rfl⟩)) rfl
          · exact .job ((State.jobs_setJob_of_ne same).trans there) held
      | relay there held => exact .relay (getElem?_concat_eq_some.mpr (.inl there)) held
  | producerUndone => exact quiet rfl rfl (fun _ => rfl) fun _ => id
  | @consumerUndone place mailbox failure route here =>
      refine .closed rfl (fun _ => rfl) (.job present rfl) ?_
      intro other spot consumer apart holds
      refine holds.advance present rfl (State.keepsConsumers_of_relays rfl) ?_
      rintro ⟨⟩
      exact absurd rfl apart

/-- The turn of a relay. -/
theorem of_forwards {relay : RelayId} {found : Relay} {effects : List Effect}
    (present : state.relays[relay]? = some found)
    (turn : Forwards state relay found next effects) :
    Consumption state next (some (found.run, found.place)) effects := by
  have quiet : ∀ {middle : State} {change : Relay → Relay} {effects : List Effect},
      middle.jobs = state.jobs → middle.relays = state.relays →
        (∀ consumers, effects.foldl Effect.tally consumers = consumers) →
          (change found).consumer? = found.consumer? →
            Consumption state (middle.modifyRelay relay change) (some (found.run, found.place))
              effects := by
    intro middle change effects jobs relays silent keeps
    refine .quiet (fun _ => silent) ?_
    intro other spot mailbox holds
    apply holds.frame (fun there => jobs ▸ there)
    intro id before there
    exact State.keepsConsumers_modifyRelay (relays ▸ present) keeps (relays ▸ there)
  cases turn with
  | heeded _ phase =>
      refine quiet rfl rfl (fun _ => rfl) ?_
      rcases phase with phase | ⟨due, phase⟩ <;> simp [Relay.consumer?, RelayPhase.attends, phase]
  | sourceEnded phase _ =>
      exact quiet rfl rfl (fun _ => rfl) (by simp [Relay.consumer?, RelayPhase.attends, phase])
  | received phase _ =>
      refine quiet rfl rfl (fun _ => rfl) ?_
      simp only [Relay.consumer?, attends_forwardingOn, phase]
      rfl
  | failed phase _ =>
      exact quiet rfl rfl (fun _ => rfl) (by simp [Relay.consumer?, RelayPhase.attends, phase])
  | sentAll phase =>
      exact quiet rfl rfl (fun _ => rfl) (by simp [Relay.consumer?, RelayPhase.attends, phase])
  | sent phase _ =>
      refine quiet rfl rfl (fun _ => rfl) ?_
      simp only [Relay.consumer?, attends_forwardingOn, phase]
      rfl
  | notSent phase _ =>
      refine quiet rfl rfl (fun _ => rfl) ?_
      simp only [Relay.consumer?, attends_forwardingOn, phase]
      rfl
  | resumed phase _ =>
      exact quiet rfl rfl (fun _ => rfl) (by simp [Relay.consumer?, RelayPhase.attends, phase])
  | consumerClosed phase =>
      have held : state.Holds found.run found.place found.mailbox :=
        .relay present (by simp [Relay.consumer?, RelayPhase.attends, phase])
      refine .closed rfl (fun _ => rfl) held ?_
      intro other spot consumer apart holds
      cases holds with
      | job there held => exact .job there held
      | @relay id second there held =>
          have different : id ≠ relay := by
            rintro rfl
            cases present.symm.trans there
            obtain ⟨rfl, rfl, _⟩ := Relay.of_consumer? held
            exact apart rfl
          exact .relay ((State.relays_modifyRelay_of_ne different).trans there) held
  | producerClosed phase =>
      exact quiet rfl rfl (fun _ => rfl) (by simp [Relay.consumer?, RelayPhase.attends, phase])
  | ended phase =>
      exact quiet rfl rfl (fun _ => rfl) (by simp [Relay.consumer?, RelayPhase.attends, phase])

/-- **Every move.** -/
theorem of_moves {move : Move} {effects : List Effect} (own : Ownership state)
    (moved : Moves state move next effects) :
    Consumption state next (state.site? move) effects := by
  have offSite : ∀ {job : JobId} {found : Job}, state.jobs[job]? = some found →
      found.site? = none → ¬(state.site? (.job job)).isSome := by
    intro job found present nowhere
    simp [State.site?, present, nowhere]
  have elsewhere : ∀ {after : State} {effects : List Effect},
      (∀ {id : JobId} {found : Job}, state.jobs[id]? = some found →
        after.jobs[id]? = some found) →
        State.KeepsConsumers state after → Consumption state after none effects :=
    fun jobs relays => .quiet (by rintro ⟨⟩) fun holds => holds.frame jobs relays
  cases moved with
  | start present turn =>
      refine .quiet (fun here => absurd here (offSite present rfl)) ?_
      intro run place mailbox holds
      refine holds.advance present turn.jobs ?_ (by rintro ⟨⟩)
      exact State.keepsConsumers_of_relays (by cases turn <;> rfl)
  | stop present turn =>
      refine .quiet (fun here => absurd here (offSite present rfl)) ?_
      intro run place mailbox holds
      refine holds.advance present turn.jobs ?_ (by rintro ⟨⟩)
      cases turn with
      | @routeClaimed run place ahead slot relay found held occupied =>
          obtain ⟨there, before, _⟩ := own.occupied found occupied
          exact State.keepsConsumers_modifyRelay before rfl
      | _ => exact State.keepsConsumers_of_relays rfl
  | @attach job topic phase after next effects present turn =>
      cases turn with
      | @activated run phase advance next effects turn =>
          have here : state.site? (.job job) = phase.place?.map fun place => (run, place) := by
            simp [State.site?, present, Job.site?]
          rw [here]
          exact of_activates own present turn
      | _ =>
          refine .quiet (fun here => absurd here (offSite present rfl)) ?_
          intro run place mailbox holds
          exact holds.advance present rfl (State.keepsConsumers_of_relays rfl) (by rintro ⟨⟩)
  | @relay relay heed found next effects present turn =>
      have here : state.site? (.relay relay heed) = some (found.run, found.place) := by
        simp [State.site?, present]
      rw [here]
      exact of_forwards present turn
  | forget _ => exact elsewhere id State.keepsConsumers_tellRelays
  | arrive =>
      refine elsewhere ?_ (State.keepsConsumers_of_relays rfl)
      exact fun there => getElem?_concat_eq_some.mpr (.inl there)
  | @change change =>
      have outside := change_fromOutside state change
      exact elsewhere (fun there => outside.jobs ▸ there)
        (State.keepsConsumers_of_relays outside.relays)
  | closeSource => exact elsewhere id (State.keepsConsumers_of_relays rfl)
  | closeSink => exact elsewhere id (State.keepsConsumers_of_relays rfl)
  | wait => exact elsewhere id (State.keepsConsumers_of_relays rfl)

end Consumption

/-- The consumers of a route after one more move. -/
theorem openConsumers_concat (run : RunId) (place : Place) (past : List Occurrence)
    (last : Occurrence) :
    openConsumers run place (past ++ [last]) =
      last.tally run place (openConsumers run place past) := by
  simp [openConsumers]

/-- An open consumer is held, and there is no second one. -/
theorem History.openConsumers_held {first now : State} {past : List Occurrence}
    (history : History first past now) (unused : first.Unused) (run : RunId) (place : Place) :
    openConsumers run place past = [] ∨
      ∃ mailbox, openConsumers run place past = [mailbox] ∧ now.Holds run place mailbox := by
  induction history with
  | start => exact .inl rfl
  | @move past now next move effects before step ih =>
      rw [openConsumers_concat, Occurrence.tally, Occurrence.site?]
      have own := before.ownership unused
      rcases Consumption.of_moves own (step_cases step) with
        ⟨silent, keeps⟩ | ⟨here, shown, free, holds, keeps⟩ | ⟨here, shown, held, keeps⟩
      · have same : (if now.site? move = some (run, place) then
            effects.foldl Effect.tally (openConsumers run place past)
            else openConsumers run place past) = openConsumers run place past := by
          split
          · rename_i here
            exact silent (by simp [here]) _
          · rfl
        rw [same]
        exact ih.imp_right fun ⟨mailbox, only, holds⟩ => ⟨mailbox, only, keeps holds⟩
      · rw [here]
        split
        · rename_i same
          cases same
          rcases ih with none | ⟨mailbox, only, held⟩
          · exact .inr ⟨_, by simp [shown, none], holds⟩
          · exact absurd held free
        · exact ih.imp_right fun ⟨mailbox, only, held⟩ => ⟨mailbox, only, keeps held⟩
      · rw [here]
        split
        · rename_i same
          cases same
          rcases ih with none | ⟨mailbox, only, holds⟩
          · exact .inl (by simp [shown, none])
          · have same := holds.unique own held
            exact .inl (by simp [shown, only, same])
        · rename_i apart
          exact ih.imp_right fun ⟨mailbox, only, held⟩ =>
            ⟨mailbox, only, keeps (fun same => apart (congrArg some same)) held⟩

/-! ## Starting a route -/

/-- A move that is about a route is the turn of an activation or of a relay. -/
theorem Moves.of_site {state next : State} {move : Move} {effects : List Effect} {run : RunId}
    {place : Place} (moved : Moves state move next effects)
    (here : state.site? move = some (run, place)) :
    (∃ job topic phase advance middle,
        state.jobs[job]? = some (.attach topic (.activating run phase)) ∧
          phase.place? = some place ∧ Activates state job run topic phase advance middle effects ∧
            next = middle.setJob job (.attach topic (State.attachAfter run advance))) ∨
      ∃ relay found, state.relays[relay]? = some found ∧
        Forwards state relay found next effects := by
  cases moved with
  | start present _ => simp [State.site?, present, Job.site?] at here
  | stop present _ => simp [State.site?, present, Job.site?] at here
  | @attach job topic phase after middle effects present turn =>
      cases turn with
      | activated turn =>
          simp only [State.site?, present, Job.site?, Option.bind_some, Option.map_eq_some_iff,
            Prod.mk.injEq] at here
          obtain ⟨_, atPlace, rfl, rfl⟩ := here
          exact .inl ⟨_, _, _, _, _, present, atPlace, turn, rfl⟩
      | _ => simp [State.site?, present, Job.site?] at here
  | relay present turn => exact .inr ⟨_, _, present, turn⟩
  | _ => cases here

/-- A consumer is asked for only where no relay was ever set up. -/
theorem Moves.unserved_of_request {state next : State} {move : Move} {effects : List Effect}
    {relay : RelayId} {run : RunId} {place : Place} (moved : Moves state move next effects)
    (own : Ownership state) (here : state.site? move = some (run, place))
    (requests : effects.any Effect.isRequest = true) : ¬state.Serves relay run place := by
  rcases moved.of_site here with ⟨_, _, _, _, _, _, atPlace, turn, _⟩ | ⟨_, _, _, turn⟩
  · cases turn with
    | claimed _ found _ empty accepts =>
        cases atPlace
        exact own.unserved_of_accepting found empty accepts
    | _ => cases requests
  · cases turn <;> cases requests

/-- A route is given a relay only where no relay was ever set up. -/
theorem Moves.of_spawn {state next : State} {move : Move} {effects : List Effect} {run : RunId}
    {place : Place} (moved : Moves state move next effects) (own : Ownership state)
    (here : state.site? move = some (run, place)) (spawns : effects.any Effect.isSpawn = true) :
    (∀ relay, ¬state.Serves relay run place) ∧ ∃ relay, next.Serves relay run place := by
  rcases moved.of_site here with ⟨_, _, _, _, _, present, atPlace, turn, rfl⟩ | ⟨_, _, _, turn⟩
  · cases turn with
    | spawned _ =>
        cases atPlace
        exact ⟨fun _ => own.unserved ⟨_, present, rfl⟩,
          _, State.serves_spawn.mpr (.inr ⟨rfl, rfl, rfl⟩)⟩
    | _ => cases spawns
  · cases turn <;> cases spawns

/-- A route that was started is served from then on. -/
theorem History.serves_of_starts {first now : State} {past : List Occurrence}
    (history : History first past now) (unused : first.Unused) {run : RunId} {place : Place}
    {occurrence : Occurrence} (happened : occurrence ∈ past)
    (starts : occurrence.starts run place = true) : ∃ relay, now.Serves relay run place := by
  induction history with
  | start => cases happened
  | @move past now next move effects before step ih =>
      have moved := step_cases step
      rcases List.mem_append.mp happened with earlier | last
      · obtain ⟨relay, serves⟩ := ih earlier
        exact ⟨relay, moved.serves serves⟩
      · cases List.mem_singleton.mp last
        simp only [Occurrence.starts, Occurrence.site?, Bool.and_eq_true, beq_iff_eq] at starts
        exact (moved.of_spawn (before.ownership unused) starts.1 starts.2).2

/-- **A route is activated at most once.**  After every history of a bridge, however its calls
have interleaved and whichever of their attempts have failed, a route has at most one open
consumer and was started at most once; and once it was started, no consumer was asked for
any more. -/
theorem History.activated_at_most_once {first now : State} {past : List Occurrence}
    (history : History first past now) (unused : first.Unused) (run : RunId) (place : Place) :
    (openConsumers run place past).length ≤ 1 ∧
      past.countP (Occurrence.starts run place) ≤ 1 ∧
      ∀ {earlier later : List Occurrence} {start other : Occurrence},
        past = earlier ++ start :: later → start.starts run place = true → other ∈ later →
          other.requests run place = false := by
  refine ⟨?_, ?_, ?_⟩
  · rcases history.openConsumers_held unused run place with none | ⟨mailbox, only, _⟩
    · simp [none]
    · simp [only]
  · induction history with
    | start => simp
    | @move past now next move effects before step ih =>
        rw [List.countP_append, List.countP_singleton]
        split
        · rename_i starts
          simp only [Occurrence.starts, Occurrence.site?, Bool.and_eq_true, beq_iff_eq] at starts
          have free := ((step_cases step).of_spawn (before.ownership unused) starts.1 starts.2).1
          have never : past.countP (Occurrence.starts run place) = 0 := by
            rw [List.countP_eq_zero]
            intro occurrence happened started
            obtain ⟨relay, serves⟩ := before.serves_of_starts unused happened started
            exact free relay serves
          omega
        · omega
  · rintro earlier later start other rfl starts happened
    obtain ⟨between, after, rfl⟩ := List.mem_iff_append.mp happened
    rw [← List.cons_append, ← List.append_assoc] at history
    obtain ⟨before, step, _⟩ := history.occurrence
    obtain ⟨relay, serves⟩ :=
      before.serves_of_starts unused (List.mem_append_right _ (List.mem_cons_self ..)) starts
    cases requests : other.requests run place with
    | false => rfl
    | true =>
        simp only [Occurrence.requests, Bool.and_eq_true, beq_iff_eq] at requests
        exact absurd serves ((step_cases step).unserved_of_request (before.ownership unused)
          requests.1 requests.2)

/-- Two calls for the same topic: the first is refused its consumer, the second starts the
route. -/
theorem second_call_activates :
    ∃ past now, History (State.scripted ["Q"]) past now ∧
      past.countP (Occurrence.requests 0 0) = 2 ∧ past.countP (Occurrence.starts 0 0) = 1 ∧
        openConsumers 0 0 past = [0] ∧ (openConsumers 0 0 past).length ≤ 1 := by
  obtain ⟨past, now, history, checked⟩ := History.exists_of_record (State.scripted ["Q"])
    (startMoves 0 ++
      [.change (.refuseConsumers "Q" 1), .arrive (.attach "Q"), .arrive (.attach "Q"),
        .job 1, .job 1, .job 1, .job 2, .job 2, .job 2, .job 1, .job 1,
        .job 2, .job 2, .job 2, .job 2, .job 2])
    (fun past _ => past.countP (Occurrence.requests 0 0) == 2 &&
      past.countP (Occurrence.starts 0 0) == 1 && openConsumers 0 0 past == [0]) rfl
  simp only [Bool.and_eq_true, beq_iff_eq] at checked
  obtain ⟨⟨requested, started⟩, opened⟩ := checked
  exact ⟨past, now, history, requested, started, opened,
    (history.activated_at_most_once (State.scripted_unused ["Q"]) 0 0).1⟩

end TopicRelay
