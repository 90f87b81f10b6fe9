import TopicRelay.Proofs.Mailboxes
import TopicRelay.Proofs.RouteIndex
import TopicRelay.Proofs.Shutdown

/-!
# What a relay leaves its loop for

A relay publishes the topics of its route.  It leaves its loop when it is told to stop, which
only happens once its run starts no routes any more, or when its mailbox has ended
(`Relaying`); nothing else makes it leave, whatever is delivered and whatever the topics refuse.
-/

namespace TopicRelay

set_option autoImplicit false

/-! ## Tables of runs -/

/-- Every run has a table that was built. -/
def State.Tabled (state : State) : Prop :=
  ∀ {run table}, state.table? run = some table →
    ∃ scheme queues, table = (RouteTable.build scheme queues).1

/-- A run keeps its table, and a run that is set up gets the one of the names that are listed. -/
theorem Moves.table?_origin {state next : State} {move : Move} {effects : List Effect}
    {run : RunId} {table : RouteTable} (moved : Moves state move next effects)
    (found : next.table? run = some table) :
    state.table? run = some table ∨ ∃ names, state.listQueues = .ok names ∧
      table = (RouteTable.build state.scheme (Discovery.gather state.scheme [] names).1).1 := by
  cases was : state.table? run with
  | some before => exact .inl ((moved.table? was).symm.trans found)
  | none =>
      have still : ∀ {next : State}, next.table? run = state.table? run →
          next.table? run ≠ some table :=
        fun same found => by simp [same, was] at found
      cases moved with
      | start _ turn =>
          cases turn with
          | @discovered principal names reports listed =>
              obtain ⟨added, there, rfl⟩ := Option.map_eq_some_iff.mp found
              change (state.addRun _).run? run = some added at there
              rw [State.run?_addRun] at there
              split at there
              · cases there
                exact .inr ⟨names, listed, rfl⟩
              · simp [State.table?, there] at was
          | brokerRefused _ => exact absurd found (still State.table?_refuse)
          | _ => exact absurd found (still rfl)
      | stop _ turn =>
          cases turn with
          | entered _ _ => exact absurd found (still State.table?_refuse)
          | routeAsked => exact absurd found (still (State.table?_modifySlot _))
          | routeIdle _ _ _ => exact absurd found (still (State.table?_modifySlot _))
          | routeClaimed _ _ _ => exact absurd found (still (State.table?_modifySlot _))
          | routeStopped _ => exact absurd found (still (State.table?_modifySlot _))
          | _ => exact absurd found (still rfl)
      | attach _ turn => exact absurd found (still (turn.leavesBridge.table? run))
      | relay _ turn => exact absurd found (still (turn.leavesBridge.table? run))
      | change => exact absurd found (still ((change_leavesBridge state _).table? run))
      | _ => exact absurd found (still rfl)

/-- Every run has a table that was built, after every history. -/
theorem History.tabled {first now : State} {past : List Occurrence}
    (history : History first past now) (unused : first.Unused) : now.Tabled := by
  apply history.preserves (P := State.Tabled)
  · intro run table found
    simp [State.table?, State.run?, unused.runs] at found
  · intro before after move effects tabled step run table found
    rcases (step_cases step).table?_origin found with was | ⟨names, _, built⟩
    · exact tabled was
    · exact ⟨_, _, built⟩

/-- A run keeps its table. -/
theorem History.table? {middle now : State} {later : List Occurrence} {run : RunId}
    {table : RouteTable} (rest : History middle later now)
    (found : middle.table? run = some table) : now.table? run = some table := by
  induction rest with
  | start => exact found
  | move _ step ih => exact (step_cases step).table? ih

/-- A run keeps its routes. -/
theorem History.route? {middle now : State} {later : List Occurrence} {run : RunId} {place : Place}
    {route : Route} (rest : History middle later now)
    (here : middle.route? run place = some route) : now.route? run place = some route := by
  obtain ⟨table, found, atPlace⟩ := State.route?_eq_some_iff.mp here
  exact State.route?_eq_some_iff.mpr ⟨table, rest.table? found, atPlace⟩

/-! ## Relays -/

/-- Whether a relay is in its loop. -/
def RelayPhase.loops : RelayPhase → Bool
  | .listening | .forwarding _ _ _ | .backingOff _ => true
  | .closingConsumer | .closingProducers _ | .ended => false

@[simp] theorem loops_forwardingOn (messageId payload : String) (topics : List String) :
    (Relay.forwardingOn messageId payload topics).loops = true := by
  cases topics <;> rfl

/-- A relay in its loop has its consumer still. -/
theorem RelayPhase.attends_of_loops {phase : RelayPhase} (loops : phase.loops = true) :
    phase.attends = true := by
  cases phase <;> first | rfl | cases loops

/-- A relay leaves its loop when it was told to stop or its mailbox has ended. -/
theorem Forwards.leaves {state next : State} {relay : RelayId} {found after : Relay}
    {effects : List Effect} (turn : Forwards state relay found next effects)
    (present : state.relays[relay]? = some found) (now : next.relays[relay]? = some after)
    (out : after.phase.loops = false) :
    found.phase.loops = false ∨ found.told = true ∨
      state.upstream.peek found.mailbox = .ended := by
  cases turn with
  | heeded told _ => exact .inr (.inl told)
  | sourceEnded _ ended => exact .inr (.inr ended)
  | consumerClosed phase => exact .inl (by rw [phase]; rfl)
  | producerClosed phase => exact .inl (by rw [phase]; rfl)
  | ended phase => exact .inl (by rw [phase]; rfl)
  | _ =>
      cases (State.relays_modifyRelay_self present).symm.trans now
      first | cases out | simp only [loops_forwardingOn, Bool.true_eq_false] at out

/-- What holds of every relay. -/
structure Relaying (state : State) : Prop where
  route : ∀ {relay : RelayId} {found : Relay}, state.relays[relay]? = some found →
    ∃ route, state.route? found.run found.place = some route ∧ found.topics = route.topics
  told : ∀ {relay : RelayId} {found : Relay}, state.relays[relay]? = some found →
    found.told = true → state.accepting? found.run = some false
  mailbox : ∀ {relay : RelayId} {found : Relay}, state.relays[relay]? = some found →
    found.mailbox < state.upstream.mailboxes.length
  /-- The mailbox that a job is going to hand to a relay is there. -/
  opened : ∀ {job : JobId} {topic run place ahead mailbox opened wanted},
    state.jobs[job]? =
        some (.attach topic (.activating run (.producing place ahead mailbox opened wanted))) →
      mailbox < state.upstream.mailboxes.length
  /-- A relay that has left its loop was told to stop, or its mailbox has ended. -/
  left : ∀ {relay : RelayId} {found : Relay}, state.relays[relay]? = some found →
    found.phase.loops = false → found.told = true ∨ state.upstream.HasEnded found.mailbox

namespace Relaying

variable {state next : State} {move : Move} {effects : List Effect} {relay : RelayId}
  {found : Relay}

theorem of_unused (unused : state.Unused) : Relaying state where
  route := fun present => by simp [unused.relays] at present
  told := fun present => by simp [unused.relays] at present
  mailbox := fun present => by simp [unused.relays] at present
  opened := fun present => by simp [unused.jobs] at present
  left := fun present => by simp [unused.relays] at present

theorem route_step (kept : Relaying state) (moved : Moves state move next effects)
    (present : next.relays[relay]? = some found) :
    ∃ route, next.route? found.run found.place = some route ∧ found.topics = route.topics := by
  have onward : ∀ {before : Relay}, state.relays[relay]? = some before →
      ∃ route, next.route? before.run before.place = some route ∧ before.topics = route.topics := by
    intro before was
    obtain ⟨route, here, topics⟩ := kept.route was
    exact ⟨route, moved.route? here, topics⟩
  cases moved.origin present with
  | kept was => exact onward was
  | told was same _ =>
      have still := onward was
      rwa [same]
  | moved was _ _ same =>
      have still := onward was
      rwa [same]
  | spawned _ _ here same =>
      rw [same]
      exact ⟨_, moved.route? here, rfl⟩

theorem told_step (kept : Relaying state) (own : Ownership state) (life : Lifecycle state)
    (shut : Shutdown state) (moved : Moves state move next effects)
    (present : next.relays[relay]? = some found) (told : found.told = true) : next.accepting? found.run = some false := by
  apply moved.refusing
  cases moved.origin present with
  | kept was => exact kept.told was told
  | told was same why =>
      rw [same]
      cases why with
      | stopped stops there occupied =>
          obtain ⟨served, again, sameRun, _⟩ := own.occupied there occupied
          cases was.symm.trans again
          exact sameRun ▸ life.stopping ⟨_, stops, rfl⟩
      | forgotten _ free =>
          obtain ⟨slot, there, _⟩ := own.placed ⟨_, was, rfl, rfl⟩
          exact shut.refuses_of_free (State.slot?_eq_some_lt there) free
  | moved was _ _ same =>
      rw [same] at told ⊢
      have still := kept.told was told
      exact still
  | spawned _ _ _ same =>
      rw [same] at told
      cases told

theorem mailbox_step (kept : Relaying state) (moved : Moves state move next effects)
    (present : next.relays[relay]? = some found) :
    found.mailbox < next.upstream.mailboxes.length := by
  refine Nat.lt_of_lt_of_le ?_ moved.advances.length_le
  cases moved.origin present with
  | kept was => exact kept.mailbox was
  | told was same _ =>
      have still := kept.mailbox was
      rwa [same]
  | moved was _ _ same =>
      have still := kept.mailbox was
      rwa [same]
  | spawned _ claimed _ same =>
      rw [same]
      exact kept.opened claimed

theorem opened_step {job : JobId} {topic : String} {run : RunId} {place : Place}
    {ahead : List Place} {mailbox : MailboxId} {opened wanted : List String}
    (kept : Relaying state) (sound : state.upstream.Sound) (moved : Moves state move next effects)
    (present : next.jobs[job]? =
      some (.attach topic (.activating run (.producing place ahead mailbox opened wanted)))) :
    mailbox < next.upstream.mailboxes.length := by
  have onward : ∀ {opened wanted : List String}, state.jobs[job]? = some (.attach topic
      (.activating run (.producing place ahead mailbox opened wanted))) →
        mailbox < next.upstream.mailboxes.length :=
    fun was => Nat.lt_of_lt_of_le (kept.opened was) moved.advances.length_le
  rcases moved.jobs_origin present with was | rfl | ⟨request, _, same⟩
  · exact onward was
  · obtain ⟨phase, middle, was, turn, rfl⟩ := moved.to_attach present
    generalize goes : AttachPhase.activating run (.producing place ahead mailbox opened wanted) =
      after at turn
    cases turn with
    | activated turn =>
        cases turn with
        | @connected spot further due route taken upstream here consumed =>
            cases goes
            exact sound.consume_lt consumed
        | produced _ =>
            cases goes
            exact onward was
        | _ => cases goes
    | _ => cases goes
  · cases request <;> cases same

theorem left_step (kept : Relaying state) (sound : state.upstream.Sound)
    (moved : Moves state move next effects) (present : next.relays[relay]? = some found)
    (out : found.phase.loops = false) :
    found.told = true ∨ next.upstream.HasEnded found.mailbox := by
  have onward : ∀ {before : Relay}, state.relays[relay]? = some before →
      before.phase.loops = false → before.told = true ∨ next.upstream.HasEnded before.mailbox :=
    fun was gone => (kept.left was gone).imp id fun ended => ended.step sound moved.advances
  cases moved.origin present with
  | kept was => exact onward was out
  | told was same _ => exact .inl (by rw [same])
  | @moved before heed was mine turn same =>
      have still : before.told = true ∨ next.upstream.HasEnded before.mailbox := by
        rcases turn.leaves was present out with gone | told | ended
        · exact onward was gone
        · exact .inl told
        · have finished := (Upstream.peek_eq_ended_iff (kept.mailbox was)).mp ended
          exact .inr (finished.step sound moved.advances)
      rwa [same]
  | spawned _ _ _ same =>
      rw [same] at out
      cases out

/-- **Every move keeps the invariant.** -/
theorem step (kept : Relaying state) (own : Ownership state) (life : Lifecycle state)
    (shut : Shutdown state) (sound : state.upstream.Sound) (moved : Moves state move next effects) :
    Relaying next where
  route := kept.route_step moved
  told := kept.told_step own life shut moved
  mailbox := kept.mailbox_step moved
  opened := kept.opened_step sound moved
  left := kept.left_step sound moved

end Relaying

/-- The invariant holds after every history. -/
theorem History.relaying {first now : State} {past : List Occurrence}
    (history : History first past now) (unused : first.Unused) : Relaying now := by
  induction history with
  | start => exact .of_unused unused
  | move before step ih =>
      exact ih.step (before.ownership unused) (before.lifecycle unused) (before.shutdown unused)
        (before.sound unused) (step_cases step)

end TopicRelay
