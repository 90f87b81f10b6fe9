import TopicRelay.Proofs.Fidelity
import TopicRelay.Proofs.Shutdown

/-!
# What was published before a route is started

What is delivered to a queue waits until a consumer takes the mailbox of the queue over, and
attempts to start the route that are refused their consumer take nothing away.  An attempt that
gets its consumer and then fails at a producer closes the consumer again and leaves the mailbox
taken: what has waited in it is lost, and so is what is published until the next consumer
connects, which gets a fresh mailbox (`Occurrence.GivesUp`).

`Reserve` says of a queue what has become of its mailbox since some moment of a run.
`History.reserved_for_relay` puts together, from the connection of a relay's consumer on, what the
relay gets: all that was saved, and then all that is published.
-/

namespace TopicRelay

set_option autoImplicit false

/-- What was delivered to a queue, in order. -/
def suppliedTo (queue : String) (past : List Occurrence) : List Delivery :=
  past.flatMap fun occurrence => occurrence.move.deliveries queue

theorem suppliedTo_concat (queue : String) (past : List Occurrence) (last : Occurrence) :
    suppliedTo queue (past ++ [last]) = suppliedTo queue past ++ last.move.deliveries queue := by
  simp [suppliedTo]

/-! ## The end of a queue -/

namespace Upstream

variable {upstream next : Upstream} {mailbox : MailboxId} {queue other : String}
  {queueEnd : QueueEnd} {delivery : Delivery}

/-- Whether a consumer has taken over the mailbox of a queue. -/
def isTaken (upstream : Upstream) (queue : String) : Bool :=
  (upstream.queues.get? queue).any (·.taken)

theorem isTaken_of_get? (found : upstream.queues.get? queue = some ⟨mailbox, true⟩) :
    upstream.isTaken queue = true := by
  simp [isTaken, found]

/-- What is saved for a queue is what waits in its mailbox, unless a consumer has taken it over. -/
theorem buffered_of_get? (found : upstream.queues.get? queue = some queueEnd) :
    upstream.buffered queue = if queueEnd.taken then [] else upstream.waiting queueEnd.mailbox := by
  rw [buffered, found]
  rfl

theorem buffered_of_get?_eq_none (missing : upstream.queues.get? queue = none) :
    upstream.buffered queue = [] := by
  rw [buffered, missing]

theorem buffered_of_isTaken (taken : upstream.isTaken queue = true) :
    upstream.buffered queue = [] := by
  obtain ⟨queueEnd, found, taken⟩ := (Option.any_eq_true ..).mp taken
  rw [buffered_of_get? found, if_pos taken]

/-- Another queue has another mailbox. -/
theorem address_ne (sound : upstream.Sound) (found : upstream.queues.get? queue = some queueEnd)
    (different : other ≠ queue) : upstream.address other ≠ queueEnd.mailbox := by
  unfold address
  cases there : upstream.queues.get? other with
  | some otherEnd => exact fun same => different (sound.apart there found same)
  | none =>
      obtain ⟨box, present, _⟩ := sound.supplied found
      exact Nat.ne_of_gt (List.getElem?_eq_some_iff.mp present).1

/-- What a consumer finds in its mailbox is what was saved for its queue. -/
theorem waiting_of_consume {subscription : Subscription}
    (consumed : upstream.consume subscription = (.ok mailbox, next)) :
    next.waiting mailbox = upstream.buffered subscription.queue := by
  rcases consume_cases upstream subscription with ⟨_, refused, _⟩ | ⟨given, _⟩
  · simp [consumed] at refused
  rw [consumed] at given
  obtain rfl := Except.ok.inj given
  refine (waiting_consume consumed).trans ?_
  unfold takeMailbox buffered
  cases upstream.queues.get? subscription.queue with
  | none => simp [addMailbox, waiting]
  | some queueEnd =>
      dsimp only
      split <;> simp [addMailbox, modifyMailbox, waiting]

/-- The end of a queue stays as it is, and what is delivered to it is added to what is saved. -/
structure Stores (upstream next : Upstream) (queue : String) (more : List Delivery) : Prop where
  kept : ∀ {queueEnd}, upstream.queues.get? queue = some queueEnd →
    next.queues.get? queue = some queueEnd
  taken : next.isTaken queue = upstream.isTaken queue
  buffered : upstream.isTaken queue = false →
    next.buffered queue = upstream.buffered queue ++ more

/-- Nothing is delivered to the queue, and nothing happens to its mailbox while it saves. -/
theorem Stores.of_waiting (same : next.queues.get? queue = upstream.queues.get? queue)
    (waiting : ∀ {queueEnd}, upstream.queues.get? queue = some queueEnd →
      queueEnd.taken = false → next.waiting queueEnd.mailbox = upstream.waiting queueEnd.mailbox) :
    upstream.Stores next queue [] where
  kept := same.trans
  taken := by rw [isTaken, same, isTaken]
  buffered := by
    intro untaken
    rw [List.append_nil]
    cases found : upstream.queues.get? queue with
    | none => rw [buffered_of_get?_eq_none (same.trans found), buffered_of_get?_eq_none found]
    | some queueEnd =>
        have open_ : queueEnd.taken = false := by simpa [isTaken, found] using untaken
        rw [buffered_of_get? (same.trans found), buffered_of_get? found, waiting found open_]

/-- A delivery adds the end of its queue if there is none. -/
theorem get?_deliver (upstream : Upstream) (other queue : String) (delivery : Delivery) :
    (upstream.deliver other delivery).queues.get? queue = (upstream.queues.get? queue).or
      (if other = queue then some ⟨upstream.mailboxes.length, false⟩ else none) := by
  unfold deliver
  cases found : upstream.queues.get? other with
  | some queueEnd =>
      by_cases here : other = queue
      · subst here
        exact found.trans (by simp [found])
      · simp [here, modifyMailbox]
  | none =>
      by_cases here : other = queue
      · subst here
        refine (Table.get?_insert_self ..).trans ?_
        simp [found]
      · refine (Table.get?_insert_of_ne _ _ (Ne.symm here)).trans ?_
        simp [here]

/-- Something is delivered to some queue. -/
theorem Stores.of_deliver (sound : upstream.Sound)
    (untaken : ∀ {queueEnd}, upstream.queues.get? queue = some queueEnd →
      queueEnd.taken = false → upstream.isAttended queueEnd.mailbox = true) :
    upstream.Stores (upstream.deliver other delivery) queue
      (if other = queue then [delivery] else []) := by
  have now := get?_deliver upstream other queue delivery
  cases found : upstream.queues.get? queue with
  | some queueEnd =>
      rw [found, Option.some_or] at now
      refine ⟨fun there => now.trans (found.symm.trans there), ?_, fun free => ?_⟩
      · rw [isTaken, now, isTaken, found]
      · have open_ : queueEnd.taken = false := by simpa [isTaken, found] using free
        rw [buffered_of_get? now, buffered_of_get? found, open_, waiting_deliver sound,
          untaken found open_]
        by_cases here : other = queue
        · subst here
          simp [address, found]
        · simp [here, address_ne sound found here]
  | none =>
      rw [found, Option.none_or] at now
      refine ⟨fun there => by simp [found] at there, ?_, fun _ => ?_⟩
      · rw [isTaken, now, isTaken, found]
        split <;> rfl
      · rw [buffered_of_get?_eq_none found, List.nil_append]
        split at now
        · rename_i here
          subst here
          rw [buffered_of_get? now, waiting_deliver sound]
          simp [address, found, waiting, isAttended]
        · rename_i apart
          rw [buffered_of_get?_eq_none now, if_neg apart]

end Upstream

/-! ## A bridge that stays in its run -/

/-- The bridge is in a run, and no stop is in flight. -/
structure State.Staying (state : State) (run : RunId) : Prop where
  running : state.running = some run
  noStop : ¬state.Has Job.isStopping

/-- No call has claimed a route of a queue. -/
def State.Unclaimed (state : State) (queue : String) : Prop :=
  ∀ {job run place route}, state.Claims job run place → state.route? run place = some route →
    route.id ≠ queue

/-- A call closes the consumer that it has connected for a route, because a producer was refused
to it. -/
def Occurrence.GivesUp (run : RunId) (place : Place) (occurrence : Occurrence) : Prop :=
  ∃ job topic mailbox failure, occurrence.move = .job job ∧
    occurrence.before.jobs[job]? =
      some (.attach topic (.activating run (.undoing place mailbox [] failure)))

section

variable {state next : State} {move : Move} {effects : List Effect} {run other : RunId}
  {place : Place} {site : RunId × Place} {mailbox : MailboxId} {queue : String} {keeper : Keeper}

namespace State.Staying

theorem step (staying : state.Staying run) (life : Lifecycle state)
    (moved : Moves state move next effects) (noStop : move ≠ .arrive .stop) :
    next.Staying run where
  running := by
    rcases Shutdown.running_step life moved staying.running with still |
      ⟨job, phase, present, stops⟩
    · exact still
    · refine absurd ⟨job, _, present, ?_⟩ (moved.noStop_step staying.noStop noStop)
      cases phase <;> first | rfl | cases stops
  noStop := moved.noStop_step staying.noStop noStop

/-- No other run starts routes. -/
theorem only (staying : state.Staying run) (life : Lifecycle state) (shut : Shutdown state)
    (accepts : state.accepting? other = some true) : other = run := by
  rcases shut.refusing (State.accepting?_eq_some_lt accepts) with ⟨job, sets⟩ | running | refuses
  · have resting := life.resting sets.starting
    simp [staying.running] at resting
  · exact Option.some.inj (running.symm.trans staying.running)
  · simp [refuses] at accepts

/-- No call closes the connection to the queues. -/
theorem keepsSource (staying : state.Staying run) (life : Lifecycle state) {job : JobId}
    {found : Job} (present : state.jobs[job]? = some found) : found.hasSource = false := by
  cases has : found.hasSource with
  | false => rfl
  | true =>
      cases found with
      | start phase =>
          have resting := life.resting ⟨phase, present, StartPhase.underWay_of_hasSource has⟩
          simp [staying.running] at resting
      | stop phase =>
          refine absurd ⟨job, _, present, ?_⟩ staying.noStop
          cases phase <;> first | rfl | cases has
      | attach topic phase => cases has

end State.Staying

/-- A call that connects a consumer for a route is the first to have a mailbox for it. -/
theorem Connects.unkept {job : JobId} {route : Route} (own : Ownership state)
    (connects : Connects state move next effects site mailbox job route) {other : MailboxId} :
    ¬state.Keeps site other keeper := by
  obtain ⟨found, present, claims, without⟩ := connects.claims
  rintro (⟨there, holds⟩ | ⟨there, here, _⟩)
  · have same := State.Claims.unique own ⟨_, present, claims⟩
      ⟨_, there, Job.claims?_of_consumer? holds⟩
    subst same
    cases present.symm.trans there
    simp [without] at holds
  · subst here
    exact own.unserved ⟨_, present, claims⟩ ⟨_, there, rfl, rfl⟩

/-- Somebody goes on having a mailbox for a route until a call gives up. -/
theorem Moves.keeps_or_givesUp (moved : Moves state move next effects)
    (keeps : state.Keeps (run, place) mailbox keeper) :
    (∃ after, next.Keeps (run, place) mailbox after) ∨
      Occurrence.GivesUp run place ⟨state, move, next, effects⟩ := by
  cases keeps with
  | relay present here holds =>
      obtain ⟨after, now, sameMailbox, _, sameRun, samePlace⟩ := moved.relay_kept present
      refine .inl ⟨_, .relay now ?_ (sameMailbox.trans holds)⟩
      rw [sameRun, samePlace, here]
  | @job job found present holds =>
      by_cases mine : move = .job job
      · subst mine
        unfold Job.consumer? at holds
        split at holds <;> cases holds
        · obtain ⟨after, middle, turn, rfl⟩ := moved.of_attach present
          cases turn with
          | activated turn =>
              cases turn with
              | produced _ => exact .inl ⟨_, .job (State.jobs_setJob_self present) rfl⟩
              | unproduced _ => exact .inl ⟨_, .job (State.jobs_setJob_self present) rfl⟩
              | spawned here =>
                  exact .inl ⟨_, .relay (getElem?_concat_eq_some.mpr (.inr ⟨rfl, rfl⟩)) rfl rfl⟩
        · obtain ⟨after, middle, turn, rfl⟩ := moved.of_attach present
          cases turn with
          | activated turn =>
              cases turn with
              | producerUndone => exact .inl ⟨_, .job (State.jobs_setJob_self present) rfl⟩
              | consumerUndone here => exact .inr ⟨_, _, _, _, rfl, present⟩
      · exact .inl ⟨_, .job (moved.jobs_of_ne present mine) holds⟩

/-- While a bridge stays in its run, a queue stores what is delivered to it until a consumer
connects to it. -/
theorem Moves.stores_or_connects (moved : Moves state move next effects)
    (staying : state.Staying run) (life : Lifecycle state) (sound : state.upstream.Sound)
    (custody : Custody state) (opened : move ≠ .closeSource) (queue : String) :
    state.upstream.Stores next.upstream queue (move.deliveries queue) ∨
      ∃ site mailbox job route, Connects state move next effects site mailbox job route ∧
        route.id = queue := by
  cases moved.handling with
  | kept mailboxes queues undelivered _ =>
      rw [undelivered]
      exact .inl (.of_waiting (by rw [queues]) fun _ _ => Upstream.waiting_congr mailboxes)
  | delivered is same _ =>
      subst is same
      exact .inl (.of_deliver sound custody.untaken)
  | @received relay heed found delivery event mine present peeked same _ =>
      subst mine
      refine .inl (.of_waiting (by rw [same]; rfl) fun {queueEnd} there untaken => ?_)
      have apart : found.mailbox ≠ queueEnd.mailbox := by
        intro shared
        have taken := custody.taken there (.relay present rfl shared)
        simp [untaken] at taken
      rw [same, Upstream.waiting_takeNext, if_neg apart]
  | left mine _ _ same _ =>
      subst mine same
      exact .inl (.of_waiting rfl fun _ _ => Upstream.waiting_closeConsumer)
  | undone mine _ same _ =>
      subst mine same
      exact .inl (.of_waiting rfl fun _ _ => Upstream.waiting_closeConsumer)
  | @connected job topic run place ahead due route mailbox upstream mine present here consumed same
      shown =>
      subst mine same shown
      by_cases mine : route.id = queue
      · exact .inr ⟨(run, place), mailbox, job, route, ⟨rfl, ⟨_, present, rfl, rfl⟩, here, rfl,
          consumed, .job (State.jobs_setJob_self present) rfl, rfl⟩, mine⟩
      · refine .inl (.of_waiting ?_ fun _ _ => Upstream.waiting_consume consumed)
        change upstream.queues.get? queue = _
        rw [(Upstream.consume_eq_ok consumed).1]
        exact Table.get?_insert_of_ne _ _ (Ne.symm mine)
  | disconnected _ closer _ _ =>
      rcases closer with foreign | ⟨job, found, _, present, has⟩
      · exact absurd foreign opened
      · simp [staying.keepsSource life present] at has

end

/-! ## What has become of a queue -/

/-- What was saved for a queue is lost: a consumer had taken over the mailbox before, or a call that
has given up since. -/
def Spent (called : State) (run : RunId) (place : Place) (queue : String)
    (later : List Occurrence) : Prop :=
  called.upstream.isTaken queue = true ∨ ∃ occurrence ∈ later, occurrence.GivesUp run place

/-- What has become of a queue since some moment, while the bridge stays in a run with a route of
the queue. -/
structure Reserve (called : State) (run : RunId) (place : Place) (queue : String)
    (later : List Occurrence) (now : State) : Prop where
  staying : now.Staying run
  route : ∃ route, now.route? run place = some route ∧ route.id = queue
  /-- Only calls that start the route have claimed a route of the queue. -/
  sole : ∀ {job other spot route}, now.Claims job other spot →
    now.route? other spot = some route → route.id = queue → (other, spot) = (run, place)
  /-- Whoever has a mailbox for the route has the one of the queue. -/
  current : ∀ {mailbox keeper}, now.Keeps (run, place) mailbox keeper →
    now.upstream.queues.get? queue = some ⟨mailbox, true⟩
  taken : now.upstream.isTaken queue = true → Spent called run place queue later ∨
    ∃ mailbox keeper, now.Keeps (run, place) mailbox keeper
  spent : Spent called run place queue later → now.upstream.isTaken queue = true
  saved : now.upstream.isTaken queue = false →
    now.upstream.buffered queue = called.upstream.buffered queue ++ suppliedTo queue later

namespace Reserve

variable {called state next : State} {move : Move} {effects : List Effect} {run : RunId}
  {place : Place} {queue : String} {later : List Occurrence}

/-- Nobody has a mailbox for a route that is not started and that nobody is starting. -/
theorem unkept {route : Route} {slot : RouteSlot} {mailbox : MailboxId} {keeper : Keeper}
    (own : Ownership called) (life : Lifecycle called) (staying : called.Staying run)
    (here : called.route? run place = some route) (found : called.slot? run place = some slot)
    (empty : slot.relay = none) (unclaimed : called.Unclaimed route.id) :
    ¬called.Keeps (run, place) mailbox keeper := by
  rintro (⟨present, holds⟩ | ⟨present, same, _⟩)
  · exact unclaimed ⟨_, present, Job.claims?_of_consumer? holds⟩ here rfl
  · cases same
    exact own.unserved_of_accepting found empty (life.running staying.running)
      ⟨_, present, rfl, rfl⟩

theorem of_called {route : Route} (own : Ownership called) (life : Lifecycle called)
    (staying : called.Staying run) (here : called.route? run place = some route)
    {slot : RouteSlot} (found : called.slot? run place = some slot) (empty : slot.relay = none)
    (unclaimed : called.Unclaimed route.id) : Reserve called run place route.id [] called where
  staying := staying
  route := ⟨route, here, rfl⟩
  sole := fun claims there same => absurd same (unclaimed claims there)
  current := fun keeps => absurd keeps (unkept own life staying here found empty unclaimed)
  taken := fun taken => .inl (.inl taken)
  spent := by simp [Spent]
  saved := by simp [suppliedTo]

/-- A consumer connects to the queue for the route alone. -/
theorem of_connects {site : RunId × Place} {mailbox : MailboxId} {job : JobId} {route : Route}
    (reserve : Reserve called run place queue later state)
    (connects : Connects state move next effects site mailbox job route)
    (mine : route.id = queue) : site = (run, place) := by
  obtain ⟨found, present, claims, _⟩ := connects.claims
  exact reserve.sole ⟨found, present, claims⟩ connects.here mine

/-- The mailbox of the queue is a new consumer's. -/
theorem get?_of_connects {site : RunId × Place} {mailbox : MailboxId} {job : JobId} {route : Route}
    (connects : Connects state move next effects site mailbox job route)
    (mine : route.id = queue) : next.upstream.queues.get? queue = some ⟨mailbox, true⟩ := by
  subst mine
  rw [(Upstream.consume_eq_ok connects.consumed).1]
  exact Table.get?_insert_self ..

section

variable (reserve : Reserve called run place queue later state) (own : Ownership state)
  (life : Lifecycle state) (shut : Shutdown state) (sound : state.upstream.Sound)
  (custody : Custody state) (tabled : state.Tabled) (moved : Moves state move next effects)
  (opened : move ≠ .closeSource)

include reserve life moved

include shut own tabled in
theorem sole_step {job : JobId} {other : RunId} {spot : Place} {route : Route}
    (claims : next.Claims job other spot) (there : next.route? other spot = some route)
    (mine : route.id = queue) : (other, spot) = (run, place) := by
  rcases moved.claims claims with before | ⟨_, accepts, _⟩
  · obtain ⟨slot, found, _⟩ := own.claimed before
    exact reserve.sole before (moved.route?_origin (State.slot?_eq_some_lt found) there) mine
  · obtain rfl := reserve.staying.only life shut accepts
    obtain ⟨known, here, same⟩ := reserve.route
    have was := moved.route?_origin (State.accepting?_eq_some_lt accepts) there
    obtain ⟨table, found, atSpot⟩ := State.route?_eq_some_iff.mp was
    obtain ⟨_, again, atPlace⟩ := State.route?_eq_some_iff.mp here
    cases found.symm.trans again
    obtain ⟨scheme, queues, rfl⟩ := tabled found
    rw [RouteTable.place_unique scheme queues atSpot atPlace (mine.trans same.symm)]

include own sound custody opened

theorem current_step {mailbox : MailboxId} {keeper : Keeper}
    (keeps : next.Keeps (run, place) mailbox keeper) :
    next.upstream.queues.get? queue = some ⟨mailbox, true⟩ := by
  have onward : ∀ {before : Keeper}, state.Keeps (run, place) mailbox before →
      next.upstream.queues.get? queue = some ⟨mailbox, true⟩ := by
    intro before was
    rcases moved.stores_or_connects reserve.staying life sound custody opened queue with
      stores | ⟨site, other, job, route, connects, mine⟩
    · exact stores.kept (reserve.current was)
    · cases reserve.of_connects connects mine
      exact absurd was (connects.unkept own)
  cases moved.acquires keeps with
  | kept was => exact onward was
  | handed was _ _ => exact onward was
  | connected connects =>
      obtain ⟨known, here, same⟩ := reserve.route
      cases here.symm.trans connects.here
      exact get?_of_connects connects same

omit own in
/-- A mailbox that is taken stays so. -/
theorem isTaken_step (taken : state.upstream.isTaken queue = true) :
    next.upstream.isTaken queue = true := by
  rcases moved.stores_or_connects reserve.staying life sound custody opened queue with
    stores | ⟨site, mailbox, job, route, connects, mine⟩
  · exact stores.taken.trans taken
  · exact Upstream.isTaken_of_get? (get?_of_connects connects mine)

omit own in
theorem taken_step (taken : next.upstream.isTaken queue = true) :
    Spent called run place queue (later ++ [⟨state, move, next, effects⟩]) ∨
      ∃ mailbox keeper, next.Keeps (run, place) mailbox keeper := by
  rcases moved.stores_or_connects reserve.staying life sound custody opened queue with
    stores | ⟨site, mailbox, job, route, connects, mine⟩
  · rcases reserve.taken (stores.taken.symm.trans taken) with spent | ⟨mailbox, keeper, keeps⟩
    · refine .inl (spent.imp_right ?_)
      rintro ⟨occurrence, among, givesUp⟩
      exact ⟨occurrence, List.mem_append_left _ among, givesUp⟩
    · rcases moved.keeps_or_givesUp keeps with ⟨after, still⟩ | givesUp
      · exact .inr ⟨mailbox, after, still⟩
      · exact .inl (.inr ⟨_, List.mem_concat_self .., givesUp⟩)
  · cases reserve.of_connects connects mine
    exact .inr ⟨_, _, connects.keeps⟩

omit own in
theorem spent_step
    (spent : Spent called run place queue (later ++ [⟨state, move, next, effects⟩])) :
    next.upstream.isTaken queue = true := by
  refine reserve.isTaken_step life sound custody moved opened ?_
  rcases spent with before | ⟨occurrence, among, givesUp⟩
  · exact reserve.spent (.inl before)
  · rcases List.mem_append.mp among with earlier | last
    · exact reserve.spent (.inr ⟨occurrence, earlier, givesUp⟩)
    · cases List.mem_singleton.mp last
      obtain ⟨job, topic, mailbox, failure, _, present⟩ := givesUp
      exact Upstream.isTaken_of_get? (reserve.current (.job present rfl))

omit own in
theorem saved_step (free : next.upstream.isTaken queue = false) :
    next.upstream.buffered queue = called.upstream.buffered queue ++
      suppliedTo queue (later ++ [⟨state, move, next, effects⟩]) := by
  rcases moved.stores_or_connects reserve.staying life sound custody opened queue with
    stores | ⟨site, mailbox, job, route, connects, mine⟩
  · have before := stores.taken.symm.trans free
    rw [stores.buffered before, reserve.saved before, suppliedTo_concat, List.append_assoc]
  · simp [Upstream.isTaken_of_get? (get?_of_connects connects mine)] at free

include shut tabled in
/-- **Every move keeps the invariant.** -/
theorem step (noStop : move ≠ .arrive .stop) :
    Reserve called run place queue (later ++ [⟨state, move, next, effects⟩]) next where
  staying := reserve.staying.step life moved noStop
  route := reserve.route.imp fun _ known => ⟨moved.route? known.1, known.2⟩
  sole := reserve.sole_step own life shut tabled moved
  current := reserve.current_step own life sound custody moved opened
  taken := reserve.taken_step life sound custody moved opened
  spent := reserve.spent_step life sound custody moved opened
  saved := reserve.saved_step life sound custody moved opened

end

end Reserve

/-- The invariant holds as long as the bridge is not stopped and nobody else closes the connection
to the queues. -/
theorem History.reserve {first called now : State} {past later : List Occurrence} {run : RunId}
    {place : Place} {route : Route} {slot : RouteSlot} (history : History first past called)
    (unused : first.Unused) (staying : called.Staying run)
    (here : called.route? run place = some route) (found : called.slot? run place = some slot)
    (empty : slot.relay = none) (unclaimed : called.Unclaimed route.id)
    (rest : History called later now)
    (undisturbed : ∀ occurrence ∈ later,
      occurrence.move ≠ .arrive .stop ∧ occurrence.move ≠ .closeSource) :
    Reserve called run place route.id later now := by
  induction rest with
  | start =>
      exact .of_called (history.ownership unused) (history.lifecycle unused) staying here found
        empty unclaimed
  | @move later now next move effects before step ih =>
      have reserve := ih fun occurrence among => undisturbed occurrence (by simp [among])
      obtain ⟨noStop, opened⟩ := undisturbed ⟨now, move, next, effects⟩ (by simp)
      have all := history.append before
      exact reserve.step (all.ownership unused) (all.lifecycle unused) (all.shutdown unused)
        (all.sound unused) (all.custody unused) (all.tabled unused) (step_cases step) opened noStop

/-! ## What a relay gets -/

/-- Somebody who has a mailbox for a route has got it from the call that has connected the consumer,
and somebody has had it ever since. -/
theorem History.connects_of_keeps {called now : State} {later : List Occurrence}
    {site : RunId × Place} {mailbox : MailboxId} {keeper : Keeper}
    (rest : History called later now)
    (fresh : ∀ {mailbox keeper}, ¬called.Keeps site mailbox keeper)
    (keeps : now.Keeps site mailbox keeper) :
    ∃ earlier connect after job route, later = earlier ++ connect :: after ∧
      Connects connect.before connect.move connect.after connect.effects site mailbox job route ∧
        ∀ occurrence ∈ after, ∃ keeper, occurrence.before.Keeps site mailbox keeper := by
  induction rest generalizing keeper with
  | start => exact absurd keeps fresh
  | @move later now next move effects before step ih =>
      have onward : ∀ {keeper : Keeper}, now.Keeps site mailbox keeper →
          ∃ earlier connect after job route,
            later ++ [⟨now, move, next, effects⟩] = earlier ++ connect :: after ∧
              Connects connect.before connect.move connect.after connect.effects site mailbox job
                route ∧
                ∀ occurrence ∈ after, ∃ keeper, occurrence.before.Keeps site mailbox keeper := by
        intro keeper was
        obtain ⟨earlier, connect, after, job, route, rfl, connects, since⟩ := ih was
        refine ⟨earlier, connect, after ++ [⟨now, move, next, effects⟩], job, route, by simp,
          connects, fun occurrence among => ?_⟩
        rcases List.mem_append.mp among with amid | last
        · exact since occurrence amid
        · cases List.mem_singleton.mp last
          exact ⟨keeper, was⟩
      cases (step_cases step).acquires keeps with
      | kept was => exact onward was
      | handed was _ _ => exact onward was
      | connected connects => exact ⟨later, _, [], _, _, rfl, connects, by simp⟩

theorem Job.site?_of_claims? {job : Job} {site : RunId × Place} (claims : job.claims? = some site) :
    job.site? = some site := by
  unfold Job.claims? at claims
  split at claims
  · rename_i topic run phase
    cases phase <;> cases claims <;> rfl
  · cases claims

/-- What is put into the mailbox of an open consumer is what is delivered to its queue. -/
theorem State.puts_of_taken {state : State} {queue : String} {mailbox : MailboxId}
    (sound : state.upstream.Sound)
    (found : state.upstream.queues.get? queue = some ⟨mailbox, true⟩)
    (attended : state.upstream.isAttended mailbox = true) (move : Move) :
    state.puts mailbox move = move.deliveries queue := by
  cases move with
  | change change =>
      cases change with
      | deliver other delivery =>
          by_cases here : other = queue
          · subst here
            simp [puts, Move.deliveries, Upstream.address, found, attended]
          · have apart := Upstream.address_ne sound found here
            simp [puts, Move.deliveries, here, apart]
      | _ => rfl
  | _ => rfl

namespace Reserve

variable {called now : State} {run : RunId} {place : Place} {queue : String}
  {later : List Occurrence}

/-- While nobody has a mailbox for the route, everything is saved for it or lost. -/
theorem buffered_of_unkept (reserve : Reserve called run place queue later now)
    (unkept : ∀ {mailbox keeper}, ¬now.Keeps (run, place) mailbox keeper) :
    (¬Spent called run place queue later → now.upstream.buffered queue =
        called.upstream.buffered queue ++ suppliedTo queue later) ∧
      (Spent called run place queue later → now.upstream.buffered queue = []) := by
  refine ⟨fun unspent => reserve.saved (Bool.eq_false_iff.mpr fun taken => ?_),
    fun spent => Upstream.buffered_of_isTaken (reserve.spent spent)⟩
  rcases reserve.taken taken with spent | ⟨_, _, keeps⟩
  · exact unspent spent
  · exact unkept keeps

/-- The relay of the route is in its loop. -/
theorem loops {relay : RelayId} {found : Relay} (reserve : Reserve called run place queue later now)
    (life : Lifecycle now) (sound : now.upstream.Sound) (relaying : Relaying now)
    (present : now.relays[relay]? = some found) (here : (found.run, found.place) = (run, place)) :
    found.phase.loops = true := by
  by_contra out
  rw [Bool.not_eq_true] at out
  rcases relaying.left present out with told | ended
  · have refuses := relaying.told present told
    cases here
    simp [life.running reserve.staying.running] at refuses
  · exact ended.ne sound (reserve.current (.relay present here rfl)) rfl

/-- Whoever has a mailbox for the route attends to it. -/
theorem attended {mailbox : MailboxId} {keeper : Keeper}
    (reserve : Reserve called run place queue later now) (life : Lifecycle now)
    (sound : now.upstream.Sound) (custody : Custody now) (relaying : Relaying now)
    (keeps : now.Keeps (run, place) mailbox keeper) :
    now.upstream.isAttended mailbox = true := by
  cases keeps with
  | job present holds => exact custody.tended (.job present holds)
  | @relay relay found present here holds =>
      have attends := RelayPhase.attends_of_loops (reserve.loops life sound relaying present here)
      have tends : found.consumer? = some ((run, place), mailbox) := by
        rw [Relay.consumer?, if_pos attends, here, holds]
      exact custody.tended (.relay present tends)

end Reserve

/-- A relay that was set up since some moment has offered what it has received since. -/
theorem History.dispatched_since {first middle now : State} {past later : List Occurrence}
    {relay : RelayId} {found : Relay} {topic : String} (history : History first past middle)
    (unused : first.Unused) (absent : middle.relays[relay]? = none)
    (rest : History middle later now) (present : now.relays[relay]? = some found)
    (publishes : topic ∈ found.topics) :
    payloads (deliveredTo relay later) =
      offeredTo relay topic later ++ found.phase.pending topic := by
  have silent := history.silent_of_absent absent
  have all := history.append rest
  have once := all.count_topics unused present publishes
  have received : receivedBy relay (past ++ later) =
      receivedBy relay past ++ receivedBy relay later := List.flatMap_append ..
  have offered : offeredTo relay topic (past ++ later) =
      offeredTo relay topic past ++ offeredTo relay topic later := List.flatMap_append ..
  have balanced := (all.dispatches unused present).balanced topic once
  rw [received, offered, silent.receivedBy, silent.offeredTo topic] at balanced
  rw [payloads_deliveredTo]
  exact balanced

/-- A relay is set up only after the consumer of its route has been connected. -/
theorem Connects.relay_absent {connect : Occurrence} {after : List Occurrence} {now : State}
    {site : RunId × Place} {mailbox : MailboxId} {job : JobId} {route : Route} {relay : RelayId}
    {found : Relay} (own : Ownership connect.before)
    (connects : Connects connect.before connect.move connect.after connect.effects site mailbox job
      route)
    (onward : History connect.after after now) (present : now.relays[relay]? = some found)
    (here : (found.run, found.place) = site) : connect.after.relays[relay]? = none := by
  cases there : connect.after.relays[relay]? with
  | none => rfl
  | some fresh =>
      obtain ⟨still, again, _, _, sameRun, samePlace⟩ := onward.relay_kept there
      cases present.symm.trans again
      obtain ⟨claimer, claimed, claims, _⟩ := connects.claims
      subst here
      rw [sameRun, samePlace] at claims
      exact absurd ⟨fresh, connects.relays ▸ there, rfl, rfl⟩
        (own.unserved ⟨claimer, claimed, claims⟩)

/-- From the connection of its consumer on, a relay gets what was saved for its queue then, and what
is delivered to the queue since. -/
theorem History.delivered_since {first called now : State} {past earlier after : List Occurrence}
    {connect : Occurrence} {run : RunId} {place : Place} {relay : RelayId} {found : Relay}
    {job : JobId} {route : Route} (history : History first past called) (unused : first.Unused)
    (rest : History called (earlier ++ connect :: after) now)
    (reserved : ∀ {part : List Occurrence} {middle : State},
      part <+: earlier ++ connect :: after → History called part middle →
        Reserve called run place route.id part middle)
    (present : now.relays[relay]? = some found) (here : (found.run, found.place) = (run, place))
    (connects : Connects connect.before connect.move connect.after connect.effects (run, place)
      found.mailbox job route)
    (since : ∀ occurrence ∈ after, ∃ keeper,
      occurrence.before.Keeps (run, place) found.mailbox keeper) :
    deliveredTo relay (earlier ++ connect :: after) ++ now.upstream.waiting found.mailbox =
      connect.before.upstream.buffered route.id ++ suppliedTo route.id after := by
  obtain ⟨before, step, onward⟩ := rest.occurrence
  have opened := (history.append before).append (.single step)
  -- The relay is set up only later, so all that it has received it has received since.
  have absent := connects.relay_absent ((history.append before).ownership unused) onward present
    here
  have silent := (before.append (.single step)).silent_of_absent absent
  have received : deliveredTo relay (earlier ++ connect :: after) = deliveredTo relay after := by
    have split : earlier ++ connect :: after = (earlier ++ [connect]) ++ after := by simp
    rw [split]
    exact (List.flatMap_append ..).trans (congrArg (· ++ _) silent.deliveredTo)
  have deposited : depositedIn found.mailbox after = suppliedTo route.id after := by
    refine List.flatMap_congr fun occurrence among => ?_
    obtain ⟨amid, last, rfl⟩ := List.append_of_mem among
    obtain ⟨between, _, _⟩ := onward.occurrence
    obtain ⟨keeper, keeps⟩ := since occurrence among
    have until_then := (before.append (.single step)).append between
    have reserve := reserved (by simp) until_then
    have all := history.append until_then
    exact State.puts_of_taken (all.sound unused) (reserve.current keeps)
      (reserve.attended (all.lifecycle unused) (all.sound unused) (all.custody unused)
        (all.relaying unused) keeps) occurrence.move
  have whole := opened.deposited_from unused onward found.mailbox
  rw [opened.takenFrom_eq unused onward present, deposited,
    Upstream.waiting_of_consume connects.consumed] at whole
  rw [received, ← whole]
  rfl

/-- **What was published before a route is started waits for its relay, unless a call that has
connected a consumer gives up.**  The bridge is in a run with no stop in flight, a route of the run
is not started and nobody is starting it; then deliveries to its queue, refused consumers, refused
producers and everything else but a stop and a foreign closing of the connection come in any order,
and at last the route has a relay.  The consumer of the relay was connected at one moment since.
If the mailbox of the queue was not taken before and no call had given up until then, the relay gets
what was saved before and all that was delivered to the queue since, in order and once each.
Otherwise it gets what was delivered since its consumer was connected, and no more; so it gets
everything if and only if no call had given up or nothing had been delivered until then.  It offers
the payloads of what it receives to each of its topics in the same order, and it is in its loop, so
that what waits is received as well. -/
theorem History.reserved_for_relay {first called now : State} {past later : List Occurrence}
    {run : RunId} {place : Place} {route : Route} {slot held : RouteSlot} {relay : RelayId}
    (history : History first past called) (unused : first.Unused)
    (running : called.running = some run) (noStop : ¬called.Has Job.isStopping)
    (here : called.route? run place = some route) (stopped : called.slot? run place = some slot)
    (empty : slot.relay = none) (unclaimed : called.Unclaimed route.id)
    (rest : History called later now)
    (undisturbed : ∀ occurrence ∈ later,
      occurrence.move ≠ .arrive .stop ∧ occurrence.move ≠ .closeSource)
    (started : now.slot? run place = some held) (occupied : held.relay = some relay) :
    ∃ found earlier connect after, now.relays[relay]? = some found ∧
      later = earlier ++ connect :: after ∧ connect.site? = some (run, place) ∧
        Effect.consumerOpened found.mailbox ∈ connect.effects ∧
        (¬Spent called run place route.id earlier →
          deliveredTo relay later ++ now.upstream.waiting found.mailbox =
            called.upstream.buffered route.id ++ suppliedTo route.id later) ∧
        (Spent called run place route.id earlier →
          deliveredTo relay later ++ now.upstream.waiting found.mailbox =
            suppliedTo route.id after) ∧
        (suppliedTo route.id later <:+
            deliveredTo relay later ++ now.upstream.waiting found.mailbox ↔
          ¬Spent called run place route.id earlier ∨ suppliedTo route.id earlier = []) ∧
        (∀ topic ∈ route.topics, payloads (deliveredTo relay later) =
          offeredTo relay topic later ++ found.phase.pending topic) ∧
        found.phase.loops = true := by
  have reserved : ∀ {part : List Occurrence} {middle : State}, part <+: later →
      History called part middle → Reserve called run place route.id part middle :=
    fun part until_then => history.reserve unused ⟨running, noStop⟩ here stopped empty unclaimed
      until_then fun occurrence among => undisturbed occurrence (part.subset among)
  have all := history.append rest
  have fresh : ∀ {mailbox keeper}, ¬called.Keeps (run, place) mailbox keeper :=
    Reserve.unkept (history.ownership unused) (history.lifecycle unused) ⟨running, noStop⟩ here
      stopped empty unclaimed
  obtain ⟨found, present, sameRun, samePlace⟩ := (all.ownership unused).occupied started occupied
  have atPlace : (found.run, found.place) = (run, place) := Prod.ext sameRun samePlace
  obtain ⟨earlier, connect, after, job, known, rfl, connects, since⟩ :=
    rest.connects_of_keeps fresh (.relay present atPlace rfl)
  obtain ⟨before, step, onward⟩ := rest.occurrence
  cases (before.route? here).symm.trans connects.here
  have got := history.delivered_since unused rest reserved present atPlace connects since
  obtain ⟨kept, lost⟩ := (reserved (List.prefix_append ..) before).buffered_of_unkept
    (connects.unkept ((history.append before).ownership unused))
  have supplied : suppliedTo route.id (earlier ++ connect :: after) =
      suppliedTo route.id earlier ++ suppliedTo route.id after := by
    have nothing : connect.move.deliveries route.id = [] := by
      rw [connects.mine]
      rfl
    simp [suppliedTo, nothing]
  obtain ⟨claimer, claimed, claims, _⟩ := connects.claims
  refine ⟨found, earlier, connect, after, present, rfl, ?_, by simp [connects.shown],
    fun unspent => ?_, fun spent => ?_, ?_, fun topic publishes => ?_,
    (reserved List.prefix_rfl rest).loops (all.lifecycle unused) (all.sound unused)
      (all.relaying unused) present atPlace⟩
  · rw [Occurrence.site?, connects.mine, State.site?, claimed]
    exact Job.site?_of_claims? claims
  · rw [got, kept unspent, supplied, List.append_assoc]
  · rw [got, lost spent, List.nil_append]
  · rw [got, supplied, List.suffix_append_self_iff]
    by_cases spent : Spent called run place route.id earlier
    · simp [spent, lost spent]
    · simp [spent, kept spent]
  · have absent : called.relays[relay]? = none := by
      cases there : called.relays[relay]? with
      | none => rfl
      | some old =>
          obtain ⟨_, again, _, _, run, place⟩ := rest.relay_kept there
          cases present.symm.trans again
          exact absurd (.relay there (by rw [← run, ← place, atPlace]) rfl) fresh
    obtain ⟨_, known, topics⟩ := (all.relaying unused).route present
    rw [sameRun, samePlace, rest.route? here] at known
    cases known
    exact history.dispatched_since unused absent rest present (topics ▸ publishes)

/-- Four messages are published and three calls try to start the route.  The first is refused its
consumer, and nothing is lost; the second is refused its producer, and what was published up to
then and up to the third is lost; the third starts the route. -/
theorem failed_attempt_spends_reserve :
    ∃ past called later now found,
      History (State.scripted ["Q"]) past called ∧ called.running = some 0 ∧
        History called later now ∧ now.relays[0]? = some found ∧
          payloads (suppliedTo "Q" later) = ["a", "b", "c", "d"] ∧
            offeredTo 0 "Q" later = ["d"] ∧ found.phase.loops = true ∧
              (∃ occurrence ∈ later, occurrence.GivesUp 0 0) ∧
                ¬suppliedTo "Q" later <:+
                  deliveredTo 0 later ++ now.upstream.waiting found.mailbox := by
  obtain ⟨past, called, history, checked⟩ :=
    History.exists_of_record (State.scripted ["Q"]) (startMoves 0)
      (fun _ called => called.running == some 0 && !called.jobs.any Job.isStopping &&
        (called.route? 0 0).any (fun route => route.id == "Q") &&
          (called.slot? 0 0).any (fun slot => slot.relay == none) &&
            called.jobs.all (fun job => job.claims? == none) && !called.upstream.isTaken "Q" &&
              (called.record ([.change (.deliver "Q" (.message ⟨none, .text "a"⟩)),
                .change (.refuseConsumers "Q" 1), .arrive (.attach "Q")] ++
                  List.replicate 5 (.job 1) ++
                [.change (.deliver "Q" (.message ⟨none, .text "b"⟩)),
                  .change (.blockTopic "Q" true), .arrive (.attach "Q")] ++
                  List.replicate 7 (.job 2) ++
                [.change (.deliver "Q" (.message ⟨none, .text "c"⟩)),
                  .change (.blockTopic "Q" false), .arrive (.attach "Q")] ++
                  List.replicate 8 (.job 3) ++
                [.change (.deliver "Q" (.message ⟨none, .text "d"⟩)), .relay 0 false,
                  .relay 0 false])).any fun reached =>
                (reached.2.slot? 0 0).any (fun slot => slot.relay == some 0) &&
                  payloads (suppliedTo "Q" reached.1) == ["a", "b", "c", "d"] &&
                    payloads (deliveredTo 0 reached.1) == ["d"] &&
                      offeredTo 0 "Q" reached.1 == ["d"] &&
                        reached.2.relays[0]?.all fun found =>
                          payloads (reached.2.upstream.waiting found.mailbox) == []) rfl
  simp only [Bool.and_eq_true, beq_iff_eq, Bool.not_eq_true', Option.any_eq_true,
    List.all_eq_true] at checked
  obtain ⟨⟨⟨⟨⟨⟨running, noStop⟩, route, here, same⟩, slot, stopped, empty⟩, unclaimed⟩, untaken⟩,
    ⟨later, now⟩, recorded, ⟨⟨⟨⟨held, started, occupied⟩, supplied⟩, delivered⟩, offered⟩,
      waits⟩ := checked
  have rest : History called later now := .of_record recorded
  have undisturbed : ∀ occurrence ∈ later,
      occurrence.move ≠ .arrive .stop ∧ occurrence.move ≠ .closeSource := by
    intro occurrence among
    have followed := move_mem_of_record recorded among
    constructor <;> intro stops <;> simp [stops] at followed
  have free : called.Unclaimed route.id := by
    rintro job run place other ⟨found, present, claims⟩
    simp [unclaimed found (List.mem_of_getElem? present)] at claims
  obtain ⟨found, earlier, connect, after, present, whole, _, _, _, _, all, _, loops⟩ :=
    history.reserved_for_relay (State.scripted_unused _) running
      (by simp [State.has_iff_any, noStop]) here stopped empty free rest undisturbed started
      occupied
  rw [same] at all
  have lost : ¬suppliedTo "Q" later <:+
      deliveredTo 0 later ++ now.upstream.waiting found.mailbox := by
    intro suffix
    have shorter := suffix.filterMap Delivery.payload?
    change payloads _ <:+ payloads _ at shorter
    rw [payloads_append, supplied, delivered] at shorter
    rw [present, Option.all_some, beq_iff_eq] at waits
    rw [waits] at shorter
    exact absurd shorter (by decide)
  refine ⟨past, called, later, now, found, history, running, rest, present, supplied, offered,
    loops, ?_, lost⟩
  rcases not_or.mp (mt all.mpr lost) with ⟨spent, _⟩
  rcases not_not.mp spent with taken | ⟨occurrence, among, givesUp⟩
  · simp [untaken] at taken
  · exact ⟨occurrence, whole ▸ List.mem_append_left _ among, givesUp⟩

end TopicRelay
