import TopicRelay.Proofs.AtMostOnce
import TopicRelay.Proofs.Deliveries

/-!
# Who has which mailbox

A consumer connects to a mailbox that nobody else has had: the one in which the deliveries to
its queue were kept so far, or a fresh one.  The call that connects it hands it to the relay that
it sets up, and the relay keeps the mailbox for good.  So no two calls or relays ever have the
same mailbox, and the mailbox that keeps the deliveries for a later consumer of its queue is
nobody's yet (`Custody`).  What was taken out of the mailbox of a relay is therefore what this
relay has received (`History.takenFrom_eq`), and the consumer's end of a mailbox is open until the
one who has the mailbox closes it (`History.isAttended_iff`).
-/

namespace TopicRelay

set_option autoImplicit false

/-- A call that starts a route, or a relay. -/
inductive Keeper where
  | job (job : JobId)
  | relay (relay : RelayId)

/-- A call has connected a consumer of a route to a mailbox, or the mailbox was given to the relay
of the route. -/
inductive State.Keeps (state : State) (site : RunId × Place) (mailbox : MailboxId) :
    Keeper → Prop where
  | job {job : JobId} {found : Job} (present : state.jobs[job]? = some found)
      (holds : found.consumer? = some (site, mailbox)) : Keeps state site mailbox (.job job)
  | relay {relay : RelayId} {found : Relay} (present : state.relays[relay]? = some found)
      (here : (found.run, found.place) = site) (holds : found.mailbox = mailbox) :
      Keeps state site mailbox (.relay relay)

/-- A call that has claimed a route connects a consumer to the queue of the route. -/
structure Connects (state : State) (move : Move) (next : State) (effects : List Effect)
    (site : RunId × Place) (mailbox : MailboxId) (job : JobId) (route : Route) : Prop where
  mine : move = .job job
  claims : ∃ found, state.jobs[job]? = some found ∧ found.claims? = some site ∧
    found.consumer? = none
  here : state.route? site.1 site.2 = some route
  relays : next.relays = state.relays
  consumed : state.upstream.consume (state.subscription route) = (.ok mailbox, next.upstream)
  keeps : next.Keeps site mailbox (.job job)
  shown : effects = [.consumerOpened mailbox]

/-- How a call or a relay has got a mailbox. -/
inductive Acquires (state : State) (move : Move) (next : State) (effects : List Effect)
    (site : RunId × Place) (mailbox : MailboxId) : Keeper → Prop where
  | kept {keeper : Keeper} (keeps : state.Keeps site mailbox keeper) :
      Acquires state move next effects site mailbox keeper
  | handed {job : JobId} (keeps : state.Keeps site mailbox (.job job))
      (upstream : next.upstream = state.upstream)
      (gone : ∀ {there other}, ¬next.Keeps there other (.job job)) :
      Acquires state move next effects site mailbox (.relay state.relays.length)
  | connected {job : JobId} {route : Route}
      (connects : Connects state move next effects site mailbox job route) :
      Acquires state move next effects site mailbox (.job job)

/-- **Every call and every relay that has a mailbox after a move.** -/
theorem Moves.acquires {state next : State} {move : Move} {effects : List Effect}
    {site : RunId × Place} {mailbox : MailboxId} {keeper : Keeper}
    (moved : Moves state move next effects) (keeps : next.Keeps site mailbox keeper) :
    Acquires state move next effects site mailbox keeper := by
  cases keeps with
  | @job job found present holds =>
      rcases moved.jobs_origin present with was | rfl | ⟨request, _, same⟩
      · exact .kept (.job was holds)
      · cases found with
        | attach topic after =>
            obtain ⟨phase, middle, was, turn, rfl⟩ := moved.to_attach present
            cases turn with
            | activated turn =>
                cases turn with
                | connected here consumed =>
                    cases holds
                    exact .connected
                      ⟨rfl, ⟨_, was, rfl, rfl⟩, here, rfl, consumed, .job present rfl, rfl⟩
                | produced _ =>
                    cases holds
                    exact .kept (.job was rfl)
                | unproduced _ =>
                    cases holds
                    exact .kept (.job was rfl)
                | producerUndone =>
                    cases holds
                    exact .kept (.job was rfl)
                | _ => cases holds
            | _ => cases holds
        | _ => cases holds
      · cases request <;> cases same <;> cases holds
  | @relay relay found present here holds =>
      subst here holds
      cases moved.origin present with
      | kept was => exact .kept (.relay was rfl rfl)
      | told was same _ => exact .kept (.relay was (by rw [same]) (by rw [same]))
      | moved was _ _ same => exact .kept (.relay was (by rw [same]) (by rw [same]))
      | spawned new _ _ _ =>
          subst new
          have fresh : ∀ {run place}, ¬state.Serves state.relays.length run place := by
            rintro run place ⟨_, there, _⟩
            simp at there
          have serves : next.Serves state.relays.length found.run found.place :=
            ⟨found, present, rfl, rfl⟩
          cases moved.routing with
          | kept keeps => exact absurd (keeps.serves.mp serves) fresh
          | withdrawn _ _ _ _ => exact absurd (State.serves_withdraw.mp serves) fresh
          | @spawned job topic run place ahead given opened route claimed here =>
              obtain ⟨_, rfl⟩ := (getElem?_concat_eq_some.mp present).resolve_left (by simp)
              refine .handed (.job claimed rfl) rfl fun keeps => ?_
              obtain ⟨now, holds⟩ | _ := keeps
              cases (State.jobs_setJob_self claimed).symm.trans now
              cases holds

/-! ## The invariant -/

/-- A call or a relay that has not closed its consumer. -/
inductive State.Tends (state : State) (site : RunId × Place) (mailbox : MailboxId) :
    Keeper → Prop where
  | job {job : JobId} {found : Job} (present : state.jobs[job]? = some found)
      (holds : found.consumer? = some (site, mailbox)) : Tends state site mailbox (.job job)
  | relay {relay : RelayId} {found : Relay} (present : state.relays[relay]? = some found)
      (holds : found.consumer? = some (site, mailbox)) : Tends state site mailbox (.relay relay)

/-- Who has which mailbox, and which mailboxes are attended. -/
structure Custody (state : State) : Prop where
  single : ∀ {site spot mailbox keeper other}, state.Keeps site mailbox keeper →
    state.Keeps spot mailbox other → keeper = other
  bounded : ∀ {site mailbox keeper}, state.Keeps site mailbox keeper →
    mailbox < state.upstream.mailboxes.length
  /-- The mailbox of a queue that no consumer has taken over is nobody's. -/
  taken : ∀ {queue queueEnd site keeper}, state.upstream.queues.get? queue = some queueEnd →
    state.Keeps site queueEnd.mailbox keeper → queueEnd.taken = true
  /-- Deliveries reach the mailbox of a consumer that is open. -/
  tended : ∀ {site mailbox keeper}, state.Tends site mailbox keeper →
    state.upstream.isAttended mailbox = true
  /-- Deliveries reach a mailbox that waits for a consumer. -/
  untaken : ∀ {queue queueEnd}, state.upstream.queues.get? queue = some queueEnd →
    queueEnd.taken = false → state.upstream.isAttended queueEnd.mailbox = true

theorem State.Tends.keeps {state : State} {site : RunId × Place} {mailbox : MailboxId}
    {keeper : Keeper} (tends : state.Tends site mailbox keeper) :
    state.Keeps site mailbox keeper := by
  cases tends with
  | job present holds => exact .job present holds
  | relay present holds =>
      obtain ⟨run, place, mailbox⟩ := Relay.of_consumer? holds
      exact .relay present (Prod.ext run place) mailbox

theorem Relay.attends_of_consumer? {relay : Relay} {site : RunId × Place} {mailbox : MailboxId}
    (holds : relay.consumer? = some (site, mailbox)) : relay.phase.attends = true := by
  simp only [Relay.consumer?, Option.ite_none_right_eq_some] at holds
  exact holds.1

/-- A relay that has closed its consumer does not open it again. -/
theorem Forwards.attended {state next : State} {relay : RelayId} {found after : Relay}
    {effects : List Effect} (turn : Forwards state relay found next effects)
    (present : state.relays[relay]? = some found) (now : next.relays[relay]? = some after)
    (attends : after.phase.attends = true) : found.phase.attends = true := by
  cases turn with
  | heeded _ phase => rcases phase with phase | ⟨due, phase⟩ <;> rw [phase] <;> rfl
  | sourceEnded phase _ => rw [phase]; rfl
  | received phase _ => rw [phase]; rfl
  | failed phase _ => rw [phase]; rfl
  | sentAll phase => rw [phase]; rfl
  | sent phase _ => rw [phase]; rfl
  | notSent phase _ => rw [phase]; rfl
  | resumed phase _ => rw [phase]; rfl
  | consumerClosed phase => rw [phase]; rfl
  | _ =>
      cases (State.relays_modifyRelay_self present).symm.trans now
      cases attends

namespace Upstream

variable {upstream next : Upstream} {mailbox other : MailboxId} {queue : String}

/-- A consumer takes over the mailbox of its queue that nobody has taken over, or a fresh one. -/
theorem consume_eq_ok {subscription : Subscription}
    (consumed : upstream.consume subscription = (.ok mailbox, next)) :
    next.queues = upstream.queues.insert subscription.queue ⟨mailbox, true⟩ ∧
      (mailbox = upstream.mailboxes.length ∨ ∃ queueEnd,
        upstream.queues.get? subscription.queue = some queueEnd ∧ queueEnd.taken = false ∧
          queueEnd.mailbox = mailbox) := by
  rcases consume_cases upstream subscription with ⟨_, refused, _⟩ | ⟨given, _, queues⟩
  · simp [consumed] at refused
  rw [consumed] at given queues
  obtain rfl := Except.ok.inj given
  change next.queues = _ at queues
  rw [queues]
  unfold takeMailbox
  cases found : upstream.queues.get? subscription.queue with
  | none => exact ⟨rfl, .inl rfl⟩
  | some queueEnd =>
      dsimp only
      split
      · refine ⟨rfl, .inl ?_⟩
        simp [addMailbox, modifyMailbox]
      · rename_i untaken
        exact ⟨rfl, .inr ⟨queueEnd, rfl, by simpa using untaken, rfl⟩⟩

/-- A mailbox is changed, but its consumer's end is not. -/
theorem isAttended_modifyMailbox {change : Mailbox → Mailbox}
    (keeps : ∀ box, (change box).attended = box.attended) :
    (upstream.modifyMailbox other change).isAttended mailbox = upstream.isAttended mailbox := by
  rw [isAttended, mailboxes_modifyMailbox, isAttended, Option.map_map]
  congr 2
  funext box
  by_cases same : other = mailbox <;> simp [same, keeps]

theorem isAttended_closeConsumer_of_ne (different : other ≠ mailbox) :
    (upstream.closeConsumer other).isAttended mailbox = upstream.isAttended mailbox := by
  rw [isAttended, closeConsumer, mailboxes_modifyMailbox, isAttended]
  simp [different]

/-- The consumer's end of a fresh mailbox is open. -/
theorem isAttended_addMailbox {taken : Bool} :
    (upstream.addMailbox queue taken).1.isAttended mailbox = upstream.isAttended mailbox := by
  rw [isAttended, addMailbox, getElem?_concat_eq_ite, isAttended]
  split
  · rename_i new
    rw [List.getElem?_eq_none (Nat.le_of_eq new.symm)]
    rfl
  · rfl

theorem isAttended_deliver {delivery : Delivery} :
    (upstream.deliver queue delivery).isAttended mailbox = upstream.isAttended mailbox := by
  have keeps : ∀ box : Mailbox, (if box.attended then
      { box with waiting := box.waiting ++ [delivery] } else box).attended = box.attended := by
    intro box
    split <;> rfl
  unfold deliver
  cases upstream.queues.get? queue with
  | none => exact (isAttended_modifyMailbox keeps).trans isAttended_addMailbox
  | some queueEnd => exact isAttended_modifyMailbox keeps

theorem isAttended_consume (subscription : Subscription) :
    (upstream.consume subscription).2.isAttended mailbox = upstream.isAttended mailbox := by
  have taken : (upstream.takeMailbox subscription.queue).1.isAttended mailbox =
      upstream.isAttended mailbox := by
    unfold takeMailbox
    cases upstream.queues.get? subscription.queue with
    | none => exact isAttended_addMailbox
    | some queueEnd =>
        dsimp only
        split
        · exact isAttended_addMailbox.trans (isAttended_modifyMailbox fun _ => rfl)
        · rfl
  rcases consume_cases upstream subscription with ⟨_, _, mailboxes, _⟩ | ⟨_, mailboxes, _⟩
  · rw [isAttended, mailboxes, isAttended]
  · rw [isAttended, mailboxes]
    exact taken

theorem isAttended_disconnect :
    upstream.disconnect.2.isAttended mailbox = upstream.isAttended mailbox := by
  simp only [disconnect, isAttended, List.getElem?_map, Option.map_map]
  rfl

end Upstream

/-! ## One move -/

/-- Where the mailbox of a queue comes from: it was there, it is a fresh one, or a consumer has
just taken it over. -/
theorem Handling.queue_origin {state next : State} {move : Move} {effects : List Effect}
    {queue : String} {queueEnd : QueueEnd} (handling : Handling state move next effects)
    (found : next.upstream.queues.get? queue = some queueEnd) :
    state.upstream.queues.get? queue = some queueEnd ∨
      queueEnd.mailbox = state.upstream.mailboxes.length ∨ queueEnd.taken = true := by
  have inserted : ∀ {table : Table QueueEnd} {other : String} {added : QueueEnd},
      (table.insert other added).get? queue = some queueEnd →
        table.get? queue = some queueEnd ∨ queueEnd = added := by
    intro table other added found
    by_cases same : queue = other
    · subst same
      exact .inr (Option.some.inj ((Table.get?_insert_self ..).symm.trans found)).symm
    · exact .inl ((Table.get?_insert_of_ne _ _ same).symm.trans found)
  cases handling with
  | kept _ queues _ _ => exact .inl (queues ▸ found)
  | @delivered other delivery is same silent =>
      subst same
      simp only [State.change, Upstream.deliver] at found
      cases there : state.upstream.queues.get? other with
      | some old =>
          simp only [there] at found
          exact .inl found
      | none =>
          simp only [there] at found
          rcases inserted found with old | rfl
          · exact .inl old
          · exact .inr (.inl rfl)
  | received _ _ _ same _ => exact .inl (by rw [same] at found; exact found)
  | left _ _ _ same _ => exact .inl (by rw [same] at found; exact found)
  | undone _ _ same _ => exact .inl (by rw [same] at found; exact found)
  | @connected _ _ _ _ _ _ _ _ upstream _ _ _ consumed same _ =>
      subst same
      change upstream.queues.get? queue = some queueEnd at found
      rw [(Upstream.consume_eq_ok consumed).1] at found
      rcases inserted found with old | rfl
      · exact .inl old
      · exact .inr (.inr rfl)
  | disconnected same _ _ _ =>
      rw [same] at found
      simp [Upstream.disconnect, Table.get?] at found

namespace Custody

variable {state next : State} {move : Move} {effects : List Effect} {site spot : RunId × Place}
  {mailbox : MailboxId} {keeper : Keeper}

theorem of_unused (unused : state.Unused) : Custody state where
  single := by
    rintro site spot mailbox keeper other (⟨present, _⟩ | ⟨present, _⟩)
    · simp [unused.jobs] at present
    · simp [unused.relays] at present
  bounded := by
    rintro site mailbox keeper (⟨present, _⟩ | ⟨present, _⟩)
    · simp [unused.jobs] at present
    · simp [unused.relays] at present
  taken := fun found => by simp [unused.queues, Table.get?] at found
  tended := by
    rintro site mailbox keeper (⟨present, _⟩ | ⟨present, _⟩)
    · simp [unused.jobs] at present
    · simp [unused.relays] at present
  untaken := fun found => by simp [unused.queues, Table.get?] at found

/-- Nobody has the mailbox that a consumer connects to. -/
theorem unkept {subscription : Subscription} {upstream : Upstream} (custody : Custody state)
    (consumed : state.upstream.consume subscription = (.ok mailbox, upstream)) :
    ¬state.Keeps site mailbox keeper := by
  intro keeps
  rcases (Upstream.consume_eq_ok consumed).2 with rfl | ⟨queueEnd, found, untaken, rfl⟩
  · exact absurd (custody.bounded keeps) (Nat.lt_irrefl _)
  · simp [custody.taken found keeps] at untaken

theorem single_step {other : Keeper} (custody : Custody state)
    (moved : Moves state move next effects) (keeps : next.Keeps site mailbox keeper)
    (also : next.Keeps spot mailbox other) : keeper = other := by
  cases moved.acquires keeps with
  | kept was =>
      cases moved.acquires also with
      | kept before => exact custody.single was before
      | handed before _ gone =>
          have same := custody.single was before
          subst same
          exact absurd keeps gone
      | connected connects => exact absurd was (custody.unkept connects.consumed)
  | handed was _ gone =>
      cases moved.acquires also with
      | kept before =>
          have same := custody.single before was
          subst same
          exact absurd also gone
      | handed _ _ _ => rfl
      | connected connects => exact absurd was (custody.unkept connects.consumed)
  | connected connects =>
      cases moved.acquires also with
      | kept before => exact absurd before (custody.unkept connects.consumed)
      | handed before _ _ => exact absurd before (custody.unkept connects.consumed)
      | connected same =>
          cases connects.mine.symm.trans same.mine
          rfl

theorem bounded_step (custody : Custody state) (sound : state.upstream.Sound)
    (moved : Moves state move next effects) (keeps : next.Keeps site mailbox keeper) :
    mailbox < next.upstream.mailboxes.length := by
  cases moved.acquires keeps with
  | kept was => exact Nat.lt_of_lt_of_le (custody.bounded was) moved.advances.length_le
  | handed was _ _ => exact Nat.lt_of_lt_of_le (custody.bounded was) moved.advances.length_le
  | connected connects => exact sound.consume_lt connects.consumed

theorem taken_step {queue : String} {queueEnd : QueueEnd} (custody : Custody state)
    (sound : state.upstream.Sound) (moved : Moves state move next effects)
    (found : next.upstream.queues.get? queue = some queueEnd)
    (keeps : next.Keeps site queueEnd.mailbox keeper) : queueEnd.taken = true := by
  have onward : ∀ {before : Keeper}, state.Keeps site queueEnd.mailbox before →
      queueEnd.taken = true := by
    intro before was
    rcases moved.handling.queue_origin found with old | fresh | taken
    · exact custody.taken old was
    · exact absurd (custody.bounded was) (fresh ▸ Nat.lt_irrefl _)
    · exact taken
  cases moved.acquires keeps with
  | kept was => exact onward was
  | handed was _ _ => exact onward was
  | @connected _ route connects =>
      obtain ⟨queues, _⟩ := Upstream.consume_eq_ok connects.consumed
      have there : next.upstream.queues.get? route.id = some ⟨queueEnd.mailbox, true⟩ := by
        rw [queues]
        exact Table.get?_insert_self ..
      have same := (sound.step moved.advances).apart found there rfl
      subst same
      exact congrArg QueueEnd.taken (Option.some.inj (found.symm.trans there))

/-- A consumer's end is left by the one who had the mailbox, who shows it and is done with it
then. -/
theorem isAttended_step (moved : Moves state move next effects) :
    next.upstream.isAttended mailbox = state.upstream.isAttended mailbox ∨
      ∃ site keeper, state.Keeps site mailbox keeper ∧
        (∀ {spot}, ¬next.Tends spot mailbox keeper) ∧ .consumerClosed mailbox ∈ effects := by
  cases moved.handling with
  | kept mailboxes _ _ _ => exact .inl (by rw [Upstream.isAttended, mailboxes, Upstream.isAttended])
  | delivered _ same _ =>
      subst same
      exact .inl Upstream.isAttended_deliver
  | received _ _ _ same _ =>
      rw [same]
      exact .inl (Upstream.isAttended_modifyMailbox fun _ => rfl)
  | @left relay heed found mine present phase same shown =>
      subst same
      by_cases here : found.mailbox = mailbox
      · subst here
        refine .inr ⟨_, .relay relay, .relay present rfl rfl, ?_, by simp [shown]⟩
        rintro spot (_ | ⟨now, holds⟩)
        cases (State.relays_modifyRelay_self present).symm.trans now
        cases holds
      · exact .inl (Upstream.isAttended_closeConsumer_of_ne here)
  | @undone job topic run place left failure result event mine present same shown =>
      subst same
      by_cases here : left = mailbox
      · subst here
        refine .inr ⟨_, .job job, .job present rfl, ?_, by simp [shown]⟩
        rintro spot (⟨now, holds⟩ | _)
        cases (State.jobs_setJob_self present).symm.trans now
        cases holds
      · exact .inl (Upstream.isAttended_closeConsumer_of_ne here)
  | @connected _ _ _ _ _ _ route _ upstream _ _ _ consumed same _ =>
      subst same
      have kept : (state.upstream.consume (state.subscription route)).2.isAttended mailbox = _ :=
        Upstream.isAttended_consume _
      rw [consumed] at kept
      exact .inl kept
  | disconnected same _ _ _ => exact .inl (same ▸ Upstream.isAttended_disconnect)

/-- A call or a relay that tends a mailbox has tended it before, or a call has tended it, or has
just connected a consumer to it. -/
theorem tends_origin (moved : Moves state move next effects)
    (tends : next.Tends site mailbox keeper) :
    (∃ before, state.Tends site mailbox before) ∨ ∃ subscription,
      state.upstream.consume subscription = (.ok mailbox, next.upstream) := by
  have job : ∀ {job}, state.Keeps site mailbox (.job job) →
      state.Tends site mailbox (.job job) := by
    rintro job (⟨present, holds⟩ | _)
    exact .job present holds
  cases tends with
  | job present holds =>
      cases moved.acquires (.job present holds) with
      | kept was => exact .inl ⟨_, job was⟩
      | connected connects => exact .inr ⟨_, connects.consumed⟩
  | @relay relay found present holds =>
      cases moved.origin present with
      | kept was => exact .inl ⟨_, .relay was holds⟩
      | told was same _ =>
          rw [same] at holds
          exact .inl ⟨_, .relay was holds⟩
      | @moved before heed was mine turn same =>
          have attends := turn.attended was present (Relay.attends_of_consumer? holds)
          have still : before.consumer? = found.consumer? := by
            rw [Relay.consumer?, if_pos attends, Relay.consumer?,
              if_pos (Relay.attends_of_consumer? holds), same]
          exact .inl ⟨_, .relay was (still.trans holds)⟩
      | spawned _ claimed _ same =>
          obtain ⟨run, place, rfl⟩ := Relay.of_consumer? holds
          refine .inl ⟨_, .job claimed ?_⟩
          rw [same] at run place ⊢
          exact congrArg (fun site => some (site, _)) (Prod.ext run place)

theorem tended_step (custody : Custody state) (moved : Moves state move next effects)
    (tends : next.Tends site mailbox keeper) : next.upstream.isAttended mailbox = true := by
  have before : state.upstream.isAttended mailbox = true := by
    rcases tends_origin moved tends with ⟨_, tended⟩ | ⟨subscription, consumed⟩
    · exact custody.tended tended
    · rcases (Upstream.consume_eq_ok consumed).2 with rfl | ⟨queueEnd, found, untaken, rfl⟩
      · simp [Upstream.isAttended]
      · exact custody.untaken found untaken
  rcases isAttended_step moved with same | ⟨_, closer, had, closed, _⟩
  · exact same.trans before
  · cases moved.acquires tends.keeps with
    | kept was =>
        have same := custody.single was had
        subst same
        exact absurd tends closed
    | handed _ upstream _ => rwa [upstream]
    | connected connects => exact absurd had (custody.unkept connects.consumed)

theorem untaken_step {queue : String} {queueEnd : QueueEnd} (custody : Custody state)
    (moved : Moves state move next effects)
    (found : next.upstream.queues.get? queue = some queueEnd) (untaken : queueEnd.taken = false) :
    next.upstream.isAttended queueEnd.mailbox = true := by
  rcases moved.handling.queue_origin found with old | fresh | taken
  · rcases isAttended_step moved with same | ⟨_, closer, had, _⟩
    · exact same.trans (custody.untaken old untaken)
    · simp [custody.taken old had] at untaken
  · rcases isAttended_step moved with same | ⟨_, closer, had, _⟩
    · rw [same, fresh]
      simp [Upstream.isAttended]
    · exact absurd (custody.bounded had) (fresh ▸ Nat.lt_irrefl _)
  · simp [untaken] at taken

/-- **Every move keeps the invariant.** -/
theorem step (custody : Custody state) (sound : state.upstream.Sound)
    (moved : Moves state move next effects) : Custody next where
  single := custody.single_step moved
  bounded := custody.bounded_step sound moved
  taken := custody.taken_step sound moved
  tended := custody.tended_step moved
  untaken := custody.untaken_step moved

end Custody

/-- The invariant holds after every history. -/
theorem History.custody {first now : State} {past : List Occurrence}
    (history : History first past now) (unused : first.Unused) : Custody now := by
  induction history with
  | start => exact .of_unused unused
  | move before step ih => exact ih.step (before.sound unused) (step_cases step)

/-! ## Consumers that are closed -/

/-- Whoever closes a consumer has had its mailbox, and leaves the consumer's end of it. -/
theorem Moves.of_consumerClosed {state next : State} {move : Move} {effects : List Effect}
    {mailbox : MailboxId} (moved : Moves state move next effects)
    (shown : .consumerClosed mailbox ∈ effects) :
    next.upstream = state.upstream.closeConsumer mailbox ∧
      ∃ site keeper, state.Keeps site mailbox keeper := by
  have quiet : ¬effects.all Effect.isPlain = true := fun plain =>
    Bool.noConfusion (List.all_eq_true.mp plain _ shown)
  cases moved with
  | start _ turn => exact absurd turn.plain quiet
  | stop _ turn => exact absurd turn.plain quiet
  | attach present turn =>
      cases turn with
      | activated turn =>
          cases turn with
          | consumerUndone _ =>
              obtain rfl : mailbox = _ := by simpa using shown
              exact ⟨rfl, _, _, .job present rfl⟩
          | _ => simp at shown
      | _ => simp at shown
  | relay present turn =>
      cases turn with
      | consumerClosed _ =>
          obtain rfl : mailbox = _ := by simpa using shown
          exact ⟨rfl, _, _, .relay present rfl rfl⟩
      | _ => simp at shown
  | _ => simp at shown

/-- **A consumer's end is left in the turn that shows it, and in no other.** -/
theorem Moves.isAttended_iff {state next : State} {move : Move} {effects : List Effect}
    {mailbox : MailboxId} (moved : Moves state move next effects) (custody : Custody state) :
    next.upstream.isAttended mailbox = true ↔
      state.upstream.isAttended mailbox = true ∧ .consumerClosed mailbox ∉ effects := by
  by_cases shown : .consumerClosed mailbox ∈ effects
  · obtain ⟨closed, _, _, had⟩ := moved.of_consumerClosed shown
    have bound := custody.bounded had
    simp [shown, closed, Upstream.isAttended, Upstream.closeConsumer, Upstream.modifyMailbox, bound]
  · have same : next.upstream.isAttended mailbox = state.upstream.isAttended mailbox := by
      refine (Custody.isAttended_step moved).resolve_right ?_
      rintro ⟨_, _, _, _, also⟩
      exact shown also
    simp [same, shown]

/-- **A consumer that is shown as closed is closed, and no other is**: deliveries reach a mailbox as
long as nobody has closed its consumer. -/
theorem History.isAttended_iff {first now : State} {past : List Occurrence} {mailbox : MailboxId}
    (history : History first past now) (unused : first.Unused) :
    now.upstream.isAttended mailbox = true ↔
      ∀ occurrence ∈ past, .consumerClosed mailbox ∉ occurrence.effects := by
  induction history with
  | start => simp [Upstream.isAttended, unused.mailboxes]
  | move before step ih =>
      rw [(step_cases step).isAttended_iff (before.custody unused), ih]
      simp [or_imp, forall_and]

/-! ## What a relay has received -/

/-- A relay keeps its route, its topics and its mailbox. -/
theorem Moves.relay_kept {state next : State} {move : Move} {effects : List Effect}
    {relay : RelayId} {found : Relay} (moved : Moves state move next effects)
    (present : state.relays[relay]? = some found) :
    ∃ after, next.relays[relay]? = some after ∧ after.mailbox = found.mailbox ∧
      after.topics = found.topics ∧ after.run = found.run ∧ after.place = found.place := by
  obtain ⟨after, now, _⟩ := moved.serves ⟨found, present, rfl, rfl⟩
  refine ⟨after, now, ?_⟩
  cases moved.origin now with
  | kept was =>
      cases present.symm.trans was
      exact ⟨rfl, rfl, rfl, rfl⟩
  | told was same _ =>
      cases present.symm.trans was
      rw [same]
      exact ⟨rfl, rfl, rfl, rfl⟩
  | moved was _ _ same =>
      cases present.symm.trans was
      rw [same]
      exact ⟨rfl, rfl, rfl, rfl⟩
  | spawned new _ _ _ =>
      subst new
      simp at present

theorem History.relay_kept {middle now : State} {later : List Occurrence} {relay : RelayId}
    {found : Relay} (rest : History middle later now)
    (present : middle.relays[relay]? = some found) :
    ∃ after, now.relays[relay]? = some after ∧ after.mailbox = found.mailbox ∧
      after.topics = found.topics ∧ after.run = found.run ∧ after.place = found.place := by
  induction rest with
  | start => exact ⟨found, present, rfl, rfl, rfl, rfl⟩
  | move _ step ih =>
      obtain ⟨between, there, mailbox, topics, run, place⟩ := ih
      obtain ⟨after, now, sameMailbox, sameTopics, sameRun, samePlace⟩ :=
        (step_cases step).relay_kept there
      exact ⟨after, now, sameMailbox.trans mailbox, sameTopics.trans topics, sameRun.trans run,
        samePlace.trans place⟩

/-- A relay that receives something is there. -/
theorem Moves.relay_of_received {state next : State} {move : Move} {effects : List Effect}
    {relay : RelayId} {delivery : Delivery} (moved : Moves state move next effects)
    (among : Effect.received relay delivery ∈ effects) :
    ∃ found, state.relays[relay]? = some found := by
  cases moved.handling with
  | received _ present _ _ shown =>
      subst shown
      simp only [List.mem_cons, Effect.received.injEq, reduceCtorEq, List.not_mem_nil, or_false]
        at among
      exact ⟨_, among.1 ▸ present⟩
  | kept _ _ _ silent => exact absurd among silent
  | disconnected _ _ _ silent => exact absurd among silent
  | delivered _ _ shown => simp [shown] at among
  | left _ _ _ _ shown => simp [shown] at among
  | undone _ _ _ shown => simp [shown] at among
  | connected _ _ _ _ _ shown => simp [shown] at among

/-- **What was taken out of the mailbox of a relay is what the relay has received.** -/
theorem History.takenFrom_eq {first middle now : State} {past later : List Occurrence}
    {relay : RelayId} {found : Relay} (history : History first past middle)
    (unused : first.Unused) (rest : History middle later now)
    (present : now.relays[relay]? = some found) :
    takenFrom found.mailbox later = deliveredTo relay later := by
  have custody := (history.append rest).custody unused
  refine List.flatMap_congr fun occurrence among => ?_
  obtain ⟨before, after, rfl⟩ := List.append_of_mem among
  obtain ⟨_, step, onward⟩ := rest.occurrence
  have onward := (History.single step).append onward
  refine List.filterMap_congr fun effect shown => ?_
  cases effect with
  | received other delivery =>
      -- Whoever received it is still there, and only one relay has the mailbox.
      obtain ⟨receiver, there⟩ := (step_cases step).relay_of_received shown
      obtain ⟨after, still, same, _⟩ := onward.relay_kept there
      by_cases mine : other = relay
      · subst mine
        cases present.symm.trans still
        simp [Effect.taken?, Effect.delivery?, there, same]
      · have apart : receiver.mailbox ≠ found.mailbox := by
          intro shared
          cases custody.single (.relay still rfl (same.trans shared)) (.relay present rfl rfl)
          exact mine rfl
        simp [Effect.taken?, Effect.delivery?, there, apart, mine]
  | _ => rfl

end TopicRelay
