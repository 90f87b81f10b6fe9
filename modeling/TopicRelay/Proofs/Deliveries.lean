import TopicRelay.Proofs.Connectivity
import TopicRelay.Proofs.Feed

/-!
# What goes through a mailbox

What others deliver to a queue is put at the end of the mailbox of the queue, and relays take
deliveries out of a mailbox at its front.  So what was put into a mailbox is, in this order, what
was taken out of it and what still waits in it (`History.deposited`), whoever connects a consumer
meanwhile, closes one, or closes the connection.
-/

namespace TopicRelay

set_option autoImplicit false

namespace Upstream

/-! ## Looking into mailboxes -/

/-- The mailbox that a delivery to a queue goes into; a queue without one gets a fresh one. -/
def address (upstream : Upstream) (queue : String) : MailboxId :=
  match upstream.queues.get? queue with
  | some queueEnd => queueEnd.mailbox
  | none => upstream.mailboxes.length

/-- What waits in a mailbox. -/
def waiting (upstream : Upstream) (mailbox : MailboxId) : List Delivery :=
  ((upstream.mailboxes[mailbox]?).map (·.waiting)).getD []

/-- Whether the consumer's end of a mailbox is open, as it is when the mailbox is set up. -/
def isAttended (upstream : Upstream) (mailbox : MailboxId) : Bool :=
  ((upstream.mailboxes[mailbox]?).map (·.attended)).getD true

variable {upstream next : Upstream} {mailbox other : MailboxId} {queue : String}
  {delivery : Delivery}

theorem waiting_congr (same : next.mailboxes = upstream.mailboxes) :
    next.waiting mailbox = upstream.waiting mailbox := by
  rw [waiting, same, waiting]

/-- A mailbox is changed, but nothing is put into it or taken out of it. -/
theorem waiting_modifyMailbox {change : Mailbox → Mailbox}
    (keeps : ∀ box, (change box).waiting = box.waiting) :
    (upstream.modifyMailbox other change).waiting mailbox = upstream.waiting mailbox := by
  rw [waiting, mailboxes_modifyMailbox, waiting, Option.map_map]
  congr 2
  funext box
  by_cases same : other = mailbox <;> simp [same, keeps]

theorem waiting_closeConsumer :
    (upstream.closeConsumer other).waiting mailbox = upstream.waiting mailbox :=
  waiting_modifyMailbox fun _ => rfl

/-- A fresh mailbox is empty. -/
theorem waiting_addMailbox {taken : Bool} :
    (upstream.addMailbox queue taken).1.waiting mailbox = upstream.waiting mailbox := by
  rw [waiting, addMailbox, getElem?_concat_eq_ite, waiting]
  split
  · rename_i new
    rw [List.getElem?_eq_none (Nat.le_of_eq new.symm)]
    rfl
  · rfl

theorem waiting_takeMailbox :
    (upstream.takeMailbox queue).1.waiting mailbox = upstream.waiting mailbox := by
  unfold takeMailbox
  cases upstream.queues.get? queue with
  | none => exact waiting_addMailbox
  | some queueEnd =>
      dsimp only
      split
      · exact waiting_addMailbox.trans (waiting_modifyMailbox fun _ => rfl)
      · rfl

/-- Connecting a consumer takes nothing out of any mailbox. -/
theorem waiting_consume {subscription : Subscription}
    {outcome : Except TransportFailure MailboxId}
    (consumed : upstream.consume subscription = (outcome, next)) :
    next.waiting mailbox = upstream.waiting mailbox := by
  rcases consume_cases upstream subscription with ⟨_, _, mailboxes, _⟩ | ⟨_, mailboxes, _⟩
  · rw [consumed] at mailboxes
    exact waiting_congr mailboxes
  · rw [consumed] at mailboxes
    exact (waiting_congr mailboxes).trans waiting_takeMailbox

theorem waiting_disconnect :
    upstream.disconnect.2.waiting mailbox = upstream.waiting mailbox := by
  simp only [disconnect, waiting, List.getElem?_map, Option.map_map]
  rfl

/-- Taking the next delivery out of a mailbox. -/
theorem waiting_takeNext :
    (upstream.takeNext other).waiting mailbox =
      if other = mailbox then (upstream.waiting mailbox).tail else upstream.waiting mailbox := by
  rw [waiting, takeNext, mailboxes_modifyMailbox, waiting]
  cases upstream.mailboxes[mailbox]? with
  | none => simp
  | some box =>
      by_cases same : other = mailbox <;> simp [same]

/-- What a consumer sees of its mailbox is what waits there first. -/
theorem waiting_of_peek (peeked : upstream.peek mailbox = .delivery delivery) :
    upstream.waiting mailbox = delivery :: (upstream.waiting mailbox).tail := by
  unfold peek at peeked
  unfold waiting
  cases present : upstream.mailboxes[mailbox]? with
  | none => simp [present] at peeked
  | some box =>
      simp only [present] at peeked
      cases waits : box.waiting with
      | nil =>
          simp only [waits] at peeked
          split at peeked <;> cases peeked
      | cons first rest =>
          simp only [waits, Receipt.delivery.injEq] at peeked
          simp [waits, peeked]

/-- A delivery is put at the end of a mailbox whose consumer has not left. -/
theorem waiting_put :
    (upstream.modifyMailbox other fun box =>
      if box.attended then { box with waiting := box.waiting ++ [delivery] }
      else box).waiting mailbox = upstream.waiting mailbox ++
        if other = mailbox ∧ (upstream.mailboxes[mailbox]?).any (·.attended) = true
        then [delivery] else [] := by
  rw [waiting, mailboxes_modifyMailbox, waiting]
  cases upstream.mailboxes[mailbox]? with
  | none => simp
  | some box =>
      by_cases same : other = mailbox
      · cases attended : box.attended <;> simp [same, attended]
      · simp [same]

/-- A delivery goes to the end of the mailbox of its queue. -/
theorem waiting_deliver (sound : upstream.Sound) :
    (upstream.deliver queue delivery).waiting mailbox = upstream.waiting mailbox ++
      if upstream.address queue = mailbox ∧ upstream.isAttended mailbox = true then [delivery]
      else [] := by
  unfold deliver address isAttended
  cases found : upstream.queues.get? queue with
  | none =>
      refine waiting_put.trans (congrArg₂ _ waiting_addMailbox ?_)
      by_cases new : upstream.mailboxes.length = mailbox
      · subst new
        simp
      · simp [new]
  | some queueEnd =>
      refine waiting_put.trans (congrArg _ ?_)
      obtain ⟨box, present, _⟩ := sound.supplied found
      by_cases here : queueEnd.mailbox = mailbox
      · subst here
        simp [present]
      · simp [here]

end Upstream

/-! ## What a move puts into a mailbox and takes out of it -/

/-- What a relay has received. -/
def Effect.delivery? (relay : RelayId) : Effect → Option Delivery
  | .received other delivery => if other = relay then some delivery else none
  | _ => none

/-- What a relay has taken out of a mailbox. -/
def Effect.taken? (state : State) (mailbox : MailboxId) : Effect → Option Delivery
  | .received relay delivery =>
    if (state.relays[relay]?).map (·.mailbox) = some mailbox then some delivery else none
  | _ => none

/-- The delivery that a change puts into a mailbox, if it puts one into it. -/
def State.puts (state : State) (mailbox : MailboxId) : Move → List Delivery
  | .change (.deliver queue delivery) =>
    if state.upstream.address queue = mailbox ∧ state.upstream.isAttended mailbox = true then
      [delivery]
    else []
  | _ => []

/-- What a move delivers to a queue. -/
def Move.deliveries (queue : String) : Move → List Delivery
  | .change (.deliver other delivery) => if other = queue then [delivery] else []
  | _ => []

/-- A move that delivers nothing puts nothing into a mailbox. -/
theorem State.puts_eq_nil {state : State} {move : Move} {mailbox : MailboxId}
    (undelivered : ∀ queue, move.deliveries queue = []) : state.puts mailbox move = [] := by
  cases move with
  | change change =>
      cases change with
      | deliver queue delivery => simp [Move.deliveries] at undelivered
      | _ => rfl
  | _ => rfl

namespace Occurrence

/-- What a move has put into a mailbox. -/
def deposits (mailbox : MailboxId) (occurrence : Occurrence) : List Delivery :=
  occurrence.before.puts mailbox occurrence.move

/-- What a move has taken out of a mailbox. -/
def takes (mailbox : MailboxId) (occurrence : Occurrence) : List Delivery :=
  occurrence.effects.filterMap (Effect.taken? occurrence.before mailbox)

end Occurrence

/-- Everything that was put into a mailbox, in order. -/
def depositedIn (mailbox : MailboxId) (past : List Occurrence) : List Delivery :=
  past.flatMap (Occurrence.deposits mailbox)

/-- Everything that was taken out of a mailbox, in order. -/
def takenFrom (mailbox : MailboxId) (past : List Occurrence) : List Delivery :=
  past.flatMap (Occurrence.takes mailbox)

/-- Everything that a relay has received, in order. -/
def deliveredTo (relay : RelayId) (past : List Occurrence) : List Delivery :=
  past.flatMap fun occurrence => occurrence.effects.filterMap (Effect.delivery? relay)

/-- The payload of a message. -/
def Delivery.payload? : Delivery → Option String
  | .message content => some content.payload
  | .failure _ => none

/-- The payloads of the messages among some deliveries. -/
def payloads (deliveries : List Delivery) : List String := deliveries.filterMap Delivery.payload?

theorem payloads_append (deliveries more : List Delivery) :
    payloads (deliveries ++ more) = payloads deliveries ++ payloads more := by
  simp [payloads]

/-- Of what a relay has received, the messages count. -/
theorem payloads_deliveredTo (relay : RelayId) (past : List Occurrence) :
    payloads (deliveredTo relay past) = receivedBy relay past := by
  have each : ∀ effect : Effect,
      (effect.delivery? relay).bind Delivery.payload? = effect.received? relay := by
    intro effect
    cases effect with
    | received other delivery =>
        by_cases same : other = relay <;> cases delivery <;>
          simp [Effect.delivery?, Effect.received?, Delivery.payload?, same]
    | _ => rfl
  simp only [payloads, deliveredTo, receivedBy, List.filterMap_flatMap, List.filterMap_filterMap,
    each]

/-- What a move does on the queue side, and which call or relay does it.  The connection is closed
by a call that has opened it or has still to close it, or by someone else. -/
inductive Handling (state : State) (move : Move) (next : State) (effects : List Effect) :
    Prop where
  | kept (mailboxes : next.upstream.mailboxes = state.upstream.mailboxes)
      (queues : next.upstream.queues = state.upstream.queues)
      (undelivered : ∀ queue, move.deliveries queue = [])
      (silent : ∀ {relay delivery}, Effect.received relay delivery ∉ effects)
  | delivered {queue : String} {delivery : Delivery}
      (is : move = .change (.deliver queue delivery))
      (same : next = state.change (.deliver queue delivery)) (silent : effects = [])
  | received {relay : RelayId} {heed : Bool} {found : Relay} {delivery : Delivery} {event : Event}
      (mine : move = .relay relay heed) (present : state.relays[relay]? = some found)
      (peeked : state.upstream.peek found.mailbox = .delivery delivery)
      (same : next.upstream = state.upstream.takeNext found.mailbox)
      (shown : effects = [.received relay delivery, .report event])
  | left {relay : RelayId} {heed : Bool} {found : Relay} (mine : move = .relay relay heed)
      (present : state.relays[relay]? = some found) (phase : found.phase = .closingConsumer)
      (same : next = { state with
        upstream := state.upstream.closeConsumer found.mailbox }.setRelayPhase relay
          (.closingProducers found.topics))
      (shown : effects = [.consumerClosed found.mailbox])
  | undone {job : JobId} {topic : String} {run : RunId} {place : Place} {mailbox : MailboxId}
      {failure : TransportFailure} {result : Except SubscribeFailure Unit} {event : Event}
      (mine : move = .job job)
      (present : state.jobs[job]? =
        some (.attach topic (.activating run (.undoing place mailbox [] failure))))
      (same : next = ({ state with
        upstream := state.upstream.closeConsumer mailbox }.releaseSlot run place).setJob job
          (.attach topic (.done result)))
      (shown : effects = [.consumerClosed mailbox, .report event])
  | connected {job : JobId} {topic : String} {run : RunId} {place : Place} {ahead : List Place}
      {due : Nat} {route : Route} {mailbox : MailboxId} {upstream : Upstream}
      (mine : move = .job job)
      (present : state.jobs[job]? =
        some (.attach topic (.activating run (.connecting place ahead due))))
      (here : state.route? run place = some route)
      (consumed : state.upstream.consume (state.subscription route) = (.ok mailbox, upstream))
      (same : next = { state with upstream := upstream }.setJob job
        (.attach topic (.activating run (.producing place ahead mailbox [] route.topics))))
      (shown : effects = [.consumerOpened mailbox])
  | disconnected (same : next.upstream = state.upstream.disconnect.2)
      (closer : move = .closeSource ∨ ∃ job found, move = .job job ∧
        state.jobs[job]? = some found ∧ found.hasSource = true)
      (undelivered : ∀ queue, move.deliveries queue = [])
      (silent : ∀ {relay delivery}, Effect.received relay delivery ∉ effects)

/-- The turn of an activation. -/
theorem Activates.handling {state next : State} {job : JobId} {run : RunId} {topic : String}
    {phase : ActivationPhase} {advance : Advance ActivationPhase (Except ActivationFailure Unit)}
    {effects : List Effect}
    (present : state.jobs[job]? = some (.attach topic (.activating run phase)))
    (turn : Activates state job run topic phase advance next effects) :
    Handling state (.job job)
      (next.setJob job (.attach topic (State.attachAfter run advance))) effects := by
  cases turn with
  | connected here consumed => exact .connected rfl present here consumed rfl rfl
  | @unconnected _ _ _ route failure upstream here refused =>
      rcases Upstream.consume_cases state.upstream (state.subscription route) with
        ⟨_, _, mailboxes, queues⟩ | ⟨given, _⟩
      · rw [refused] at mailboxes queues
        exact .kept mailboxes queues (fun _ => rfl) (by simp)
      · simp [refused] at given
  | consumerUndone here => exact .undone rfl present rfl rfl
  | _ => exact .kept rfl rfl (fun _ => rfl) (by simp)

/-- The turn of a relay. -/
theorem Forwards.handling {state next : State} {relay : RelayId} {heed : Bool} {found : Relay}
    {effects : List Effect} (present : state.relays[relay]? = some found)
    (turn : Forwards state relay found next effects) :
    Handling state (.relay relay heed) next effects := by
  cases turn with
  | received _ peeked => exact .received rfl present peeked rfl rfl
  | failed _ peeked => exact .received rfl present peeked rfl rfl
  | consumerClosed phase => exact .left rfl present phase rfl rfl
  | _ => exact .kept rfl rfl (fun _ => rfl) (by simp)

/-- What others do. -/
theorem change_handling (state : State) (change : Change) :
    Handling state (.change change) (state.change change) [] := by
  cases change with
  | deliver queue delivery => exact .delivered rfl rfl rfl
  | switch fault on => cases fault <;> exact .kept rfl rfl (fun _ => rfl) (by simp)
  | setNames names =>
      refine .kept ?_ ?_ (fun _ => rfl) (by simp) <;> simp only [State.change, State.rescript] <;>
        split <;> rfl
  | setPrincipal principal =>
      refine .kept ?_ ?_ (fun _ => rfl) (by simp) <;> simp only [State.change, State.rescript] <;>
        split <;> rfl
  | _ => exact .kept rfl rfl (fun _ => rfl) (by simp)

theorem not_mem_of_plain {effects : List Effect} (plain : effects.all Effect.isPlain = true)
    {relay : RelayId} {delivery : Delivery} : Effect.received relay delivery ∉ effects :=
  fun among => Bool.noConfusion (List.all_eq_true.mp plain _ among)

/-- **Moves do nothing else on the queue side.** -/
theorem Moves.handling {state next : State} {move : Move} {effects : List Effect}
    (moved : Moves state move next effects) : Handling state move next effects := by
  cases moved with
  | start present turn =>
      have plain := turn.plain
      cases turn with
      | sourceOpened connected =>
          unfold Upstream.connect at connected
          split at connected <;> cases connected
          exact .kept rfl rfl (fun _ => rfl) (not_mem_of_plain plain)
      | sourceGivenUp =>
          exact .disconnected rfl (.inr ⟨_, _, rfl, present, rfl⟩) (fun _ => rfl)
            (not_mem_of_plain plain)
      | allGivenUp =>
          exact .disconnected rfl (.inr ⟨_, _, rfl, present, rfl⟩) (fun _ => rfl)
            (not_mem_of_plain plain)
      | _ => exact .kept rfl rfl (fun _ => rfl) (not_mem_of_plain plain)
  | stop present turn =>
      have plain := turn.plain
      cases turn with
      | sourceClosed =>
          exact .disconnected rfl (.inr ⟨_, _, rfl, present, rfl⟩) (fun _ => rfl)
            (not_mem_of_plain plain)
      | _ => exact .kept rfl rfl (fun _ => rfl) (not_mem_of_plain plain)
  | attach present turn =>
      cases turn with
      | activated turn => exact turn.handling present
      | _ => exact .kept rfl rfl (fun _ => rfl) (by simp)
  | relay present turn => exact turn.handling present
  | change => exact change_handling state _
  | closeSource => exact .disconnected rfl (.inl rfl) (fun _ => rfl) (by simp)
  | _ => exact .kept rfl rfl (fun _ => rfl) (by simp)

/-- **One move: what it puts into a mailbox and takes out of it.** -/
theorem Handling.waiting {state next : State} {move : Move} {effects : List Effect}
    (handling : Handling state move next effects) (sound : state.upstream.Sound)
    (mailbox : MailboxId) :
    state.upstream.waiting mailbox ++ Occurrence.deposits mailbox ⟨state, move, next, effects⟩ =
      Occurrence.takes mailbox ⟨state, move, next, effects⟩ ++ next.upstream.waiting mailbox := by
  have untouched : next.upstream.waiting mailbox = state.upstream.waiting mailbox →
      state.puts mailbox move = [] →
        (∀ {relay delivery}, Effect.received relay delivery ∉ effects) →
          state.upstream.waiting mailbox ++
              Occurrence.deposits mailbox ⟨state, move, next, effects⟩ =
            Occurrence.takes mailbox ⟨state, move, next, effects⟩ ++
              next.upstream.waiting mailbox := by
    intro same puts silent
    have none : Occurrence.takes mailbox ⟨state, move, next, effects⟩ = [] := by
      refine List.filterMap_eq_nil_iff.mpr fun effect among => ?_
      cases effect with
      | received relay delivery => exact absurd among silent
      | _ => rfl
    rw [none, same, Occurrence.deposits, puts, List.append_nil, List.nil_append]
  cases handling with
  | kept mailboxes _ undelivered silent =>
      exact untouched (Upstream.waiting_congr mailboxes) (State.puts_eq_nil undelivered) silent
  | delivered is same silent =>
      subst is same silent
      exact (Upstream.waiting_deliver sound).symm
  | @received relay heed found delivery event mine present peeked same shown =>
      subst mine shown
      rw [same, Upstream.waiting_takeNext]
      by_cases here : found.mailbox = mailbox
      · subst here
        simp only [Occurrence.deposits, Occurrence.takes, State.puts, List.append_nil,
          List.filterMap_cons, List.filterMap_nil, Effect.taken?, present, Option.map_some, if_true]
        exact Upstream.waiting_of_peek peeked
      · simp [Occurrence.deposits, Occurrence.takes, State.puts, Effect.taken?, present, here]
  | left mine present phase same shown =>
      subst mine same shown
      exact untouched Upstream.waiting_closeConsumer rfl (by simp)
  | undone mine present same shown =>
      subst mine same shown
      exact untouched Upstream.waiting_closeConsumer rfl (by simp)
  | @connected _ _ _ _ _ _ route _ upstream mine present here consumed same shown =>
      subst mine same shown
      exact untouched (Upstream.waiting_consume consumed) rfl (by simp)
  | disconnected same _ undelivered silent =>
      exact untouched (same ▸ Upstream.waiting_disconnect) (State.puts_eq_nil undelivered) silent

/-- **Nothing is lost or repeated on the way through a mailbox.**  What waits in a mailbox and
what is put into it later is, in this order, what is taken out of it and what waits in it then. -/
theorem History.deposited_from {first middle now : State} {past later : List Occurrence}
    (history : History first past middle) (unused : first.Unused) (rest : History middle later now)
    (mailbox : MailboxId) :
    middle.upstream.waiting mailbox ++ depositedIn mailbox later =
      takenFrom mailbox later ++ now.upstream.waiting mailbox := by
  induction rest with
  | start => simp [depositedIn, takenFrom]
  | @move later now next move effects before step ih =>
      have turn := (step_cases step).handling.waiting ((history.append before).sound unused) mailbox
      simp only [depositedIn, takenFrom, List.flatMap_append, List.flatMap_singleton] at ih ⊢
      rw [← List.append_assoc, ih, List.append_assoc, turn, List.append_assoc]

/-- What was ever put into a mailbox was taken out of it or waits in it. -/
theorem History.deposited {first now : State} {past : List Occurrence}
    (history : History first past now) (unused : first.Unused) (mailbox : MailboxId) :
    depositedIn mailbox past = takenFrom mailbox past ++ now.upstream.waiting mailbox := by
  have empty : first.upstream.waiting mailbox = [] := by
    simp [Upstream.waiting, unused.mailboxes]
  simpa [empty] using History.start.deposited_from unused history mailbox

end TopicRelay
