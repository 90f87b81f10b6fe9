import TopicRelay.Proofs.History
import TopicRelay.Proofs.Turns

/-!
# Mailboxes on the queue side

Whatever happens on the queue side, a queue always has a mailbox of its own that deliveries
can still reach (`Upstream.Sound`).  So a mailbox that has been emptied and gets no more
deliveries stays so: its consumer has seen the last of it (`Upstream.HasEnded`).

`Upstream.Advances` lists what one move may do to the queue side, and `Moves.advances` says
that moves do nothing else.
-/

namespace TopicRelay

set_option autoImplicit false

namespace Upstream

/-! ## What one move does to the queue side -/

/-- What one move may do to the mailboxes. -/
inductive Advances (upstream : Upstream) : Upstream → Prop where
  | kept {next : Upstream} (mailboxes : next.mailboxes = upstream.mailboxes)
      (queues : next.queues = upstream.queues) : Advances upstream next
  | delivered {queue : String} {delivery : Delivery} :
      Advances upstream (upstream.deliver queue delivery)
  | taken {mailbox : MailboxId} : Advances upstream (upstream.takeNext mailbox)
  | closed {mailbox : MailboxId} : Advances upstream (upstream.closeConsumer mailbox)
  | consumed {subscription : Subscription} :
      Advances upstream (upstream.consume subscription).2
  | disconnected : Advances upstream upstream.disconnect.2

/-! ## Mailboxes of queues -/

/-- Every queue has a mailbox of its own, which gets its deliveries. -/
structure Sound (upstream : Upstream) : Prop where
  supplied : ∀ {queue queueEnd}, upstream.queues.get? queue = some queueEnd →
    ∃ box, upstream.mailboxes[queueEnd.mailbox]? = some box ∧ box.supplied = true
  apart : ∀ {queue other queueEnd otherEnd}, upstream.queues.get? queue = some queueEnd →
    upstream.queues.get? other = some otherEnd → queueEnd.mailbox = otherEnd.mailbox →
      queue = other

/-- A mailbox is empty and gets no more deliveries. -/
def HasEnded (upstream : Upstream) (mailbox : MailboxId) : Prop :=
  ∃ box, upstream.mailboxes[mailbox]? = some box ∧ box.waiting = [] ∧ box.supplied = false

variable {upstream next : Upstream} {mailbox other : MailboxId} {queue : String}

theorem Sound.of_queues (none : upstream.queues = []) : upstream.Sound where
  supplied := fun found => by simp [none, Table.get?] at found
  apart := fun found => by simp [none, Table.get?] at found

/-- A consumer sees that its mailbox has ended. -/
theorem peek_eq_ended_iff (bound : mailbox < upstream.mailboxes.length) :
    upstream.peek mailbox = .ended ↔ upstream.HasEnded mailbox := by
  obtain ⟨box, present⟩ : ∃ box, upstream.mailboxes[mailbox]? = some box :=
    ⟨_, List.getElem?_eq_getElem bound⟩
  simp only [peek, HasEnded, present, Option.some.injEq, exists_eq_left']
  cases waiting : box.waiting with
  | nil => cases supplied : box.supplied <;> simp
  | cons delivery rest => simp

theorem HasEnded.lt (ended : upstream.HasEnded mailbox) : mailbox < upstream.mailboxes.length := by
  obtain ⟨box, present, _⟩ := ended
  exact (List.getElem?_eq_some_iff.mp present).1

/-- No queue has a mailbox that has ended. -/
theorem HasEnded.ne {queueEnd : QueueEnd} (ended : upstream.HasEnded mailbox)
    (sound : upstream.Sound) (found : upstream.queues.get? queue = some queueEnd) :
    queueEnd.mailbox ≠ mailbox := by
  rintro rfl
  obtain ⟨box, present, _, cut⟩ := ended
  obtain ⟨_, there, supplied⟩ := sound.supplied found
  cases present.symm.trans there
  simp [cut] at supplied

/-! ### Changing one mailbox -/

theorem mailboxes_modifyMailbox (change : Mailbox → Mailbox) :
    (upstream.modifyMailbox other change).mailboxes[mailbox]? =
      (upstream.mailboxes[mailbox]?).map fun box =>
        if other = mailbox then change box else box := by
  simp only [modifyMailbox, List.getElem?_modify]
  cases upstream.mailboxes[mailbox]? <;> simp

/-- A mailbox is changed, but whether it gets deliveries is not. -/
theorem Sound.modifyMailbox {change : Mailbox → Mailbox} (sound : upstream.Sound)
    (keeps : ∀ box, (change box).supplied = box.supplied) :
    (upstream.modifyMailbox mailbox change).Sound where
  supplied := by
    intro queue queueEnd found
    obtain ⟨box, present, supplied⟩ := sound.supplied found
    refine ⟨_, by rw [mailboxes_modifyMailbox, present]; rfl, ?_⟩
    split
    · exact (keeps box).trans supplied
    · exact supplied
  apart := sound.apart

/-- A mailbox is changed, but not one that has ended. -/
theorem HasEnded.modifyMailbox {change : Mailbox → Mailbox} (ended : upstream.HasEnded mailbox)
    (keeps : ∀ box, other = mailbox → box.waiting = [] → box.supplied = false →
      (change box).waiting = [] ∧ (change box).supplied = false) :
    (upstream.modifyMailbox other change).HasEnded mailbox := by
  obtain ⟨box, present, empty, cut⟩ := ended
  refine ⟨_, by rw [mailboxes_modifyMailbox, present]; rfl, ?_⟩
  split
  · rename_i here
    exact keeps box here empty cut
  · exact ⟨empty, cut⟩

/-! ### A fresh mailbox -/

theorem Sound.addMailbox {taken : Bool}
    (supplied : ∀ {other queueEnd}, other ≠ queue → upstream.queues.get? other = some queueEnd →
      ∃ box, upstream.mailboxes[queueEnd.mailbox]? = some box ∧ box.supplied = true)
    (apart : ∀ {one two oneEnd twoEnd}, upstream.queues.get? one = some oneEnd →
      upstream.queues.get? two = some twoEnd → oneEnd.mailbox = twoEnd.mailbox → one = two) :
    (upstream.addMailbox queue taken).1.Sound := by
  have fresh : ∀ {other queueEnd}, other ≠ queue → upstream.queues.get? other = some queueEnd →
      queueEnd.mailbox ≠ upstream.mailboxes.length := by
    intro other queueEnd different found
    obtain ⟨_, present, _⟩ := supplied different found
    exact Nat.ne_of_lt (List.getElem?_eq_some_iff.mp present).1
  have cases : ∀ {other queueEnd},
      (upstream.addMailbox queue taken).1.queues.get? other = some queueEnd →
        (other = queue ∧ queueEnd.mailbox = upstream.mailboxes.length) ∨
          (other ≠ queue ∧ upstream.queues.get? other = some queueEnd) := by
    intro other queueEnd found
    by_cases same : other = queue
    · subst same
      cases (Table.get?_insert_self ..).symm.trans found
      exact .inl ⟨rfl, rfl⟩
    · exact .inr ⟨same, (Table.get?_insert_of_ne _ _ same).symm.trans found⟩
  constructor
  · intro other queueEnd found
    rcases cases found with ⟨_, new⟩ | ⟨different, old⟩
    · exact ⟨{}, by simp [Upstream.addMailbox, new], rfl⟩
    · obtain ⟨box, present, supply⟩ := supplied different old
      have bound := (List.getElem?_eq_some_iff.mp present).1
      exact ⟨box, (List.getElem?_append_left bound).trans present, supply⟩
  · intro one two oneEnd twoEnd first second same
    rcases cases first with ⟨rfl, new⟩ | ⟨different, old⟩
    · rcases cases second with ⟨rfl, _⟩ | ⟨apart, other⟩
      · rfl
      · exact absurd (same.symm.trans new) (fresh apart other)
    · rcases cases second with ⟨rfl, new⟩ | ⟨_, other⟩
      · exact absurd (same.trans new) (fresh different old)
      · exact apart old other same

theorem HasEnded.addMailbox {taken : Bool} (ended : upstream.HasEnded mailbox) :
    (upstream.addMailbox queue taken).1.HasEnded mailbox := by
  have bound := ended.lt
  obtain ⟨box, present, finished⟩ := ended
  exact ⟨box, (List.getElem?_append_left bound).trans present, finished⟩

/-! ### Consumers -/

theorem Sound.takeMailbox (sound : upstream.Sound) (queue : String) :
    (upstream.takeMailbox queue).1.Sound := by
  unfold Upstream.takeMailbox
  cases found : upstream.queues.get? queue with
  | none => exact Sound.addMailbox (fun _ => sound.supplied) sound.apart
  | some queueEnd =>
      dsimp only
      split
      · refine Sound.addMailbox (fun {other otherEnd} different there => ?_) sound.apart
        obtain ⟨box, present, supplied⟩ := sound.supplied there
        have elsewhere : queueEnd.mailbox ≠ otherEnd.mailbox :=
          fun same => different (sound.apart there found same.symm)
        exact ⟨box, by simp [mailboxes_modifyMailbox, present, elsewhere], supplied⟩
      · have cases : ∀ {other otherEnd},
            (upstream.queues.insert queue ⟨queueEnd.mailbox, true⟩).get? other = some otherEnd →
              ∃ before, upstream.queues.get? other = some before ∧
                otherEnd.mailbox = before.mailbox := by
          intro other otherEnd there
          by_cases same : other = queue
          · subst same
            cases (Table.get?_insert_self ..).symm.trans there
            exact ⟨queueEnd, found, rfl⟩
          · exact ⟨otherEnd, (Table.get?_insert_of_ne _ _ same).symm.trans there, rfl⟩
        constructor
        · intro other otherEnd there
          obtain ⟨before, was, same⟩ := cases there
          rw [same]
          exact sound.supplied was
        · intro one two oneEnd twoEnd first second same
          obtain ⟨_, was, old⟩ := cases first
          obtain ⟨_, also, older⟩ := cases second
          exact sound.apart was also (old.symm.trans (same.trans older))

theorem HasEnded.takeMailbox (ended : upstream.HasEnded mailbox) (queue : String) :
    (upstream.takeMailbox queue).1.HasEnded mailbox := by
  unfold Upstream.takeMailbox
  cases upstream.queues.get? queue with
  | none => exact ended.addMailbox
  | some queueEnd =>
      dsimp only
      split
      · have cut : (upstream.modifyMailbox queueEnd.mailbox fun box =>
            { box with supplied := false }).HasEnded mailbox :=
          ended.modifyMailbox fun _ _ empty _ => ⟨empty, rfl⟩
        exact cut.addMailbox
      · exact ended

/-- The mailbox that a consumer takes over is there. -/
theorem Sound.takeMailbox_lt (sound : upstream.Sound) (queue : String) :
    (upstream.takeMailbox queue).2 < (upstream.takeMailbox queue).1.mailboxes.length := by
  unfold Upstream.takeMailbox
  cases found : upstream.queues.get? queue with
  | none => simp [Upstream.addMailbox]
  | some queueEnd =>
      dsimp only
      split
      · simp [Upstream.addMailbox]
      · obtain ⟨_, present, _⟩ := sound.supplied found
        exact (List.getElem?_eq_some_iff.mp present).1

theorem length_takeMailbox (upstream : Upstream) (queue : String) :
    upstream.mailboxes.length ≤ (upstream.takeMailbox queue).1.mailboxes.length := by
  unfold Upstream.takeMailbox
  cases upstream.queues.get? queue with
  | none => simp [Upstream.addMailbox]
  | some queueEnd =>
      dsimp only
      split
      · simp [Upstream.addMailbox, Upstream.modifyMailbox]
      · exact Nat.le_refl _

/-- A consumer is refused, or takes a mailbox over. -/
theorem consume_cases (upstream : Upstream) (subscription : Subscription) :
    (∃ failure, (upstream.consume subscription).1 = .error failure ∧
        (upstream.consume subscription).2.mailboxes = upstream.mailboxes ∧
          (upstream.consume subscription).2.queues = upstream.queues) ∨
      (upstream.consume subscription).1 = .ok (upstream.takeMailbox subscription.queue).2 ∧
        (upstream.consume subscription).2.mailboxes =
            (upstream.takeMailbox subscription.queue).1.mailboxes ∧
          (upstream.consume subscription).2.queues =
            (upstream.takeMailbox subscription.queue).1.queues := by
  unfold consume
  split
  · exact .inl ⟨_, rfl, rfl, rfl⟩
  · split
    · exact .inl ⟨_, rfl, rfl, rfl⟩
    · exact .inr ⟨rfl, rfl, rfl⟩

/-- The mailbox of a consumer that was not refused is there. -/
theorem Sound.consume_lt {subscription : Subscription} (sound : upstream.Sound)
    (consumed : upstream.consume subscription = (.ok mailbox, next)) :
    mailbox < next.mailboxes.length := by
  rcases consume_cases upstream subscription with ⟨_, refused, _⟩ | ⟨given, mailboxes, _⟩
  · simp [consumed] at refused
  · rw [consumed] at given mailboxes
    cases given
    exact mailboxes ▸ sound.takeMailbox_lt subscription.queue

/-! ### One move -/

theorem Sound.congr (sound : upstream.Sound) (mailboxes : next.mailboxes = upstream.mailboxes)
    (queues : next.queues = upstream.queues) : next.Sound where
  supplied := fun found => mailboxes ▸ sound.supplied (queues ▸ found)
  apart := fun one two => sound.apart (queues ▸ one) (queues ▸ two)

theorem HasEnded.congr (ended : upstream.HasEnded mailbox)
    (mailboxes : next.mailboxes = upstream.mailboxes) : next.HasEnded mailbox := by
  simpa only [HasEnded, mailboxes] using ended

/-- **Every queue keeps a mailbox of its own.** -/
theorem Sound.step (sound : upstream.Sound) (advances : upstream.Advances next) :
    next.Sound := by
  cases advances with
  | kept mailboxes queues => exact sound.congr mailboxes queues
  | @delivered queue delivery =>
      have keeps : ∀ box : Mailbox, (if box.attended then
          { box with waiting := box.waiting ++ [delivery] } else box).supplied = box.supplied := by
        intro box
        split <;> rfl
      unfold Upstream.deliver
      cases upstream.queues.get? queue with
      | none => exact (Sound.addMailbox (fun _ => sound.supplied) sound.apart).modifyMailbox keeps
      | some queueEnd => exact sound.modifyMailbox keeps
  | taken => exact sound.modifyMailbox fun _ => rfl
  | closed => exact sound.modifyMailbox fun _ => rfl
  | @consumed subscription =>
      rcases consume_cases upstream subscription with ⟨_, _, mailboxes, queues⟩ |
        ⟨_, mailboxes, queues⟩
      · exact sound.congr mailboxes queues
      · exact (sound.takeMailbox subscription.queue).congr mailboxes queues
  | disconnected => exact .of_queues rfl

/-- **A mailbox that has ended gets nothing more.** -/
theorem HasEnded.step (ended : upstream.HasEnded mailbox) (sound : upstream.Sound)
    (advances : upstream.Advances next) : next.HasEnded mailbox := by
  cases advances with
  | kept mailboxes _ => exact ended.congr mailboxes
  | @delivered queue delivery =>
      unfold Upstream.deliver
      cases found : upstream.queues.get? queue with
      | none =>
          refine ended.addMailbox.modifyMailbox fun _ here => ?_
          exact absurd here (Nat.ne_of_gt ended.lt)
      | some queueEnd =>
          exact ended.modifyMailbox fun _ here => absurd here (ended.ne sound found)
  | taken => exact ended.modifyMailbox fun box _ empty cut => ⟨by simp [empty], cut⟩
  | closed => exact ended.modifyMailbox fun box _ empty cut => ⟨empty, cut⟩
  | @consumed subscription =>
      rcases consume_cases upstream subscription with ⟨_, _, mailboxes, _⟩ | ⟨_, mailboxes, _⟩
      · exact ended.congr mailboxes
      · exact (ended.takeMailbox subscription.queue).congr mailboxes
  | disconnected =>
      obtain ⟨box, present, empty, _⟩ := ended
      exact ⟨{ box with supplied := false }, by simp [Upstream.disconnect, present], empty, rfl⟩

theorem Advances.length_le (advances : upstream.Advances next) :
    upstream.mailboxes.length ≤ next.mailboxes.length := by
  cases advances with
  | kept mailboxes _ => exact Nat.le_of_eq (congrArg _ mailboxes.symm)
  | @delivered queue delivery =>
      unfold Upstream.deliver
      cases upstream.queues.get? queue <;> simp [Upstream.modifyMailbox, Upstream.addMailbox]
  | taken => simp [Upstream.takeNext, Upstream.modifyMailbox]
  | closed => simp [Upstream.closeConsumer, Upstream.modifyMailbox]
  | @consumed subscription =>
      rcases consume_cases upstream subscription with ⟨_, _, mailboxes, _⟩ | ⟨_, mailboxes, _⟩
      · exact Nat.le_of_eq (congrArg _ mailboxes.symm)
      · rw [mailboxes]
        exact length_takeMailbox upstream subscription.queue
  | disconnected => simp [Upstream.disconnect]

end Upstream

/-! ## The queue side of a bridge -/

theorem Activates.advances {state next : State} {job : JobId} {run : RunId} {topic : String}
    {phase : ActivationPhase} {advance : Advance ActivationPhase (Except ActivationFailure Unit)}
    {effects : List Effect} (turn : Activates state job run topic phase advance next effects) :
    state.upstream.Advances next.upstream := by
  cases turn with
  | @connected _ _ _ route mailbox upstream here consumed =>
      have same : (state.upstream.consume (state.subscription route)).2 = upstream := by
        rw [consumed]
      exact same ▸ .consumed
  | @unconnected _ _ _ route failure upstream here refused =>
      have same : (state.upstream.consume (state.subscription route)).2 = upstream := by
        rw [refused]
      exact same ▸ .consumed
  | consumerUndone _ => exact .closed
  | _ => exact .kept rfl rfl

theorem Forwards.advances {state next : State} {relay : RelayId} {found : Relay}
    {effects : List Effect} (turn : Forwards state relay found next effects) :
    state.upstream.Advances next.upstream := by
  cases turn with
  | received _ _ => exact .taken
  | failed _ _ => exact .taken
  | consumerClosed _ => exact .closed
  | _ => exact .kept rfl rfl

theorem change_advances (state : State) (change : Change) :
    state.upstream.Advances (state.change change).upstream := by
  rcases (change_fromOutside state change).upstream with ⟨queue, delivery, same⟩ | ⟨_, boxes, ends⟩
  · rw [same]
    exact .delivered
  · exact .kept boxes ends

/-- **Moves do nothing else to the queue side.** -/
theorem Moves.advances {state next : State} {move : Move} {effects : List Effect}
    (moved : Moves state move next effects) : state.upstream.Advances next.upstream := by
  cases moved with
  | start _ turn =>
      cases turn with
      | @sourceOpened _ _ upstream connected =>
          unfold Upstream.connect at connected
          split at connected <;> cases connected
          exact .kept rfl rfl
      | sourceGivenUp => exact .disconnected
      | allGivenUp => exact .disconnected
      | _ => exact .kept rfl rfl
  | stop _ turn =>
      cases turn with
      | sourceClosed => exact .disconnected
      | _ => exact .kept rfl rfl
  | attach _ turn =>
      cases turn with
      | activated turn => exact turn.advances
      | _ => exact .kept rfl rfl
  | relay _ turn => exact turn.advances
  | change => exact change_advances state _
  | closeSource => exact .disconnected
  | _ => exact .kept rfl rfl

/-- Every queue has a mailbox of its own after every history. -/
theorem History.sound {first now : State} {past : List Occurrence}
    (history : History first past now) (unused : first.Unused) : now.upstream.Sound :=
  history.preserves (P := fun state => state.upstream.Sound) (.of_queues unused.queues)
    fun sound step => sound.step (step_cases step).advances

/-- A mailbox that has ended gets nothing more, whatever happens later. -/
theorem History.hasEnded {first middle now : State} {past later : List Occurrence}
    {mailbox : MailboxId} (history : History first past middle) (unused : first.Unused)
    (ended : middle.upstream.HasEnded mailbox) (rest : History middle later now) :
    now.upstream.HasEnded mailbox := by
  induction rest with
  | start => exact ended
  | move before step ih =>
      exact ih.step ((history.append before).sound unused) (step_cases step).advances

end TopicRelay
