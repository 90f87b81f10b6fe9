import TopicRelay.Failure
import TopicRelay.Message

/-!
# The queue side

Queues held in memory.  Deliveries to a queue wait in its mailbox; a consumer takes the
mailbox over and empties it.  Whoever connects to a queue whose mailbox has been taken
gets a fresh mailbox, and the older one ends for its consumer once it is empty.  Closing
the connection to the queues ends all mailboxes.

The switches of the connection inject failures: a connection that cannot be opened or
does not close cleanly, and queues that refuse the next consumers.
-/

namespace TopicRelay

set_option autoImplicit false

/-- What a consumer may find: a message, or a failure to receive one. -/
inductive Delivery where
  | message (message : Message)
  | failure (reason : String)
  deriving Repr

/-- A mailbox is known by the order in which it was set up. -/
abbrev MailboxId : Type := Nat

/-- Deliveries on their way to one consumer. -/
structure Mailbox where
  waiting : List Delivery := []
  /-- Whether more deliveries can arrive. -/
  supplied : Bool := true
  /-- Whether the consumer's end is open. -/
  attended : Bool := true
  deriving Repr

/-- The mailbox of a queue, and whether a consumer has taken it over. -/
structure QueueEnd where
  mailbox : MailboxId
  taken : Bool
  deriving DecidableEq, Repr

/-- What a consumer connects as. -/
structure Subscription where
  queue : String
  durableName : String
  clientId : String
  deriving DecidableEq, Repr

/-- The connection to the queues. -/
structure Upstream where
  isOpen : Bool := false
  clientId : Option String := none
  mailboxes : List Mailbox := []
  queues : Table QueueEnd := []
  /-- Every subscription that was ever made. -/
  subscriptions : List Subscription := []
  /-- How many of the next consumers each queue refuses. -/
  refusals : Table Nat := []
  /-- How long it takes to connect a consumer, in milliseconds. -/
  connectDelay : Option Nat := none
  failOpen : Bool := false
  failClose : Bool := false
  deriving Repr

/-- What a consumer gets when it asks for the next delivery. -/
inductive Receipt where
  | nothingYet
  | delivery (delivery : Delivery)
  | ended
  deriving Repr

namespace Upstream

/-! ## Mailboxes -/

/-- Changes one mailbox. -/
def modifyMailbox (upstream : Upstream) (mailbox : MailboxId) (change : Mailbox → Mailbox) :
    Upstream :=
  { upstream with mailboxes := upstream.mailboxes.modify mailbox change }

/-- Sets up an empty mailbox for a queue. -/
def addMailbox (upstream : Upstream) (queue : String) (taken : Bool) : Upstream × MailboxId :=
  let mailbox := upstream.mailboxes.length
  ({ upstream with
      mailboxes := upstream.mailboxes ++ [{}]
      queues := upstream.queues.insert queue ⟨mailbox, taken⟩ }, mailbox)

/-- Puts a delivery into the mailbox of its queue; it is lost if the consumer has left. -/
def deliver (upstream : Upstream) (queue : String) (delivery : Delivery) : Upstream :=
  let (upstream, mailbox) :=
    match upstream.queues.get? queue with
    | some queueEnd => (upstream, queueEnd.mailbox)
    | none => upstream.addMailbox queue false
  upstream.modifyMailbox mailbox fun box =>
    if box.attended then { box with waiting := box.waiting ++ [delivery] } else box

/-- What waits for the next consumer of a queue. -/
def buffered (upstream : Upstream) (queue : String) : List Delivery :=
  match upstream.queues.get? queue with
  | some queueEnd =>
    if queueEnd.taken then [] else (upstream.mailboxes[queueEnd.mailbox]?.map (·.waiting)).getD []
  | none => []

/-- The next delivery of a mailbox, without taking it. -/
def peek (upstream : Upstream) (mailbox : MailboxId) : Receipt :=
  match upstream.mailboxes[mailbox]? with
  | none => .ended
  | some box =>
    match box.waiting with
    | delivery :: _ => .delivery delivery
    | [] => if box.supplied then .nothingYet else .ended

/-- Takes the next delivery out of a mailbox. -/
def takeNext (upstream : Upstream) (mailbox : MailboxId) : Upstream :=
  upstream.modifyMailbox mailbox fun box => { box with waiting := box.waiting.tail }

/-- Closes the consumer's end of a mailbox; what waits in it is lost. -/
def closeConsumer (upstream : Upstream) (mailbox : MailboxId) : Upstream :=
  upstream.modifyMailbox mailbox fun box => { box with attended := false }

/-! ## The connection -/

/-- Opens the connection under a name. -/
def connect (upstream : Upstream) (clientId : String) : Except TransportFailure Upstream :=
  if upstream.failOpen then .error ⟨"upstream source refused connection", []⟩
  else .ok { upstream with clientId := some clientId, isOpen := true }

/-- Closes the connection, whatever is reported about it. -/
def disconnect (upstream : Upstream) : Except TransportFailure Unit × Upstream :=
  let closed := { upstream with
    isOpen := false
    queues := []
    mailboxes := upstream.mailboxes.map fun box => { box with supplied := false } }
  (if upstream.failClose then .error ⟨"upstream connection did not close cleanly", []⟩
    else .ok (), closed)

/-- Uses up one refusal of a queue. -/
def useRefusal (upstream : Upstream) (queue : String) (left : Nat) : Upstream :=
  { upstream with refusals := upstream.refusals.insert queue left }

/-- Takes over the mailbox of a queue, or sets up a fresh one if it has been taken. -/
def takeMailbox (upstream : Upstream) (queue : String) : Upstream × MailboxId :=
  match upstream.queues.get? queue with
  | none => upstream.addMailbox queue true
  | some queueEnd =>
    if queueEnd.taken then
      (upstream.modifyMailbox queueEnd.mailbox fun box => { box with supplied := false }).addMailbox
        queue true
    else
      ({ upstream with queues := upstream.queues.insert queue ⟨queueEnd.mailbox, true⟩ },
        queueEnd.mailbox)

/-- Connects a consumer to a queue. -/
def consume (upstream : Upstream) (subscription : Subscription) :
    Except TransportFailure MailboxId × Upstream :=
  if !upstream.isOpen then (.error ⟨"upstream source is not open", []⟩, upstream)
  else
    match (upstream.refusals.get? subscription.queue).getD 0 with
    | left + 1 =>
      (.error ⟨"unable to consume " ++ subscription.queue, []⟩,
        upstream.useRefusal subscription.queue left)
    | 0 =>
      let (upstream, mailbox) := upstream.takeMailbox subscription.queue
      (.ok mailbox,
        { upstream with subscriptions := upstream.subscriptions ++ [subscription] })

/-- How many consumers were ever connected to a queue. -/
def connectCount (upstream : Upstream) (queue : String) : Nat :=
  upstream.subscriptions.countP fun subscription => subscription.queue == queue

end Upstream

end TopicRelay
