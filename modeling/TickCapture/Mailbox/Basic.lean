import TickCapture.Fault

/-! # Bounded prioritised mailboxes

A mailbox holds at most `capacity` messages. Messages of higher priority are delivered first and,
within one priority, those accepted earlier. It is closed for senders once the receiver is gone, and
for the receiver once every sender is gone and all messages are delivered.

Accepted messages carry the number under which they were accepted; `Entry.outranks` orders them by
priority and number, and delivery takes a highest one out, whatever order they are kept in. -/

namespace TickCapture

/-- The class of a message; larger ones are delivered first. -/
abbrev Priority := UInt32

def Priority.capture : Priority := 30

def Priority.tick : Priority := 29

structure Entry (α : Type) where
  priority : Priority
  /-- How many messages were accepted before it. -/
  number : Nat
  message : α

/-- Whether `a` is delivered before `b`. -/
def Entry.outranks {α : Type} (a b : Entry α) : Bool :=
  b.priority < a.priority || (a.priority == b.priority && a.number < b.number)

/-- How many bytes the messages of a type take; they are whole words. -/
class MessageSize (α : Type) where
  bytes : Nat

/-- Numbers are passed on as words of 64 bits. -/
instance : MessageSize Nat := ⟨8⟩

structure Mailbox (α : Type) where
  capacity : Nat
  queue : List (Entry α)
  /-- The number of the next message to be accepted. -/
  nextNumber : Nat
  senders : Nat
  receiverAlive : Bool

/-- What came of one attempt to send; a message that was not accepted is handed back. -/
inductive Sent (α : Type) where
  | accepted
  | full (message : α)
  | closed (message : α)
  deriving DecidableEq, Repr

inductive Received (α : Type) where
  | got (message : α)
  /-- Nothing is there, but a sender lives. -/
  | nothing
  | closed
  deriving DecidableEq, Repr

namespace Sent

variable {α : Type}

def message : Sent α → String
  | accepted => "sent"
  | full _ => "channel full"
  | closed _ => "channel closed"

def debugText : Sent α → String
  | accepted => "Sent"
  | full _ => "Full(..)"
  | closed _ => "Closed(..)"

end Sent

/-- What a receive with a time limit says when it ends without a message. -/
def Received.message {α : Type} : Received α → String
  | got _ => "received"
  | nothing => "timed out waiting on channel"
  | closed => "channel closed"

namespace Mailbox

variable {α : Type}

/-- What an entry takes: a message, its number and its priority, the latter two a word each. -/
def entryBytes (α : Type) [MessageSize α] : Nat := MessageSize.bytes α + 16

/-- A mailbox with one sender and its receiver. Space for all entries is reserved at once. -/
def bounded [MessageSize α] (capacity : Nat) : Except Fault (Mailbox α) :=
  if capacity = 0 then .error .zeroCapacity
  else if addressLimit ≤ capacity * entryBytes α then .error .capacityOverflow
  else .ok ⟨capacity, [], 0, 1, true⟩

def highest? : List (Entry α) → Option (Entry α)
  | [] => none
  | e :: es =>
    match highest? es with
    | none => some e
    | some best => some (if best.outranks e then best else e)

def takeHighest? (es : List (Entry α)) : Option (Entry α × List (Entry α)) :=
  (highest? es).map fun best => (best, es.eraseP fun e => e.number == best.number)

/-- One attempt to send. A receiver that is gone is noticed before a lack of space. -/
def attempt (m : Mailbox α) (message : α) (priority : Priority) : Mailbox α × Sent α :=
  if !m.receiverAlive then (m, .closed message)
  else if m.queue.length < m.capacity then
    ({ m with
        queue := m.queue ++ [⟨priority, m.nextNumber, message⟩]
        nextNumber := m.nextNumber + 1 }, .accepted)
  else (m, .full message)

/-- One attempt to receive. Messages are delivered even when no sender is left. -/
def receive (m : Mailbox α) : Mailbox α × Received α :=
  match takeHighest? m.queue with
  | some (e, rest) => ({ m with queue := rest }, .got e.message)
  | none => (m, if m.senders = 0 then .closed else .nothing)

def cloneSender (m : Mailbox α) : Mailbox α := { m with senders := m.senders + 1 }

def dropSender (m : Mailbox α) : Mailbox α := { m with senders := m.senders - 1 }

/-- Takes the receiver away: the messages that nobody will receive. -/
def dropReceiver (m : Mailbox α) : Mailbox α × List α :=
  ({ m with receiverAlive := false, queue := [] }, m.queue.map (·.message))

def pending (m : Mailbox α) : List α :=
  (m.queue.mergeSort fun a b => !b.outranks a).map (·.message)

end Mailbox
end TickCapture
