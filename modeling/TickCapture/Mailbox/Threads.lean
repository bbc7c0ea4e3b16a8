import TickCapture.Mailbox.Basic

/-! # A mailbox among threads

Here a mailbox is shared by threads that wait for it. Each sender is a thread, and so is the receiver.
What a thread does under the lock is one step: it looks, and then it takes or puts a message, gives
up, or goes to sleep. Waking others is a later step of its own, after the lock is released; until
then the thread holds a notification that is still to be delivered.

Senders sleep until there is space, the receiver until there is a message. A notification for one
sleeper wakes any one of them; if nobody sleeps it is lost. A wait with a time limit can wake at any
time. -/

namespace TickCapture

structure Parcel (α : Type) where
  message : α
  priority : Priority
  /-- Whether the sender gives up after some time. -/
  timed : Bool
  deriving DecidableEq, Repr

inductive SenderState (α : Type) where
  | idle
  /-- It is about to take the lock. -/
  | trying (parcel : Parcel α)
  /-- It sleeps until there is space. -/
  | asleep (parcel : Parcel α)
  /-- Its message is in; it is about to wake the receiver. -/
  | notifying
  /-- It was the last sender; it is about to tell the receiver. -/
  | hangingUp
  | gone
  deriving DecidableEq, Repr

inductive ReceiverState where
  | idle
  /-- It is about to take the lock. -/
  | trying (timed : Bool)
  /-- It sleeps until there is a message. -/
  | asleep (timed : Bool)
  /-- It has a message; it is about to wake one sender. -/
  | notifying
  /-- It has closed the mailbox; it is about to wake all senders. -/
  | closing
  | gone
  deriving DecidableEq, Repr

structure Threads (α : Type) where
  box : Mailbox α
  senders : List (SenderState α)
  receiver : ReceiverState
  /-- How sends have ended, and by which sender, the last one first. -/
  sent : List (Nat × Sent α)
  /-- How receives have ended, the last one first. -/
  received : List (Received α)
  /-- The messages that were dropped with the receiver. -/
  lost : List α

inductive ThreadMove (α : Type) where
  | beginSend (sender : Nat) (parcel : Parcel α)
  /-- A sender takes the lock; if it has to wait and its time is over, it gives up. -/
  | trySend (sender : Nat) (timeIsOver : Bool)
  /-- A sleeping sender wakes because of its time limit. -/
  | expireSend (sender : Nat)
  /-- A sender delivers the notification it holds. -/
  | notifyReceiver (sender : Nat)
  | clone (sender : Nat)
  | dropSender (sender : Nat)
  | beginReceive (timed : Bool)
  | tryReceive (timeIsOver : Bool)
  | expireReceive
  /-- The receiver delivers the notification it holds; of the senders asleep it wakes this one. -/
  | notifySenders (chosen : Nat)
  | dropReceiver

namespace Threads

variable {α : Type}

/-- One idle sender and an idle receiver. -/
def new [MessageSize α] (capacity : Nat) : Except Fault (Threads α) :=
  (Mailbox.bounded capacity).map fun box => ⟨box, [.idle], .idle, [], [], []⟩

def setSender (t : Threads α) (i : Nat) (s : SenderState α) : Threads α :=
  { t with senders := t.senders.set i s }

/-- The state of a sender that is woken, if it sleeps. -/
def wakeSender : SenderState α → SenderState α
  | .asleep parcel => .trying parcel
  | s => s

/-- The state of the receiver when it is woken, if it sleeps. -/
def wakeReceiver : ReceiverState → ReceiverState
  | .asleep timed => .trying timed
  | r => r

def sleepers (t : Threads α) : List Nat :=
  (List.range t.senders.length).filter fun i =>
    match t.senders[i]? with
    | some (.asleep _) => true
    | _ => false

def trySend (t : Threads α) (i : Nat) (parcel : Parcel α) (timeIsOver : Bool) : Threads α :=
  match t.box.attempt parcel.message parcel.priority with
  | (box, .accepted) =>
    { t.setSender i .notifying with box, sent := (i, .accepted) :: t.sent }
  | (_, .closed m) => { t.setSender i .idle with sent := (i, .closed m) :: t.sent }
  | (_, .full m) =>
    if parcel.timed && timeIsOver then { t.setSender i .idle with sent := (i, .full m) :: t.sent }
    else t.setSender i (.asleep parcel)

def tryReceive (t : Threads α) (timed timeIsOver : Bool) : Threads α :=
  match t.box.receive with
  | (box, .got m) => { t with box, receiver := .notifying, received := .got m :: t.received }
  | (_, .closed) => { t with receiver := .idle, received := .closed :: t.received }
  | (_, .nothing) =>
    if timed && timeIsOver then { t with receiver := .idle, received := .nothing :: t.received }
    else { t with receiver := .asleep timed }

/-- What a sender does when it goes: the last one has to tell the receiver. -/
def dropSender (t : Threads α) (i : Nat) : Threads α :=
  let box := t.box.dropSender
  { t.setSender i (if box.senders = 0 then .hangingUp else .gone) with box }

/-- What the receiver does when it goes: it closes the mailbox and takes the messages along. -/
def dropReceiver (t : Threads α) : Threads α :=
  let (box, lost) := t.box.dropReceiver
  { t with box, receiver := .closing, lost := t.lost ++ lost }

/-- Wakes one of the senders asleep: the chosen one, if it is among them. -/
def wakeOne (t : Threads α) (chosen : Nat) : Threads α :=
  match t.sleepers with
  | [] => t
  | first :: _ =>
    let i := if chosen ∈ t.sleepers then chosen else first
    { t with senders := t.senders.modify i wakeSender }

/-- Makes a move; none if the thread that is to make it is at something else. -/
def move? (t : Threads α) : ThreadMove α → Option (Threads α)
  | .beginSend i parcel =>
    match t.senders[i]? with
    | some .idle => some (t.setSender i (.trying parcel))
    | _ => none
  | .trySend i timeIsOver =>
    match t.senders[i]? with
    | some (.trying parcel) => some (t.trySend i parcel timeIsOver)
    | _ => none
  | .expireSend i =>
    match t.senders[i]? with
    | some (.asleep parcel) => if parcel.timed then some (t.setSender i (.trying parcel)) else none
    | _ => none
  | .notifyReceiver i =>
    match t.senders[i]? with
    | some .notifying => some { t.setSender i .idle with receiver := wakeReceiver t.receiver }
    | some .hangingUp => some { t.setSender i .gone with receiver := wakeReceiver t.receiver }
    | _ => none
  | .clone i =>
    match t.senders[i]? with
    | some .idle => some { t with box := t.box.cloneSender, senders := t.senders ++ [.idle] }
    | _ => none
  | .dropSender i =>
    match t.senders[i]? with
    | some .idle => some (t.dropSender i)
    | _ => none
  | .beginReceive timed =>
    match t.receiver with
    | .idle => some { t with receiver := .trying timed }
    | _ => none
  | .tryReceive timeIsOver =>
    match t.receiver with
    | .trying timed => some (t.tryReceive timed timeIsOver)
    | _ => none
  | .expireReceive =>
    match t.receiver with
    | .asleep true => some { t with receiver := .trying true }
    | _ => none
  | .notifySenders chosen =>
    match t.receiver with
    | .notifying => some { t.wakeOne chosen with receiver := .idle }
    | .closing => some { t with senders := t.senders.map wakeSender, receiver := .gone }
    | _ => none
  | .dropReceiver =>
    match t.receiver with
    | .idle => some t.dropReceiver
    | _ => none

/-- Makes moves one after another; those that cannot be made are left out. -/
def moves (t : Threads α) (ms : List (ThreadMove α)) : Threads α :=
  ms.foldl (fun t m => (t.move? m).getD t) t

end Threads
end TickCapture
