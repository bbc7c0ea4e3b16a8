import TickCapture.Mailbox.Threads

/-! # Trials of a mailbox between two threads

One thread sends the numbers from zero up, another receives them; the two take turns. -/

namespace TickCapture
namespace MailboxTrial

/-- A move of the sending thread: it goes on with what it is at, or sends the next number, or goes
when it has sent all. -/
def senderMove (t : Threads Nat) (count : Option Nat) (timed : Bool) : ThreadMove Nat :=
  match t.senders.head? with
  | some (.trying _) => .trySend 0 false
  | some .notifying | some .hangingUp => .notifyReceiver 0
  | some .idle =>
    if count.any (· ≤ t.sent.length) then .dropSender 0
    else .beginSend 0 ⟨t.sent.length, .capture, timed⟩
  | _ => .expireSend 0

def receiverMove (t : Threads Nat) (timed : Bool) : ThreadMove Nat :=
  match t.receiver with
  | .trying _ => .tryReceive false
  | .notifying | .closing => .notifySenders 0
  | _ => .beginReceive timed

def ended (t : Threads Nat) : Bool :=
  match t.received with
  | .closed :: _ | .nothing :: _ => true
  | _ => false

/-- The two threads in turn, until the receiver gets no message any more. -/
def exchange (count : Nat) (senderTimed receiverTimed : Bool) : Nat → Threads Nat → Threads Nat
  | 0, t => t
  | n + 1, t =>
    if ended t then t
    else
      let t := t.moves [senderMove t (some count) senderTimed]
      let t := t.moves [receiverMove t receiverTimed]
      exchange count senderTimed receiverTimed n t

def messages (t : Threads Nat) : List Nat :=
  t.received.reverse.filterMap fun
    | .got m => some m
    | _ => none

/-- Everything is sent and received. The receiver waits without a time limit in the first case, and
with one in the second. -/
def stream (capacity count : Nat) (receiverTimed : Bool) : Except Fault (Threads Nat) :=
  (Threads.new capacity).map (exchange count false receiverTimed (20 * (count + 2)))

/-- The sender alone, until it sleeps. -/
def fill : Nat → Threads Nat → Threads Nat
  | 0, t => t
  | n + 1, t =>
    match t.senders.head? with
    | some (.asleep _) => t
    | _ => fill n (t.moves [senderMove t none true])

/-- The receiver goes while the sender waits for space: how the last send ends. -/
def close (capacity : Nat) : Except Fault (Option (Sent Nat)) := do
  let t ← Threads.new capacity
  let t := fill (4 * (capacity + 2)) t
  let t := t.moves [.dropReceiver, .notifySenders 0]
  let t := t.moves [.trySend 0 false]
  return t.sent.head?.map (·.2)

end MailboxTrial
end TickCapture
