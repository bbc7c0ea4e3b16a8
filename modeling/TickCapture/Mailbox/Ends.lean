import TickCapture.Mailbox.Basic

/-! # A mailbox and its ends

The ends of one mailbox as its users hold them: senders, numbered in the order they were made, and
the receiver. `Ends.step` carries out one request; a request that would wait for ever is not carried
out. -/

namespace TickCapture

/-- What the holder of an end asks for. A wait with a time limit is a last attempt: nobody else
acts meanwhile. -/
inductive MailboxRequest (α : Type) where
  | send (sender : Nat) (message : α) (priority : Priority)
  | sendInTime (sender : Nat) (message : α) (priority : Priority)
  | clone (sender : Nat)
  | dropSender (sender : Nat)
  | receive
  | receiveInTime
  | dropReceiver

inductive MailboxReply (α : Type) where
  | sent (outcome : Sent α)
  | received (outcome : Received α)
  | newSender (sender : Nat)
  | done
  | wouldBlock
  | noSuchEnd

structure Ends (α : Type) where
  box : Mailbox α
  /-- Which senders live. -/
  senders : Array Bool

namespace Ends

variable {α : Type}

def new [MessageSize α] (capacity : Nat) : Except Fault (Ends α) :=
  (Mailbox.bounded capacity).map fun box => ⟨box, #[true]⟩

def lives (e : Ends α) (sender : Nat) : Bool := e.senders.getD sender false

/-- Carries out a request: the reply, and the messages lost by it. -/
def step (e : Ends α) : MailboxRequest α → Ends α × List α × MailboxReply α
  | .send sender message priority =>
    if !e.lives sender then (e, [], .noSuchEnd)
    else
      match e.box.attempt message priority with
      | (_, .full _) => (e, [], .wouldBlock)
      | (box, outcome) => ({ e with box }, [], .sent outcome)
  | .sendInTime sender message priority =>
    if !e.lives sender then (e, [], .noSuchEnd)
    else
      let (box, outcome) := e.box.attempt message priority
      ({ e with box }, [], .sent outcome)
  | .clone sender =>
    if !e.lives sender then (e, [], .noSuchEnd)
    else
      ({ box := e.box.cloneSender, senders := e.senders.push true }, [], .newSender e.senders.size)
  | .dropSender sender =>
    if !e.lives sender then (e, [], .noSuchEnd)
    else ({ box := e.box.dropSender, senders := e.senders.setIfInBounds sender false }, [], .done)
  | .receive =>
    if !e.box.receiverAlive then (e, [], .noSuchEnd)
    else
      match e.box.receive with
      | (_, .nothing) => (e, [], .wouldBlock)
      | (box, outcome) => ({ e with box }, [], .received outcome)
  | .receiveInTime =>
    if !e.box.receiverAlive then (e, [], .noSuchEnd)
    else
      let (box, outcome) := e.box.receive
      ({ e with box }, [], .received outcome)
  | .dropReceiver =>
    if !e.box.receiverAlive then (e, [], .noSuchEnd)
    else
      let (box, lost) := e.box.dropReceiver
      ({ e with box }, lost, .done)

end Ends
end TickCapture
