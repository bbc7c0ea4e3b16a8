import TickCapture.Mailbox.Threads
import TickCapture.Proofs.Mailbox.Delivery

/-! # The ideal mailbox

A `Shelf` holds messages with their classes in the order of acceptance, and nothing else: no numbers,
no threads, no locks. `Shelf.Step` says what can happen at it. Each outcome of an attempt is possible
in its own states only, so a step says both what came of an attempt and when.

Along every run the waiting messages stay within the capacity (`Shelf.Run.length_le`), and what was
accepted is delivered, still waiting, or dropped with the receiver, each message once
(`Shelf.Run.accepted_perm`). -/

namespace TickCapture

inductive MailEvent (α : Type) where
  /-- A send ended. -/
  | sent (parcel : Parcel α) (outcome : Sent α)
  /-- A send found no space and goes on waiting. -/
  | waits (parcel : Parcel α)
  /-- A receive ended. -/
  | received (outcome : Received α)
  /-- A receive found no message and goes on waiting. -/
  | awaits
  | cloned
  | senderDropped
  | receiverDropped (lost : List α)

namespace MailEvent

variable {α : Type}

@[simp] def accepted : MailEvent α → List α
  | sent parcel .accepted => [parcel.message]
  | _ => []

@[simp] def delivered : MailEvent α → List α
  | received (.got x) => [x]
  | _ => []

@[simp] def lost : MailEvent α → List α
  | receiverDropped xs => xs
  | _ => []

@[simp] def sendOutcome : MailEvent α → List (Sent α)
  | sent _ outcome => [outcome]
  | _ => []

@[simp] def receiveOutcome : MailEvent α → List (Received α)
  | received outcome => [outcome]
  | _ => []

end MailEvent

structure Shelf (α : Type) where
  capacity : Nat
  /-- The messages that wait, with their classes, in the order of acceptance. -/
  waiting : List (Priority × α)
  senders : Nat
  receiverAlive : Bool

namespace Shelf

variable {α : Type}

/-- A shelf with nothing on it, one sender and the receiver. -/
def empty (capacity : Nat) : Shelf α := ⟨capacity, [], 1, true⟩

/-- What can happen at a shelf. -/
inductive Step (s : Shelf α) : MailEvent α → Shelf α → Prop
  | accept {parcel : Parcel α} : s.receiverAlive = true → s.waiting.length < s.capacity →
    Step s (.sent parcel .accepted)
      { s with waiting := s.waiting ++ [(parcel.priority, parcel.message)] }
  | full {parcel : Parcel α} : s.receiverAlive = true → s.waiting.length = s.capacity →
    Step s (.sent parcel (.full parcel.message)) s
  | refuse {parcel : Parcel α} : s.receiverAlive = false →
    Step s (.sent parcel (.closed parcel.message)) s
  | waits {parcel : Parcel α} : s.receiverAlive = true → s.waiting.length = s.capacity →
    Step s (.waits parcel) s
  | deliver {c : Priority} {x : α} {rest : List (Priority × α)} : s.receiverAlive = true →
    Delivers Prod.fst s.waiting (c, x) rest →
    Step s (.received (.got x)) { s with waiting := rest }
  | nothing : s.receiverAlive = true → s.waiting = [] → s.senders ≠ 0 →
    Step s (.received .nothing) s
  | closed : s.receiverAlive = true → s.waiting = [] → s.senders = 0 →
    Step s (.received .closed) s
  | awaits : s.receiverAlive = true → s.waiting = [] → s.senders ≠ 0 → Step s .awaits s
  | clone : s.senders ≠ 0 → Step s .cloned { s with senders := s.senders + 1 }
  | dropSender : s.senders ≠ 0 → Step s .senderDropped { s with senders := s.senders - 1 }
  | dropReceiver : s.receiverAlive = true →
    Step s (.receiverDropped (s.waiting.map Prod.snd))
      { s with waiting := [], receiverAlive := false }

inductive Run : Shelf α → List (MailEvent α) → Shelf α → Prop
  | refl {s : Shelf α} : Run s [] s
  | step {s s' s'' : Shelf α} {e : MailEvent α} {es : List (MailEvent α)} :
    Step s e s' → Run s' es s'' → Run s (e :: es) s''

variable {s s' s'' : Shelf α} {e : MailEvent α} {es es' : List (MailEvent α)}

theorem Run.single (h : Step s e s') : Run s [e] s' := .step h .refl

theorem Run.append (H : Run s es s') (H' : Run s' es' s'') : Run s (es ++ es') s'' := by
  induction H with
  | refl => exact H'
  | step h _ ih => exact .step h (ih H')

/-! ### Capacity -/

theorem Step.capacity_eq (h : Step s e s') : s'.capacity = s.capacity := by
  cases h <;> rfl

theorem Step.length_le (h : Step s e s') (hs : s.waiting.length ≤ s.capacity) :
    s'.waiting.length ≤ s'.capacity := by
  cases h with
  | accept _ hlt => simpa using Nat.succ_le_of_lt hlt
  | deliver _ hd => exact Nat.le_trans hd.sublist.length_le hs
  | dropReceiver _ => exact Nat.zero_le _
  | full | refuse | waits | nothing | closed | awaits | clone | dropSender => exact hs

theorem Run.capacity_eq (H : Run s es s') : s'.capacity = s.capacity := by
  induction H with
  | refl => rfl
  | step h _ ih => rw [ih, h.capacity_eq]

/-- The waiting messages stay within the capacity. -/
theorem Run.length_le (H : Run s es s') (hs : s.waiting.length ≤ s.capacity) :
    s'.waiting.length ≤ s'.capacity := by
  induction H with
  | refl => exact hs
  | step h _ ih => exact ih (h.length_le hs)

/-! ### Where the messages are -/

theorem Step.accepted_perm (h : Step s e s') :
    (s.waiting.map Prod.snd ++ e.accepted).Perm
      (e.delivered ++ s'.waiting.map Prod.snd ++ e.lost) := by
  cases h with
  | accept _ _ => simp
  | deliver _ hd =>
    have := hd.perm.map Prod.snd
    simpa using this
  | full | refuse | waits | nothing | closed | awaits | clone | dropSender | dropReceiver =>
    simp

/-- What was waiting or is accepted is delivered, waiting, or dropped with the receiver, each message
once. -/
theorem Run.accepted_perm (H : Run s es s') :
    (s.waiting.map Prod.snd ++ es.flatMap (·.accepted)).Perm
      (es.flatMap (·.delivered) ++ s'.waiting.map Prod.snd ++ es.flatMap (·.lost)) := by
  classical
  induction H with
  | refl => simp
  | step h _ ih =>
    -- both sides hold each message equally often, at the first step and after it
    refine List.perm_iff_count.mpr fun x => ?_
    have h1 := h.accepted_perm.count_eq x
    have h2 := ih.count_eq x
    simp only [List.flatMap_cons, List.count_append] at h1 h2 ⊢
    omega

end Shelf
end TickCapture
