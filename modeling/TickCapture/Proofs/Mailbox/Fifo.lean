import TickCapture.Proofs.Mailbox.Delivery

/-! # Mailboxes of one class

When all messages are sent in one class the mailbox is a queue: what is accepted goes to the end, and
what is received comes from the front. -/

namespace TickCapture
namespace Mailbox

variable {α : Type} {c : Priority} {m m' : Mailbox α} {x : α}

@[simp] theorem length_messages (m : Mailbox α) : m.messages.length = m.queue.length :=
  List.length_map _

theorem messages_eq_nil : m.messages = [] ↔ m.queue = [] := List.map_eq_nil_iff

@[simp] theorem messages_dropReceiver (m : Mailbox α) : m.dropReceiver.1.messages = [] := rfl

theorem attempt_accepted (h : m.attempt x c = (m', .accepted)) :
    m.receiverAlive = true ∧ m.queue.length < m.capacity ∧
      m' = { m with
        queue := m.queue ++ [⟨c, m.nextNumber, x⟩]
        nextNumber := m.nextNumber + 1 } := by
  cases attempt_cases h with
  | accepted ha hl => exact ⟨ha, hl, rfl⟩

theorem messages_accepted (h : m.attempt x c = (m', .accepted)) :
    m'.messages = m.messages ++ [x] := by
  obtain ⟨-, -, rfl⟩ := attempt_accepted h
  simp [messages]

theorem attempt_full {y : α} (h : m.attempt x c = (m', .full y)) :
    m.receiverAlive = true ∧ m.capacity ≤ m.queue.length ∧ m' = m ∧ y = x := by
  cases attempt_cases h with
  | full ha hl => exact ⟨ha, hl, rfl, rfl⟩

theorem attempt_closed {y : α} (h : m.attempt x c = (m', .closed y)) :
    m.receiverAlive = false ∧ m' = m ∧ y = x := by
  cases attempt_cases h with
  | closed ha => exact ⟨ha, rfl, rfl⟩

theorem receive_nothing (h : m.receive = (m', .nothing)) :
    m' = m ∧ m.queue = [] ∧ m.senders ≠ 0 := by
  unfold receive at h
  split at h
  · cases h
  · next hq =>
    split at h <;> cases h
    exact ⟨rfl, takeHighest?_eq_none_iff.mp hq, ‹_›⟩

theorem receive_closed (h : m.receive = (m', .closed)) :
    m' = m ∧ m.queue = [] ∧ m.senders = 0 := by
  unfold receive at h
  split at h
  · cases h
  · next hq =>
    split at h <;> cases h
    exact ⟨rfl, takeHighest?_eq_none_iff.mp hq, ‹_›⟩

theorem receive_got (h : m.receive = (m', .got x)) : ∃ rest, m' = { m with queue := rest } := by
  unfold receive at h
  split at h
  · cases h; exact ⟨_, rfl⟩
  · split at h <;> cases h

/-- The mailbox after all these messages have been sent. -/
def sendAll (c : Priority) (m : Mailbox α) (xs : List α) : Mailbox α :=
  xs.foldl (fun m x => (m.attempt x c).1) m

/-- `m` is orderly and all its messages are of class `c`. -/
structure Fifo (c : Priority) (m : Mailbox α) : Prop where
  orderly : m.Orderly
  uniform : ∀ e ∈ m.queue, e.priority = c

namespace Fifo

theorem of_bounded [MessageSize α] {capacity : Nat} (h : Mailbox.bounded capacity = .ok m) :
    m.Fifo c := by
  obtain ⟨H, rfl⟩ := Orderly.bounded h
  exact ⟨H, nofun⟩

theorem dropSender (H : m.Fifo c) : m.dropSender.Fifo c := ⟨H.orderly.dropSender, H.uniform⟩

theorem dropReceiver : (m.dropReceiver.1).Fifo c := ⟨.dropReceiver, nofun⟩

/-- What is accepted goes to the end. -/
theorem accepted (H : m.Fifo c) (h : m.attempt x c = (m', .accepted)) :
    m'.Fifo c ∧ m'.messages = m.messages ++ [x] := by
  have horder := H.orderly.attempt h
  have hmessages := messages_accepted h
  obtain ⟨-, -, rfl⟩ := attempt_accepted h
  refine ⟨⟨horder, fun e he => ?_⟩, hmessages⟩
  rcases List.mem_append.mp he with he | he
  · exact H.uniform e he
  · rw [List.mem_singleton.mp he]

/-- What is received comes from the front. -/
theorem got (H : m.Fifo c) (h : m.receive = (m', .got x)) :
    m'.Fifo c ∧ m.messages = x :: m'.messages := by
  refine ⟨⟨H.orderly.receive h, ?_⟩, receive_got_uniform H.orderly H.uniform h⟩
  cases receive_cases H.orderly h with
  | got hd => exact fun e he => H.uniform e (hd.sublist.mem he)

theorem receive_of_messages {xs : List α} (H : m.Fifo c) (h : m.messages = x :: xs) :
    ∃ m', m.receive = (m', .got x) ∧ m'.Fifo c ∧ m'.messages = xs ∧
      m'.receiverAlive = m.receiverAlive := by
  have hne : m.queue ≠ [] := fun hq => by simp [messages, hq] at h
  cases hr : m.receive with
  | mk m' outcome =>
    cases outcome with
    | nothing => exact absurd (receive_nothing hr).2.1 hne
    | closed => exact absurd (receive_closed hr).2.1 hne
    | got y =>
      obtain ⟨H', hm⟩ := H.got hr
      obtain ⟨rfl, rfl⟩ := List.cons.inj (h.symm.trans hm)
      obtain ⟨rest, rfl⟩ := receive_got hr
      exact ⟨_, rfl, H', rfl, rfl⟩

theorem sendAll (H : m.Fifo c) (ha : m.receiverAlive = true) (xs : List α)
    (hl : m.queue.length + xs.length ≤ m.capacity) :
    (m.sendAll c xs).Fifo c ∧ (m.sendAll c xs).messages = m.messages ++ xs := by
  induction xs generalizing m with
  | nil => exact ⟨H, (List.append_nil _).symm⟩
  | cons x xs ih =>
    rw [List.length_cons] at hl
    have hattempt : m.attempt x c = ({ m with
        queue := m.queue ++ [⟨c, m.nextNumber, x⟩], nextNumber := m.nextNumber + 1 },
        .accepted) := by
      simp [attempt, ha, show m.queue.length < m.capacity by omega]
    obtain ⟨H', hmessages⟩ := H.accepted hattempt
    obtain ⟨H'', hmessages'⟩ := ih H' ha (by
      simp only [List.length_append, List.length_singleton]
      omega)
    have hsend : m.sendAll c (x :: xs) = (m.attempt x c).1.sendAll c xs := rfl
    rw [hsend, hattempt]
    exact ⟨H'', by rw [hmessages', hmessages, List.append_assoc]; rfl⟩

end Fifo

/-- The receiver is gone, and the messages with it. -/
structure Shut (m : Mailbox α) : Prop where
  dead : m.receiverAlive = false
  empty : m.queue = []

namespace Shut

theorem dropSender (H : m.Shut) : m.dropSender.Shut := ⟨H.dead, H.empty⟩

theorem dropReceiver : (m.dropReceiver.1).Shut := ⟨rfl, rfl⟩

theorem not_accepted (H : m.Shut) : m.attempt x c ≠ (m', .accepted) := fun h => by
  have halive := (attempt_accepted h).1
  rw [H.dead] at halive
  cases halive

end Shut
end Mailbox
end TickCapture
