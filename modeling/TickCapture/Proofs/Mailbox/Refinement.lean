import TickCapture.Proofs.Mailbox.Shelf
import TickCapture.Proofs.Mailbox.ThreadMoves

/-! # Threads at a mailbox see an ideal one

Whatever order the threads take their steps in, what happens at their mailbox is a run of a `Shelf`:
`Threads.event` names what happens with each move, and `move?_refines` finds the step of the shelf.
The invariant is `Threads.Sound`: entries are numbered in order and fit the capacity, and the mailbox
counts its ends correctly. -/

namespace TickCapture

/-- A mailbox without the numbers of its entries. -/
def Mailbox.shelf {α : Type} (m : Mailbox α) : Shelf α :=
  ⟨m.capacity, m.queue.map fun e => (e.priority, e.message), m.senders, m.receiverAlive⟩

@[simp] theorem Mailbox.waiting_shelf {α : Type} (m : Mailbox α) :
    m.shelf.waiting.map Prod.snd = m.messages := by
  simp [shelf, messages, Function.comp_def]

namespace Threads

variable {α : Type} {t t' t₀ : Threads α}

/-- What an attempt to send means: a send that finds no space goes on waiting, unless its time is
over. -/
def sendEvent (parcel : Parcel α) (timeIsOver : Bool) : Sent α → MailEvent α
  | .full x => if parcel.timed && timeIsOver then .sent parcel (.full x) else .waits parcel
  | outcome => .sent parcel outcome

/-- What an attempt to receive means. -/
def receiveEvent (timed timeIsOver : Bool) : Received α → MailEvent α
  | .nothing => if timed && timeIsOver then .received .nothing else .awaits
  | outcome => .received outcome

/-- What happens at the mailbox with a move, if anything does. -/
def event (t : Threads α) : ThreadMove α → List (MailEvent α)
  | .trySend i timeIsOver =>
    match t.senders[i]? with
    | some (.trying parcel) =>
      [sendEvent parcel timeIsOver (t.box.attempt parcel.message parcel.priority).2]
    | _ => []
  | .tryReceive timeIsOver =>
    match t.receiver with
    | .trying timed => [receiveEvent timed timeIsOver t.box.receive.2]
    | _ => []
  | .clone i =>
    match t.senders[i]? with
    | some .idle => [.cloned]
    | _ => []
  | .dropSender i =>
    match t.senders[i]? with
    | some .idle => [.senderDropped]
    | _ => []
  | .dropReceiver =>
    match t.receiver with
    | .idle => [.receiverDropped t.box.messages]
    | _ => []
  | _ => []

/-- What happens at the mailbox with moves made one after another. -/
def events (t : Threads α) : List (ThreadMove α) → List (MailEvent α)
  | [] => []
  | m :: ms => t.event m ++ ((t.move? m).getD t).events ms

/-! ### The invariant -/

/-- Entries are numbered in order and fit the capacity, and the ends are counted correctly. -/
structure Sound (t : Threads α) : Prop where
  orderly : t.box.Orderly
  bounded : t.box.queue.length ≤ t.box.capacity
  senders : t.box.senders = t.liveSenders
  receiver : t.box.receiverAlive = t.receiver.lives

/-- A move that leaves the mailbox alone and drops nobody. -/
theorem Sound.of_eq (H : t.Sound) (hb : t'.box = t.box) (hs : t'.liveSenders = t.liveSenders)
    (hr : t'.receiver.lives = t.receiver.lives) : t'.Sound := by
  refine ⟨?_, ?_, ?_, ?_⟩ <;> rw [hb]
  · exact H.orderly
  · exact H.bounded
  · rw [hs, H.senders]
  · rw [hr, H.receiver]

theorem sound_new [MessageSize α] {capacity : Nat} (h : new capacity = .ok t₀) :
    t₀.Sound ∧ t₀ = ⟨⟨capacity, [], 0, 1, true⟩, [.idle], .idle, [], [], []⟩ := by
  unfold new at h
  cases hb : Mailbox.bounded (α := α) capacity with
  | error _ => rw [hb] at h; cases h
  | ok box =>
    rw [hb] at h
    cases h
    obtain ⟨ho, rfl⟩ := Mailbox.Orderly.bounded hb
    exact ⟨⟨ho, Nat.zero_le _, rfl, rfl⟩, rfl⟩

/-! ### One step under the lock -/

/-- What a sender does under the lock is a step of the shelf. -/
theorem trySend_refines {i : Nat} {parcel : Parcel α} (timeIsOver : Bool) (H : t.Sound)
    (hi : t.senders[i]? = some (.trying parcel)) :
    (t.trySend i parcel timeIsOver).Sound ∧
      Shelf.Step t.box.shelf
        (sendEvent parcel timeIsOver (t.box.attempt parcel.message parcel.priority).2)
        (t.trySend i parcel timeIsOver).box.shelf := by
  have hidle : (t.setSender i .idle).liveSenders = t.liveSenders := liveSenders_setSender hi rfl
  cases ha : t.box.attempt parcel.message parcel.priority with
  | mk box outcome =>
    cases Mailbox.attempt_cases ha with
    | accepted halive hlt =>
      have hs : (t.setSender i .notifying).liveSenders = t.liveSenders :=
        liveSenders_setSender hi rfl
      simp only [trySend, sendEvent, ha]
      refine ⟨⟨H.orderly.attempt ha, ?_, H.senders.trans hs.symm, H.receiver⟩, ?_⟩
      · simpa using Nat.succ_le_of_lt hlt
      · have hlt' : t.box.shelf.waiting.length < t.box.shelf.capacity := by
          simpa [Mailbox.shelf] using hlt
        have hstep : Shelf.Step t.box.shelf (.sent parcel .accepted) _ := .accept halive hlt'
        simpa [Mailbox.shelf] using hstep
    | full halive hle =>
      have hfull : t.box.shelf.waiting.length = t.box.shelf.capacity := by
        simpa [Mailbox.shelf] using Nat.le_antisymm H.bounded hle
      simp only [trySend, sendEvent, ha]
      split
      · exact ⟨H.of_eq rfl hidle rfl, .full halive hfull⟩
      · exact ⟨H.of_eq rfl (liveSenders_setSender hi rfl) rfl, .waits halive hfull⟩
    | closed halive =>
      simp only [trySend, sendEvent, ha]
      exact ⟨H.of_eq rfl hidle rfl, .refuse halive⟩

/-- What the receiver does under the lock is a step of the shelf. -/
theorem tryReceive_refines {timed : Bool} (timeIsOver : Bool) (H : t.Sound)
    (hr : t.receiver = .trying timed) :
    (t.tryReceive timed timeIsOver).Sound ∧
      Shelf.Step t.box.shelf (receiveEvent timed timeIsOver t.box.receive.2)
        (t.tryReceive timed timeIsOver).box.shelf := by
  have hlives : t.receiver.lives = true := by rw [hr]; rfl
  have halive : t.box.receiverAlive = true := H.receiver.trans hlives
  cases ha : t.box.receive with
  | mk box outcome =>
    cases Mailbox.receive_cases H.orderly ha with
    | @got e rest hd =>
      simp only [tryReceive, receiveEvent, ha]
      refine ⟨⟨H.orderly.receive ha, ?_, H.senders, halive⟩,
        .deliver (c := e.priority) halive ?_⟩
      · exact Nat.le_trans hd.sublist.length_le H.bounded
      · exact hd.map (fun e : Entry α => (e.priority, e.message)) fun _ => rfl
    | nothing hq hs =>
      have hw : t.box.shelf.waiting = [] := by simp [Mailbox.shelf, hq]
      simp only [tryReceive, receiveEvent, ha]
      split
      · exact ⟨H.of_eq rfl rfl hlives.symm, .nothing halive hw hs⟩
      · exact ⟨H.of_eq rfl rfl hlives.symm, .awaits halive hw hs⟩
    | closed hq hs =>
      have hw : t.box.shelf.waiting = [] := by simp [Mailbox.shelf, hq]
      simp only [tryReceive, receiveEvent, ha]
      exact ⟨H.of_eq rfl rfl hlives.symm, .closed halive hw hs⟩

/-- Whatever a move is, what happens with it is a step of the shelf, or nothing happens. -/
theorem move?_refines {m : ThreadMove α} (H : t.Sound) (h : t.move? m = some t') :
    t'.Sound ∧ Shelf.Run t.box.shelf (t.event m) t'.box.shelf := by
  cases move?_cases h with
  | beginSend hi => exact ⟨H.of_eq rfl (liveSenders_setSender hi rfl) rfl, .refl⟩
  | trySend hi =>
    simp only [event, hi]
    exact (trySend_refines _ H hi).imp_right .single
  | expireSend hi _ => exact ⟨H.of_eq rfl (liveSenders_setSender hi rfl) rfl, .refl⟩
  | notifyReceiver hi | hangUp hi =>
    exact ⟨H.of_eq rfl (liveSenders_setSender hi rfl) (lives_wakeReceiver _), .refl⟩
  | clone hi =>
    have hpos : t.box.senders ≠ 0 := H.senders ▸ liveSenders_pos hi rfl
    simp only [event, hi]
    refine ⟨⟨H.orderly.cloneSender, H.bounded, ?_, H.receiver⟩, .single (.clone hpos)⟩
    simp [Mailbox.cloneSender, liveSenders, H.senders, SenderState.lives]
  | dropSender hi =>
    have hpos : t.box.senders ≠ 0 := H.senders ▸ liveSenders_pos hi rfl
    simp only [event, hi]
    refine ⟨⟨H.orderly.dropSender, H.bounded, ?_, H.receiver⟩, .single (.dropSender hpos)⟩
    simp only [Threads.dropSender, Mailbox.dropSender, H.senders]
    -- hanging up or gone, the sender does not live any more
    split <;> exact (liveSenders_setSender_of_drop hi rfl rfl).symm
  | beginReceive hr => exact ⟨H.of_eq rfl rfl (by rw [hr]; rfl), .refl⟩
  | tryReceive hr =>
    simp only [event, hr]
    exact (tryReceive_refines _ H hr).imp_right .single
  | expireReceive hr => exact ⟨H.of_eq rfl rfl (by rw [hr]; rfl), .refl⟩
  | @notifySender chosen hr =>
    have hb : (t.wakeOne chosen).box = t.box := box_wakeOne chosen
    refine ⟨H.of_eq hb (liveSenders_wakeOne chosen) (by rw [hr]; rfl), ?_⟩
    rw [hb]
    exact .refl
  | notifyAll hr => exact ⟨H.of_eq rfl (countP_lives_map_wake _) (by rw [hr]; rfl), .refl⟩
  | dropReceiver hr =>
    have halive : t.box.receiverAlive = true := by rw [H.receiver, hr]; rfl
    simp only [event, hr, ← Mailbox.waiting_shelf]
    exact ⟨⟨Mailbox.Orderly.dropReceiver, Nat.zero_le _, H.senders, rfl⟩,
      .single (.dropReceiver halive)⟩

end Threads
end TickCapture
