import TickCapture.Proofs.Mailbox.Refinement

/-! # What becomes of every message

The threads at a mailbox keep records of their own: how each send and each receive ended, and what
was dropped with the receiver. The records agree with what happened at the ideal mailbox
(`Recorded`), and `moves_accounted` puts both together for every order of moves. -/

namespace TickCapture

def Received.got? {α : Type} : Received α → Option α
  | .got x => some x
  | _ => none

theorem MailEvent.delivered_eq {α : Type} (e : MailEvent α) :
    e.delivered = e.receiveOutcome.filterMap Received.got? := by
  cases e with
  | received outcome => cases outcome <;> rfl
  | sent | waits | awaits | cloned | senderDropped | receiverDropped => rfl

namespace Threads

variable {α : Type} {t t' t'' t₀ : Threads α}

/-! ### Records -/

/-- From `t` to `t'` the records have grown by `es`. -/
structure Recorded (t : Threads α) (es : List (MailEvent α)) (t' : Threads α) : Prop where
  sent : (t'.sent.map Prod.snd).reverse =
    (t.sent.map Prod.snd).reverse ++ es.flatMap (·.sendOutcome)
  received : t'.received.reverse = t.received.reverse ++ es.flatMap (·.receiveOutcome)
  lost : t'.lost = t.lost ++ es.flatMap (·.lost)

namespace Recorded

theorem of_eq (hs : t'.sent = t.sent) (hr : t'.received = t.received) (hl : t'.lost = t.lost) :
    Recorded t [] t' := by
  constructor <;> simp [hs, hr, hl]

theorem trans {es es' : List (MailEvent α)} (H : Recorded t es t') (H' : Recorded t' es' t'') :
    Recorded t (es ++ es') t'' := by
  constructor
  · rw [H'.sent, H.sent, List.flatMap_append, List.append_assoc]
  · rw [H'.received, H.received, List.flatMap_append, List.append_assoc]
  · rw [H'.lost, H.lost, List.flatMap_append, List.append_assoc]

end Recorded

theorem trySend_recorded (i : Nat) (parcel : Parcel α) (timeIsOver : Bool) :
    Recorded t [sendEvent parcel timeIsOver (t.box.attempt parcel.message parcel.priority).2]
      (t.trySend i parcel timeIsOver) := by
  cases ha : t.box.attempt parcel.message parcel.priority with
  | mk box outcome =>
    cases outcome with
    | accepted | closed x => constructor <;> simp [trySend, sendEvent, ha, setSender]
    | full x =>
      simp only [trySend, sendEvent, ha]
      split <;> constructor <;> simp [setSender]

theorem tryReceive_recorded (timed timeIsOver : Bool) :
    Recorded t [receiveEvent timed timeIsOver t.box.receive.2] (t.tryReceive timed timeIsOver) := by
  cases ha : t.box.receive with
  | mk box outcome =>
    cases outcome with
    | got x | closed => constructor <;> simp [tryReceive, receiveEvent, ha]
    | nothing =>
      simp only [tryReceive, receiveEvent, ha]
      split <;> constructor <;> simp

theorem move?_recorded {m : ThreadMove α} (h : t.move? m = some t') :
    Recorded t (t.event m) t' := by
  cases move?_cases h with
  | beginSend | expireSend | notifyReceiver | hangUp | beginReceive | expireReceive | notifyAll =>
    exact .of_eq rfl rfl rfl
  | trySend hi =>
    simp only [event, hi]
    exact trySend_recorded ..
  | tryReceive hr =>
    simp only [event, hr]
    exact tryReceive_recorded ..
  | clone hi =>
    simp only [event, hi]
    constructor <;> simp
  | dropSender hi =>
    simp only [event, hi]
    constructor <;> simp [Threads.dropSender, setSender]
  | @notifySender chosen hr =>
    have hw : (t.wakeOne chosen).sent = t.sent ∧ (t.wakeOne chosen).received = t.received ∧
        (t.wakeOne chosen).lost = t.lost := by
      unfold wakeOne
      split <;> exact ⟨rfl, rfl, rfl⟩
    exact .of_eq hw.1 hw.2.1 hw.2.2
  | dropReceiver hr =>
    simp only [event, hr]
    constructor <;> simp [Threads.dropReceiver, Mailbox.dropReceiver, Mailbox.messages]

/-! ### Whole runs -/

theorem event_eq_nil {m : ThreadMove α} (h : t.move? m = none) : t.event m = [] := by
  cases m <;> simp only [move?, event] at h ⊢ <;> split at h <;> simp_all

/-- What happens along any moves is a run of the shelf, and it is recorded. -/
theorem moves_refines (H : t.Sound) (ms : List (ThreadMove α)) :
    (t.moves ms).Sound ∧ Shelf.Run t.box.shelf (t.events ms) (t.moves ms).box.shelf ∧
      Recorded t (t.events ms) (t.moves ms) := by
  induction ms generalizing t with
  | nil => exact ⟨H, .refl, .of_eq rfl rfl rfl⟩
  | cons m ms ih =>
    rw [moves, List.foldl_cons, ← moves, events]
    cases h : t.move? m with
    | none =>
      rw [event_eq_nil h, List.nil_append]
      exact ih H
    | some t' =>
      obtain ⟨H', hrun⟩ := move?_refines H h
      obtain ⟨H'', hruns, hrec⟩ := ih H'
      exact ⟨H'', hrun.append hruns, (move?_recorded h).trans hrec⟩

end Threads

/-! ### Attempts at a mailbox that is not overfull -/

namespace Mailbox

variable {α : Type} {m : Mailbox α} {x : α} {c : Priority}

theorem attempt_handsBack (h : (m.attempt x c).2 ≠ .accepted) :
    m.attempt x c = (m, .closed x) ∨ m.attempt x c = (m, .full x) := by
  cases ha : m.attempt x c with
  | mk m' outcome =>
    rw [ha] at h
    cases attempt_cases ha with
    | accepted _ _ => exact absurd rfl h
    | full _ _ => exact .inr rfl
    | closed _ => exact .inl rfl

theorem attempt_closed_iff : (m.attempt x c).2 = .closed x ↔ m.receiverAlive = false := by
  cases ha : m.attempt x c with
  | mk m' outcome => cases attempt_cases ha <;> simp_all

theorem attempt_full_iff (hle : m.queue.length ≤ m.capacity) :
    (m.attempt x c).2 = .full x ↔ m.receiverAlive = true ∧ m.queue.length = m.capacity := by
  cases ha : m.attempt x c with
  | mk m' outcome =>
    cases attempt_cases ha with
    | accepted _ hlt => simp [Nat.ne_of_lt hlt]
    | full halive hge => simp [halive, Nat.le_antisymm hle hge]
    | closed halive => simp [halive]

theorem receive_closed_iff (H : m.Orderly) :
    m.receive.2 = .closed ↔ m.queue = [] ∧ m.senders = 0 := by
  cases ha : m.receive with
  | mk m' outcome =>
    cases receive_cases H ha with
    | got hd => simp [List.ne_nil_of_mem hd.mem]
    | nothing _ hs => simp [hs]
    | closed hq hs => simp [hq, hs]

theorem receive_got_iff (H : m.Orderly) : (∃ y, m.receive.2 = .got y) ↔ m.queue ≠ [] := by
  cases ha : m.receive with
  | mk m' outcome =>
    cases receive_cases H ha with
    | got hd => simp [List.ne_nil_of_mem hd.mem]
    | nothing hq _ => simp [hq]
    | closed hq _ => simp [hq]

end Mailbox

namespace Threads

variable {α : Type} {t₀ : Threads α}

/-- What holds of threads at a mailbox of the given capacity once `es` has happened there. -/
structure Accounted (t : Threads α) (capacity : Nat) (es : List (MailEvent α)) : Prop where
  /-- An ideal mailbox could have done the same. -/
  refines : Shelf.Run (.empty capacity) es t.box.shelf
  within : t.box.queue.length ≤ capacity
  sends : (t.sent.map Prod.snd).reverse = es.flatMap (·.sendOutcome)
  receives : t.received.reverse = es.flatMap (·.receiveOutcome)
  /-- Every accepted message is received, waiting, or dropped with the receiver, once. -/
  once : (es.flatMap (·.accepted)).Perm
    (t.received.filterMap Received.got? ++ t.box.messages ++ t.lost)
  /-- A message that is not accepted is handed back, and nothing changes. -/
  handsBack : ∀ x c, (t.box.attempt x c).2 ≠ .accepted →
    t.box.attempt x c = (t.box, .closed x) ∨ t.box.attempt x c = (t.box, .full x)
  closed_iff : ∀ x c, (t.box.attempt x c).2 = .closed x ↔ t.receiver.lives = false
  full_iff : ∀ x c, (t.box.attempt x c).2 = .full x ↔
    t.receiver.lives = true ∧ t.box.queue.length = capacity
  /-- A receive takes the first message of the highest class. -/
  delivers : ∀ x box, t.box.receive = (box, .got x) →
    ∃ c, Delivers Prod.fst t.box.shelf.waiting (c, x) box.shelf.waiting
  got_iff : (∃ x, t.box.receive.2 = .got x) ↔ t.box.queue ≠ []
  drained_iff : t.box.receive.2 = .closed ↔ t.box.queue = [] ∧ ∀ s ∈ t.senders, s.lives = false

/-- In whatever order threads send, receive, clone and drop the ends of a mailbox, they see an ideal
mailbox, and every accepted message is accounted for. -/
theorem moves_accounted [MessageSize α] {capacity : Nat} (h : new capacity = .ok t₀)
    (ms : List (ThreadMove α)) :
    (t₀.moves ms).Accounted capacity (t₀.events ms) := by
  obtain ⟨H₀, hnew⟩ := sound_new h
  obtain ⟨H, hrun, hrec⟩ := moves_refines H₀ ms
  generalize t₀.moves ms = t, t₀.events ms = es at H hrun hrec ⊢
  subst hnew
  have hcap : t.box.capacity = capacity := hrun.capacity_eq
  have hreceived : t.received.reverse = es.flatMap (·.receiveOutcome) := by
    simpa using hrec.received
  have hlost : t.lost = es.flatMap (·.lost) := by simpa using hrec.lost
  have hdelivered : es.flatMap (·.delivered) = (t.received.filterMap Received.got?).reverse := by
    rw [← List.filterMap_reverse, hreceived, List.filterMap_flatMap]
    simp only [MailEvent.delivered_eq]
  refine {
    refines := hrun
    within := hcap ▸ H.bounded
    sends := by simpa using hrec.sent
    receives := hreceived
    once := ?_
    handsBack := fun _ _ => Mailbox.attempt_handsBack
    closed_iff := fun _ _ => by rw [Mailbox.attempt_closed_iff, H.receiver]
    full_iff := fun _ _ => by rw [Mailbox.attempt_full_iff H.bounded, H.receiver, hcap]
    delivers := fun x box hx => ?_
    got_iff := Mailbox.receive_got_iff H.orderly
    drained_iff := ?_ }
  · have hperm := hrun.accepted_perm
    rw [Mailbox.waiting_shelf t.box, hdelivered, ← hlost] at hperm
    exact hperm.trans (((List.reverse_perm _).append_right _).append_right _)
  · cases Mailbox.receive_cases H.orderly hx with
    | @got e rest hd =>
      exact ⟨e.priority, hd.map (fun e : Entry α => (e.priority, e.message)) fun _ => rfl⟩
  · rw [Mailbox.receive_closed_iff H.orderly, H.senders, liveSenders, List.countP_eq_zero]
    simp

/-- Two classes in a mailbox of two places: the third send is refused, and the class decides. -/
theorem moves_accounted_two_classes :
    ∃ t₀ : Threads Nat, new 2 = .ok t₀ ∧
      (t₀.moves [.beginSend 0 ⟨7, 1, false⟩, .trySend 0 false, .notifyReceiver 0,
        .beginSend 0 ⟨8, 9, false⟩, .trySend 0 false, .notifyReceiver 0,
        .beginSend 0 ⟨9, 9, true⟩, .trySend 0 true, .beginReceive true, .tryReceive false]).Accounted 2
      [.sent ⟨7, 1, false⟩ .accepted, .sent ⟨8, 9, false⟩ .accepted, .sent ⟨9, 9, true⟩ (.full 9),
        .received (.got 8)] :=
  ⟨_, rfl, moves_accounted rfl _⟩

end Threads
end TickCapture
