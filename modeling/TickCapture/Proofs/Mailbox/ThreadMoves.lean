import TickCapture.Mailbox.Threads

/-! # What a move of a thread does

`MoveCase` lists the moves by what the thread that makes one is at. Most moves change the state of one
thread only; the counts of living ends change with a clone or a drop and at no other time. -/

namespace TickCapture

/-- Whether a sender has not been dropped. -/
def SenderState.lives {α : Type} : SenderState α → Bool
  | .hangingUp | .gone => false
  | _ => true

/-- Whether the receiver has not been dropped. -/
def ReceiverState.lives : ReceiverState → Bool
  | .closing | .gone => false
  | _ => true

namespace Threads

variable {α : Type} {t t' : Threads α}

def liveSenders (t : Threads α) : Nat := t.senders.countP (·.lives)

/-- A move that can be made, and the state after it. -/
inductive MoveCase (t : Threads α) : ThreadMove α → Threads α → Prop
  | beginSend {i : Nat} {parcel : Parcel α} : t.senders[i]? = some .idle →
    MoveCase t (.beginSend i parcel) (t.setSender i (.trying parcel))
  | trySend {i : Nat} {parcel : Parcel α} {timeIsOver : Bool} :
    t.senders[i]? = some (.trying parcel) →
    MoveCase t (.trySend i timeIsOver) (t.trySend i parcel timeIsOver)
  | expireSend {i : Nat} {parcel : Parcel α} : t.senders[i]? = some (.asleep parcel) →
    parcel.timed = true → MoveCase t (.expireSend i) (t.setSender i (.trying parcel))
  | notifyReceiver {i : Nat} : t.senders[i]? = some .notifying →
    MoveCase t (.notifyReceiver i)
      { t.setSender i .idle with receiver := wakeReceiver t.receiver }
  | hangUp {i : Nat} : t.senders[i]? = some .hangingUp →
    MoveCase t (.notifyReceiver i)
      { t.setSender i .gone with receiver := wakeReceiver t.receiver }
  | clone {i : Nat} : t.senders[i]? = some .idle →
    MoveCase t (.clone i) { t with box := t.box.cloneSender, senders := t.senders ++ [.idle] }
  | dropSender {i : Nat} : t.senders[i]? = some .idle →
    MoveCase t (.dropSender i) (t.dropSender i)
  | beginReceive {timed : Bool} : t.receiver = .idle →
    MoveCase t (.beginReceive timed) { t with receiver := .trying timed }
  | tryReceive {timed timeIsOver : Bool} : t.receiver = .trying timed →
    MoveCase t (.tryReceive timeIsOver) (t.tryReceive timed timeIsOver)
  | expireReceive : t.receiver = .asleep true →
    MoveCase t .expireReceive { t with receiver := .trying true }
  | notifySender {chosen : Nat} : t.receiver = .notifying →
    MoveCase t (.notifySenders chosen) { t.wakeOne chosen with receiver := .idle }
  | notifyAll {chosen : Nat} : t.receiver = .closing →
    MoveCase t (.notifySenders chosen)
      { t with senders := t.senders.map wakeSender, receiver := .gone }
  | dropReceiver : t.receiver = .idle → MoveCase t .dropReceiver t.dropReceiver

theorem move?_cases {m : ThreadMove α} (h : t.move? m = some t') : MoveCase t m t' := by
  cases m <;> simp only [move?] at h <;> split at h <;> (try split at h) <;> cases h <;>
    constructor <;> assumption

/-! ### Counting live senders -/

theorem liveSenders_pos {i : Nat} {s : SenderState α} (h : t.senders[i]? = some s)
    (hs : s.lives = true) : t.liveSenders ≠ 0 := by
  have := List.countP_pos_iff (p := SenderState.lives).mpr ⟨s, List.mem_of_getElem? h, hs⟩
  exact Nat.pos_iff_ne_zero.mp this

theorem liveSenders_setSender {i : Nat} {old s : SenderState α} (h : t.senders[i]? = some old)
    (hl : s.lives = old.lives) : (t.setSender i s).liveSenders = t.liveSenders := by
  have hpos := liveSenders_pos h
  obtain ⟨hi, rfl⟩ := List.getElem?_eq_some_iff.mp h
  unfold liveSenders at *
  rw [setSender, List.countP_set hi, hl]
  split
  · exact Nat.sub_add_cancel (Nat.pos_of_ne_zero (hpos ‹_›))
  · rfl

theorem liveSenders_setSender_of_drop {i : Nat} {old s : SenderState α}
    (h : t.senders[i]? = some old) (ho : old.lives = true) (hs : s.lives = false) :
    (t.setSender i s).liveSenders = t.liveSenders - 1 := by
  obtain ⟨hi, rfl⟩ := List.getElem?_eq_some_iff.mp h
  simp [liveSenders, setSender, List.countP_set hi, ho, hs]

@[simp] theorem lives_wakeSender (s : SenderState α) : (wakeSender s).lives = s.lives := by
  cases s <;> rfl

@[simp] theorem lives_wakeReceiver (r : ReceiverState) : (wakeReceiver r).lives = r.lives := by
  cases r <;> rfl

theorem countP_lives_map_wake (ss : List (SenderState α)) :
    (ss.map wakeSender).countP (·.lives) = ss.countP (·.lives) := by
  rw [List.countP_map]
  exact List.countP_congr fun s _ => by simp

theorem countP_lives_modify_wake (ss : List (SenderState α)) (i : Nat) :
    (ss.modify i wakeSender).countP (·.lives) = ss.countP (·.lives) := by
  induction ss generalizing i with
  | nil => simp
  | cons s ss ih => cases i <;> simp [List.countP_cons, ih]

theorem box_wakeOne (chosen : Nat) : (t.wakeOne chosen).box = t.box := by
  unfold wakeOne
  split <;> rfl

theorem liveSenders_wakeOne (chosen : Nat) : (t.wakeOne chosen).liveSenders = t.liveSenders := by
  unfold wakeOne
  split
  · rfl
  · exact countP_lives_modify_wake _ _

end Threads
end TickCapture
