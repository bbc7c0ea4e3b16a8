import TickCapture.Proofs.Mailbox.Accounting
import TickCapture.Proofs.Mailbox.Fifo

/-! # Nobody sleeps in vain

A thread that sleeps at a mailbox is woken by a notification, and a notification is delivered some
time after the change that it tells about. So a thread can be asleep although what it waits for is
there, but then somebody is on the way: while a sender sleeps, there is for every free place a sender
about to try or the receiver about to wake one (`SendersHeeded`), and while the receiver sleeps before
a message, some sender is about to wake it (`ReceiverHeeded`).

When nobody is on the way any more (`Resting`), whoever sleeps has to wait
(`moves_sleepers_have_to_wait`). -/

namespace TickCapture

namespace SenderState

variable {α : Type}

def isTrying : SenderState α → Bool
  | .trying _ => true
  | _ => false

def isAsleep : SenderState α → Bool
  | .asleep _ => true
  | _ => false

/-- Its call has returned, or it has gone. -/
def isFinished : SenderState α → Bool
  | .idle | .gone => true
  | _ => false

end SenderState

namespace ReceiverState

def isAsleep : ReceiverState → Bool
  | .asleep _ => true
  | _ => false

/-- Its call has returned, or it has gone. -/
def isFinished : ReceiverState → Bool
  | .idle | .gone => true
  | _ => false

/-- How many senders it is about to wake; one that closes the mailbox is not counted here. -/
def wakes : ReceiverState → Nat
  | .notifying => 1
  | _ => 0

end ReceiverState

namespace Threads

variable {α : Type} {t t' t₀ : Threads α} {i : Nat} {s old : SenderState α}

def tryingSenders (t : Threads α) : Nat := t.senders.countP SenderState.isTrying

/-- How many senders are about to take a place, or about to be woken for one. -/
def onTheWay (t : Threads α) : Nat := t.tryingSenders + t.receiver.wakes

/-- Everybody has finished or sleeps, and no notification is still to be delivered. -/
structure Resting (t : Threads α) : Prop where
  senders : ∀ s ∈ t.senders, s.isFinished = true ∨ s.isAsleep = true
  receiver : t.receiver.isFinished = true ∨ t.receiver.isAsleep = true

/-! ### Changing the state of one sender -/

/-- The count of trying senders changes by the one that changes. -/
theorem tryingSenders_setSender (h : t.senders[i]? = some old) :
    (t.setSender i s).tryingSenders + (if old.isTrying then 1 else 0) =
      t.tryingSenders + (if s.isTrying then 1 else 0) := by
  obtain ⟨hi, hold⟩ := List.getElem?_eq_some_iff.mp h
  have hset := List.countP_set (p := SenderState.isTrying) (a := s) hi
  rw [hold] at hset
  rw [tryingSenders, tryingSenders, setSender, hset]
  cases ho : old.isTrying with
  | false => simp
  | true =>
    have hpos : 0 < t.senders.countP SenderState.isTrying :=
      List.countP_pos_iff.mpr ⟨old, List.mem_of_getElem? h, ho⟩
    simp only [if_true]
    omega

theorem mem_setSender_of_ne (h : t.senders[i]? = some old) {x : SenderState α}
    (hx : x ∈ t.senders) (hne : x ≠ old) : x ∈ (t.setSender i s).senders := by
  obtain ⟨j, hj⟩ := List.mem_iff_getElem?.mp hx
  have hij : i ≠ j := by
    rintro rfl
    exact hne (Option.some.inj (hj.symm.trans h))
  exact List.mem_iff_getElem?.mpr ⟨j, by rw [setSender, List.getElem?_set_ne hij, hj]⟩

theorem mem_setSender_self (h : t.senders[i]? = some old) : s ∈ (t.setSender i s).senders := by
  obtain ⟨hi, -⟩ := List.getElem?_eq_some_iff.mp h
  exact List.mem_set hi s

/-! ### Waking -/

theorem wakes_wakeReceiver (r : ReceiverState) : (wakeReceiver r).wakes = r.wakes := by
  cases r <;> rfl

theorem wakeReceiver_closing {r : ReceiverState} (h : r = .closing) :
    wakeReceiver r = .closing := by rw [h]; rfl

theorem mem_sleepers : i ∈ t.sleepers ↔ ∃ parcel, t.senders[i]? = some (.asleep parcel) := by
  rw [sleepers, List.mem_filter, List.mem_range]
  constructor
  · rintro ⟨-, hi⟩
    split at hi
    · next parcel hs => exact ⟨parcel, hs⟩
    · cases hi
  · rintro ⟨parcel, hs⟩
    obtain ⟨hi, -⟩ := List.getElem?_eq_some_iff.mp hs
    exact ⟨hi, by rw [hs]⟩

/-- What a notification for one sender comes to: it is lost, or one sleeping sender is woken. -/
inductive WakeCase (t : Threads α) : Threads α → Prop
  | lost : (∀ s ∈ t.senders, s.isAsleep = false) → WakeCase t t
  | woken {i : Nat} {parcel : Parcel α} : t.senders[i]? = some (.asleep parcel) →
    WakeCase t (t.setSender i (.trying parcel))

theorem wakeOne_cases (chosen : Nat) : WakeCase t (t.wakeOne chosen) := by
  unfold wakeOne
  split
  · next hnone =>
    refine .lost fun s hs => ?_
    obtain ⟨i, hi⟩ := List.mem_iff_getElem?.mp hs
    cases s with
    | asleep parcel =>
      have hmem : i ∈ t.sleepers := mem_sleepers.mpr ⟨parcel, hi⟩
      rw [hnone] at hmem
      cases hmem
    | idle | trying | notifying | hangingUp | gone => rfl
  · next first rest hsleepers =>
    have hwake {i : Nat} (hi : i ∈ t.sleepers) :
        WakeCase t { t with senders := t.senders.modify i wakeSender } := by
      obtain ⟨parcel, hs⟩ := mem_sleepers.mp hi
      have hmodify : t.senders.modify i wakeSender = t.senders.set i (.trying parcel) := by
        obtain ⟨hlt, hget⟩ := List.getElem?_eq_some_iff.mp hs
        refine List.ext_getElem? fun j => ?_
        rw [List.getElem?_modify, List.getElem?_set]
        by_cases hij : i = j
        · subst hij
          simp [hlt, hget, wakeSender]
        · simp [hij]
      rw [hmodify]
      exact .woken hs
    dsimp only
    split
    · exact hwake ‹_›
    · exact hwake (hsleepers ▸ List.mem_cons_self)

/-! ### Senders that sleep -/

/-- While a sender sleeps, somebody is on the way for every free place; and a receiver that has closed
the mailbox has still to tell it. -/
structure SendersHeeded (t : Threads α) : Prop where
  places : ∀ {parcel}, .asleep parcel ∈ t.senders → t.receiver.lives = true →
    t.box.capacity ≤ t.box.queue.length + t.onTheWay
  told : ∀ {parcel}, .asleep parcel ∈ t.senders → t.receiver.lives = false → t.receiver = .closing

namespace SendersHeeded

/-- A change after which no other sender sleeps, and that leaves nobody on the way out. -/
theorem mono (H : t.SendersHeeded)
    (hasleep : ∀ {parcel}, .asleep parcel ∈ t'.senders → .asleep parcel ∈ t.senders)
    (hlives : t'.receiver.lives = t.receiver.lives)
    (hplaces : t.box.capacity ≤ t.box.queue.length + t.onTheWay →
      t'.box.capacity ≤ t'.box.queue.length + t'.onTheWay)
    (hclosing : t.receiver = .closing → t'.receiver = .closing) : t'.SendersHeeded where
  places hs hl := hplaces (H.places (hasleep hs) (hlives.symm.trans hl))
  told hs hl := hclosing (H.told (hasleep hs) (hlives.symm.trans hl))

/-- Only the receiver goes on, and it keeps what it has to deliver. -/
theorem receiver (H : t.SendersHeeded) (hbox : t'.box = t.box) (hs : t'.senders = t.senders)
    (hlives : t'.receiver.lives = t.receiver.lives) (hwakes : t.receiver.wakes ≤ t'.receiver.wakes)
    (hclosing : t.receiver = .closing → t'.receiver = .closing) : t'.SendersHeeded := by
  refine H.mono (fun hmem => hs ▸ hmem) hlives (fun hle => ?_) hclosing
  rw [onTheWay, tryingSenders] at hle ⊢
  rw [hbox, hs]
  omega

theorem of_no_sleeper (h : ∀ parcel, .asleep parcel ∉ t.senders) : t.SendersHeeded :=
  ⟨fun hs => absurd hs (h _), fun hs => absurd hs (h _)⟩

/-- One sender goes on to something other than sleep. -/
theorem setSender (H : t.SendersHeeded) (h : t.senders[i]? = some old)
    (hs : s.isAsleep = false) (hold : old.isTrying = true → s.isTrying = true) :
    (t.setSender i s).SendersHeeded := by
  refine H.mono (fun hmem => ?_) rfl (fun hle => ?_) id
  · rcases List.mem_or_eq_of_mem_set hmem with hmem | rfl
    · exact hmem
    · cases hs
  · have hcount := tryingSenders_setSender (s := s) h
    have hmore : (if old.isTrying then 1 else 0) ≤ if s.isTrying then 1 else 0 := by
      cases ho : old.isTrying with
      | false => exact Nat.zero_le _
      | true => simp [hold ho]
    rw [onTheWay] at hle
    change t.box.capacity ≤ t.box.queue.length +
      ((t.setSender i s).tryingSenders + t.receiver.wakes)
    omega

/-- What a sender does under the lock. If it goes to sleep there is no free place; if it takes one, it
was on the way for it. -/
theorem trySend {parcel : Parcel α} (H : t.SendersHeeded) (hsound : t.Sound)
    (h : t.senders[i]? = some (.trying parcel)) (timeIsOver : Bool) :
    (t.trySend i parcel timeIsOver).SendersHeeded := by
  have hbox := hsound.receiver
  have hother {s : SenderState α} {parcel' : Parcel α}
      (hmem : .asleep parcel' ∈ (t.setSender i s).senders) (hs : s.isAsleep = false) :
      .asleep parcel' ∈ t.senders := by
    rcases List.mem_or_eq_of_mem_set hmem with hmem | rfl
    · exact hmem
    · cases hs
  cases ha : t.box.attempt parcel.message parcel.priority with
  | mk box outcome =>
    cases Mailbox.attempt_cases ha with
    | accepted halive hlt =>
      have hcount : (t.setSender i .notifying).tryingSenders + 1 = t.tryingSenders :=
        tryingSenders_setSender h
      simp only [Threads.trySend, ha]
      refine H.mono (fun hmem => hother hmem rfl) rfl (fun hle => ?_) id
      rw [onTheWay] at hle
      rw [List.length_append]
      change t.box.capacity ≤ t.box.queue.length + 1 +
        ((t.setSender i .notifying).tryingSenders + t.receiver.wakes)
      omega
    | full halive hle =>
      -- no place is free, so nobody has to be on the way
      have hlives : t.receiver.lives = true := hbox.symm.trans halive
      simp only [Threads.trySend, ha]
      split
      · refine ⟨fun _ _ => ?_, fun _ hl => ?_⟩
        · exact Nat.le_add_right_of_le hle
        · cases hlives.symm.trans hl
      · refine ⟨fun _ _ => ?_, fun _ hl => ?_⟩
        · exact Nat.le_add_right_of_le hle
        · cases hlives.symm.trans hl
    | closed halive =>
      have hlives : t.receiver.lives = false := hbox.symm.trans halive
      simp only [Threads.trySend, ha]
      refine ⟨fun _ hl => ?_, fun hmem _ => H.told (hother hmem rfl) hlives⟩
      cases hlives.symm.trans hl

/-- What the receiver does under the lock. If it frees a place, it is on the way to wake a sender. -/
theorem tryReceive {timed : Bool} (H : t.SendersHeeded) (hsound : t.Sound)
    (hr : t.receiver = .trying timed) (timeIsOver : Bool) :
    (t.tryReceive timed timeIsOver).SendersHeeded := by
  have hlives : t.receiver.lives = true := by rw [hr]; rfl
  have hwakes : t.receiver.wakes = 0 := by rw [hr]; rfl
  have hclosing : t.receiver ≠ .closing := by rw [hr]; nofun
  cases ha : t.box.receive with
  | mk box outcome =>
    cases Mailbox.receive_cases hsound.orderly ha with
    | got hd =>
      have hlength := hd.perm.length_eq
      rw [List.length_cons] at hlength
      simp only [Threads.tryReceive, ha]
      refine H.mono id hlives.symm (fun hle => ?_) fun hc => absurd hc hclosing
      rw [onTheWay, hwakes] at hle
      change t.box.capacity ≤ _ + (t.tryingSenders + 1)
      dsimp only
      omega
    | nothing _ _ =>
      simp only [Threads.tryReceive, ha]
      split
      · exact H.receiver rfl rfl hlives.symm (Nat.le_of_eq hwakes) fun hc => absurd hc hclosing
      · exact H.receiver rfl rfl hlives.symm (Nat.le_of_eq hwakes) fun hc => absurd hc hclosing
    | closed _ _ =>
      simp only [Threads.tryReceive, ha]
      exact H.receiver rfl rfl hlives.symm (Nat.le_of_eq hwakes) fun hc => absurd hc hclosing

/-- A notification wakes a sender for one free place, or nobody sleeps. -/
theorem wakeOne (H : t.SendersHeeded) (hr : t.receiver = .notifying) (chosen : Nat) :
    SendersHeeded { t.wakeOne chosen with receiver := .idle } := by
  have hcase := wakeOne_cases (t := t) chosen
  generalize t.wakeOne chosen = t' at hcase ⊢
  cases hcase with
  | lost hnone => exact of_no_sleeper fun parcel hmem => by cases hnone _ hmem
  | @woken i parcel hs =>
    have hcount : (t.setSender i (.trying parcel)).tryingSenders + 0 = t.tryingSenders + 1 :=
      tryingSenders_setSender hs
    have hwakes : t.receiver.wakes = 1 := by rw [hr]; rfl
    refine H.mono (fun hmem => ?_) (by rw [hr]; rfl) (fun hle => ?_) fun hc => ?_
    · rcases List.mem_or_eq_of_mem_set hmem with hmem | hmem
      · exact hmem
      · cases hmem
    · -- the sender that is woken is on the way now, and the receiver no longer
      rw [onTheWay, hwakes] at hle
      change t.box.capacity ≤ t.box.queue.length +
        (t.setSender i (.trying parcel)).tryingSenders
      omega
    · cases hr.symm.trans hc

/-- No move leaves a sleeping sender without somebody on the way to its place. -/
theorem move? {m : ThreadMove α} (H : t.SendersHeeded) (hsound : t.Sound)
    (h : t.move? m = some t') : t'.SendersHeeded := by
  have hidle (s : SenderState α) : SenderState.isTrying (.idle : SenderState α) = true →
      s.isTrying = true := fun htrying => by cases htrying
  cases move?_cases h with
  | beginSend hi => exact H.setSender hi rfl (hidle _)
  | trySend hi => exact H.trySend hsound hi _
  | expireSend hi _ => exact H.setSender hi rfl fun htrying => by cases htrying
  | notifyReceiver hi =>
    have hset := H.setSender (s := .idle) hi rfl fun htrying => by cases htrying
    exact hset.receiver rfl rfl (lives_wakeReceiver _)
      (Nat.le_of_eq (wakes_wakeReceiver _).symm) wakeReceiver_closing
  | hangUp hi =>
    have hset := H.setSender (s := .gone) hi rfl fun htrying => by cases htrying
    exact hset.receiver rfl rfl (lives_wakeReceiver _)
      (Nat.le_of_eq (wakes_wakeReceiver _).symm) wakeReceiver_closing
  | clone hi =>
    refine H.mono (fun hmem => ?_) rfl (fun hle => ?_) id
    · rcases List.mem_append.mp hmem with hmem | hmem
      · exact hmem
      · cases List.mem_singleton.mp hmem
    · simpa [onTheWay, tryingSenders, Mailbox.cloneSender, SenderState.isTrying] using hle
  | dropSender hi =>
    have hset := H.setSender (s := if t.box.dropSender.senders = 0 then .hangingUp else .gone) hi
      (by split <;> rfl) (hidle _)
    exact ⟨hset.places, hset.told⟩
  | beginReceive hr =>
    refine H.receiver rfl rfl (by rw [hr]; rfl) (by rw [hr]; exact Nat.zero_le _) fun hc => ?_
    cases hr.symm.trans hc
  | tryReceive hr => exact H.tryReceive hsound hr _
  | expireReceive hr =>
    refine H.receiver rfl rfl (by rw [hr]; rfl) (by rw [hr]; exact Nat.zero_le _) fun hc => ?_
    cases hr.symm.trans hc
  | notifySender hr => exact H.wakeOne hr _
  | notifyAll hr =>
    refine of_no_sleeper fun parcel hmem => ?_
    obtain ⟨s, -, hs⟩ := List.mem_map.mp hmem
    cases s <;> cases hs
  | dropReceiver hr =>
    refine ⟨fun _ hlives => ?_, fun _ _ => rfl⟩
    cases hlives

end SendersHeeded

/-! ### A receiver that sleeps -/

/-- While the receiver sleeps, some sender is about to wake it if there is a message, and some sender
is about to tell it if no sender lives. -/
structure ReceiverHeeded (t : Threads α) : Prop where
  messages : t.receiver.isAsleep = true → t.box.queue ≠ [] → .notifying ∈ t.senders
  hungUp : t.receiver.isAsleep = true → t.box.senders = 0 → .hangingUp ∈ t.senders

namespace ReceiverHeeded

theorem of_awake (h : t.receiver.isAsleep = false) : t.ReceiverHeeded := by
  constructor <;> intro hr <;> cases h.symm.trans hr

/-- One sender goes on that had no notification to deliver, and no message comes or goes. -/
theorem setSender (H : t.ReceiverHeeded) (h : t.senders[i]? = some old)
    (hold : old ≠ .notifying ∧ old ≠ .hangingUp) : (t.setSender i s).ReceiverHeeded where
  messages hr hq := mem_setSender_of_ne h (H.messages hr hq) hold.1.symm
  hungUp hr hs := mem_setSender_of_ne h (H.hungUp hr hs) hold.2.symm

theorem trySend {parcel : Parcel α} (H : t.ReceiverHeeded)
    (h : t.senders[i]? = some (.trying parcel)) (timeIsOver : Bool) :
    (t.trySend i parcel timeIsOver).ReceiverHeeded := by
  have hset (s : SenderState α) : (t.setSender i s).ReceiverHeeded := H.setSender h ⟨nofun, nofun⟩
  cases ha : t.box.attempt parcel.message parcel.priority with
  | mk box outcome =>
    cases Mailbox.attempt_cases ha with
    | accepted _ _ =>
      simp only [Threads.trySend, ha]
      exact ⟨fun _ _ => mem_setSender_self h, (hset .notifying).hungUp⟩
    | full _ _ =>
      simp only [Threads.trySend, ha]
      split
      · exact ⟨(hset .idle).messages, (hset .idle).hungUp⟩
      · exact hset _
    | closed _ =>
      simp only [Threads.trySend, ha]
      exact ⟨(hset .idle).messages, (hset .idle).hungUp⟩

/-- The receiver goes to sleep only if there is no message and some sender lives. -/
theorem tryReceive (timed timeIsOver : Bool) : (t.tryReceive timed timeIsOver).ReceiverHeeded := by
  unfold Threads.tryReceive
  split
  · exact of_awake rfl
  · exact of_awake rfl
  · next hreceive =>
    obtain ⟨-, hqueue, hsenders⟩ := Mailbox.receive_nothing hreceive
    split
    · exact of_awake rfl
    · exact ⟨fun _ hq => absurd hqueue hq, fun _ hs => absurd hs hsenders⟩

/-- No move leaves the receiver asleep without somebody about to wake it. -/
theorem move? {m : ThreadMove α} (H : t.ReceiverHeeded) (h : t.move? m = some t') :
    t'.ReceiverHeeded := by
  have hwoken : (wakeReceiver t.receiver).isAsleep = false := by cases t.receiver <;> rfl
  cases move?_cases h with
  | beginSend hi => exact H.setSender hi ⟨nofun, nofun⟩
  | trySend hi => exact H.trySend hi _
  | expireSend hi _ => exact H.setSender hi ⟨nofun, nofun⟩
  | notifyReceiver hi | hangUp hi => exact of_awake hwoken
  | clone hi =>
    refine ⟨fun hr hq => List.mem_append_left _ (H.messages hr hq), fun _ hs => ?_⟩
    cases hs
  | dropSender hi =>
    have hset := H.setSender (s := if t.box.dropSender.senders = 0 then .hangingUp else .gone) hi
      ⟨nofun, nofun⟩
    refine ⟨hset.messages, fun _ hs => ?_⟩
    simp only [Threads.dropSender, if_pos (show t.box.dropSender.senders = 0 from hs)]
    exact mem_setSender_self hi
  | tryReceive hr => exact tryReceive _ _
  | beginReceive hr | expireReceive hr | notifySender hr | notifyAll hr | dropReceiver hr =>
    exact of_awake rfl

end ReceiverHeeded

/-! ### Whole runs -/

theorem heeded_moves (hsound : t.Sound) (hs : t.SendersHeeded) (hr : t.ReceiverHeeded)
    (ms : List (ThreadMove α)) :
    (t.moves ms).Sound ∧ (t.moves ms).SendersHeeded ∧ (t.moves ms).ReceiverHeeded := by
  induction ms generalizing t with
  | nil => exact ⟨hsound, hs, hr⟩
  | cons m ms ih =>
    rw [moves, List.foldl_cons, ← moves]
    cases h : t.move? m with
    | none => exact ih hsound hs hr
    | some t' => exact ih (move?_refines hsound h).1 (hs.move? hsound h) (hr.move? h)

theorem onTheWay_of_resting (H : t.Resting) : t.onTheWay = 0 := by
  have htrying : t.tryingSenders = 0 := by
    refine List.countP_eq_zero.mpr fun s hs => ?_
    rcases H.senders s hs with h | h <;> cases s <;> simp_all [SenderState.isTrying,
      SenderState.isFinished, SenderState.isAsleep]
  have hwakes : t.receiver.wakes = 0 := by
    rcases H.receiver with h | h <;> cases hr : t.receiver <;> simp_all [ReceiverState.wakes,
      ReceiverState.isFinished, ReceiverState.isAsleep]
  rw [onTheWay, htrying, hwakes]

/-- When all rest, a sender sleeps only before a full mailbox whose receiver lives. -/
theorem SendersHeeded.full_of_resting (H : t.SendersHeeded) (hsound : t.Sound) (hrest : t.Resting)
    (hs : s ∈ t.senders) (hasleep : s.isAsleep = true) :
    t.box.queue.length = t.box.capacity ∧ t.receiver.lives = true := by
  obtain ⟨parcel, rfl⟩ : ∃ parcel, s = .asleep parcel := by
    cases s <;> simp [SenderState.isAsleep] at hasleep
    exact ⟨_, rfl⟩
  have hlives : t.receiver.lives = true := by
    cases hl : t.receiver.lives with
    | true => rfl
    | false =>
      -- a receiver that has still to tell its senders does not rest
      have hclosing := H.told hs hl
      rcases hrest.receiver with h | h <;> rw [hclosing] at h <;> cases h
  have hplaces := H.places hs hlives
  rw [onTheWay_of_resting hrest] at hplaces
  exact ⟨Nat.le_antisymm hsound.bounded hplaces, hlives⟩

/-- When all rest, the receiver sleeps only before an empty mailbox that has a sender. -/
theorem ReceiverHeeded.empty_of_resting (H : t.ReceiverHeeded) (hsound : t.Sound)
    (hrest : t.Resting) (hasleep : t.receiver.isAsleep = true) :
    t.box.queue = [] ∧ ∃ s ∈ t.senders, s.lives = true := by
  constructor
  · cases hq : t.box.queue with
    | nil => rfl
    | cons e es =>
      have hnotifying := H.messages hasleep (by rw [hq]; exact List.cons_ne_nil e es)
      rcases hrest.senders _ hnotifying with h | h <;> cases h
  · have hlive : t.liveSenders ≠ 0 := fun hnone => by
      have hhanging := H.hungUp hasleep (hsound.senders.trans hnone)
      rcases hrest.senders _ hhanging with h | h <;> cases h
    obtain ⟨s, hs, hl⟩ := List.countP_pos_iff.mp (Nat.pos_of_ne_zero hlive)
    exact ⟨s, hs, hl⟩

/-- However threads send, receive, clone and drop the ends of a mailbox: once all of them have finished
or sleep and no notification is to be delivered, a sender sleeps only if the mailbox is full and the
receiver lives, and the receiver only if there is no message and a sender lives. -/
theorem moves_sleepers_have_to_wait [MessageSize α] {capacity : Nat} (h : new capacity = .ok t₀)
    (ms : List (ThreadMove α)) (hrest : (t₀.moves ms).Resting) :
    ((∃ s ∈ (t₀.moves ms).senders, s.isAsleep = true) →
      (t₀.moves ms).box.queue.length = capacity ∧ (t₀.moves ms).receiver.lives = true) ∧
    ((t₀.moves ms).receiver.isAsleep = true →
      (t₀.moves ms).box.queue = [] ∧ ∃ s ∈ (t₀.moves ms).senders, s.lives = true) := by
  obtain ⟨H₀, rfl⟩ := sound_new h
  have hfresh : SendersHeeded (α := α) ⟨⟨capacity, [], 0, 1, true⟩, [.idle], .idle, [], [], []⟩ :=
    .of_no_sleeper fun parcel hmem => by cases List.mem_singleton.mp hmem
  obtain ⟨hsound, hsenders, hreceiver⟩ := heeded_moves H₀ hfresh (.of_awake rfl) ms
  have hrun := (moves_refines H₀ ms).2.1
  have hcapacity := hrun.capacity_eq
  constructor
  · rintro ⟨s, hs, hasleep⟩
    obtain ⟨hfull, hlives⟩ := hsenders.full_of_resting hsound hrest hs hasleep
    exact ⟨hfull.trans hcapacity, hlives⟩
  · intro hasleep
    exact hreceiver.empty_of_resting hsound hrest hasleep

/-- A sender sleeps before a mailbox of one place. The message there is received and the sleeper is
woken, but another sender is quicker, so it goes to sleep again; all are at rest, and it has to wait. -/
theorem sleepers_have_to_wait_after_barging : ∃ t : Threads Nat,
    t = (⟨⟨1, [], 0, 1, true⟩, [.idle], .idle, [], [], []⟩ : Threads Nat).moves
      [.clone 0, .beginSend 0 ⟨7, 30, false⟩, .trySend 0 false, .notifyReceiver 0,
        .beginSend 1 ⟨8, 30, false⟩, .trySend 1 false, .beginReceive true, .tryReceive false,
        .beginSend 0 ⟨9, 30, false⟩, .notifySenders 1, .trySend 0 false, .trySend 1 false,
        .notifyReceiver 0] ∧
    t.senders = [.idle, .asleep ⟨8, 30, false⟩] ∧ t.received = [.got 7] ∧
    t.box.queue.length = 1 ∧ t.receiver.lives = true := by
  refine ⟨_, rfl, rfl, rfl, ?_⟩
  refine (moves_sleepers_have_to_wait (show new 1 = .ok _ from rfl) _ ⟨?_, .inl rfl⟩).1 ?_
  · exact List.forall_mem_cons.mpr ⟨.inl rfl, List.forall_mem_singleton.mpr (.inr rfl)⟩
  · exact ⟨.asleep ⟨8, 30, false⟩, List.mem_cons_of_mem _ List.mem_cons_self, rfl⟩

end Threads
end TickCapture
