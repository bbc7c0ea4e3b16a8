import TickCapture.Proofs.Line.Moves

/-! # The slots of the pool on their way

At every moment each slot of the pool is free, waits in the mailbox of displaced frames, or is held by
the detection or the persistence stage (`Line.Pooled`). Each step of a stage is looked at by itself:
whatever the others hold stays with them. -/

namespace TickCapture

variable {κ σ : Type}

/-! ### The plant -/

namespace Plant

section Discard

variable [DriverQueue κ] (p : Plant κ σ) (frame : Captured)

@[simp] theorem frames_discard : (p.discard frame).frames = p.frames := rfl

/-- Discarding frames touches nothing but the camera and the log. -/
theorem foldl_discard (lost : List Captured) (p : Plant κ σ) :
    (lost.foldl discard p).frames = p.frames ∧ (lost.foldl discard p).pool = p.pool ∧
      (lost.foldl discard p).ticks = p.ticks := by
  induction lost generalizing p with
  | nil => exact ⟨rfl, rfl, rfl⟩
  | cons frame lost ih => exact ih (p.discard frame)

@[simp] theorem frames_closeFrames : p.closeFrames.frames = p.frames.dropReceiver.1 :=
  (foldl_discard _ _).1

@[simp] theorem pool_closeFrames : p.closeFrames.pool = p.pool := (foldl_discard _ _).2.1

@[simp] theorem ticks_closeFrames : p.closeFrames.ticks = p.ticks := (foldl_discard _ _).2.2

end Discard

/-- Dropping a buffer touches nothing but the pool and the log. -/
theorem drop_eq {p p' : Plant κ σ} {unwinding : Bool} {b : PooledBuffer} {fault : Option Fault}
    (h : p.drop unwinding b = (p', fault)) :
    p'.ticks = p.ticks ∧ p'.frames = p.frames ∧ p'.camera = p.camera := by
  cases h
  exact ⟨rfl, rfl, rfl⟩

/-- Dropping buffers one after another touches nothing but the pool and the log. -/
theorem foldl_drop_eq (unwinding : Bool) (lost : List PooledBuffer) (p : Plant κ σ)
    (fault : Option Fault) {p' : Plant κ σ} {fault' : Option Fault}
    (h : lost.foldl (fun (p, fault) buffer =>
      let (p, other) := p.drop unwinding buffer
      (p, fault <|> other)) (p, fault) = (p', fault')) :
    p'.ticks = p.ticks ∧ p'.frames = p.frames ∧ p'.camera = p.camera := by
  induction lost generalizing p fault with
  | nil =>
    cases h
    exact ⟨rfl, rfl, rfl⟩
  | cons b lost ih =>
    cases hdrop : p.drop unwinding b with
    | mk q other =>
      rw [List.foldl_cons] at h
      simp only [hdrop] at h
      obtain ⟨ht, hf, hc⟩ := ih q _ h
      obtain ⟨ht', hf', hc'⟩ := drop_eq hdrop
      exact ⟨ht.trans ht', hf.trans hf', hc.trans hc'⟩

/-- Closing the mailbox of displaced frames touches neither the camera nor the captured frames. -/
theorem closeTicks_eq {p p' : Plant κ σ} {unwinding : Bool} {fault : Option Fault}
    (h : p.closeTicks unwinding = (p', fault)) :
    p'.ticks = p.ticks.dropReceiver.1 ∧ p'.frames = p.frames ∧ p'.camera = p.camera :=
  foldl_drop_eq unwinding _ _ none h

/-- A plant whose pool has `count` slots of `size` bytes: they are free, in the mailbox of displaced
frames, of which there is `room` for so many, or held by those who hold `held`. -/
structure Pooled (count size room : Nat) (p : Plant κ σ) (held : List PooledBuffer) : Prop where
  accounts : p.pool.Accounts (held ++ p.ticks.messages)
  count_eq : p.pool.capacity = count
  size_eq : p.pool.slotLen = size
  fifo : p.ticks.Fifo .tick
  room_eq : p.ticks.capacity = room
  bounded : p.ticks.queue.length ≤ room

namespace Pooled

variable {count size room : Nat} {p p' : Plant κ σ} {held held' : List PooledBuffer} {b : PooledBuffer}

/-- Nothing has been taken from a new pool. -/
theorem new {id : Nat} (hpool : p.pool = .fresh id count size)
    (hticks : Mailbox.bounded room = .ok p.ticks) : Pooled count size room p [] := by
  obtain ⟨-, hempty⟩ := Mailbox.Orderly.bounded hticks
  refine ⟨?_, ?_, ?_, .of_bounded hticks, ?_, ?_⟩
  · rw [hpool, hempty]
    exact .fresh id count size
  · rw [hpool]; rfl
  · rw [hpool]; rfl
  · rw [hempty]
  · rw [hempty]; exact Nat.zero_le _

theorem perm (H : Pooled count size room p held) (h : held.Perm held') :
    Pooled count size room p held' :=
  { H with accounts := H.accounts.perm (h.append_right _) }

theorem congr (H : Pooled count size room p held) (hp : p'.pool = p.pool) (ht : p'.ticks = p.ticks) :
    Pooled count size room p' held where
  accounts := by rw [hp, ht]; exact H.accounts
  count_eq := by rw [hp]; exact H.count_eq
  size_eq := by rw [hp]; exact H.size_eq
  fifo := by rw [ht]; exact H.fifo
  room_eq := by rw [ht]; exact H.room_eq
  bounded := by rw [ht]; exact H.bounded

theorem dropSender (H : Pooled count size room p held) :
    Pooled count size room { p with ticks := p.ticks.dropSender } held :=
  { H with fifo := H.fifo.dropSender }

/-- The free slots are those that nobody holds. -/
theorem length_free (H : Pooled count size room p held) :
    p.pool.free.length + (held.length + p.ticks.queue.length) = count := by
  rw [← H.count_eq, ← H.accounts.length_add, List.length_append, Mailbox.length_messages]

/-- A slot is acquired unless all are in use. -/
theorem acquire {pool : Pool} {outcome : Except Fault (Option PooledBuffer)}
    (H : Pooled count size room p held) (h : p.pool.acquire = (pool, outcome)) :
    (p.pool.free = [] ∧ pool = p.pool ∧ outcome = .ok none) ∨
      ∃ slot, outcome = .ok (some slot) ∧ slot.selected = false ∧ pool.Owns slot ∧
        Pooled count size room { p with pool } (slot :: held) := by
  cases hfree : p.pool.free with
  | nil =>
    rw [Pool.Accounts.acquire_of_nil hfree] at h
    cases h
    exact .inl ⟨rfl, rfl, rfl⟩
  | cons slot free =>
    obtain ⟨data, hacq, hacc⟩ := H.accounts.acquire_of_cons hfree
    rw [hacq] at h
    cases h
    exact .inr ⟨_, rfl, rfl, hacc.owned _ List.mem_cons_self, { H with accounts := hacc }⟩

/-- A slot that is held is taken back. -/
theorem takeBack {pool : Pool} {outcome : Except PoolError Unit}
    (H : Pooled count size room p (b :: held)) (h : p.pool.takeBack b = (pool, outcome)) :
    outcome = .ok () ∧ Pooled count size room { p with pool } held := by
  obtain ⟨data, -, hback, hacc⟩ := H.accounts.takeBack
  rw [hback] at h
  cases h
  exact ⟨rfl, { H with accounts := hacc }⟩

theorem drop {unwinding : Bool} {fault : Option Fault} (H : Pooled count size room p (b :: held))
    (h : p.drop unwinding b = (p', fault)) : fault = none ∧ Pooled count size room p' held := by
  obtain ⟨data, -, hback, hacc⟩ := H.accounts.drop unwinding
  simp only [Plant.drop, hback] at h
  cases h
  exact ⟨rfl, { H with accounts := hacc }⟩

/-- A frame that is sent passes from a hand to the mailbox. -/
theorem send {ticks : Mailbox PooledBuffer} (H : Pooled count size room p (b :: held))
    (h : p.ticks.attempt b .tick = (ticks, .accepted)) :
    Pooled count size room { p with ticks } held := by
  obtain ⟨hfifo, hmessages⟩ := H.fifo.accepted h
  obtain ⟨-, hlt, rfl⟩ := Mailbox.attempt_accepted h
  rw [H.room_eq] at hlt
  refine { H with accounts := H.accounts.perm ?_, fifo := hfifo, bounded := ?_ }
  · rw [hmessages, ← List.append_assoc]
    exact (List.perm_append_singleton b _).symm
  · simpa using Nat.succ_le_of_lt hlt

/-- A frame that is received passes from the mailbox to a hand. -/
theorem receive {ticks : Mailbox PooledBuffer} (H : Pooled count size room p held)
    (h : p.ticks.receive = (ticks, .got b)) : Pooled count size room { p with ticks } (b :: held) := by
  obtain ⟨hfifo, hmessages⟩ := H.fifo.got h
  have hlen := congrArg List.length hmessages
  obtain ⟨rest, rfl⟩ := Mailbox.receive_got h
  refine { H with accounts := H.accounts.perm ?_, fifo := hfifo, bounded := ?_ }
  · rw [hmessages]
    exact List.perm_middle
  · have hbounded := H.bounded
    simp only [List.length_cons, Mailbox.length_messages] at hlen ⊢
    omega

theorem foldl_drop (unwinding : Bool) (lost : List PooledBuffer) {p : Plant κ σ}
    (H : Pooled count size room p (lost ++ held)) :
    ∃ p', lost.foldl (fun (p, fault) buffer =>
        let (p, other) := p.drop unwinding buffer
        (p, fault <|> other)) (p, none) = (p', none) ∧
      Pooled count size room p' held := by
  induction lost generalizing p with
  | nil => exact ⟨p, rfl, H⟩
  | cons b lost ih =>
    cases hdrop : p.drop unwinding b with
    | mk q fault =>
      obtain ⟨rfl, H'⟩ := H.drop hdrop
      obtain ⟨p', hfold, Hp'⟩ := ih H'
      refine ⟨p', ?_, Hp'⟩
      rw [List.foldl_cons]
      simp only [hdrop]
      exact hfold

/-- The frames in the mailbox go back to the pool when their receiver is gone. -/
theorem closeTicks {unwinding : Bool} {fault : Option Fault} (H : Pooled count size room p held)
    (h : p.closeTicks unwinding = (p', fault)) :
    fault = none ∧ Pooled count size room p' held := by
  have H₀ : Pooled count size room { p with ticks := p.ticks.dropReceiver.1 }
      (p.ticks.messages ++ held) := {
    accounts := by
      refine H.accounts.perm ?_
      rw [Mailbox.messages_dropReceiver, List.append_nil]
      exact List.perm_append_comm
    count_eq := H.count_eq
    size_eq := H.size_eq
    fifo := .dropReceiver
    room_eq := H.room_eq
    bounded := Nat.zero_le _ }
  obtain ⟨q, hq, H'⟩ := foldl_drop unwinding _ H₀
  have hclose : p.closeTicks unwinding = (q, none) := hq
  rw [hclose] at h
  cases h
  exact ⟨rfl, H'⟩

end Pooled
end Plant

/-! ### The stages -/

theorem CaptureStep.pool_eq [Camera κ] {p p' : Plant κ σ} {w : Worker CaptureStage}
    {s : CaptureStage} (h : CaptureStep p w p' s) : p'.pool = p.pool ∧ p'.ticks = p.ticks := by
  cases h <;> exact ⟨rfl, rfl⟩

theorem PersistenceStep.frames_eq [ImageSink σ] {p p' : Plant κ σ} {w : Worker PersistenceStage}
    {s : PersistenceStage} (h : PersistenceStep p w p' s) :
    p'.frames = p.frames ∧ p'.camera = p.camera := by
  cases h with
  | drops hp hd | dropFaults hp hd => exact (Plant.drop_eq hd).2
  | leaves hp hc | leaveFaults hp hc => exact (Plant.closeTicks_eq hc).2
  | _ => exact ⟨rfl, rfl⟩

theorem DetectionStep.pooled [DriverQueue κ] {count size room : Nat} {p p' : Plant κ σ}
    {w : Worker DetectionStage} {s : DetectionStage} {others : List PooledBuffer}
    (h : DetectionStep p w p' s) (H : p.Pooled count size room (w.stage.buffers ++ others)) :
    p'.Pooled count size room (s.buffers ++ others) := by
  unfold DetectionStage.buffers at H
  cases h with
  | stops hp | proceeds hp | waits hp | inboxClosed hp =>
    rw [hp] at H
    exact H
  | receives hp hr =>
    rw [hp] at H
    rw [DetectionStage.buffers_takeIn]
    exact H.congr rfl rfl
  | acquires hp ha =>
    rw [hp] at H
    rcases H.acquire ha with ⟨-, -, hnone⟩ | ⟨slot, hslot, -, hown, H'⟩
    · cases hnone
    · cases hslot
      obtain ⟨b, hb, hbs, hbo⟩ := DetectionStage.buffers_convert w.stage _ hown
      rw [hb]
      exact { H' with accounts := H'.accounts.replace hbs hbo }
  | exhausts hp ha =>
    rw [hp] at H
    rcases H.acquire ha with ⟨-, rfl, -⟩ | ⟨slot, hslot, -⟩
    · exact H
    · cases hslot
  | acquireFaults hp ha =>
    rw [hp] at H
    rcases H.acquire ha with ⟨-, -, hnone⟩ | ⟨slot, hslot, -⟩
    · cases hnone
    · cases hslot
  | skips hp | discards hp =>
    rw [hp] at H
    exact H.congr rfl rfl
  | returns hp hg =>
    rw [hp] at H
    refine { H with accounts := ?_ }
    rw [List.append_assoc]
    exact DetectionStage.accounts_detect (by simpa [DetectionPhase.buffers] using H.accounts)
  | refused hp hg =>
    rw [hp] at H
    exact H.congr rfl rfl
  | sends hp ha =>
    rw [hp] at H
    exact H.send ha
  | blocks hp | outboxClosed hp | givesUp hp | retries hp =>
    rw [hp] at H
    exact H
  | @releases _ _ last hp hb =>
    rw [hp] at H
    cases last <;> exact (H.takeBack hb).2
  | releaseRefused hp hb =>
    rw [hp] at H
    exact (H.takeBack hb).2
  | @drops _ _ frame _ hp hd =>
    rw [hp] at H
    cases frame <;> exact (H.drop hd).2
  | @dropFaults _ _ frame _ _ hp hd =>
    rw [hp] at H
    cases frame <;> exact (H.drop hd).2
  | closesInbox hp =>
    rw [hp] at H
    exact H.congr p.pool_closeFrames p.ticks_closeFrames
  | closesOutbox hp =>
    rw [hp] at H
    rw [DetectionStage.buffers_forget]
    exact H.dropSender
  | forgets hp hheld hd =>
    rw [hp, hheld] at H
    exact (H.drop hd).2
  | forgetFaults hp hheld hd =>
    rw [hp, hheld] at H
    exact (H.drop hd).2

theorem PersistenceStep.pooled [ImageSink σ] {count size room : Nat} {p p' : Plant κ σ}
    {w : Worker PersistenceStage} {s : PersistenceStage} {others : List PooledBuffer}
    (h : PersistenceStep p w p' s) (H : p.Pooled count size room (w.stage.phase.buffers ++ others)) :
    p'.Pooled count size room (s.phase.buffers ++ others) := by
  cases h with
  | stops hp | proceeds hp | inboxClosed hp =>
    rw [hp] at H
    exact H
  | waits hp =>
    rw [hp] at H
    rw [PersistenceStage.buffers_nextRound]
    exact H
  | accepts hp hr | skips hp hr =>
    rw [hp] at H
    exact H.receive hr
  | releasesSkipped hp hb =>
    rw [hp] at H
    rw [PersistenceStage.buffers_nextRound]
    exact (H.takeBack hb).2
  | releases hp hb =>
    rw [hp] at H
    rw [PersistenceStage.buffers_count]
    exact (H.takeBack hb).2
  | skippedRefused hp hb | releaseRefused hp hb =>
    rw [hp] at H
    exact (H.takeBack hb).2
  | times hp | timeless hp =>
    rw [hp] at H
    exact H
  | stores hp | storeFails hp | storeFaults hp =>
    rw [hp] at H
    exact H.congr rfl rfl
  | drops hp hd | dropFaults hp hd =>
    rw [hp] at H
    exact (H.drop hd).2
  | leaves hp hc | leaveFaults hp hc =>
    rw [hp] at H
    exact (H.closeTicks hc).2

namespace Line

def detectionBuffers (l : Line κ σ) : List PooledBuffer :=
  (l.detection.map (·.stage.buffers)).getD []

def persistenceBuffers (l : Line κ σ) : List PooledBuffer :=
  (l.persistence.map (·.stage.phase.buffers)).getD []

/-- All slots of the pool are accounted for: they are free, in the mailbox of displaced frames, or in
the hands of one of the two stages. -/
def Pooled (count size room : Nat) (l : Line κ σ) : Prop :=
  l.plant.Pooled count size room (l.detectionBuffers ++ l.persistenceBuffers)

variable {l l' : Line κ σ} {count size room : Nat}

theorem detectionBuffers_of_some {w : Worker DetectionStage} (h : l.detection = some w) :
    l.detectionBuffers = w.stage.buffers := by
  rw [detectionBuffers, h]
  rfl

theorem persistenceBuffers_of_some {w : Worker PersistenceStage} (h : l.persistence = some w) :
    l.persistenceBuffers = w.stage.phase.buffers := by
  rw [persistenceBuffers, h]
  rfl

namespace Pooled

theorem raiseStop (H : l.Pooled count size room) (name : StageName) :
    (l.raiseStop name).Pooled count size room := by
  have hd : (l.raiseStop name).detectionBuffers = l.detectionBuffers := by
    cases name <;> simp [Line.raiseStop, detectionBuffers, Worker.raiseStop, Function.comp_def]
  have hp : (l.raiseStop name).persistenceBuffers = l.persistenceBuffers := by
    cases name <;> simp [Line.raiseStop, persistenceBuffers, Worker.raiseStop, Function.comp_def]
  have hplant : (l.raiseStop name).plant = l.plant := by cases name <;> rfl
  rw [Line.Pooled, hd, hp, hplant]
  exact H

theorem pass (H : l.Pooled count size room) (nanos : Nat) : (l.pass nanos).Pooled count size room :=
  Plant.Pooled.congr H rfl rfl

variable [Camera κ] [ImageSink σ]

theorem step? {name : StageName} (H : l.Pooled count size room) (h : l.step? name = some l') :
    l'.Pooled count size room := by
  cases step?_cases h with
  | capture hw hs =>
    obtain ⟨hpool, hticks⟩ := hs.pool_eq
    exact Plant.Pooled.congr H hpool hticks
  | detection hw hs =>
    rw [Line.Pooled, detectionBuffers_of_some hw] at H
    exact hs.pooled H
  | persistence hw hs =>
    rw [Line.Pooled, persistenceBuffers_of_some hw] at H
    exact (hs.pooled (H.perm List.perm_append_comm)).perm List.perm_append_comm

theorem move? {m : Move} (H : l.Pooled count size room) (h : l.move? m = some l') :
    l'.Pooled count size room := by
  cases m with
  | stage name => exact H.step? h
  | raiseStop name => cases h; exact H.raiseStop name
  | pass nanos => cases h; exact H.pass nanos

theorem leads (H : l.Pooled count size room) (h : Leads l l') : l'.Pooled count size room := by
  obtain ⟨ms, rfl⟩ := h
  exact moves_induction H (fun H hmove => H.move? hmove) ms

end Pooled
end Line
end TickCapture
