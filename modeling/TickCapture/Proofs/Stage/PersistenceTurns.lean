import TickCapture.Proofs.Stage.Course
import TickCapture.Proofs.Stage.Ledger
import TickCapture.Proofs.Tracking.Persistence

/-! # The turns of the persistence stage

A `Depot` is what the stage finds around it: a plant whose pool keeps books on what the stage has in
hand, what waits for it, and what others hold (`Depot.Sound`). `PersistenceStage.event` names what comes
of a turn there, and `PersistenceStage.Passes` lists what it can come to. The lemmas on the two say where
a frame and its slot are after a turn, what is stored by then, and why the stage leaves. -/

namespace TickCapture

variable {κ σ : Type}

/-- Whether a frame is to be stored. -/
def PersistenceSettings.wants (s : PersistenceSettings) (b : PooledBuffer) : Bool :=
  b.selected || s.saveAll

/-- The images of these frames. -/
def PersistenceSettings.images (s : PersistenceSettings) (frames : List PooledBuffer) :
    List Picture :=
  numbered s.width s.height (frames.map (·.bytes))

/-- What comes of a turn of the persistence stage. -/
inductive PersistenceEvent where
  | received (frame : PooledBuffer)
  /-- No frame has come in time. -/
  | idled
  | stored (record : ImageRecord) (bytes : Nat)
  | refused (record : ImageRecord) (trouble : Trouble SinkError)
  /-- The clock shows a moment that no record can have. -/
  | timeless
  /-- The slot of the frame goes back to the pool. -/
  | returned (frame : PooledBuffer)
  /-- The stage gives up its end of the mailbox, in which these frames wait. -/
  | left (unread : List PooledBuffer)
  | nothing

namespace PersistenceEvent

def received? : PersistenceEvent → Option PooledBuffer
  | .received frame => some frame
  | _ => none

def stored? : PersistenceEvent → Option (ImageRecord × Nat)
  | .stored record bytes => some (record, bytes)
  | _ => none

/-- What keeps the stage from storing a frame. -/
def trouble? : PersistenceEvent → Option PersistenceEvent
  | .refused record trouble => some (.refused record trouble)
  | .timeless => some .timeless
  | _ => none

def returned? : PersistenceEvent → Option PooledBuffer
  | .returned frame => some frame
  | _ => none

def unread : PersistenceEvent → List PooledBuffer
  | .left unread => unread
  | _ => []

/-- Whether the stage has waited for nothing. -/
def isIdle : PersistenceEvent → Bool
  | .idled => true
  | _ => false

/-- The frames whose slots go back to the pool. -/
def freed (e : PersistenceEvent) : List PooledBuffer := e.returned?.toList ++ e.unread

end PersistenceEvent

/-! ### What is around the stage -/

/-- The plant, with what there is to know of it. -/
structure Depot (κ σ : Type) where
  plant : Plant κ σ
  /-- All frames that have come into the mailbox, in that order. -/
  arrived : List PooledBuffer
  /-- The buffers that others have taken from the pool. -/
  others : List PooledBuffer

namespace Depot

/-- The books of the pool list what the stage has in hand, what waits for it, and what others hold. -/
structure Sound (d : Depot κ σ) (hand : List PooledBuffer) : Prop where
  orderly : d.plant.ticks.Orderly
  books : d.plant.pool.Accounts (hand ++ (d.plant.ticks.messages ++ d.others))

/-- What others may do: they send frames as long as there is a sender and the receiver, and they take
slots from the pool and give them back. The image store and the clock may be in any state after it. -/
structure Becomes (d : Depot κ σ) (w : Worker PersistenceStage) (d' : Depot κ σ) : Prop where
  sound : d'.Sound w.stage.phase.buffers
  arrivals : ∃ new, d'.arrived = d.arrived ++ new ∧
    d'.plant.ticks.messages = d.plant.ticks.messages ++ new ∧
    (new ≠ [] → d.plant.ticks.senders ≠ 0 ∧ d.plant.ticks.receiverAlive = true)
  senders : d.plant.ticks.senders = 0 → d'.plant.ticks.senders = 0
  receiver : d.plant.ticks.receiverAlive = false → d'.plant.ticks.receiverAlive = false

/-- A turn of the stage. -/
def step? [ImageSink σ] (d : Depot κ σ) (w : Worker PersistenceStage) :
    Option (Depot κ σ × Worker PersistenceStage) :=
  (w.stepPersistence? d.plant).map fun (plant, w) => ({ d with plant }, w)

end Depot

namespace Plant

variable {p p' : Plant κ σ} {held : List PooledBuffer}

/-- The frames that nobody will receive go back to the pool. -/
theorem accounts_closeTicks {unwinding : Bool} {fault : Option Fault}
    (H : p.pool.Accounts (p.ticks.messages ++ held)) (h : p.closeTicks unwinding = (p', fault)) :
    fault = none ∧ p'.pool.Accounts held := by
  have Hopen : Pooled p.pool.capacity p.pool.slotLen p.ticks.capacity
      { p with ticks := p.ticks.dropReceiver.1 } (p.ticks.messages ++ held) :=
    { accounts := by rwa [Mailbox.messages_dropReceiver, List.append_nil]
      count_eq := rfl
      size_eq := rfl
      fifo := .dropReceiver
      room_eq := rfl
      bounded := Nat.zero_le _ }
  obtain ⟨q, hq, Hq⟩ := Pooled.foldl_drop unwinding _ Hopen
  obtain ⟨hticks, -, -⟩ := closeTicks_eq h
  cases hq.symm.trans h
  have haccounts := Hq.accounts
  rw [hticks, Mailbox.messages_dropReceiver, List.append_nil] at haccounts
  exact ⟨rfl, haccounts⟩

end Plant

namespace PersistenceStage

/-- What comes of a turn of the stage over a plant that answers. -/
def event [ImageSink σ] (t : Turn (Depot κ σ) PersistenceStage) : PersistenceEvent :=
  match t.worker.stage.phase with
  | .receiving =>
    match t.around.plant.ticks.receive.2 with
    | .got frame => .received frame
    | .nothing => .idled
    | .closed => .nothing
  | .timing _ =>
    match WallTime.ofMoment? t.around.plant.now with
    | none => .timeless
    | some _ => .nothing
  | .storing _ record =>
    match (ImageSink.store t.around.plant.sink record).2 with
    | .ok bytes => .stored record bytes
    | .error trouble => .refused record trouble
  | .skipping frame | .releasing frame _ =>
    match (t.around.plant.pool.takeBack frame).2 with
    | .ok () => .returned frame
    | .error _ => .nothing
  | .dropping frame ending =>
    match (t.around.plant.drop ending.unwinding frame).2 with
    | none => .returned frame
    | some _ => .nothing
  | .leaving _ => .left t.around.plant.ticks.messages
  | _ => .nothing

/-- The stage, with frames coming into its mailbox and others using the pool. -/
abbrev Course [ImageSink σ] (d₀ : Depot κ σ) (w₀ : Worker PersistenceStage) :
    List (Turn (Depot κ σ) PersistenceStage) → Depot κ σ → Worker PersistenceStage → Prop :=
  TickCapture.Course (fun d w d' w' => d.step? w = some (d', w')) Depot.Becomes d₀ w₀

/-- The ending of a stage whose sink did not store an image. -/
def refusal (record : ImageRecord) : Trouble SinkError → Ending PersistenceReport
  | .error e => .failed ⟨[.persisting record.sequence], .sink e⟩
  | .fault fault => .faulted fault

/-- What a turn can come to if the pool takes back what the stage holds. -/
inductive Passes (stop : Bool) (s : PersistenceStage) : PersistenceEvent → PersistenceStage → Prop
  | stops : s.phase = .checking → stop = true → Passes stop s .nothing s.finish
  | proceeds : s.phase = .checking → stop = false → Passes stop s .nothing (s.enter .receiving)
  | accepts {frame : PooledBuffer} : s.phase = .receiving → s.settings.wants frame = true →
    Passes stop s (.received frame) (s.enter (.timing frame))
  | skips {frame : PooledBuffer} : s.phase = .receiving → s.settings.wants frame = false →
    Passes stop s (.received frame)
      { s with report.skipped := s.report.skipped + 1, phase := .skipping frame }
  | waits : s.phase = .receiving → Passes stop s .idled s.nextRound
  | inboxClosed : s.phase = .receiving → Passes stop s .nothing s.finish
  | releasesSkipped {frame : PooledBuffer} : s.phase = .skipping frame →
    Passes stop s (.returned frame) s.nextRound
  | times {frame : PooledBuffer} {time : WallTime} : s.phase = .timing frame →
    Passes stop s .nothing (s.enter (.storing frame (s.record frame time)))
  | timeless {frame : PooledBuffer} : s.phase = .timing frame →
    Passes stop s .timeless (s.enter (.dropping frame (.failed (.of .beforeEpoch))))
  | stores {frame : PooledBuffer} {record : ImageRecord} {bytes : Nat} :
    s.phase = .storing frame record →
    Passes stop s (.stored record bytes) (s.enter (.releasing frame bytes))
  | storeFails {frame : PooledBuffer} {record : ImageRecord} {trouble : Trouble SinkError} :
    s.phase = .storing frame record →
    Passes stop s (.refused record trouble) (s.enter (.dropping frame (refusal record trouble)))
  | releases {frame : PooledBuffer} {bytes : Nat} : s.phase = .releasing frame bytes →
    Passes stop s (.returned frame) (s.count bytes)
  | drops {frame : PooledBuffer} {ending : Ending PersistenceReport} :
    s.phase = .dropping frame ending → Passes stop s (.returned frame) (s.enter (.leaving ending))
  | leaves {ending : Ending PersistenceReport} {unread : List PooledBuffer} :
    s.phase = .leaving ending → Passes stop s (.left unread) (s.enter (.ended ending))

end PersistenceStage

/-- A pool that keeps its books does not refuse what it is given, and does not fault. -/
theorem PersistenceStep.passes [ImageSink σ] {d : Depot κ σ} {p' : Plant κ σ}
    {w : Worker PersistenceStage} {s : PersistenceStage} (h : PersistenceStep d.plant w p' s)
    (H : d.Sound w.stage.phase.buffers) :
    w.stage.Passes w.stop (PersistenceStage.event ⟨d, w⟩) s := by
  have hbooks := H.books
  obtain ⟨⟨settings, phase, report⟩, since, stop⟩ := w
  cases h with
  | stops hp hs => cases hp; exact .stops rfl hs
  | proceeds hp hs => cases hp; exact .proceeds rfl hs
  | accepts hp hr hwants =>
    cases hp
    simp only [PersistenceStage.event, hr]
    exact .accepts rfl hwants
  | skips hp hr hwants =>
    cases hp
    simp only [PersistenceStage.event, hr]
    exact .skips rfl hwants
  | waits hp hr =>
    cases hp
    simp only [PersistenceStage.event, hr]
    exact .waits rfl
  | inboxClosed hp hr =>
    cases hp
    simp only [PersistenceStage.event, hr]
    exact .inboxClosed rfl
  | releasesSkipped hp hb =>
    cases hp
    simp only [PersistenceStage.event, hb]
    exact .releasesSkipped rfl
  | releases hp hb =>
    cases hp
    simp only [PersistenceStage.event, hb]
    exact .releases rfl
  | skippedRefused hp hb | releaseRefused hp hb =>
    cases hp
    obtain ⟨data, -, hback, -⟩ := hbooks.takeBack
    rw [hback] at hb
    cases hb
  | times hp ht =>
    cases hp
    simp only [PersistenceStage.event, ht]
    exact .times rfl
  | timeless hp ht =>
    cases hp
    simp only [PersistenceStage.event, ht]
    exact .timeless rfl
  | stores hp hs =>
    cases hp
    simp only [PersistenceStage.event, hs]
    exact .stores rfl
  | storeFails hp hs | storeFaults hp hs =>
    cases hp
    simp only [PersistenceStage.event, hs]
    exact .storeFails rfl
  | drops hp hd =>
    cases hp
    simp only [PersistenceStage.event, hd]
    exact .drops rfl
  | @dropFaults _ _ ending _ hp hd =>
    cases hp
    obtain ⟨data, -, hdrop, -⟩ := hbooks.drop ending.unwinding
    simp only [Plant.drop, hdrop] at hd
    cases hd
  | leaves hp hc => cases hp; exact .leaves rfl
  | leaveFaults hp hc =>
    cases hp
    cases (Plant.accounts_closeTicks hbooks hc).1

/-! ### What a turn preserves -/

namespace PersistencePhase

/-- The ending that the stage heads for. -/
def heading : PersistencePhase → Option (Ending PersistenceReport)
  | .dropping _ ending | .leaving ending | .ended ending => some ending
  | _ => none

/-- How many turns a stage that receives nothing more can take. -/
def turnsDue : PersistencePhase → Nat
  | .ended _ => 0
  | .leaving _ => 1
  | .receiving | .dropping .. => 2
  | .checking => 3
  | .skipping _ | .releasing .. => 4
  | .storing .. => 5
  | .timing _ => 6

end PersistencePhase

namespace PersistenceStage

theorem turnsDue_nextRound (s : PersistenceStage) : s.nextRound.phase.turnsDue ≤ 3 := by
  unfold nextRound
  split <;> simp [enter, PersistencePhase.turnsDue]

theorem turnsDue_count (s : PersistenceStage) (bytes : Nat) :
    (s.count bytes).phase.turnsDue ≤ 3 := by
  unfold count
  dsimp only
  split
  · exact turnsDue_nextRound _
  · simp [enter, PersistencePhase.turnsDue]

/-- A round that ends with a report has reached the target. -/
theorem reached_of_nextRound {s : PersistenceStage} {report : PersistenceReport}
    (h : s.nextRound.phase.heading = some (.finished report)) :
    s.nextRound.report.target ≤ s.nextRound.report.framesWritten := by
  unfold nextRound at h ⊢
  split at h
  · next hreached =>
    rw [if_pos hreached]
    change s.report.target ≤ s.report.framesWritten
    simpa [PersistenceReport.reachedTarget] using hreached
  · cases h

theorem reached_of_count {s : PersistenceStage} {bytes : Nat} {report : PersistenceReport}
    (h : (s.count bytes).phase.heading = some (.finished report)) :
    (s.count bytes).report.target ≤ (s.count bytes).report.framesWritten := by
  unfold count at h ⊢
  dsimp only at h ⊢
  split at h
  · next hfits =>
    rw [if_pos hfits]
    exact reached_of_nextRound h
  · cases h

@[simp] theorem skipped_nextRound (s : PersistenceStage) :
    s.nextRound.report.skipped = s.report.skipped := by
  unfold nextRound
  split <;> rfl

@[simp] theorem skipped_count (s : PersistenceStage) (bytes : Nat) :
    (s.count bytes).report.skipped = s.report.skipped := by
  unfold count
  dsimp only
  split
  · exact skipped_nextRound _
  · rfl

end PersistenceStage

namespace PersistenceStage.Passes

variable {stop : Bool} {s s' : PersistenceStage} {e : PersistenceEvent}

/-- The slot of the frame in hand goes back, or it is still in hand. -/
theorem buffers_eq (h : s.Passes stop e s') :
    s.phase.buffers ++ e.received?.toList = e.returned?.toList ++ s'.phase.buffers := by
  cases h with
  | waits hp | releasesSkipped hp =>
    rw [hp, buffers_nextRound]
    rfl
  | releases hp =>
    rw [hp, buffers_count]
    rfl
  | _ hp =>
    rw [hp]
    rfl

/-- The frames that are not wanted are counted. -/
theorem skipped_eq (h : s.Passes stop e s') : s'.report.skipped =
    s.report.skipped + ((e.received?.map (!s.settings.wants ·)).getD false).toNat := by
  cases h with
  | accepts hp hwants | skips hp hwants =>
    simp [PersistenceEvent.received?, hwants, enter]
  | waits | releasesSkipped => exact skipped_nextRound _
  | releases => exact skipped_count _ _
  | _ => rfl

/-- A frame takes five turns at most, and a wait for nothing takes two. -/
theorem turnsDue_le (h : s.Passes stop e s') : s'.phase.turnsDue + 1 ≤
    s.phase.turnsDue + 5 * e.received?.isSome.toNat + 2 * e.isIdle.toNat := by
  cases h with
  | waits hp | releasesSkipped hp =>
    rw [hp]
    exact Nat.succ_le_succ s.turnsDue_nextRound
  | releases hp =>
    rw [hp]
    exact Nat.succ_le_succ (s.turnsDue_count _)
  | _ hp =>
    rw [hp]
    exact Nat.le_of_ble_eq_true rfl

/-- A stage leaves frames behind with its last turn only. -/
theorem unread_cases (h : s.Passes stop e s') : (∀ ending, s.phase ≠ .ended ending) ∧
    (e.unread = [] ∨ ∃ ending, s'.phase = .ended ending) := by
  cases h with
  | leaves hp => exact ⟨fun _ => by rw [hp]; exact nofun, .inr ⟨_, rfl⟩⟩
  | _ hp =>
    exact ⟨fun _ => by rw [hp]; exact nofun, .inl rfl⟩

end PersistenceStage.Passes

namespace PersistenceStep

open PersistenceStage (event)

variable [ImageSink σ] {d : Depot κ σ} {p' : Plant κ σ} {w : Worker PersistenceStage}
  {s : PersistenceStage}

/-- What leaves the mailbox is received, or left unread when the stage gives up its end. -/
theorem ticks_cases (h : PersistenceStep d.plant w p' s) :
    p'.ticks = d.plant.ticks ∧ (event ⟨d, w⟩).received? = none ∧ (event ⟨d, w⟩).unread = [] ∨
    (∃ frame, d.plant.ticks.receive = (p'.ticks, .got frame) ∧ event ⟨d, w⟩ = .received frame) ∨
    p'.ticks = d.plant.ticks.dropReceiver.1 ∧ event ⟨d, w⟩ = .left d.plant.ticks.messages := by
  obtain ⟨⟨settings, phase, report⟩, since, stop⟩ := w
  cases h with
  | accepts hp hr | skips hp hr =>
    cases hp
    refine .inr (.inl ⟨_, hr, ?_⟩)
    simp only [event, hr]
  | leaves hp hc | leaveFaults hp hc =>
    cases hp
    exact .inr (.inr ⟨(Plant.closeTicks_eq hc).1, rfl⟩)
  | waits hp hanswer | inboxClosed hp hanswer | times hp hanswer | timeless hp hanswer
  | stores hp hanswer | storeFails hp hanswer | storeFaults hp hanswer | releasesSkipped hp hanswer
  | skippedRefused hp hanswer | releases hp hanswer | releaseRefused hp hanswer =>
    cases hp
    refine .inl ⟨rfl, ?_⟩
    simp only [event, hanswer]
    exact ⟨rfl, rfl⟩
  | drops hp hanswer | dropFaults hp hanswer =>
    cases hp
    refine .inl ⟨(Plant.drop_eq hanswer).1, ?_⟩
    simp only [event, hanswer]
    exact ⟨rfl, rfl⟩
  | stops hp | proceeds hp =>
    cases hp
    exact .inl ⟨rfl, rfl, rfl⟩

/-- Slots that go back are free, and others stay with those who hold them. -/
theorem frees (h : PersistenceStep d.plant w p' s) (Hd : d.Sound w.stage.phase.buffers)
    {held : List PooledBuffer} (H : d.plant.pool.Accounts ((event ⟨d, w⟩).freed ++ held)) :
    p'.pool.Accounts held := by
  have hbooks := Hd.books
  obtain ⟨⟨settings, phase, report⟩, since, stop⟩ := w
  cases h with
  | releasesSkipped hp hback | releases hp hback =>
    cases hp
    simp only [event, hback] at H
    obtain ⟨data, -, htaken, haccounts⟩ := Pool.Accounts.takeBack H
    cases htaken.symm.trans hback
    exact haccounts
  | skippedRefused hp hback | releaseRefused hp hback =>
    cases hp
    obtain ⟨data, -, htaken, -⟩ := hbooks.takeBack
    cases htaken.symm.trans hback
  | @drops _ _ ending hp hdrop =>
    cases hp
    simp only [event, hdrop] at H
    obtain ⟨data, -, hdropped, haccounts⟩ := Pool.Accounts.drop H ending.unwinding
    simp only [Plant.drop, hdropped] at hdrop
    cases hdrop
    exact haccounts
  | @dropFaults _ _ ending _ hp hdrop =>
    cases hp
    obtain ⟨data, -, hdropped, -⟩ := hbooks.drop ending.unwinding
    simp only [Plant.drop, hdropped] at hdrop
    cases hdrop
  | leaves hp hclose | leaveFaults hp hclose =>
    cases hp
    exact (Plant.accounts_closeTicks H hclose).2
  | accepts hp hanswer | skips hp hanswer | waits hp hanswer | inboxClosed hp hanswer
  | times hp hanswer | timeless hp hanswer | stores hp hanswer | storeFails hp hanswer
  | storeFaults hp hanswer =>
    cases hp
    simp only [event, hanswer] at H
    exact H
  | stops hp | proceeds hp =>
    cases hp
    exact H

theorem messages_perm (h : PersistenceStep d.plant w p' s) (H : d.plant.ticks.Orderly) :
    d.plant.ticks.messages.Perm
      ((event ⟨d, w⟩).received?.toList ++ ((event ⟨d, w⟩).unread ++ p'.ticks.messages)) ∧
    p'.ticks.Orderly := by
  rcases h.ticks_cases with ⟨hticks, hreceived, hunread⟩ | ⟨frame, hreceive, hevent⟩ |
    ⟨hticks, hevent⟩
  · rw [hticks, hreceived, hunread]
    exact ⟨.refl _, H⟩
  · rw [hevent]
    exact ⟨Mailbox.receive_got_perm H hreceive, H.receive hreceive⟩
  · rw [hticks, hevent, Mailbox.messages_dropReceiver]
    exact ⟨.of_eq (List.append_nil _).symm, .dropReceiver⟩

open scoped List in
/-- The slots of the frames that the stage is done with go back to the pool, which keeps its books. -/
theorem settles (h : PersistenceStep d.plant w p' s) (H : d.Sound w.stage.phase.buffers) :
    d.plant.pool.Accounts ((event ⟨d, w⟩).freed ++
      (s.phase.buffers ++ (p'.ticks.messages ++ d.others))) ∧
    Depot.Sound { d with plant := p' } s.phase.buffers := by
  have hbuffers := (h.passes H).buffers_eq
  obtain ⟨hmessages, horderly⟩ := h.messages_perm H.orderly
  have hbooks : d.plant.pool.Accounts ((event ⟨d, w⟩).freed ++
      (s.phase.buffers ++ (p'.ticks.messages ++ d.others))) := by
    refine H.books.perm ?_
    generalize event ⟨d, w⟩ = e at hbuffers hmessages ⊢
    calc w.stage.phase.buffers ++ (d.plant.ticks.messages ++ d.others)
      _ ~ w.stage.phase.buffers ++
          ((e.received?.toList ++ (e.unread ++ p'.ticks.messages)) ++ d.others) :=
        (hmessages.append_right _).append_left _
      _ = e.returned?.toList ++
          ((s.phase.buffers ++ e.unread) ++ (p'.ticks.messages ++ d.others)) := by
        simp only [← List.append_assoc, hbuffers]
      _ ~ e.returned?.toList ++
          ((e.unread ++ s.phase.buffers) ++ (p'.ticks.messages ++ d.others)) :=
        (List.perm_append_comm.append_right _).append_left _
      _ = e.freed ++ (s.phase.buffers ++ (p'.ticks.messages ++ d.others)) := by
        simp only [PersistenceEvent.freed, List.append_assoc]
  exact ⟨hbooks, horderly, h.frees H hbooks⟩

end PersistenceStep

theorem PersistenceStage.Keeps.reached {target : Nat} {s : PersistenceStage} {images : Ledger}
    (H : s.Keeps target images) (h : s.report.target ≤ s.report.framesWritten) :
    target ≤ images.length := by
  rw [H.target_eq] at h
  exact Nat.le_trans h H.written_le

/-! ### What is stored -/

namespace PersistenceSettings

variable (s : PersistenceSettings) (frames : List PooledBuffer) (b : PooledBuffer)

/-- Those of the frames that are to be stored. -/
def wanted : List PooledBuffer := frames.filter s.wants

theorem images_concat : s.images (frames ++ [b]) =
    s.images frames ++ [⟨frames.length + 1, s.width, s.height, b.bytes⟩] := by
  rw [images, images, List.map_append, List.map_singleton, numbered_concat, List.length_map]

@[simp] theorem length_images : (s.images frames).length = frames.length := by
  simp [images, numbered]

end PersistenceSettings

namespace PersistenceStage

/-- How the stage may end once it has received the frames `wanted` that are to be stored: it has stored
them all, or all but the last one, with which something went wrong. -/
inductive Concludes (settings : PersistenceSettings) (wanted : List PooledBuffer) (stored : Ledger)
    (troubles : List PersistenceEvent) : Ending PersistenceReport → Prop
  | finished {report : PersistenceReport} :
    stored.map (·.1.picture) = settings.images wanted → troubles = [] →
    Concludes settings wanted stored troubles (.finished report)
  | refused {before : List PooledBuffer} {b : PooledBuffer} {record : ImageRecord}
      {trouble : Trouble SinkError} : wanted = before ++ [b] →
    stored.map (·.1.picture) = settings.images before → troubles = [.refused record trouble] →
    record.picture = ⟨before.length + 1, settings.width, settings.height, b.bytes⟩ →
    Concludes settings wanted stored troubles (refusal record trouble)
  | timeless {before : List PooledBuffer} {b : PooledBuffer} : wanted = before ++ [b] →
    stored.map (·.1.picture) = settings.images before → troubles = [.timeless] →
    Concludes settings wanted stored troubles (.failed (.of .beforeEpoch))
  | overflow : stored.map (·.1.picture) = settings.images wanted → troubles = [] →
    UInt64.size ≤ stored.bytes → Concludes settings wanted stored troubles (.faulted .overflow)

/-- How far the stage is with the frames `wanted` that are to be stored. -/
def Conducts (s : PersistenceStage) (wanted : List PooledBuffer) (stored : Ledger)
    (troubles : List PersistenceEvent) : Prop :=
  match s.phase with
  | .checking | .receiving | .skipping _ | .releasing .. =>
    stored.map (·.1.picture) = s.settings.images wanted ∧ troubles = []
  | .timing b => ∃ before, wanted = before ++ [b] ∧
    stored.map (·.1.picture) = s.settings.images before ∧ troubles = []
  | .storing b record => ∃ before, wanted = before ++ [b] ∧
    stored.map (·.1.picture) = s.settings.images before ∧ troubles = [] ∧
    record.picture = ⟨before.length + 1, s.settings.width, s.settings.height, b.bytes⟩
  | .dropping _ ending | .leaving ending | .ended ending =>
    Concludes s.settings wanted stored troubles ending

/-- The report of a stage that leaves with one counts what it has stored. -/
theorem Keeps.of_heading {target : Nat} {s : PersistenceStage} {images : Ledger}
    {report : PersistenceReport} (H : s.Keeps target images)
    (hheading : s.phase.heading = some (.finished report)) :
    report = s.report ∧ report.Counts images := by
  have hcounts := H.counts
  unfold PersistencePhase.heading at hheading
  split at hheading <;> try cases hheading
  all_goals
    next hp =>
      rw [hp] at hcounts
      exact hcounts report rfl

theorem Concludes.of_finished {settings : PersistenceSettings} {wanted : List PooledBuffer}
    {stored : Ledger} {troubles : List PersistenceEvent} {report : PersistenceReport}
    (H : Concludes settings wanted stored troubles (.finished report)) :
    stored.map (·.1.picture) = settings.images wanted := by
  generalize hending : Ending.finished report = ending at H
  cases H with
  | finished hstored => exact hstored
  | @refused _ _ _ trouble => cases trouble <;> cases hending
  | timeless | overflow => cases hending

namespace Conducts

variable {s : PersistenceStage} {wanted : List PooledBuffer} {stored : Ledger}
  {troubles : List PersistenceEvent}

theorem concludes {ending : Ending PersistenceReport} (H : s.Conducts wanted stored troubles)
    (hheading : s.phase.heading = some ending) :
    Concludes s.settings wanted stored troubles ending := by
  unfold PersistencePhase.heading at hheading
  split at hheading <;> cases hheading
  all_goals
    next hp =>
      unfold Conducts at H
      rwa [hp] at H

/-- Only a stage that is on its way out has had trouble. -/
theorem eq_nil_of_heading (H : s.Conducts wanted stored troubles) (hheading : s.phase.heading = none) :
    troubles = [] := by
  unfold Conducts at H
  split at H
  · exact H.2
  · exact H.2
  · exact H.2
  · exact H.2
  · exact H.choose_spec.2.2
  · exact H.choose_spec.2.2.1
  all_goals
    next hp =>
      rw [hp] at hheading
      cases hheading

/-- A sink that fails has stored the images of all frames before, and ends the run. -/
theorem of_refused {record : ImageRecord} {trouble : Trouble SinkError}
    (H : s.Conducts wanted stored troubles)
    (hrefused : PersistenceEvent.refused record trouble ∈ troubles) :
    ∃ before b, wanted = before ++ [b] ∧
      stored.map (·.1.picture) = s.settings.images before ∧
      record.picture = ⟨before.length + 1, s.settings.width, s.settings.height, b.bytes⟩ ∧
      s.phase.heading = some (refusal record trouble) := by
  cases hheading : s.phase.heading with
  | none =>
    rw [H.eq_nil_of_heading hheading] at hrefused
    cases hrefused
  | some ending =>
    cases H.concludes hheading with
    | finished _ htroubles | overflow _ htroubles =>
      rw [htroubles] at hrefused
      cases hrefused
    | timeless _ _ htroubles =>
      rw [htroubles] at hrefused
      cases List.mem_singleton.mp hrefused
    | @refused before b _ _ hwanted hstored htroubles hpicture =>
      rw [htroubles] at hrefused
      cases List.mem_singleton.mp hrefused
      exact ⟨before, b, hwanted, hstored, hpicture, rfl⟩

theorem nextRound (hstored : stored.map (·.1.picture) = s.settings.images wanted)
    (htroubles : troubles = []) : s.nextRound.Conducts wanted stored troubles := by
  unfold PersistenceStage.nextRound
  split
  · exact .finished hstored htroubles
  · exact ⟨hstored, htroubles⟩

theorem count {bytes : Nat} (hstored : stored.map (·.1.picture) = s.settings.images wanted)
    (htroubles : troubles = []) (hcounts : (s.counted bytes).Counts stored) :
    (s.count bytes).Conducts wanted stored troubles := by
  unfold PersistenceStage.count
  dsimp only
  split
  · exact nextRound hstored htroubles
  · next hover => exact .overflow hstored htroubles (hcounts.bytes ▸ Nat.le_of_not_lt hover)

end Conducts

/-- A turn of the stage: a frame that is wanted is stored behind those before it, or ends the run. -/
theorem Passes.conducts {stop : Bool} {s s' : PersistenceStage} {e : PersistenceEvent} {target : Nat}
    {frames : List PooledBuffer} {stored : Ledger} {troubles : List PersistenceEvent}
    (h : s.Passes stop e s') (hkeeps : s.Keeps target stored)
    (H : s.Conducts (s.settings.wanted frames) stored troubles) :
    s'.Conducts (s.settings.wanted (frames ++ e.received?.toList)) (stored ++ e.stored?.toList)
      (troubles ++ e.trouble?.toList) := by
  have hcounts := hkeeps.counts
  rw [PersistenceSettings.wanted, List.filter_append]
  change s'.Conducts (s.settings.wanted frames ++ _) _ _
  generalize s.settings.wanted frames = wanted at H
  -- what most turns do: nothing is received, nothing is stored, and nothing goes wrong
  have hquiet {s' : PersistenceStage} {e : PersistenceEvent} (hreceived : e.received? = none)
      (hstored : e.stored? = none) (htrouble : e.trouble? = none)
      (hs : s'.Conducts wanted stored troubles) :
      s'.Conducts (wanted ++ e.received?.toList.filter s.settings.wants)
        (stored ++ e.stored?.toList) (troubles ++ e.trouble?.toList) := by
    rw [hreceived, hstored, htrouble]
    simpa using hs
  unfold Conducts at H
  cases h with
  | stops hp | inboxClosed hp =>
    rw [hp] at H
    exact hquiet rfl rfl rfl (.finished H.1 H.2)
  | proceeds hp =>
    rw [hp] at H
    exact hquiet rfl rfl rfl H
  | @accepts b hp hwants =>
    rw [hp] at H
    obtain ⟨hstored, rfl⟩ := H
    refine ⟨wanted, ?_, (congrArg _ (List.append_nil _)).trans hstored, rfl⟩
    rw [PersistenceEvent.received?, Option.toList_some, List.filter_singleton, hwants]
    rfl
  | @skips b hp hwants =>
    rw [hp] at H
    obtain ⟨hstored, rfl⟩ := H
    have hnone : [b].filter s.settings.wants = [] := by rw [List.filter_singleton, hwants]; rfl
    rw [PersistenceEvent.received?, Option.toList_some, hnone, List.append_nil]
    exact ⟨(congrArg _ (List.append_nil _)).trans hstored, rfl⟩
  | waits hp | releasesSkipped hp =>
    rw [hp] at H
    exact hquiet rfl rfl rfl (.nextRound H.1 H.2)
  | @times b time hp =>
    rw [hp] at H hcounts
    obtain ⟨before, hwanted, hstored, htroubles⟩ := H
    refine hquiet rfl rfl rfl ⟨before, hwanted, hstored, htroubles, ?_⟩
    have hlength : stored.length = before.length := by
      rw [← List.length_map, hstored, PersistenceSettings.length_images]
    rw [← hlength, ← hcounts.1.written]
    rfl
  | @timeless b hp =>
    rw [hp] at H
    obtain ⟨before, hwanted, hstored, rfl⟩ := H
    change Conducts _ (wanted ++ []) (stored ++ []) [.timeless]
    rw [List.append_nil, List.append_nil]
    exact .timeless hwanted hstored rfl
  | @stores b record bytes hp =>
    rw [hp] at H
    obtain ⟨before, rfl, hstored, rfl, hpicture⟩ := H
    change Conducts _ (before ++ [b] ++ []) (stored ++ [(record, bytes)]) []
    rw [List.append_nil]
    refine ⟨?_, rfl⟩
    rw [List.map_append, hstored, List.map_singleton, hpicture]
    exact (s.settings.images_concat before b).symm
  | @storeFails b record trouble hp =>
    rw [hp] at H
    obtain ⟨before, hwanted, hstored, rfl, hpicture⟩ := H
    change Conducts _ (wanted ++ []) (stored ++ []) [.refused record trouble]
    rw [List.append_nil, List.append_nil]
    exact .refused hwanted hstored rfl hpicture
  | releases hp =>
    rw [hp] at H hcounts
    exact hquiet rfl rfl rfl (.count H.1 H.2 hcounts)
  | drops hp | leaves hp =>
    rw [hp] at H
    exact hquiet rfl rfl rfl H

/-! ### Why the stage stops -/

end PersistenceStage

/-- A stage that comes to leave with its report was asked to, has reached its target, or has found its
mailbox closed. -/
theorem PersistenceStep.finish_cases [ImageSink σ] {p p' : Plant κ σ} {w : Worker PersistenceStage}
    {s : PersistenceStage} {report : PersistenceReport} (h : PersistenceStep p w p' s)
    (hheading : s.phase.heading = some (.finished report)) :
    w.stop = true ∨ s.report.target ≤ s.report.framesWritten ∨
      (s.phase = .leaving (.finished report) ∧ p'.ticks = p.ticks ∧ p.ticks.messages = [] ∧
        p.ticks.senders = 0) ∨
      w.stage.phase.heading = some (.finished report) := by
  cases h with
  | stops hp hs => exact .inl hs
  | waits | releasesSkipped => exact .inr (.inl (PersistenceStage.reached_of_nextRound hheading))
  | releases => exact .inr (.inl (PersistenceStage.reached_of_count hheading))
  | inboxClosed hp hr =>
    obtain ⟨-, hempty, hsenders⟩ := Mailbox.receive_closed hr
    cases hheading
    exact .inr (.inr (.inl ⟨rfl, rfl, Mailbox.messages_eq_nil.mpr hempty, hsenders⟩))
  | drops hp hd | leaves hp hd =>
    refine .inr (.inr (.inr ?_))
    rw [hp]
    exact hheading
  | dropFaults | leaveFaults =>
    exact absurd (Option.some.inj hheading) (Ending.afterFault_ne_finished _ _ report)
  | _ => cases hheading

end TickCapture
