import TickCapture.Proofs.Line.Endings
import TickCapture.Proofs.Line.Loans

/-! # No buffer is lost on a line

`Line.Conserved` puts together what is known of the slots of the pool, of the buffers of the camera and
of the stages that are not there any more. It is kept by the steps of the stages and by what the one
who starts and stops the stages does to the line. -/

namespace TickCapture
namespace Line

variable {κ σ : Type}

/-! ### Stages that are over -/

section Over

variable {l : Line κ σ}
theorem captureFrames_of_over (h : l.Over .capture) : l.captureFrames = [] := by
  cases hc : l.capture with
  | none => simp [captureFrames, hc]
  | some w =>
    have hend := h (by simp [started, hc])
    cases hp : w.stage.phase <;>
      simp [ended, captureEnding?, hc, CaptureStage.ending?, hp] at hend
    simp [captureFrames, hc, hp, CapturePhase.frames]

/-- What a detection stage that is over has left behind. -/
theorem Tidy.detection_over (H : l.Tidy) (h : l.Over .detection) :
    l.detectionFrames = [] ∧ l.detectionBuffers = [] ∧ l.plant.frames.messages = [] := by
  cases hd : l.detection with
  | none =>
    refine ⟨by simp [detectionFrames, hd], by simp [detectionBuffers, hd], ?_⟩
    exact Mailbox.messages_eq_nil.mpr (H.before_detection hd).2
  | some w =>
    have hend := h (by simp [started, hd])
    cases hp : w.stage.phase <;>
      simp [ended, detectionEnding?, hd, DetectionStage.ending?, hp] at hend
    obtain ⟨hshut, hprevious⟩ := H.inbox hd (by rw [hp]; rfl)
    refine ⟨by simp [detectionFrames, hd, hp, DetectionPhase.frames], ?_, ?_⟩
    · simp [detectionBuffers, hd, DetectionStage.buffers, hp, DetectionPhase.buffers,
        hprevious _ hp]
    · exact Mailbox.messages_eq_nil.mpr hshut.empty

/-- What a persistence stage that is over has left behind. -/
theorem Tidy.persistence_over (H : l.Tidy) (h : l.Over .persistence) :
    l.persistenceBuffers = [] ∧ l.plant.ticks.messages = [] := by
  cases hv : l.persistence with
  | none =>
    refine ⟨by simp [persistenceBuffers, hv], ?_⟩
    exact Mailbox.messages_eq_nil.mpr (H.before_persistence hv).2
  | some w =>
    have hend := h (by simp [started, hv])
    cases hp : w.stage.phase <;>
      simp [ended, persistenceEnding?, hv, PersistenceStage.ending?, hp] at hend
    refine ⟨by simp [persistenceBuffers, hv, hp, PersistencePhase.buffers], ?_⟩
    exact Mailbox.messages_eq_nil.mpr (H.outbox hv hp).empty

end Over

/-! ### All buffers -/

/-- All buffers of the camera and all slots of the pool are accounted for. -/
structure Conserved [BankedCamera κ] (count slots size room : Nat) (l : Line κ σ) : Prop where
  pooled : l.Pooled slots size room
  banked : l.Banked count
  tidy : l.Tidy

variable [BankedCamera κ] {count slots size room : Nat} {l l' : Line κ σ}

namespace Conserved

theorem step? [ImageSink σ] {name : StageName} (H : l.Conserved count slots size room)
    (h : l.step? name = some l') : l'.Conserved count slots size room :=
  ⟨H.pooled.step? h, H.banked.step? h, H.tidy.step? h⟩

theorem raiseStop (H : l.Conserved count slots size room) (name : StageName) :
    (l.raiseStop name).Conserved count slots size room :=
  ⟨H.pooled.raiseStop name, H.banked.raiseStop name, H.tidy.raiseStop name⟩

theorem pass (H : l.Conserved count slots size room) (nanos : Nat) :
    (l.pass nanos).Conserved count slots size room :=
  ⟨H.pooled.pass nanos, H.banked.pass nanos, H.tidy.pass nanos⟩

/-- Before anything is started all slots are in the pool and all buffers in the camera. -/
theorem idle {p : Plant κ σ} {id capacity : Nat} (hpool : p.pool = .fresh id slots size)
    (hticks : Mailbox.bounded room = .ok p.ticks) (hframes : Mailbox.bounded capacity = .ok p.frames)
    (hcamera : BankedCamera.Lends p.camera count []) :
    (Line.idle p).Conserved count slots size room := by
  obtain ⟨-, hticks'⟩ := Mailbox.Orderly.bounded hticks
  obtain ⟨-, hframes'⟩ := Mailbox.Orderly.bounded hframes
  exact {
    pooled := Plant.Pooled.new hpool hticks
    banked := fun _ => Plant.Banked.new hcamera hframes
    tidy := {
      inbox := nofun
      outbox := nofun
      before_detection := fun _ => ⟨rfl, by rw [Line.idle, hframes']⟩
      before_persistence := fun _ => ⟨rfl, by rw [Line.idle, hticks']⟩ } }

/-! Starting the stages. -/

theorem startPersistence (H : l.Conserved count slots size room) (hv : l.persistence = none)
    (settings : PersistenceSettings) (now : Clock) :
    Conserved count slots size room
      { l with persistence := some (.start (.new settings) now) } where
  pooled := by
    have hnew : (PersistenceStage.new settings).phase.buffers = [] :=
      PersistenceStage.buffers_nextRound _
    have hpooled := H.pooled
    simpa [Line.Pooled, persistenceBuffers, hv, Worker.start, hnew, detectionBuffers] using hpooled
  banked := H.banked
  tidy := { H.tidy with
    outbox := fun hw hend => by
      cases hw
      exact absurd hend (PersistenceStage.nextRound_ne_ended _ _)
    before_persistence := nofun }

theorem startDetection (H : l.Conserved count slots size room) (hd : l.detection = none)
    (hv : l.persistence ≠ none) (settings : DetectionSettings) (h : Hysteresis Float) (now : Clock) :
    Conserved count slots size room
      { l with detection := some (.start (.new settings (.new h)) now) } where
  pooled := by
    have hpooled := H.pooled
    rw [Line.Pooled, detectionBuffers, hd] at hpooled
    exact hpooled
  banked := fun hfault => by
    have hbanked := H.banked hfault
    rw [detectionFrames, hd] at hbanked
    exact hbanked
  tidy := {
    inbox := fun hw hgone => by
      cases hw
      cases hgone
    outbox := H.tidy.outbox
    before_detection := nofun
    before_persistence := fun h => absurd h hv }

/-- The detection stage is not started, and the ends of the mailboxes that it was to have are given
up. -/
theorem abandonDetection (H : l.Conserved count slots size room) (hd : l.detection = none) :
    Conserved count slots size room { l with plant :=
      { l.plant.closeFrames with ticks := l.plant.closeFrames.ticks.dropSender } } where
  pooled :=
    (H.pooled.congr l.plant.pool_closeFrames l.plant.ticks_closeFrames).dropSender
  banked := fun hfault => (H.banked hfault).closeFrames.congr rfl rfl
  tidy := {
    inbox := fun hw => by
      rw [hd] at hw
      cases hw
    outbox := fun hw hend => by
      rw [Plant.ticks_closeFrames]
      exact (H.tidy.outbox hw hend).dropSender
    before_detection := fun h => ⟨(H.tidy.before_detection h).1, by simp [Mailbox.dropReceiver]⟩
    before_persistence := fun hv => by
      rw [Plant.ticks_closeFrames]
      exact H.tidy.before_persistence hv }

theorem startCapture (H : l.Conserved count slots size room) (hc : l.capture = none)
    (hd : l.detection ≠ none) (settings : CaptureSettings) (now : Clock) :
    Conserved count slots size room
      { l with capture := some (.start (.new settings) now) } where
  pooled := H.pooled
  banked := fun _ => by
    have hbanked := H.banked (by simp [captureFaulted, hc])
    rw [captureFrames, hc] at hbanked
    exact hbanked
  tidy := { H.tidy with before_detection := fun h => absurd h hd }

/-- The capture stage is not started, and its end of the mailbox is given up. -/
theorem abandonCapture (H : l.Conserved count slots size room) :
    Conserved count slots size room
      { l with plant := { l.plant with frames := l.plant.frames.dropSender } } where
  pooled := H.pooled.congr rfl rfl
  banked := fun hfault => (H.banked hfault).dropSender
  tidy := {
    inbox := fun hw hgone =>
      ⟨(H.tidy.inbox hw hgone).1.dropSender, (H.tidy.inbox hw hgone).2⟩
    outbox := H.tidy.outbox
    before_detection := H.tidy.before_detection
    before_persistence := H.tidy.before_persistence }

/-- Something is done to the camera that leaves all buffers where they are, and it is logged. -/
theorem camera {camera : κ} {logs : Array LogRecord} (H : l.Conserved count slots size room)
    (h : ∀ {b}, BankedCamera.bank? l.plant.camera = some b →
      ∃ b', BankedCamera.bank? camera = some b' ∧ b'.slots = b.slots) :
    Conserved count slots size room { l with plant := { l.plant with camera, logs } } where
  pooled := H.pooled.congr rfl rfl
  banked := fun hfault => ((H.banked hfault).camera h).congr rfl rfl
  tidy := ⟨H.tidy.inbox, H.tidy.outbox, H.tidy.before_detection, H.tidy.before_persistence⟩

end Conserved
end Line
end TickCapture
