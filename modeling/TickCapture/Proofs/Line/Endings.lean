import TickCapture.Proofs.Line.Buffers

/-! # What a stage leaves behind

A stage that has ended takes no further step, and it has given up everything it held: its detector
holds no frame, and the mailbox from which it received is shut. -/

namespace TickCapture

variable {κ σ : Type}

/-! ### The stages -/

section Stages

variable {p p' : Plant κ σ}

/-- A stage that has ended takes no step. -/
theorem CaptureStep.running [Camera κ] {w : Worker CaptureStage} {s : CaptureStage}
    (h : CaptureStep p w p' s) : w.stage.ending? = none := by
  cases h <;> simp [CaptureStage.ending?, *]

theorem DetectionStep.running [DriverQueue κ] {w : Worker DetectionStage} {s : DetectionStage}
    (h : DetectionStep p w p' s) : w.stage.ending? = none := by
  cases h <;> simp [DetectionStage.ending?, *]

theorem PersistenceStep.running [ImageSink σ] {w : Worker PersistenceStage} {s : PersistenceStage}
    (h : PersistenceStep p w p' s) : w.stage.ending? = none := by
  cases h <;> simp [PersistenceStage.ending?, *]

/-- Nothing is put into a mailbox that is shut. -/
theorem CaptureStep.frames_shut [Camera κ] {w : Worker CaptureStage} {s : CaptureStage}
    (h : CaptureStep p w p' s) (H : p.frames.Shut) : p'.frames.Shut := by
  cases h with
  | sends _ ha => exact absurd ha H.not_accepted
  | leaves => exact H.dropSender
  | _ => exact H

theorem DetectionStep.ticks_shut [DriverQueue κ] {w : Worker DetectionStage} {s : DetectionStage}
    (h : DetectionStep p w p' s) (H : p.ticks.Shut) : p'.ticks.Shut := by
  cases h with
  | sends _ ha => exact absurd ha H.not_accepted
  | closesInbox => simpa using H
  | closesOutbox => exact H.dropSender
  | drops _ hd | dropFaults _ hd | forgets _ _ hd | forgetFaults _ _ hd =>
    rw [(Plant.drop_eq hd).1]
    exact H
  | _ => exact H

/-- The stage has given up the mailbox of captured frames. -/
def DetectionPhase.inboxGone : DetectionPhase → Bool
  | .closingOutbox _ | .forgetting _ | .ended _ => true
  | _ => false

namespace DetectionStage

variable (s : DetectionStage)

theorem inboxGone_takeIn (f : Captured) : (s.takeIn f).phase.inboxGone = false := by
  unfold takeIn
  dsimp only
  split <;> rfl

theorem inboxGone_convert (f : Captured) (slot : PooledBuffer) :
    (s.convert f slot).phase.inboxGone = false := by
  obtain ⟨b, h⟩ | ⟨ending, h⟩ := s.convert_cases f slot <;> rw [h] <;> rfl

theorem inboxGone_detect (b : PooledBuffer) : (s.detect b).phase.inboxGone = false := by
  have hcase := detect_cases s b
  generalize s.detect b = s' at hcase ⊢
  cases hcase with
  | seeded | rejected => rfl
  | displaced => dsimp only; split <;> rfl

/-- Without a frame in the detector there is nothing more to do. -/
theorem previous_forget {ending e : Ending DetectionReport}
    (h : (s.forget ending).phase = .ended e) : (s.forget ending).detector.previous = none := by
  change s.detector.previous = none
  cases hprev : s.detector.previous with
  | none => rfl
  | some x => simp [forget, hprev, enter] at h

end DetectionStage

/-- Once the stage has given up its inbox, the mailbox is shut, and once it has ended, its detector
holds nothing. -/
theorem DetectionStep.inbox [DriverQueue κ] {w : Worker DetectionStage} {s : DetectionStage}
    (h : DetectionStep p w p' s) (H : w.stage.phase.inboxGone = true → p.frames.Shut)
    (hs : s.phase.inboxGone = true) :
    p'.frames.Shut ∧ ∀ e, s.phase = .ended e → s.detector.previous = none := by
  cases h with
  | receives => rw [DetectionStage.inboxGone_takeIn] at hs; cases hs
  | acquires => rw [DetectionStage.inboxGone_convert] at hs; cases hs
  | returns => rw [DetectionStage.inboxGone_detect] at hs; cases hs
  | @releases _ _ last => cases last <;> cases hs
  | @drops _ _ frame | @dropFaults _ _ frame => cases frame <;> cases hs
  | closesInbox =>
    rw [Plant.frames_closeFrames]
    exact ⟨.dropReceiver, nofun⟩
  | closesOutbox hp => exact ⟨H (by rw [hp]; rfl), fun _ => w.stage.previous_forget⟩
  | forgets hp _ hd | forgetFaults hp _ hd =>
    rw [(Plant.drop_eq hd).2.1]
    exact ⟨H (by rw [hp]; rfl), fun _ _ => rfl⟩
  | stops | proceeds | waits | inboxClosed | exhausts | acquireFaults | skips | refused | sends
  | blocks | outboxClosed | givesUp | retries | releaseRefused | discards => cases hs

theorem PersistenceStage.nextRound_ne_ended (s : PersistenceStage)
    (e : Ending PersistenceReport) : s.nextRound.phase ≠ .ended e := by
  unfold nextRound
  split <;> nofun

theorem PersistenceStage.count_ne_ended (s : PersistenceStage) (bytes : Nat)
    (e : Ending PersistenceReport) : (s.count bytes).phase ≠ .ended e := by
  unfold count
  dsimp only
  split
  · exact nextRound_ne_ended _ e
  · nofun

/-- Once the stage has ended, its mailbox is shut. -/
theorem PersistenceStep.outbox [ImageSink σ] {w : Worker PersistenceStage} {s : PersistenceStage}
    {e : Ending PersistenceReport} (h : PersistenceStep p w p' s) (hs : s.phase = .ended e) :
    p'.ticks.Shut := by
  cases h with
  | leaves _ hc | leaveFaults _ hc =>
    rw [(Plant.closeTicks_eq hc).1]
    exact .dropReceiver
  | waits | releasesSkipped => exact absurd hs (PersistenceStage.nextRound_ne_ended _ e)
  | releases => exact absurd hs (PersistenceStage.count_ne_ended _ _ e)
  | stops | proceeds | accepts | skips | inboxClosed | skippedRefused | times | timeless | stores
  | storeFails | storeFaults | releaseRefused | drops | dropFaults => cases hs

end Stages

/-! ### The line -/

namespace Line

/-- A stage has ended, or was never started. -/
def Over (l : Line κ σ) (name : StageName) : Prop := l.started name = true → l.ended name = true

/-- Whoever is not there any more has left nothing behind, and whoever has not come yet finds nothing.
A stage is started only when those that frames reach after it are there. -/
structure Tidy (l : Line κ σ) : Prop where
  inbox : ∀ {w}, l.detection = some w → w.stage.phase.inboxGone = true →
    l.plant.frames.Shut ∧ ∀ e, w.stage.phase = .ended e → w.stage.detector.previous = none
  outbox : ∀ {w e}, l.persistence = some w → w.stage.phase = .ended e → l.plant.ticks.Shut
  before_detection : l.detection = none → l.capture = none ∧ l.plant.frames.queue = []
  before_persistence : l.persistence = none → l.detection = none ∧ l.plant.ticks.queue = []

variable {l l' : Line κ σ}

theorem started_raiseStop (l : Line κ σ) (stage name : StageName) :
    (l.raiseStop stage).started name = l.started name := by
  cases stage <;> cases name <;> simp [raiseStop, started]

theorem ended_raiseStop (l : Line κ σ) (stage name : StageName) :
    (l.raiseStop stage).ended name = l.ended name := by
  cases stage <;> cases name <;>
    simp [raiseStop, ended, captureEnding?, detectionEnding?, persistenceEnding?, Worker.raiseStop,
      Option.bind_map, Function.comp_def]

namespace Tidy

theorem raiseStop (H : l.Tidy) (name : StageName) : (l.raiseStop name).Tidy := by
  obtain ⟨p, c, d, v⟩ := l
  cases name with
  | capture =>
    cases c with
    | none => exact H
    | some w => exact { H with before_detection := fun h => nomatch (H.before_detection h).1 }
  | detection =>
    cases d with
    | none => exact H
    | some w => exact {
        inbox := fun hw => by cases hw; exact H.inbox (w := w) rfl
        outbox := H.outbox
        before_detection := nofun
        before_persistence := fun h => nomatch (H.before_persistence h).1 }
  | persistence =>
    cases v with
    | none => exact H
    | some w => exact { H with
        outbox := fun hw => by cases hw; exact H.outbox (w := w) rfl
        before_persistence := nofun }

theorem pass (H : l.Tidy) (nanos : Nat) : (l.pass nanos).Tidy :=
  ⟨H.inbox, H.outbox, H.before_detection, H.before_persistence⟩

theorem step? [Camera κ] [ImageSink σ] {name : StageName} (H : l.Tidy)
    (h : l.step? name = some l') : l'.Tidy := by
  cases step?_cases h with
  | capture hw hs =>
    obtain ⟨-, hticks⟩ := hs.pool_eq
    exact {
      inbox := fun hd hgone => ⟨hs.frames_shut (H.inbox hd hgone).1, (H.inbox hd hgone).2⟩
      outbox := fun hv hend => hticks ▸ H.outbox hv hend
      before_detection := fun hd => by
        rw [(H.before_detection hd).1] at hw
        cases hw
      before_persistence := fun hv => hticks ▸ H.before_persistence hv }
  | detection hw hs =>
    exact {
      inbox := fun hd => by
        cases hd
        exact hs.inbox fun hgone => (H.inbox hw hgone).1
      outbox := fun hv hend => hs.ticks_shut (H.outbox hv hend)
      before_detection := nofun
      before_persistence := fun hv => by
        rw [(H.before_persistence hv).1] at hw
        cases hw }
  | persistence hw hs =>
    obtain ⟨hframes, -⟩ := hs.frames_eq
    exact {
      inbox := fun hd => hframes ▸ H.inbox hd
      outbox := fun hv => by
        cases hv
        exact hs.outbox
      before_detection := fun hd => hframes ▸ H.before_detection hd
      before_persistence := nofun }

end Tidy

/-! What steps leave as it is. -/

theorem started_step? [Camera κ] [ImageSink σ] {stage : StageName} (h : l.step? stage = some l')
    (name : StageName) : l'.started name = l.started name := by
  cases step?_cases h with
  | capture hw | detection hw | persistence hw => cases name <;> simp [started, hw]

/-- A stage that has ended does not step, so no step brings it back. -/
theorem ended_step? [Camera κ] [ImageSink σ] {stage name : StageName}
    (h : l.step? stage = some l') (hend : l.ended name = true) : l'.ended name = true := by
  cases step?_cases h with
  | capture hw hs =>
    cases name with
    | capture => simp [ended, captureEnding?, hw, hs.running] at hend
    | detection | persistence => exact hend
  | detection hw hs =>
    cases name with
    | detection => simp [ended, detectionEnding?, hw, hs.running] at hend
    | capture | persistence => exact hend
  | persistence hw hs =>
    cases name with
    | persistence => simp [ended, persistenceEnding?, hw, hs.running] at hend
    | capture | detection => exact hend

end Line
end TickCapture
