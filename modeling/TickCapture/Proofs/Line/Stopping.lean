import TickCapture.Proofs.Line.Endings

/-! # A stage that is asked to stop

Whatever happens around it, a stage with a raised stop flag can take only so many more steps
(`stepsLeft`): each of them brings it closer to its end. And it is never held up for ever: what it asks
for is answered once its time limit has passed (`limit`), if only the calls of the camera return. -/

namespace TickCapture

variable {κ σ : Type}

/-- The calls of a camera return: a wait not later than its deadline, and the taking of a frame at some
time. -/
structure Camera.Returns [Camera κ] (camera : κ) : Prop where
  poll : ∀ {now deadline wake}, deadline ≤ now → (Camera.poll camera now deadline).2 ≠ .waiting wake
  dequeue : ∀ at_, (Camera.dequeue camera at_).2 ≠ .never

namespace Plant

variable {α : Type} {p : Plant κ σ}

theorem sendTo?_isSome {since : Clock} {timeout : Option Clock} {m : Mailbox α} {x : α}
    {c : Priority} (h : timeout.all (p.expired since) = true) :
    (p.sendTo? since timeout m x c).isSome = true := by
  unfold sendTo?
  split
  · rw [if_pos h]
    rfl
  · rfl

theorem receiveFrom?_isSome {since timeout : Clock} {m : Mailbox α}
    (h : p.expired since timeout = true) : (p.receiveFrom? since timeout m).isSome = true := by
  unfold receiveFrom?
  split
  · rw [if_pos h]
    rfl
  · rfl

/-! Only the passing of time moves the clock. -/

theorem clock_closeFrames [DriverQueue κ] (p : Plant κ σ) : p.closeFrames.clock = p.clock := by
  refine List.foldlRecOn (motive := fun q : Plant κ σ => q.clock = p.clock) _ _ rfl ?_
  intro q hq frame _
  exact hq

theorem clock_drop {p' : Plant κ σ} {unwinding : Bool} {b : PooledBuffer} {fault : Option Fault}
    (h : p.drop unwinding b = (p', fault)) : p'.clock = p.clock := by
  cases h
  rfl

theorem clock_closeTicks {p' : Plant κ σ} {unwinding : Bool} {fault : Option Fault}
    (h : p.closeTicks unwinding = (p', fault)) : p'.clock = p.clock := by
  rw [← show (p.closeTicks unwinding).1 = p' from congrArg Prod.fst h]
  refine List.foldlRecOn (motive := fun q : Plant κ σ × Option Fault => q.1.clock = p.clock) _ _ rfl ?_
  intro q hq buffer _
  exact hq

end Plant

theorem DetectionStep.clock_eq [DriverQueue κ] {p p' : Plant κ σ} {w : Worker DetectionStage}
    {s : DetectionStage} (h : DetectionStep p w p' s) : p'.clock = p.clock := by
  cases h with
  | drops _ hd | dropFaults _ hd | forgets _ _ hd | forgetFaults _ _ hd => exact Plant.clock_drop hd
  | closesInbox => exact p.clock_closeFrames
  | _ => rfl

theorem PersistenceStep.clock_eq [ImageSink σ] {p p' : Plant κ σ} {w : Worker PersistenceStage}
    {s : PersistenceStage} (h : PersistenceStep p w p' s) : p'.clock = p.clock := by
  cases h with
  | drops _ hd | dropFaults _ hd => exact Plant.clock_drop hd
  | leaves _ hc | leaveFaults _ hc => exact Plant.clock_closeTicks hc
  | _ => rfl

/-! ### The capture stage -/

/-- How many steps are left to a stage that is asked to stop. -/
def CapturePhase.stepsLeft : CapturePhase → Nat
  | .ended _ => 0
  | .leaving _ => 1
  | .counting => 2
  | .checking | .closing _ => 3
  | .starting | .paced => 4
  | .pacing => 5
  | .rejecting _ => 6
  | .blocked _ => 7
  | .sending _ => 8
  | .dequeuing => 9
  | .waiting => 10

namespace CaptureStage

theorem stepsLeft_afterFrame (s : CaptureStage) : s.afterFrame.phase.stepsLeft ≤ 5 := by
  unfold afterFrame
  split <;> simp [enter, CapturePhase.stepsLeft]

end CaptureStage

/-- A stage that is asked to stop comes closer to its end with every step. -/
theorem CaptureStep.stepsLeft_lt [Camera κ] {p p' : Plant κ σ} {w : Worker CaptureStage}
    {s : CaptureStage} (h : CaptureStep p w p' s) (hstop : w.stop = true) :
    s.phase.stepsLeft < w.stage.phase.stepsLeft := by
  cases h with
  | sends hp | rejects hp =>
    rw [hp]
    exact Nat.lt_of_le_of_lt (CaptureStage.stepsLeft_afterFrame _) (by simp [CapturePhase.stepsLeft])
  | proceeds _ hgo | retries _ hgo => cases hgo.symm.trans hstop
  | starts hp | stops hp | ready hp | notReady hp | waitFails hp | takes hp | empty hp | transient hp
  | fatal hp | faults hp | blocks hp | overflows hp | closed hp | givesUp hp | discards hp | sleeps hp
  | wakes hp | counts hp | leaves hp =>
    simp [hp, CaptureStage.enter, CaptureStage.fail, CapturePhase.stepsLeft]

/-- When the stage is answered at the latest, if it is asked to stop. -/
def Worker.captureLimit (w : Worker CaptureStage) : Clock :=
  match w.stage.request with
  | .wait timeout | .send _ (some timeout) => w.since + timeout
  | _ => 0

/-- Once its time limit has passed, a stage that is asked to stop takes a step. -/
theorem Worker.stepCapture?_isSome [Camera κ] {p : Plant κ σ} {w : Worker CaptureStage}
    (hrunning : w.stage.ending? = none) (hcamera : Camera.Returns p.camera) (hstop : w.stop = true)
    (htime : w.captureLimit ≤ p.clock) : (w.stepCapture? p).isSome = true := by
  obtain ⟨⟨settings, phase, nextDue, report⟩, since, stop⟩ := w
  rw [stepCapture?, Option.isSome_map]
  cases phase with
  | waiting =>
    have hpoll (wake : Option Clock) :
        (Camera.poll p.camera p.clock (since + settings.readyTimeout)).2 ≠ .waiting wake :=
      hcamera.poll htime
    simp only [Plant.answerCapture?, CaptureStage.request]
    split
    · rfl
    · rfl
    · next hwaiting => exact absurd (congrArg Prod.snd hwaiting) (hpoll _)
  | dequeuing =>
    simp only [Plant.answerCapture?, CaptureStage.request]
    split
    · rfl
    · rfl
    · rfl
    · next hnever => exact absurd (congrArg Prod.snd hnever) (hcamera.dequeue _)
  | sending frame =>
    simp only [Plant.answerCapture?, CaptureStage.request, Option.isSome_map]
    refine Plant.sendTo?_isSome ?_
    obtain ⟨device, timeout, interval, policy⟩ := settings
    cases policy with
    | block =>
      rw [Option.all_some]
      exact decide_eq_true htime
    | drop => rfl
  | pacing =>
    cases hstop
    simp [Plant.answerCapture?, CaptureStage.request]
  | ended ending => cases hrunning
  | starting | checking | blocked | rejecting | closing | paced | counting | leaving => rfl

/-! ### The detection stage -/

/-- How many steps are left to a stage that is asked to stop. -/
def DetectionPhase.stepsLeft : DetectionPhase → Nat
  | .ended _ => 0
  | .forgetting _ => 1
  | .closingOutbox _ => 2
  | .closingInbox _ => 3
  | .checking | .discarding .. => 4
  | .exhausted _ | .releasing .. | .dropping .. => 5
  | .blocked _ => 6
  | .sending _ => 7
  | .returning .. => 8
  | .acquiring _ => 9
  | .receiving => 10

namespace DetectionStage

variable (s : DetectionStage)

theorem stepsLeft_takeIn (frame : Captured) : (s.takeIn frame).phase.stepsLeft ≤ 9 := by
  unfold takeIn
  dsimp only
  split <;> simp [enter, DetectionPhase.stepsLeft]

theorem stepsLeft_convert (frame : Captured) (slot : PooledBuffer) :
    (s.convert frame slot).phase.stepsLeft ≤ 8 := by
  obtain ⟨b, h⟩ | ⟨ending, h⟩ := s.convert_cases frame slot <;>
    simp [h, enter, DetectionPhase.stepsLeft]

theorem stepsLeft_detect (converted : PooledBuffer) :
    (s.detect converted).phase.stepsLeft ≤ 7 := by
  have hcase := detect_cases s converted
  generalize s.detect converted = s' at hcase ⊢
  cases hcase with
  | seeded | rejected => simp [DetectionPhase.stepsLeft]
  | displaced => dsimp only; split <;> simp [DetectionPhase.stepsLeft]

theorem stepsLeft_afterDrop (frame : Option Captured) (ending : Ending DetectionReport) :
    (s.afterDrop frame ending).phase.stepsLeft ≤ 4 := by
  cases frame <;> simp [afterDrop, leave, enter, DetectionPhase.stepsLeft]

theorem stepsLeft_forget (ending : Ending DetectionReport) :
    (s.forget ending).phase.stepsLeft ≤ 1 := by
  obtain h | h := s.forget_cases ending <;> simp [h, enter, DetectionPhase.stepsLeft]

end DetectionStage

theorem DetectionStep.stepsLeft_lt [DriverQueue κ] {p p' : Plant κ σ} {w : Worker DetectionStage}
    {s : DetectionStage} (h : DetectionStep p w p' s) (hstop : w.stop = true) :
    s.phase.stepsLeft < w.stage.phase.stepsLeft := by
  cases h with
  | receives hp =>
    rw [hp]
    exact Nat.lt_succ_of_le (w.stage.stepsLeft_takeIn _)
  | acquires hp =>
    rw [hp]
    exact Nat.lt_succ_of_le (w.stage.stepsLeft_convert _ _)
  | returns hp =>
    rw [hp]
    exact Nat.lt_succ_of_le (w.stage.stepsLeft_detect _)
  | drops hp | dropFaults hp =>
    rw [hp]
    exact Nat.lt_succ_of_le (w.stage.stepsLeft_afterDrop _ _)
  | closesOutbox hp =>
    rw [hp]
    exact Nat.lt_succ_of_le (w.stage.stepsLeft_forget _)
  | @releases _ _ last hp =>
    cases last <;> simp [hp, DetectionStage.finish, DetectionStage.leave, DetectionStage.enter,
      DetectionPhase.stepsLeft]
  | proceeds _ hgo | retries _ hgo => cases hgo.symm.trans hstop
  | stops hp | waits hp | inboxClosed hp | exhausts hp | acquireFaults hp | skips hp | refused hp
  | sends hp | blocks hp | outboxClosed hp | givesUp hp | releaseRefused hp | discards hp
  | closesInbox hp | forgets hp | forgetFaults hp =>
    simp [hp, DetectionStage.finish, DetectionStage.leave, DetectionStage.enter,
      DetectionPhase.stepsLeft]

def Worker.detectionLimit (w : Worker DetectionStage) : Clock :=
  match w.stage.request with
  | .receive timeout | .send _ timeout => w.since + timeout
  | _ => 0

/-- The stage asks to drop a frame of its detector only if there is one. -/
def DetectionStage.Answerable (s : DetectionStage) : Prop :=
  ∀ ending, s.phase = .forgetting ending → s.detector.previous.isSome = true

theorem DetectionStage.Answerable.of_inbox {s : DetectionStage} (h : s.phase.inboxGone = false) :
    s.Answerable := by
  intro ending hp
  rw [hp] at h
  cases h

theorem DetectionStep.answerable [DriverQueue κ] {p p' : Plant κ σ} {w : Worker DetectionStage}
    {s : DetectionStage} (h : DetectionStep p w p' s) : s.Answerable := by
  cases h with
  | receives => exact .of_inbox (w.stage.inboxGone_takeIn _)
  | acquires => exact .of_inbox (w.stage.inboxGone_convert _ _)
  | returns => exact .of_inbox (w.stage.inboxGone_detect _)
  | @releases _ _ last => cases last <;> exact .of_inbox rfl
  | @drops _ _ frame | @dropFaults _ _ frame => cases frame <;> exact .of_inbox rfl
  | closesOutbox =>
    intro ending hp
    cases hprev : w.stage.detector.previous with
    | none => simp [DetectionStage.forget, DetectionStage.enter, hprev] at hp
    | some held => simp [DetectionStage.forget, DetectionStage.enter, hprev]
  | closesInbox | forgets | forgetFaults =>
    intro ending hp
    cases hp
  | stops | proceeds | waits | inboxClosed | exhausts | acquireFaults | skips | refused | sends
  | blocks | outboxClosed | givesUp | retries | releaseRefused | discards => exact .of_inbox rfl

theorem Worker.stepDetection?_isSome [DriverQueue κ] {p : Plant κ σ} {w : Worker DetectionStage}
    (hrunning : w.stage.ending? = none) (hanswerable : w.stage.Answerable)
    (htime : w.detectionLimit ≤ p.clock) : (w.stepDetection? p).isSome = true := by
  obtain ⟨⟨settings, phase, detector, expectedLen, report⟩, since, stop⟩ := w
  rw [stepDetection?, Option.isSome_map]
  cases phase with
  | receiving =>
    simp only [Plant.answerDetection?, DetectionStage.request, Option.isSome_map]
    exact Plant.receiveFrom?_isSome (decide_eq_true htime)
  | acquiring frame =>
    simp only [Plant.answerDetection?, DetectionStage.request]
    split <;> rfl
  | returning frame converted =>
    simp only [Plant.answerDetection?, DetectionStage.request]
    split <;> rfl
  | sending displaced =>
    simp only [Plant.answerDetection?, DetectionStage.request, Option.isSome_map]
    refine Plant.sendTo?_isSome ?_
    rw [Option.all_some]
    exact decide_eq_true htime
  | forgetting ending =>
    obtain ⟨held, hheld⟩ := Option.isSome_iff_exists.mp (hanswerable ending rfl)
    simp only at hheld
    simp [Plant.answerDetection?, DetectionStage.request, hheld]
  | ended ending => cases hrunning
  | checking | exhausted | blocked | releasing | dropping | discarding | closingInbox
  | closingOutbox => rfl

/-! ### The persistence stage -/

/-- How many steps are left to a stage that is asked to stop. -/
def PersistencePhase.stepsLeft : PersistencePhase → Nat
  | .ended _ => 0
  | .leaving _ => 1
  | .checking | .dropping .. => 2
  | .skipping _ | .releasing .. => 3
  | .storing .. => 4
  | .timing _ => 5
  | .receiving => 6

theorem PersistenceStage.stepsLeft_nextRound (s : PersistenceStage) :
    s.nextRound.phase.stepsLeft ≤ 2 := by
  unfold nextRound
  split <;> simp [enter, PersistencePhase.stepsLeft]

theorem PersistenceStage.stepsLeft_count (s : PersistenceStage) (bytes : Nat) :
    (s.count bytes).phase.stepsLeft ≤ 2 := by
  unfold count
  dsimp only
  split
  · exact stepsLeft_nextRound _
  · simp [enter, PersistencePhase.stepsLeft]

theorem PersistenceStep.stepsLeft_lt [ImageSink σ] {p p' : Plant κ σ}
    {w : Worker PersistenceStage} {s : PersistenceStage} (h : PersistenceStep p w p' s)
    (hstop : w.stop = true) : s.phase.stepsLeft < w.stage.phase.stepsLeft := by
  cases h with
  | waits hp | releasesSkipped hp =>
    rw [hp]
    exact Nat.lt_of_le_of_lt (PersistenceStage.stepsLeft_nextRound _)
      (by simp [PersistencePhase.stepsLeft])
  | releases hp =>
    rw [hp]
    exact Nat.lt_succ_of_le (PersistenceStage.stepsLeft_count _ _)
  | proceeds _ hgo => cases hgo.symm.trans hstop
  | stops hp | accepts hp | skips hp | inboxClosed hp | skippedRefused hp | times hp | timeless hp
  | stores hp | storeFails hp | storeFaults hp | releaseRefused hp | drops hp | dropFaults hp
  | leaves hp | leaveFaults hp =>
    simp [hp, PersistenceStage.finish, PersistenceStage.enter, PersistencePhase.stepsLeft]

def Worker.persistenceLimit (w : Worker PersistenceStage) : Clock :=
  match w.stage.request with
  | .receive timeout => w.since + timeout
  | _ => 0

theorem Worker.stepPersistence?_isSome [ImageSink σ] {p : Plant κ σ} {w : Worker PersistenceStage}
    (hrunning : w.stage.ending? = none) (htime : w.persistenceLimit ≤ p.clock) :
    (w.stepPersistence? p).isSome = true := by
  obtain ⟨⟨settings, phase, report⟩, since, stop⟩ := w
  rw [stepPersistence?, Option.isSome_map]
  cases phase with
  | receiving =>
    simp only [Plant.answerPersistence?, PersistenceStage.request, Option.isSome_map]
    exact Plant.receiveFrom?_isSome (decide_eq_true htime)
  | storing frame record =>
    simp only [Plant.answerPersistence?, PersistenceStage.request]
    split <;> rfl
  | ended ending => cases hrunning
  | checking | skipping | timing | releasing | dropping | leaving => rfl

/-! ### The line -/

namespace Line

/-- A stage, if it was started, has been asked to stop. -/
def asked (l : Line κ σ) : StageName → Bool
  | .capture => l.capture.all (·.stop)
  | .detection => l.detection.all (·.stop)
  | .persistence => l.persistence.all (·.stop)

def stepsLeft (l : Line κ σ) : StageName → Nat
  | .capture => l.capture.elim 0 (·.stage.phase.stepsLeft)
  | .detection => l.detection.elim 0 (·.stage.phase.stepsLeft)
  | .persistence => l.persistence.elim 0 (·.stage.phase.stepsLeft)

def limit (l : Line κ σ) : StageName → Clock
  | .capture => l.capture.elim 0 (·.captureLimit)
  | .detection => l.detection.elim 0 (·.detectionLimit)
  | .persistence => l.persistence.elim 0 (·.persistenceLimit)

/-- A stage is where it was. -/
def Rests (l l' : Line κ σ) : StageName → Prop
  | .capture => l'.capture = l.capture
  | .detection => l'.detection = l.detection
  | .persistence => l'.persistence = l.persistence

/-- The detection stage never waits for an answer that it cannot get. -/
def Answerable (l : Line κ σ) : Prop := ∀ w, l.detection = some w → w.stage.Answerable

variable {l l' : Line κ σ} {name stage : StageName}

theorem stepsLeft_le (l : Line κ σ) (name : StageName) : l.stepsLeft name ≤ 10 := by
  cases name with
  | capture =>
    cases h : l.capture with
    | none => simp [stepsLeft, h]
    | some w => cases hp : w.stage.phase <;> simp [stepsLeft, h, hp, CapturePhase.stepsLeft]
  | detection =>
    cases h : l.detection with
    | none => simp [stepsLeft, h]
    | some w => cases hp : w.stage.phase <;> simp [stepsLeft, h, hp, DetectionPhase.stepsLeft]
  | persistence =>
    cases h : l.persistence with
    | none => simp [stepsLeft, h]
    | some w => cases hp : w.stage.phase <;> simp [stepsLeft, h, hp, PersistencePhase.stepsLeft]

namespace Rests

theorem stepsLeft_eq (H : l.Rests l' name) : l'.stepsLeft name = l.stepsLeft name := by
  cases name <;> simp only [Rests] at H <;> simp [stepsLeft, H]

theorem limit_eq (H : l.Rests l' name) : l'.limit name = l.limit name := by
  cases name <;> simp only [Rests] at H <;> simp [limit, H]

theorem asked_eq (H : l.Rests l' name) : l'.asked name = l.asked name := by
  cases name <;> simp only [Rests] at H <;> simp [asked, H]

theorem started_eq (H : l.Rests l' name) : l'.started name = l.started name := by
  cases name <;> simp only [Rests] at H <;> simp [started, H]

theorem ended_eq (H : l.Rests l' name) : l'.ended name = l.ended name := by
  cases name <;> simp only [Rests] at H <;>
    simp [ended, captureEnding?, detectionEnding?, persistenceEnding?, H]

end Rests

theorem asked_raiseStop (l : Line κ σ) (name : StageName) : (l.raiseStop name).asked name = true := by
  obtain ⟨p, c, d, v⟩ := l
  cases name with
  | capture => cases c <;> rfl
  | detection => cases d <;> rfl
  | persistence => cases v <;> rfl

theorem asked_of_raiseStop (h : l.asked name = true) (stage : StageName) :
    (l.raiseStop stage).asked name = true := by
  by_cases hname : stage = name
  · rw [hname]
    exact l.asked_raiseStop name
  · have hrests : l.Rests (l.raiseStop stage) name := by
      cases stage <;> cases name <;> first | rfl | exact absurd rfl hname
    rw [hrests.asked_eq]
    exact h

theorem Answerable.raiseStop (H : l.Answerable) (stage : StageName) :
    (l.raiseStop stage).Answerable := by
  cases stage with
  | capture | persistence => exact H
  | detection =>
    intro w hw
    obtain ⟨w', hw', rfl⟩ := Option.map_eq_some_iff.mp hw
    exact H w' hw'

section Steps

variable [Camera κ] [ImageSink σ]

/-- A step of one stage leaves the others where they are. -/
theorem rests_step? (h : l.step? stage = some l') (hne : name ≠ stage) : l.Rests l' name := by
  cases step?_cases h <;> cases name <;> first | rfl | exact absurd rfl hne

theorem asked_step? (h : l.step? stage = some l') : l'.asked name = l.asked name := by
  by_cases hname : name = stage
  · subst hname
    cases step?_cases h with
    | capture hw | detection hw | persistence hw => simp [asked, hw]
  · exact (rests_step? h hname).asked_eq

/-- A stage that is asked to stop comes closer to its end with every step of its own. -/
theorem stepsLeft_step? (h : l.step? name = some l') (hasked : l.asked name = true) :
    l'.stepsLeft name < l.stepsLeft name := by
  cases step?_cases h with
  | capture hw hs =>
    simp only [asked, hw, Option.all_some] at hasked
    simpa [stepsLeft, hw] using hs.stepsLeft_lt hasked
  | detection hw hs =>
    simp only [asked, hw, Option.all_some] at hasked
    simpa [stepsLeft, hw] using hs.stepsLeft_lt hasked
  | persistence hw hs =>
    simp only [asked, hw, Option.all_some] at hasked
    simpa [stepsLeft, hw] using hs.stepsLeft_lt hasked

theorem clock_step? (h : l.step? stage = some l') : l'.plant.clock = l.plant.clock := by
  cases step?_cases h with
  | capture _ hs => exact hs.clock_eq
  | detection _ hs => exact hs.clock_eq
  | persistence _ hs => exact hs.clock_eq

theorem Answerable.step? (H : l.Answerable) (h : l.step? stage = some l') : l'.Answerable := by
  cases step?_cases h with
  | capture | persistence => exact H
  | detection _ hs =>
    intro w hw
    cases hw
    exact hs.answerable

/-- Once its time limit has passed, a stage that is asked to stop and has not ended takes a step. -/
theorem step?_isSome (hstarted : l.started name = true) (hrunning : l.ended name = false)
    (hasked : l.asked name = true) (hanswerable : l.Answerable)
    (hcamera : Camera.Returns l.plant.camera) (htime : l.limit name ≤ l.plant.clock) :
    (l.step? name).isSome = true := by
  obtain ⟨p, c, d, v⟩ := l
  cases name with
  | capture =>
    cases c with
    | none => cases hstarted
    | some w =>
      have hstep := w.stepCapture?_isSome (by simpa [ended, captureEnding?] using hrunning) hcamera
        hasked htime
      obtain ⟨⟨p', w'⟩, hstep⟩ := Option.isSome_iff_exists.mp hstep
      simp [step?, hstep]
  | detection =>
    cases d with
    | none => cases hstarted
    | some w =>
      have hstep := w.stepDetection?_isSome (p := p)
        (by simpa [ended, detectionEnding?] using hrunning) (hanswerable w rfl) htime
      obtain ⟨⟨p', w'⟩, hstep⟩ := Option.isSome_iff_exists.mp hstep
      simp [step?, hstep]
  | persistence =>
    cases v with
    | none => cases hstarted
    | some w =>
      have hstep := w.stepPersistence?_isSome (p := p)
        (by simpa [ended, persistenceEnding?] using hrunning) htime
      obtain ⟨⟨p', w'⟩, hstep⟩ := Option.isSome_iff_exists.mp hstep
      simp [step?, hstep]

end Steps
end Line
end TickCapture
