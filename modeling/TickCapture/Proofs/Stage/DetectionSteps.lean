import TickCapture.Proofs.Stage.CaptureSteps

/-! # The steps of the detection stage

`DetectionStep p w p' s` lists what one step over the plant `p` can come to. What becomes of a
received frame, of a converted one and of a displaced one is decided by `takeIn`, `convert` and
`detect`; these have case lemmas of their own. -/

namespace TickCapture

variable {κ σ : Type}

/-- What one step of the detection stage can come to. -/
inductive DetectionStep [DriverQueue κ] (p : Plant κ σ) (w : Worker DetectionStage) :
    Plant κ σ → DetectionStage → Prop
  | stops : w.stage.phase = .checking → w.stop = true → DetectionStep p w p w.stage.finish
  | proceeds : w.stage.phase = .checking → w.stop = false →
    DetectionStep p w p (w.stage.enter .receiving)
  | receives {frames : Mailbox Captured} {frame : Captured} : w.stage.phase = .receiving →
    p.frames.receive = (frames, .got frame) →
    DetectionStep p w { p with frames } (w.stage.takeIn frame)
  | waits : w.stage.phase = .receiving → p.frames.receive = (p.frames, .nothing) →
    p.expired w.since w.stage.settings.receiveTimeout = true →
    DetectionStep p w p (w.stage.enter .checking)
  | inboxClosed : w.stage.phase = .receiving → p.frames.receive = (p.frames, .closed) →
    DetectionStep p w p w.stage.finish
  | acquires {pool : Pool} {frame : Captured} {slot : PooledBuffer} :
    w.stage.phase = .acquiring frame → p.pool.acquire = (pool, .ok (some slot)) →
    DetectionStep p w { p with pool } (w.stage.convert frame slot)
  | exhausts {pool : Pool} {frame : Captured} : w.stage.phase = .acquiring frame →
    p.pool.acquire = (pool, .ok none) →
    DetectionStep p w { p with pool } { w.stage with
      report.poolExhausted := w.stage.report.poolExhausted + 1, phase := .exhausted frame }
  | acquireFaults {pool : Pool} {frame : Captured} {fault : Fault} :
    w.stage.phase = .acquiring frame → p.pool.acquire = (pool, .error fault) →
    DetectionStep p w { p with pool } (w.stage.enter (.discarding frame (.faulted fault)))
  | skips {frame : Captured} : w.stage.phase = .exhausted frame →
    DetectionStep p w ((p.log [DetectionStage.exhaustedRecord frame]).discard frame)
      (w.stage.enter .checking)
  | returns {camera : κ} {frame : Captured} {converted : PooledBuffer} :
    w.stage.phase = .returning frame converted → giveBack p.camera frame = (camera, none) →
    DetectionStep p w { p with camera } (w.stage.detect converted)
  | refused {camera : κ} {frame : Captured} {converted : PooledBuffer} {e : IoError} :
    w.stage.phase = .returning frame converted → giveBack p.camera frame = (camera, some e) →
    DetectionStep p w { p with camera }
      (w.stage.enter (.dropping converted none (.failed ⟨[.returningBuffer], .io e⟩)))
  | sends {ticks : Mailbox PooledBuffer} {displaced : PooledBuffer} :
    w.stage.phase = .sending displaced →
    p.ticks.attempt displaced .tick = (ticks, .accepted) →
    DetectionStep p w { p with ticks } { w.stage with
      report.forwarded := w.stage.report.forwarded + 1, phase := .checking }
  | blocks {displaced : PooledBuffer} : w.stage.phase = .sending displaced →
    p.ticks.attempt displaced .tick = (p.ticks, .full displaced) →
    p.expired w.since sendPoll = true → DetectionStep p w p (w.stage.enter (.blocked displaced))
  | outboxClosed {displaced : PooledBuffer} : w.stage.phase = .sending displaced →
    p.ticks.attempt displaced .tick = (p.ticks, .closed displaced) →
    DetectionStep p w p (w.stage.enter (.releasing displaced true))
  | givesUp {displaced : PooledBuffer} : w.stage.phase = .blocked displaced → w.stop = true →
    DetectionStep p w p { w.stage with
      report.discarded := w.stage.report.discarded + 1, phase := .releasing displaced false }
  | retries {displaced : PooledBuffer} : w.stage.phase = .blocked displaced → w.stop = false →
    DetectionStep p w p (w.stage.enter (.sending displaced))
  | releases {pool : Pool} {displaced : PooledBuffer} {last : Bool} :
    w.stage.phase = .releasing displaced last → p.pool.takeBack displaced = (pool, .ok ()) →
    DetectionStep p w { p with pool }
      (if last then w.stage.finish else w.stage.enter .checking)
  | releaseRefused {pool : Pool} {displaced : PooledBuffer} {last : Bool} {e : PoolError} :
    w.stage.phase = .releasing displaced last → p.pool.takeBack displaced = (pool, .error e) →
    DetectionStep p w { p with pool } (w.stage.leave (.failed (.of (.pool e))))
  | drops {p' : Plant κ σ} {converted : PooledBuffer} {frame : Option Captured}
      {ending : Ending DetectionReport} : w.stage.phase = .dropping converted frame ending →
    p.drop ending.unwinding converted = (p', none) →
    DetectionStep p w p' (w.stage.afterDrop frame ending)
  | dropFaults {p' : Plant κ σ} {converted : PooledBuffer} {frame : Option Captured}
      {ending : Ending DetectionReport} {fault : Fault} :
    w.stage.phase = .dropping converted frame ending →
    p.drop ending.unwinding converted = (p', some fault) →
    DetectionStep p w p' (w.stage.afterDrop frame (ending.afterFault fault))
  | discards {frame : Captured} {ending : Ending DetectionReport} :
    w.stage.phase = .discarding frame ending →
    DetectionStep p w ((p.log []).discard frame) (w.stage.leave ending)
  | closesInbox {ending : Ending DetectionReport} : w.stage.phase = .closingInbox ending →
    DetectionStep p w p.closeFrames (w.stage.enter (.closingOutbox ending))
  | closesOutbox {ending : Ending DetectionReport} : w.stage.phase = .closingOutbox ending →
    DetectionStep p w { p with ticks := p.ticks.dropSender } (w.stage.forget ending)
  | forgets {p' : Plant κ σ} {held : PooledBuffer} {ending : Ending DetectionReport} :
    w.stage.phase = .forgetting ending → w.stage.detector.previous = some held →
    p.drop ending.unwinding held = (p', none) →
    DetectionStep p w p' { w.stage with detector.previous := none, phase := .ended ending }
  | forgetFaults {p' : Plant κ σ} {held : PooledBuffer} {ending : Ending DetectionReport}
      {fault : Fault} : w.stage.phase = .forgetting ending →
    w.stage.detector.previous = some held → p.drop ending.unwinding held = (p', some fault) →
    DetectionStep p w p' { w.stage with
      detector.previous := none, phase := .ended (ending.afterFault fault) }

namespace Plant

variable {α : Type} {p p' : Plant κ σ}

theorem settled_eq {done answer : α} {fault : Fault → α} {outcome : Plant κ σ × Option Fault}
    (h : settled done fault outcome = (p', answer)) :
    (outcome = (p', none) ∧ answer = done) ∨
      ∃ f, outcome = (p', some f) ∧ answer = fault f := by
  obtain ⟨q, f⟩ := outcome
  cases f with
  | none => cases h; exact .inl ⟨rfl, rfl⟩
  | some f => cases h; exact .inr ⟨f, rfl, rfl⟩

theorem release_eq {done answer : α} {refused : PoolError → α} {buffer : PooledBuffer}
    (h : p.release done refused buffer = (p', answer)) :
    (∃ pool, p.pool.takeBack buffer = (pool, .ok ()) ∧ p' = { p with pool } ∧ answer = done) ∨
      ∃ pool e, p.pool.takeBack buffer = (pool, .error e) ∧ p' = { p with pool } ∧
        answer = refused e := by
  unfold release at h
  split at h
  · next pool hback => cases h; exact .inl ⟨pool, hback, rfl, rfl⟩
  · next pool e hback => cases h; exact .inr ⟨pool, e, hback, rfl, rfl⟩

end Plant

namespace DetectionStep

variable [DriverQueue κ] {p p' : Plant κ σ} {w w' : Worker DetectionStage}

theorem of_answer {answer : DetectionAnswer} (h : p.answerDetection? w = some (p', answer)) :
    DetectionStep p w p' (w.stage.resume answer) := by
  obtain ⟨⟨settings, phase, detector, expectedLen, report⟩, since, stop⟩ := w
  cases phase with
  | checking =>
    cases h
    cases stop with
    | true => exact .stops rfl rfl
    | false => exact .proceeds rfl rfl
  | receiving =>
    obtain ⟨⟨frames, outcome⟩, hreceive, hout⟩ := Option.map_eq_some_iff.mp h
    cases hout
    obtain ⟨hreceive, hexpired⟩ := Plant.receiveFrom?_eq_some hreceive
    cases outcome with
    | got frame => exact .receives rfl hreceive
    | nothing =>
      obtain ⟨rfl, -, -⟩ := Mailbox.receive_nothing hreceive
      exact .waits rfl hreceive (hexpired rfl)
    | closed =>
      obtain ⟨rfl, -, -⟩ := Mailbox.receive_closed hreceive
      exact .inboxClosed rfl hreceive
  | acquiring frame =>
    simp only [Plant.answerDetection?, DetectionStage.request] at h
    split at h
    · next pool buffer hacquire =>
      cases h
      cases buffer with
      | none => exact .exhausts rfl hacquire
      | some slot => exact .acquires rfl hacquire
    · next hacquire => cases h; exact .acquireFaults rfl hacquire
  | exhausted frame => cases h; exact .skips rfl
  | returning frame converted =>
    simp only [Plant.answerDetection?, DetectionStage.request] at h
    split at h
    · next hback => cases h; exact .returns rfl hback
    · next hback => cases h; exact .refused rfl hback
  | sending displaced =>
    simp only [Plant.answerDetection?, DetectionStage.request] at h
    obtain ⟨⟨ticks, outcome⟩, hsend, hout⟩ := Option.map_eq_some_iff.mp h
    cases hout
    obtain ⟨hattempt, hexpired⟩ := Plant.sendTo?_eq_some hsend
    cases outcome with
    | accepted => exact .sends rfl hattempt
    | full y =>
      obtain ⟨-, -, rfl, rfl⟩ := Mailbox.attempt_full hattempt
      have hover := hexpired _ rfl
      rw [Option.all_some] at hover
      exact .blocks rfl hattempt hover
    | closed y =>
      obtain ⟨-, rfl, rfl⟩ := Mailbox.attempt_closed hattempt
      exact .outboxClosed rfl hattempt
  | blocked displaced =>
    cases h
    cases stop with
    | true => exact .givesUp rfl rfl
    | false => exact .retries rfl rfl
  | releasing displaced last =>
    rcases Plant.release_eq (Option.some.inj h) with
      ⟨pool, hback, rfl, rfl⟩ | ⟨pool, e, hback, rfl, rfl⟩
    · exact .releases rfl hback
    · exact .releaseRefused rfl hback
  | dropping converted frame ending =>
    rcases Plant.settled_eq (Option.some.inj h) with ⟨hdrop, rfl⟩ | ⟨fault, hdrop, rfl⟩
    · exact .drops rfl hdrop
    · exact .dropFaults rfl hdrop
  | discarding frame ending => cases h; exact .discards rfl
  | closingInbox ending => cases h; exact .closesInbox rfl
  | closingOutbox ending => cases h; exact .closesOutbox rfl
  | forgetting ending =>
    obtain ⟨hysteresis, previous, _, _, _, _, _⟩ := detector
    cases previous with
    | none => cases h
    | some held =>
      rcases Plant.settled_eq (Option.some.inj h) with ⟨hdrop, rfl⟩ | ⟨fault, hdrop, rfl⟩
      · exact .forgets rfl rfl hdrop
      · exact .forgetFaults rfl rfl hdrop
  | ended ending => cases h

end DetectionStep

theorem Worker.stepDetection?_cases [DriverQueue κ] {p p' : Plant κ σ}
    {w w' : Worker DetectionStage} (h : w.stepDetection? p = some (p', w')) :
    ∃ s, w' = ⟨s, p'.clock, w.stop⟩ ∧ DetectionStep p w p' s := by
  obtain ⟨⟨q, answer⟩, hanswer, hq⟩ := Option.map_eq_some_iff.mp h
  cases hq
  exact ⟨_, rfl, .of_answer hanswer⟩

end TickCapture
