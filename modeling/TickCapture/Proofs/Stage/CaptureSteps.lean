import TickCapture.Pipeline.Plant
import TickCapture.Proofs.Mailbox.Fifo

/-! # The steps of the capture stage

`CaptureStep p w p' s` lists what one step over the plant `p` can come to: the plant afterwards, and
the stage. Everything about the stage is shown by cases on it. -/

namespace TickCapture

variable {κ σ : Type}

namespace Plant

variable {α : Type} {p : Plant κ σ} {m m' : Mailbox α}

/-- An attempt that goes on until a time limit ends as its last attempt does. -/
theorem sendTo?_eq_some {since : Clock} {timeout : Option Clock} {x : α} {c : Priority}
    {outcome : Sent α} (h : p.sendTo? since timeout m x c = some (m', outcome)) :
    m.attempt x c = (m', outcome) ∧
      ∀ y, outcome = .full y → timeout.all (p.expired since) = true := by
  unfold sendTo? at h
  split at h
  · next hm =>
    split at h <;> cases h
    exact ⟨hm, fun _ _ => ‹_›⟩
  · next hne =>
    obtain hm := Option.some.inj h
    exact ⟨hm, fun y hy => absurd (hm.trans (by rw [hy])) (hne m' y)⟩

theorem receiveFrom?_eq_some {since timeout : Clock} {outcome : Received α}
    (h : p.receiveFrom? since timeout m = some (m', outcome)) :
    m.receive = (m', outcome) ∧ (outcome = .nothing → p.expired since timeout = true) := by
  unfold receiveFrom? at h
  split at h
  · next hm =>
    split at h <;> cases h
    exact ⟨hm, fun _ => ‹_›⟩
  · next hne =>
    obtain hm := Option.some.inj h
    exact ⟨hm, fun hy => absurd (hm.trans (by rw [hy])) (hne m')⟩

end Plant

/-- What one step of the capture stage can come to. -/
inductive CaptureStep [Camera κ] (p : Plant κ σ) (w : Worker CaptureStage) :
    Plant κ σ → CaptureStage → Prop
  | starts : w.stage.phase = .starting →
    CaptureStep p w p { w.stage with nextDue := p.clock, phase := .checking }
  | stops : w.stage.phase = .checking → w.stop = true → CaptureStep p w p (w.stage.enter .counting)
  | proceeds : w.stage.phase = .checking → w.stop = false →
    CaptureStep p w p (w.stage.enter .waiting)
  | ready {camera : κ} : w.stage.phase = .waiting →
    Camera.poll p.camera p.clock (w.since + w.stage.settings.readyTimeout) =
      (camera, .answered true) →
    CaptureStep p w { p with camera } (w.stage.enter .dequeuing)
  | notReady {camera : κ} : w.stage.phase = .waiting →
    Camera.poll p.camera p.clock (w.since + w.stage.settings.readyTimeout) =
      (camera, .answered false) →
    CaptureStep p w { p with camera } { w.stage with
      report.readyTimeouts := w.stage.report.readyTimeouts + 1, phase := .checking }
  | waitFails {camera : κ} {e : CameraError} : w.stage.phase = .waiting →
    Camera.poll p.camera p.clock (w.since + w.stage.settings.readyTimeout) =
      (camera, .failed e) →
    CaptureStep p w { p with camera }
      (w.stage.fail ⟨[.waitingFor w.stage.settings.device], .camera e⟩)
  | takes {camera : κ} {frame : Captured} : w.stage.phase = .dequeuing →
    Camera.dequeue p.camera p.now = (camera, .frame frame) →
    CaptureStep p w { p with camera } { w.stage with
      report.captured := w.stage.report.captured + 1, phase := .sending frame }
  | empty {camera : κ} : w.stage.phase = .dequeuing →
    Camera.dequeue p.camera p.now = (camera, .failed .empty) →
    CaptureStep p w { p with camera } (w.stage.enter .checking)
  | transient {camera : κ} {cause : IoError} : w.stage.phase = .dequeuing →
    Camera.dequeue p.camera p.now = (camera, .failed (.transient cause)) →
    CaptureStep p w { p with camera } { w.stage with
      report.transientErrors := w.stage.report.transientErrors + 1, phase := .checking }
  | fatal {camera : κ} {cause : IoError} : w.stage.phase = .dequeuing →
    Camera.dequeue p.camera p.now = (camera, .failed (.fatal cause)) →
    CaptureStep p w { p with camera }
      (w.stage.fail ⟨[.dequeuingFrom w.stage.settings.device], .dequeue (.fatal cause)⟩)
  | faults {camera : κ} {fault : Fault} : w.stage.phase = .dequeuing →
    Camera.dequeue p.camera p.now = (camera, .faulted fault) →
    CaptureStep p w { p with camera } (w.stage.enter (.leaving (.faulted fault)))
  | sends {frames : Mailbox Captured} {frame : Captured} : w.stage.phase = .sending frame →
    p.frames.attempt frame .capture = (frames, .accepted) →
    CaptureStep p w { p with frames }
      { w.stage with report.forwarded := w.stage.report.forwarded + 1 }.afterFrame
  | blocks {frame : Captured} : w.stage.phase = .sending frame →
    w.stage.settings.policy = .block → p.frames.attempt frame .capture = (p.frames, .full frame) →
    p.expired w.since sendPoll = true → CaptureStep p w p (w.stage.enter (.blocked frame))
  | overflows {frame : Captured} : w.stage.phase = .sending frame →
    w.stage.settings.policy = .drop → p.frames.attempt frame .capture = (p.frames, .full frame) →
    CaptureStep p w p (w.stage.enter (.rejecting frame))
  | closed {frame : Captured} : w.stage.phase = .sending frame →
    p.frames.attempt frame .capture = (p.frames, .closed frame) →
    CaptureStep p w p (w.stage.enter (.closing frame))
  | givesUp {frame : Captured} : w.stage.phase = .blocked frame → w.stop = true →
    CaptureStep p w p (w.stage.enter (.rejecting frame))
  | retries {frame : Captured} : w.stage.phase = .blocked frame → w.stop = false →
    CaptureStep p w p (w.stage.enter (.sending frame))
  | rejects {frame : Captured} : w.stage.phase = .rejecting frame →
    CaptureStep p w ((p.log [CaptureStage.fullRecord frame]).discard frame)
      { w.stage with report.dropped := w.stage.report.dropped + 1 }.afterFrame
  | discards {frame : Captured} : w.stage.phase = .closing frame →
    CaptureStep p w ((p.log []).discard frame) (w.stage.enter .counting)
  | sleeps : w.stage.phase = .pacing → w.stage.nextDue ≤ p.clock ∨ w.stop = true →
    CaptureStep p w p (w.stage.enter .paced)
  | wakes : w.stage.phase = .paced →
    CaptureStep p w p
      { w.stage with nextDue := max w.stage.nextDue p.clock, phase := .checking }
  | counts : w.stage.phase = .counting →
    CaptureStep p w p { w.stage with
      report.camera := Camera.stats p.camera
      phase := .leaving (.finished { w.stage.report with camera := Camera.stats p.camera }) }
  | leaves {ending : Ending CaptureReport} : w.stage.phase = .leaving ending →
    CaptureStep p w { p with frames := p.frames.dropSender } (w.stage.enter (.ended ending))

namespace CaptureStep

variable [Camera κ] {p p' : Plant κ σ} {w w' : Worker CaptureStage}

theorem of_answer {answer : CaptureAnswer} (h : p.answerCapture? w = some (p', answer)) :
    CaptureStep p w p' (w.stage.resume answer) := by
  obtain ⟨⟨settings, phase, nextDue, report⟩, since, stop⟩ := w
  cases phase with
  | starting => cases h; exact .starts rfl
  | checking =>
    cases h
    cases stop with
    | true => exact .stops rfl rfl
    | false => exact .proceeds rfl rfl
  | waiting =>
    simp only [Plant.answerCapture?, CaptureStage.request] at h
    split at h
    · next ready hpoll =>
      cases h
      cases ready with
      | true => exact .ready rfl hpoll
      | false => exact .notReady rfl hpoll
    · next hpoll => cases h; exact .waitFails rfl hpoll
    · cases h
  | dequeuing =>
    simp only [Plant.answerCapture?, CaptureStage.request] at h
    split at h
    · next hdeq => cases h; exact .takes rfl hdeq
    · next e hdeq =>
      cases h
      cases e with
      | empty => exact .empty rfl hdeq
      | transient cause => exact .transient rfl hdeq
      | fatal cause => exact .fatal rfl hdeq
    · next hdeq => cases h; exact .faults rfl hdeq
    · cases h
  | sending frame =>
    obtain ⟨⟨frames, outcome⟩, hsend, hout⟩ := Option.map_eq_some_iff.mp h
    cases hout
    obtain ⟨hattempt, hexpired⟩ := Plant.sendTo?_eq_some hsend
    cases outcome with
    | accepted => exact .sends rfl hattempt
    | full y =>
      obtain ⟨-, -, rfl, rfl⟩ := Mailbox.attempt_full hattempt
      obtain ⟨device, timeout, interval, policy⟩ := settings
      have hover := hexpired _ rfl
      cases policy with
      | block =>
        rw [Option.all_some] at hover
        exact .blocks rfl rfl hattempt hover
      | drop => exact .overflows rfl rfl hattempt
    | closed y =>
      obtain ⟨-, rfl, rfl⟩ := Mailbox.attempt_closed hattempt
      exact .closed rfl hattempt
  | blocked frame =>
    cases h
    cases stop with
    | true => exact .givesUp rfl rfl
    | false => exact .retries rfl rfl
  | rejecting frame => cases h; exact .rejects rfl
  | closing frame => cases h; exact .discards rfl
  | pacing =>
    simp only [Plant.answerCapture?, CaptureStage.request] at h
    split at h
    · next hdue => cases h; exact .sleeps rfl (by simpa using hdue)
    · cases h
  | paced => cases h; exact .wakes rfl
  | counting => cases h; exact .counts rfl
  | leaving ending => cases h; exact .leaves rfl
  | ended ending => cases h

/-- Only the passing of time moves the clock. -/
theorem clock_eq {s : CaptureStage} (h : CaptureStep p w p' s) : p'.clock = p.clock := by
  cases h <;> rfl

end CaptureStep

theorem Worker.stepCapture?_cases [Camera κ] {p p' : Plant κ σ} {w w' : Worker CaptureStage}
    (h : w.stepCapture? p = some (p', w')) :
    ∃ s, w' = ⟨s, p'.clock, w.stop⟩ ∧ CaptureStep p w p' s := by
  obtain ⟨⟨q, answer⟩, hanswer, hq⟩ := Option.map_eq_some_iff.mp h
  cases hq
  exact ⟨_, rfl, .of_answer hanswer⟩

end TickCapture
