import TickCapture.Proofs.Stage.Course
import TickCapture.Proofs.Tracking.Capture

/-! # The turns of the capture stage

`CaptureStage.event` names what comes of a turn, whatever is around the stage, and
`CaptureStage.Passes` lists what a turn can come to. The lemmas on it say where a frame is after a turn,
what the report counts, and how the loop is left. -/

namespace TickCapture

variable {κ σ : Type}

/-- What comes of a turn of the capture stage. -/
inductive CaptureEvent where
  | took (frame : Captured)
  | sent (frame : Captured)
  /-- There was no space for the frame. -/
  | full (frame : Captured)
  /-- There was nobody to receive the frame. -/
  | closed (frame : Captured)
  /-- A frame for which there was no space goes back to the camera. -/
  | dropped (frame : Captured)
  /-- A frame that nobody would receive goes back to the camera. -/
  | surrendered (frame : Captured)
  /-- The camera did not get ready in time. -/
  | timedOut
  /-- Taking a frame failed for the moment. -/
  | failed
  | nothing
  deriving DecidableEq

namespace CaptureEvent

def taken? : CaptureEvent → Option Captured
  | .took frame => some frame
  | _ => none

/-- The frame that an attempt to send was made with. -/
def tried? : CaptureEvent → Option Captured
  | .sent frame | .full frame | .closed frame => some frame
  | _ => none

def sent? : CaptureEvent → Option Captured
  | .sent frame => some frame
  | _ => none

def full? : CaptureEvent → Option Captured
  | .full frame => some frame
  | _ => none

def closed? : CaptureEvent → Option Captured
  | .closed frame => some frame
  | _ => none

def dropped? : CaptureEvent → Option Captured
  | .dropped frame => some frame
  | _ => none

def surrendered? : CaptureEvent → Option Captured
  | .surrendered frame => some frame
  | _ => none

/-- The frame that leaves the hands of the stage. -/
def disposed? : CaptureEvent → Option Captured
  | .sent frame | .dropped frame | .surrendered frame => some frame
  | _ => none

end CaptureEvent

namespace CaptureStage

/-- What comes of a turn of the stage over a plant that answers. -/
def event [Camera κ] (t : Turn (Plant κ σ) CaptureStage) : CaptureEvent :=
  match t.worker.stage.phase with
  | .waiting =>
    match (Camera.poll t.around.camera t.around.clock
      (t.worker.since + t.worker.stage.settings.readyTimeout)).2 with
    | .answered false => .timedOut
    | _ => .nothing
  | .dequeuing =>
    match (Camera.dequeue t.around.camera t.around.now).2 with
    | .frame frame => .took frame
    | .failed (.transient _) => .failed
    | _ => .nothing
  | .sending frame =>
    match (t.around.frames.attempt frame .capture).2 with
    | .accepted => .sent frame
    | .full _ => .full frame
    | .closed _ => .closed frame
  | .rejecting frame => .dropped frame
  | .closing frame => .surrendered frame
  | _ => .nothing

/-- The stage in surroundings that may become any others between two turns. -/
abbrev Course [Camera κ] (p₀ : Plant κ σ) (w₀ : Worker CaptureStage) :
    List (Turn (Plant κ σ) CaptureStage) → Plant κ σ → Worker CaptureStage → Prop :=
  TickCapture.Course (fun p w p' w' => w.stepCapture? p = some (p', w')) (fun _ _ _ => True) p₀ w₀

@[simp] theorem report_afterFrame (s : CaptureStage) : s.afterFrame.report = s.report := by
  unfold afterFrame
  split <;> rfl

@[simp] theorem settings_afterFrame (s : CaptureStage) : s.afterFrame.settings = s.settings := by
  unfold afterFrame
  split <;> rfl

/-- After a frame is disposed of the stage sleeps or starts the next round. -/
theorem phase_afterFrame (s : CaptureStage) :
    s.afterFrame.phase = .pacing ∨ s.afterFrame.phase = .checking := by
  unfold afterFrame
  split
  · exact .inr rfl
  · exact .inl rfl

/-- What a turn can come to, whatever is around the stage: the event, and the stage. -/
inductive Passes (stop : Bool) (s : CaptureStage) : CaptureEvent → CaptureStage → Prop
  | starts {now : Clock} : s.phase = .starting →
    Passes stop s .nothing { s with nextDue := now, phase := .checking }
  | stops : s.phase = .checking → stop = true → Passes stop s .nothing (s.enter .counting)
  | proceeds : s.phase = .checking → stop = false → Passes stop s .nothing (s.enter .waiting)
  | ready : s.phase = .waiting → Passes stop s .nothing (s.enter .dequeuing)
  | notReady : s.phase = .waiting → Passes stop s .timedOut
      { s with report.readyTimeouts := s.report.readyTimeouts + 1, phase := .checking }
  | takes {frame : Captured} : s.phase = .dequeuing → Passes stop s (.took frame)
      { s with report.captured := s.report.captured + 1, phase := .sending frame }
  | empty : s.phase = .dequeuing → Passes stop s .nothing (s.enter .checking)
  | fails : s.phase = .dequeuing → Passes stop s .failed
      { s with report.transientErrors := s.report.transientErrors + 1, phase := .checking }
  | breaks {ending : Ending CaptureReport} : s.phase = .waiting ∨ s.phase = .dequeuing →
    (∀ report, ending ≠ .finished report) → Passes stop s .nothing (s.enter (.leaving ending))
  | sends {frame : Captured} : s.phase = .sending frame → Passes stop s (.sent frame)
      { s with report.forwarded := s.report.forwarded + 1 }.afterFrame
  | blocks {frame : Captured} : s.phase = .sending frame → s.settings.policy = .block →
    Passes stop s (.full frame) (s.enter (.blocked frame))
  | overflows {frame : Captured} : s.phase = .sending frame → s.settings.policy = .drop →
    Passes stop s (.full frame) (s.enter (.rejecting frame))
  | closed {frame : Captured} : s.phase = .sending frame →
    Passes stop s (.closed frame) (s.enter (.closing frame))
  | givesUp {frame : Captured} : s.phase = .blocked frame → stop = true →
    Passes stop s .nothing (s.enter (.rejecting frame))
  | retries {frame : Captured} : s.phase = .blocked frame → stop = false →
    Passes stop s .nothing (s.enter (.sending frame))
  | rejects {frame : Captured} : s.phase = .rejecting frame → Passes stop s (.dropped frame)
      { s with report.dropped := s.report.dropped + 1 }.afterFrame
  | discards {frame : Captured} : s.phase = .closing frame →
    Passes stop s (.surrendered frame) (s.enter .counting)
  | sleeps : s.phase = .pacing → Passes stop s .nothing (s.enter .paced)
  | wakes {now : Clock} : s.phase = .paced →
    Passes stop s .nothing { s with nextDue := max s.nextDue now, phase := .checking }
  | counts {stats : CameraStats} : s.phase = .counting → Passes stop s .nothing { s with
      report.camera := stats, phase := .leaving (.finished { s.report with camera := stats }) }
  | leaves {ending : Ending CaptureReport} : s.phase = .leaving ending →
    Passes stop s .nothing (s.enter (.ended ending))

end CaptureStage

theorem CaptureStep.passes [Camera κ] {p p' : Plant κ σ} {w : Worker CaptureStage}
    {s : CaptureStage} (h : CaptureStep p w p' s) :
    w.stage.Passes w.stop (CaptureStage.event ⟨p, w⟩) s := by
  obtain ⟨⟨settings, phase, nextDue, report⟩, since, stop⟩ := w
  cases h with
  | starts hp => cases hp; exact .starts rfl
  | stops hp hs => cases hp; exact .stops rfl hs
  | proceeds hp hs => cases hp; exact .proceeds rfl hs
  | ready hp hpoll | notReady hp hpoll | waitFails hp hpoll =>
    cases hp
    simp only [CaptureStage.event, hpoll]
    first | exact .ready rfl | exact .notReady rfl | exact .breaks (.inl rfl) nofun
  | takes hp hd | empty hp hd | transient hp hd | fatal hp hd | faults hp hd =>
    cases hp
    simp only [CaptureStage.event, hd]
    first
      | exact .takes rfl
      | exact .empty rfl
      | exact .fails rfl
      | exact .breaks (.inr rfl) nofun
  | sends hp ha =>
    cases hp
    simp only [CaptureStage.event, ha]
    exact .sends rfl
  | blocks hp hpolicy ha =>
    cases hp
    simp only [CaptureStage.event, ha]
    exact .blocks rfl hpolicy
  | overflows hp hpolicy ha =>
    cases hp
    simp only [CaptureStage.event, ha]
    exact .overflows rfl hpolicy
  | closed hp ha =>
    cases hp
    simp only [CaptureStage.event, ha]
    exact .closed rfl
  | givesUp hp hs => cases hp; exact .givesUp rfl hs
  | retries hp hs => cases hp; exact .retries rfl hs
  | rejects hp => cases hp; exact .rejects rfl
  | discards hp => cases hp; exact .discards rfl
  | sleeps hp => cases hp; exact .sleeps rfl
  | wakes hp => cases hp; exact .wakes rfl
  | counts hp => cases hp; exact .counts rfl
  | leaves hp => cases hp; exact .leaves rfl

/-! ### What a turn preserves -/

namespace CapturePhase

/-- The frame with which no attempt has been made yet. -/
def unsent : CapturePhase → List Captured
  | .sending frame => [frame]
  | _ => []

/-- The frame that goes back to the camera because there was no space for it. -/
def rejected : CapturePhase → List Captured
  | .rejecting frame => [frame]
  | _ => []

/-- The frame that goes back to the camera because nobody would receive it. -/
def refused : CapturePhase → List Captured
  | .closing frame => [frame]
  | _ => []

/-- The loop has been left. -/
def past : CapturePhase → Bool
  | .closing _ | .counting | .leaving _ | .ended _ => true
  | _ => false

/-- The ending that the stage leaves with. -/
def heading : CapturePhase → Option (Ending CaptureReport)
  | .leaving ending | .ended ending => some ending
  | _ => none

/-- The stage leaves with a report, or is about to. -/
def reports : CapturePhase → Bool
  | .counting | .leaving (.finished _) | .ended (.finished _) => true
  | _ => false

end CapturePhase

namespace CaptureStage

@[simp] theorem unsent_afterFrame (s : CaptureStage) : s.afterFrame.phase.unsent = [] := by
  obtain h | h := s.phase_afterFrame <;> rw [h] <;> rfl

@[simp] theorem rejected_afterFrame (s : CaptureStage) : s.afterFrame.phase.rejected = [] := by
  obtain h | h := s.phase_afterFrame <;> rw [h] <;> rfl

@[simp] theorem refused_afterFrame (s : CaptureStage) : s.afterFrame.phase.refused = [] := by
  obtain h | h := s.phase_afterFrame <;> rw [h] <;> rfl

namespace Passes

variable {stop : Bool} {s s' : CaptureStage} {e : CaptureEvent}

theorem settings_eq (h : s.Passes stop e s') : s'.settings = s.settings := by
  cases h <;> first | rfl | exact settings_afterFrame _

/-- The frame in hand is sent or given back, or still in hand. -/
theorem frames_eq (h : s.Passes stop e s') :
    s.phase.frames ++ e.taken?.toList = e.disposed?.toList ++ s'.phase.frames := by
  cases h with
  | sends hp | rejects hp =>
    rw [hp, frames_afterFrame]
    rfl
  | breaks hp =>
    obtain hp | hp := hp <;> rw [hp] <;> rfl
  | _ hp =>
    rw [hp]
    rfl

/-- The report counts what comes of the turns. -/
theorem report_eq (h : s.Passes stop e s') :
    s'.report.captured = s.report.captured + e.taken?.isSome.toNat ∧
    s'.report.forwarded = s.report.forwarded + e.sent?.isSome.toNat ∧
    s'.report.dropped = s.report.dropped + e.dropped?.isSome.toNat ∧
    s'.report.readyTimeouts = s.report.readyTimeouts + (e == .timedOut).toNat ∧
    s'.report.transientErrors = s.report.transientErrors + (e == .failed).toNat := by
  cases h with
  | sends hp | rejects hp =>
    rw [report_afterFrame]
    exact ⟨rfl, rfl, rfl, rfl, rfl⟩
  | _ => exact ⟨rfl, rfl, rfl, rfl, rfl⟩

/-- A frame that nobody would receive is the one that goes back for that. -/
theorem refused_eq (h : s.Passes stop e s') :
    s.phase.refused ++ e.closed?.toList = e.surrendered?.toList ++ s'.phase.refused := by
  cases h with
  | sends hp | rejects hp =>
    rw [hp, refused_afterFrame]
    rfl
  | breaks hp =>
    obtain hp | hp := hp <;> rw [hp] <;> rfl
  | _ hp =>
    rw [hp]
    rfl

/-- A stage that drops makes one attempt with each frame that it takes. -/
theorem unsent_eq (h : s.Passes stop e s') (hblocked : ∀ frame, s.phase ≠ .blocked frame) :
    s.phase.unsent ++ e.taken?.toList = e.tried?.toList ++ s'.phase.unsent := by
  cases h with
  | sends hp | rejects hp =>
    rw [hp, unsent_afterFrame]
    rfl
  | breaks hp =>
    obtain hp | hp := hp <;> rw [hp] <;> rfl
  | givesUp hp | retries hp => exact absurd hp (hblocked _)
  | _ hp =>
    rw [hp]
    rfl

/-- It gives a frame back if there was no space for it. -/
theorem rejected_eq (h : s.Passes stop e s') (hpolicy : s.settings.policy = .drop)
    (hblocked : ∀ frame, s.phase ≠ .blocked frame) :
    s.phase.rejected ++ e.full?.toList = e.dropped?.toList ++ s'.phase.rejected := by
  cases h with
  | sends hp | rejects hp =>
    rw [hp, rejected_afterFrame]
    rfl
  | breaks hp =>
    obtain hp | hp := hp <;> rw [hp] <;> rfl
  | blocks hp hblock =>
    rw [hblock] at hpolicy
    cases hpolicy
  | givesUp hp | retries hp => exact absurd hp (hblocked _)
  | _ hp =>
    rw [hp]
    rfl

theorem not_blocked (h : s.Passes stop e s') (hpolicy : s.settings.policy = .drop)
    (frame : Captured) : s'.phase ≠ .blocked frame := by
  cases h with
  | sends hp | rejects hp =>
    intro hblocked
    obtain hnext | hnext := CaptureStage.phase_afterFrame _ <;> rw [hblocked] at hnext <;> cases hnext
  | blocks hp hblock =>
    rw [hblock] at hpolicy
    cases hpolicy
  | _ => nofun

/-- A stage that takes no more frames has nothing more to send or to give back. -/
theorem finishing (h : s.Passes stop e s') (hfinishing : s.phase.finishing stop = true) :
    e = .nothing ∧ s'.phase.finishing stop = true := by
  cases h with
  | stops hp | counts hp | leaves hp => exact ⟨rfl, rfl⟩
  | sleeps hp | wakes hp =>
    rw [hp] at hfinishing
    exact ⟨rfl, hfinishing⟩
  | proceeds hp hs =>
    rw [hp, hs] at hfinishing
    cases hfinishing
  | breaks hp =>
    obtain hp | hp := hp <;> rw [hp] at hfinishing <;> cases hfinishing
  | _ hp =>
    rw [hp] at hfinishing
    cases hfinishing

/-- The loop is left for good. -/
theorem past (h : s.Passes stop e s') (hpast : s.phase.past = true) :
    e.closed? = none ∧ s'.phase.past = true := by
  cases h with
  | stops | counts | leaves | discards => exact ⟨rfl, rfl⟩
  | breaks hp =>
    obtain hp | hp := hp <;> rw [hp] at hpast <;> cases hpast
  | _ hp =>
    rw [hp] at hpast
    cases hpast

/-- The last frame is one that nobody would receive. -/
theorem closed_cases (h : s.Passes stop e s') :
    e.closed? = none ∧ (∀ frame, s'.phase ≠ .closing frame) ∨
      ∃ frame, s.phase = .sending frame ∧ e = .closed frame ∧ s'.phase = .closing frame := by
  cases h with
  | closed hp => exact .inr ⟨_, hp, rfl, rfl⟩
  | sends | rejects =>
    refine .inl ⟨rfl, fun frame hnext => ?_⟩
    obtain h | h := phase_afterFrame _ <;> rw [h] at hnext <;> cases hnext
  | _ => exact .inl ⟨rfl, nofun⟩

/-- A stage that is to report was asked to stop, or has given its last frame back. -/
theorem reports_cases (h : s.Passes stop e s') (hreports : s'.phase.reports = true) :
    stop = true ∨ (∃ frame, s.phase = .closing frame) ∨ s.phase.reports = true := by
  cases h with
  | stops hp hs => exact .inl hs
  | discards hp => exact .inr (.inl ⟨_, hp⟩)
  | counts hp => exact .inr (.inr (by rw [hp]; rfl))
  | @leaves ending hp =>
    refine .inr (.inr ?_)
    rw [hp]
    cases ending <;> exact hreports
  | @breaks ending hp hbroken =>
    cases ending with
    | finished report => exact absurd rfl (hbroken report)
    | failed | faulted => cases hreports
  | sends | rejects =>
    obtain h | h := phase_afterFrame _ <;> rw [h] at hreports <;> cases hreports
  | _ => cases hreports

/-- The stage leaves with its own report. -/
theorem report_of_heading (h : s.Passes stop e s')
    (hreport : ∀ report, s.phase.heading = some (.finished report) → report = s.report)
    (report : CaptureReport) (hheading : s'.phase.heading = some (.finished report)) :
    report = s'.report := by
  cases h with
  | counts hp =>
    cases hheading
    rfl
  | leaves hp => exact hreport report (by rw [hp]; exact hheading)
  | breaks hp hbroken =>
    cases hheading
    exact absurd rfl (hbroken report)
  | sends hp | rejects hp =>
    obtain h | h := phase_afterFrame _ <;> rw [h] at hheading <;> cases hheading
  | _ => cases hheading

/-- A stage that blocks gives a frame back only when it has been asked to stop. -/
theorem stop_of_rejecting (h : s.Passes stop e s') (hpolicy : s.settings.policy = .block)
    {frame : Captured} (hrejecting : s'.phase = .rejecting frame) : stop = true := by
  cases h with
  | sends hp | rejects hp =>
    obtain hnext | hnext := phase_afterFrame _ <;> rw [hrejecting] at hnext <;> cases hnext
  | overflows hp hdrop =>
    rw [hpolicy] at hdrop
    cases hdrop
  | givesUp hp hs => exact hs
  | _ => cases hrejecting

theorem phase_of_dropped {frame : Captured} (h : s.Passes stop (.dropped frame) s') :
    s.phase = .rejecting frame := by
  cases h with
  | rejects hp => exact hp

theorem phase_of_surrendered {frame : Captured} (h : s.Passes stop (.surrendered frame) s') :
    s.phase = .closing frame := by
  cases h with
  | discards hp => exact hp

/-- What leaves the hands of the stage is sent, unless it takes no more frames after that. -/
theorem disposed_eq (h : s.Passes stop e s')
    (hrejecting : ∀ frame, s.phase = .rejecting frame → stop = true) :
    e.disposed? = e.sent? ∧ e.dropped? = none ∨
      s'.phase.finishing stop = true ∧ e.sent? = none ∧ ∃ frame, e.disposed? = some frame := by
  cases h with
  | rejects hp =>
    refine .inr ⟨?_, rfl, _, rfl⟩
    obtain hnext | hnext := phase_afterFrame _ <;> rw [hnext] <;> exact hrejecting _ hp
  | discards hp => exact .inr ⟨rfl, rfl, _, rfl⟩
  | _ => exact .inl ⟨rfl, rfl⟩

end Passes
end CaptureStage
end TickCapture
