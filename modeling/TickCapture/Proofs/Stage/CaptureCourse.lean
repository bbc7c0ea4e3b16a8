import TickCapture.Proofs.Stage.CaptureTurns
import TickCapture.Rehearsal.ScriptedCamera

/-! # What becomes of the frames that the capture stage takes

The stage takes its turns amid plants of any kind: whatever the camera answers, however the mailbox
of captured frames stands, and whenever the stage is asked to stop. Each frame that it takes is sent,
once, or given back to the camera, before it takes the next one; and the report counts what came of
its requests.

Where it blocks, it gives frames back only when it takes no more (`Gapless`): what it sent is the
beginning of what it took. Where it drops, it makes one attempt with each frame, and gives back those
for which there was no space. -/

namespace TickCapture

variable {κ σ : Type}

namespace CaptureStage

/-! ### Over many turns -/

section Records

variable [Camera κ] (ts : List (Turn (Plant κ σ) CaptureStage))

def takenOf : List Captured := ts.filterMap fun t => (event t).taken?

/-- The frames that an attempt to send was made with, as often as one was made. -/
def triedOf : List Captured := ts.filterMap fun t => (event t).tried?

def sentOf : List Captured := ts.filterMap fun t => (event t).sent?

def fullOf : List Captured := ts.filterMap fun t => (event t).full?

def closedOf : List Captured := ts.filterMap fun t => (event t).closed?

def droppedOf : List Captured := ts.filterMap fun t => (event t).dropped?

def surrenderedOf : List Captured := ts.filterMap fun t => (event t).surrendered?

/-- What was sent or given back, as it came. -/
def disposedOf : List Captured := ts.filterMap fun t => (event t).disposed?

def timeouts : Nat := ts.countP fun t => event t == .timedOut

def failures : Nat := ts.countP fun t => event t == .failed

variable (t : Turn (Plant κ σ) CaptureStage)

theorem sentOf_concat : sentOf (ts ++ [t]) = sentOf ts ++ (event t).sent?.toList :=
  filterMap_concat _ ts t

theorem closedOf_concat : closedOf (ts ++ [t]) = closedOf ts ++ (event t).closed?.toList :=
  filterMap_concat _ ts t

theorem droppedOf_concat : droppedOf (ts ++ [t]) = droppedOf ts ++ (event t).dropped?.toList :=
  filterMap_concat _ ts t

theorem disposedOf_concat :
    disposedOf (ts ++ [t]) = disposedOf ts ++ (event t).disposed?.toList :=
  filterMap_concat _ ts t

end Records

/-- The frames that a stage which blocks gave back: none, as long as it may take others. -/
structure Gapless [Camera κ] (ts : List (Turn (Plant κ σ) CaptureStage))
    (w : Worker CaptureStage) : Prop where
  policy : w.stage.settings.policy = .block
  rejecting : ∀ frame, w.stage.phase = .rejecting frame → w.stop = true
  dropping : ∀ t ∈ ts, ∀ frame, event t = .dropped frame → t.worker.stop = true
  disposed : disposedOf ts = sentOf ts ∧ droppedOf ts = [] ∨
    w.stage.phase.finishing w.stop = true ∧ (droppedOf ts).length ≤ 1 ∧
      ∃ frame, disposedOf ts = sentOf ts ++ [frame]

theorem Gapless.raiseStop [Camera κ] {ts : List (Turn (Plant κ σ) CaptureStage)}
    {w : Worker CaptureStage} (H : Gapless ts w) : Gapless ts w.raiseStop where
  policy := H.policy
  rejecting _ _ := rfl
  dropping := H.dropping
  disposed := by
    refine H.disposed.imp_right fun ⟨hfinishing, hgiven⟩ => ⟨?_, hgiven⟩
    revert hfinishing
    change w.stage.phase.finishing w.stop = true → w.stage.phase.finishing true = true
    cases w.stage.phase <;> first | exact id | exact fun _ => rfl

theorem Gapless.passes [Camera κ] {ts : List (Turn (Plant κ σ) CaptureStage)} {p : Plant κ σ}
    {w w' : Worker CaptureStage} (H : Gapless ts w)
    (h : w.stage.Passes w.stop (event ⟨p, w⟩) w'.stage) (hstop : w'.stop = w.stop) :
    Gapless (ts ++ [⟨p, w⟩]) w' := by
  refine ⟨by rw [h.settings_eq, H.policy], fun frame hp => ?_, fun t ht frame hdropped => ?_, ?_⟩
  · rw [hstop]
    exact h.stop_of_rejecting H.policy hp
  · rcases List.mem_append.mp ht with ht | ht
    · exact H.dropping t ht frame hdropped
    · obtain rfl := List.mem_singleton.mp ht
      rw [hdropped] at h
      exact H.rejecting frame h.phase_of_dropped
  · rw [hstop, disposedOf_concat, sentOf_concat, droppedOf_concat]
    rcases H.disposed with ⟨hall, hnone⟩ | ⟨hfinishing, hle, frame, hall⟩
    · rw [hall, hnone]
      rcases h.disposed_eq H.rejecting with ⟨hdisposed, hdropped⟩ | ⟨hlast, hsent, frame, hdisposed⟩
      · exact .inl ⟨by rw [hdisposed], by rw [hdropped]; rfl⟩
      · rw [hsent, hdisposed]
        refine .inr ⟨hlast, Option.length_toList_le, frame, ?_⟩
        rw [Option.toList_none, List.append_nil]
        rfl
    · obtain ⟨he, hfinishing⟩ := h.finishing hfinishing
      rw [he, hall]
      exact .inr ⟨hfinishing, by simpa [CaptureEvent.dropped?] using hle, frame,
        by simp [CaptureEvent.disposed?, CaptureEvent.sent?]⟩

/-- How the loop is left: with a report, because somebody asked for it or there is nobody to receive
what it sends. -/
structure Leaves [Camera κ] (ts : List (Turn (Plant κ σ) CaptureStage))
    (w : Worker CaptureStage) : Prop where
  running : w.stage.phase.past = false → closedOf ts = []
  length_le : (closedOf ts).length ≤ 1
  closing : ∀ frame, w.stage.phase = .closing frame → closedOf ts ≠ []
  stopped : w.stage.phase.reports = true → closedOf ts = [] → w.stop = true
  report_eq : ∀ report, w.stage.phase.heading = some (.finished report) → report = w.stage.report

theorem Leaves.raiseStop [Camera κ] {ts : List (Turn (Plant κ σ) CaptureStage)}
    {w : Worker CaptureStage} (H : Leaves ts w) : Leaves ts w.raiseStop :=
  { H with stopped := fun _ _ => rfl }

theorem Leaves.passes [Camera κ] {ts : List (Turn (Plant κ σ) CaptureStage)} {p : Plant κ σ}
    {w w' : Worker CaptureStage} (H : Leaves ts w)
    (h : w.stage.Passes w.stop (event ⟨p, w⟩) w'.stage) (hstop : w'.stop = w.stop) :
    Leaves (ts ++ [⟨p, w⟩]) w' := by
  have hconcat := closedOf_concat ts ⟨p, w⟩
  have hreport := h.report_of_heading H.report_eq
  rcases h.closed_cases with ⟨hnone, hclosing⟩ | ⟨frame, hsending, hclosed, hclosing⟩
  · rw [hnone, Option.toList_none, List.append_nil] at hconcat
    refine ⟨fun hrunning => ?_, by rw [hconcat]; exact H.length_le,
      fun frame hp => absurd hp (hclosing frame), fun hreports hall => ?_, hreport⟩
    · rw [hconcat]
      refine H.running (Bool.eq_false_iff.mpr fun hpast => ?_)
      rw [(h.past hpast).2] at hrunning
      cases hrunning
    · rw [hconcat] at hall
      rw [hstop]
      rcases h.reports_cases hreports with hasked | ⟨frame, hp⟩ | hreports
      · exact hasked
      · exact absurd hall (H.closing frame hp)
      · exact H.stopped hreports hall
  · rw [H.running (by rw [hsending]; rfl), hclosed] at hconcat
    rw [CaptureEvent.closed?, Option.toList_some, List.nil_append] at hconcat
    refine ⟨fun hrunning => ?_, by rw [hconcat]; exact Nat.le_refl 1,
      fun _ _ => by rw [hconcat]; exact nofun, fun hreports => ?_, hreport⟩
    · rw [hclosing] at hrunning
      cases hrunning
    · rw [hclosing] at hreports
      cases hreports

end CaptureStage

open CaptureStage in
/-- The report counts what came of these turns. -/
structure CaptureReport.Counts [Camera κ] (r : CaptureReport)
    (ts : List (Turn (Plant κ σ) CaptureStage)) : Prop where
  captured : r.captured = (takenOf ts).length
  forwarded : r.forwarded = (sentOf ts).length
  dropped : r.dropped = (droppedOf ts).length
  readyTimeouts : r.readyTimeouts = timeouts ts
  transientErrors : r.transientErrors = failures ts

/-! ### A whole course -/

namespace CaptureStage

variable [Camera κ] {p₀ p p' : Plant κ σ} {w₀ w w' : Worker CaptureStage}
  {ts : List (Turn (Plant κ σ) CaptureStage)} {settings : CaptureSettings} {now : Clock}

theorem passes_of_step (h : w.stepCapture? p = some (p', w')) :
    w.stage.Passes w.stop (event ⟨p, w⟩) w'.stage ∧ w'.stop = w.stop := by
  obtain ⟨s, rfl, hs⟩ := Worker.stepCapture?_cases h
  exact ⟨hs.passes, rfl⟩

/-- A frame that is sent comes to the end of the mailbox, which gets no other ones. -/
theorem messages_of_step (h : w.stepCapture? p = some (p', w')) :
    p'.frames.messages = p.frames.messages ++ (event ⟨p, w⟩).sent?.toList := by
  obtain ⟨s, rfl, hs⟩ := Worker.stepCapture?_cases h
  obtain ⟨⟨settings, phase, nextDue, report⟩, since, stop⟩ := w
  cases hs with
  | sends hp ha =>
    cases hp
    simp only [event, ha]
    exact Mailbox.messages_accepted ha
  | ready hp hanswer | notReady hp hanswer | waitFails hp hanswer | takes hp hanswer
  | empty hp hanswer | transient hp hanswer | fatal hp hanswer | faults hp hanswer
  | blocks hp _ hanswer | overflows hp _ hanswer | closed hp hanswer =>
    cases hp
    simp only [event, hanswer]
    exact (List.append_nil _).symm
  | _ hp =>
    cases hp
    exact (List.append_nil _).symm

/-- A frame that is not sent is given back to the camera. -/
theorem camera_of_step {frame : Captured} (h : w.stepCapture? p = some (p', w'))
    (hevent : event ⟨p, w⟩ = .dropped frame ∨ event ⟨p, w⟩ = .surrendered frame) :
    p'.camera = (discard p.camera frame).1 := by
  have hpasses := (passes_of_step h).1
  obtain ⟨⟨settings, phase, nextDue, report⟩, since, stop⟩ := w
  obtain hevent | hevent := hevent
  · rw [hevent] at hpasses
    cases hpasses.phase_of_dropped
    cases h
    rfl
  · rw [hevent] at hpasses
    cases hpasses.phase_of_surrendered
    cases h
    rfl

/-- What an attempt to send comes to depends on the mailbox only. -/
theorem event_of_sending {t : Turn (Plant κ σ) CaptureStage} {frame : Captured}
    (hp : t.worker.stage.phase = .sending frame) :
    (event t = .full frame ↔ t.around.frames.receiverAlive = true ∧
      t.around.frames.capacity ≤ t.around.frames.queue.length) ∧
    (event t = .closed frame ↔ t.around.frames.receiverAlive = false) := by
  generalize houtcome : t.around.frames.attempt frame .capture = outcome
  obtain ⟨frames, outcome⟩ := outcome
  simp only [event, hp, houtcome]
  cases Mailbox.attempt_cases houtcome with
  | accepted halive hspace => simp [halive, hspace]
  | full halive hspace => simp [halive, hspace]
  | closed hdead => simp [hdead]

namespace Course

theorem counts (H : Course p₀ (.start (.new settings) now) ts p w) : w.stage.report.Counts ts where
  captured := by
    rw [H.count_eq (·.report.captured) (fun t => (event t).taken?.isSome)
      fun _ _ _ _ h => (passes_of_step h).1.report_eq.1, takenOf, List.length_filterMap_eq_countP]
    exact Nat.zero_add _
  forwarded := by
    rw [H.count_eq (·.report.forwarded) (fun t => (event t).sent?.isSome)
      fun _ _ _ _ h => (passes_of_step h).1.report_eq.2.1, sentOf, List.length_filterMap_eq_countP]
    exact Nat.zero_add _
  dropped := by
    rw [H.count_eq (·.report.dropped) (fun t => (event t).dropped?.isSome)
      fun _ _ _ _ h => (passes_of_step h).1.report_eq.2.2.1, droppedOf, List.length_filterMap_eq_countP]
    exact Nat.zero_add _
  readyTimeouts := by
    rw [H.count_eq (·.report.readyTimeouts) (fun t => event t == .timedOut)
      fun _ _ _ _ h => (passes_of_step h).1.report_eq.2.2.2.1]
    exact Nat.zero_add _
  transientErrors := by
    rw [H.count_eq (·.report.transientErrors) (fun t => event t == .failed)
      fun _ _ _ _ h => (passes_of_step h).1.report_eq.2.2.2.2]
    exact Nat.zero_add _

theorem taken_eq (H : Course p₀ (.start (.new settings) now) ts p w) :
    takenOf ts = disposedOf ts ++ w.stage.phase.frames :=
  H.flow_eq (·.phase.frames) (fun t => (event t).taken?) (fun t => (event t).disposed?)
    fun _ _ _ _ h => (passes_of_step h).1.frames_eq

theorem closed_eq (H : Course p₀ (.start (.new settings) now) ts p w) :
    closedOf ts = surrenderedOf ts ++ w.stage.phase.refused :=
  H.flow_eq (·.phase.refused) (fun t => (event t).closed?) (fun t => (event t).surrendered?)
    fun _ _ _ _ h => (passes_of_step h).1.refused_eq

theorem settings_eq (H : Course p₀ (.start (.new settings) now) ts p w) :
    w.stage.settings = settings :=
  H.stage_invariant (P := fun s => s.settings = settings) rfl
    fun h hs => (passes_of_step h).1.settings_eq.trans hs

theorem not_blocked (H : Course p₀ (.start (.new settings) now) ts p w)
    (hpolicy : settings.policy = .drop) (frame : Captured) : w.stage.phase ≠ .blocked frame :=
  (H.stage_invariant (P := fun s => s.settings = settings ∧ ∀ frame, s.phase ≠ .blocked frame)
    ⟨rfl, nofun⟩ fun h ⟨hs, _⟩ =>
      ⟨(passes_of_step h).1.settings_eq.trans hs,
        (passes_of_step h).1.not_blocked (by rw [hs, hpolicy])⟩).2 frame

theorem tried_eq (H : Course p₀ (.start (.new settings) now) ts p w)
    (hpolicy : settings.policy = .drop) : takenOf ts = triedOf ts ++ w.stage.phase.unsent :=
  H.flow_eq (·.phase.unsent) (fun t => (event t).taken?) (fun t => (event t).tried?)
    fun t ht _ _ h => by
      obtain ⟨before, Ht⟩ := H.of_mem ht
      exact (passes_of_step h).1.unsent_eq (Course.not_blocked Ht hpolicy)

theorem full_eq (H : Course p₀ (.start (.new settings) now) ts p w)
    (hpolicy : settings.policy = .drop) : fullOf ts = droppedOf ts ++ w.stage.phase.rejected :=
  H.flow_eq (·.phase.rejected) (fun t => (event t).full?) (fun t => (event t).dropped?)
    fun t ht _ _ h => by
      obtain ⟨before, Ht⟩ := H.of_mem ht
      exact (passes_of_step h).1.rejected_eq (by rw [Course.settings_eq Ht, hpolicy])
        (Course.not_blocked Ht hpolicy)

theorem gapless (H : Course p₀ (.start (.new settings) now) ts p w)
    (hpolicy : settings.policy = .block) : Gapless ts w := by
  induction H with
  | start =>
    exact ⟨hpolicy, fun _ hp => (nomatch hp), fun _ ht => absurd ht List.not_mem_nil,
      .inl ⟨rfl, rfl⟩⟩
  | meanwhile _ _ ih => exact ih
  | raiseStop _ ih => exact ih.raiseStop
  | turn _ h ih => exact ih.passes (passes_of_step h).1 (passes_of_step h).2

theorem leaves (H : Course p₀ (.start (.new settings) now) ts p w) : Leaves ts w := by
  induction H with
  | start => exact ⟨fun _ => rfl, Nat.zero_le _, nofun, nofun, nofun⟩
  | meanwhile _ _ ih => exact ih
  | raiseStop _ ih => exact ih.raiseStop
  | turn _ h ih => exact ih.passes (passes_of_step h).1 (passes_of_step h).2

end Course

/-- What is sent leaves the hands of the stage, in that order. -/
theorem sentOf_sublist (ts : List (Turn (Plant κ σ) CaptureStage)) :
    (sentOf ts).Sublist (disposedOf ts) := by
  induction ts with
  | nil => exact .slnil
  | cons t ts ih =>
    simp only [sentOf, disposedOf, List.filterMap_cons] at ih ⊢
    cases event t with
    | sent frame => exact ih.cons_cons frame
    | dropped frame | surrendered frame => exact ih.cons frame
    | _ => exact ih

theorem length_disposedOf (ts : List (Turn (Plant κ σ) CaptureStage)) :
    (disposedOf ts).length = (sentOf ts).length + (droppedOf ts).length + (surrenderedOf ts).length := by
  induction ts with
  | nil => rfl
  | cons t ts ih =>
    have hcons (f? : Turn (Plant κ σ) CaptureStage → Option Captured) :
        ((t :: ts).filterMap f?).length = (f? t).toList.length + (ts.filterMap f?).length := by
      cases h : f? t <;> simp [h, Nat.add_comm]
    have hone : (event t).disposed?.toList.length = (event t).sent?.toList.length +
        (event t).dropped?.toList.length + (event t).surrendered?.toList.length := by
      cases event t <;> rfl
    unfold disposedOf sentOf droppedOf surrenderedOf at ih ⊢
    rw [hcons, hcons, hcons, hcons]
    omega

/-- A stage that blocks sends what it takes without a gap. -/
theorem Gapless.sent_prefix_disposed (H : Gapless ts w) :
    sentOf ts <+: disposedOf ts ∧ (droppedOf ts).length ≤ 1 := by
  rcases H.disposed with ⟨hall, hnone⟩ | ⟨-, hle, frame, hall⟩
  · exact ⟨hall ▸ List.prefix_rfl, by rw [hnone]; exact Nat.zero_le 1⟩
  · exact ⟨hall ▸ List.prefix_append _ _, hle⟩

/-- A stage that has no frame in hand takes the next one. -/
theorem frames_of_dequeue {s : CaptureStage} (h : s.request = .dequeue) : s.phase.frames = [] := by
  unfold request at h
  split at h <;> first | cases h; done | skip
  next hp => rw [hp]; rfl

/-- Each frame taken is sent once or given back before the next one is taken, and the report counts
them. If the stage blocks, it sends what it takes without a gap, and gives a frame back because of
space at most once, when it has been asked to stop. If it drops, it makes one attempt with each frame,
and gives back those for which there was no space then. -/
theorem run_sends_or_returns (H : Course p₀ (.start (.new settings) now) ts p w) :
    takenOf ts = disposedOf ts ++ w.stage.phase.frames ∧
    (w.stage.request = .dequeue → w.stage.phase.frames = []) ∧
    (∀ t ∈ ts, ∀ p' w', t.worker.stepCapture? t.around = some (p', w') →
      p'.frames.messages = t.around.frames.messages ++ (event t).sent?.toList ∧
      ∀ frame, event t = .dropped frame ∨ event t = .surrendered frame →
        p'.camera = (discard t.around.camera frame).1) ∧
    w.stage.report.Counts ts ∧
    (∀ report, w.stage.phase = .ended (.finished report) →
      report = w.stage.report ∧ takenOf ts = disposedOf ts ∧
      report.captured = report.forwarded + report.dropped + (closedOf ts).length ∧
      (closedOf ts).length ≤ 1 ∧ (closedOf ts = [] → w.stop = true)) ∧
    (settings.policy = .block →
      sentOf ts = (takenOf ts).take w.stage.report.forwarded ∧ w.stage.report.dropped ≤ 1 ∧
      ∀ t ∈ ts, ∀ frame, event t = .dropped frame → t.worker.stop = true) ∧
    (settings.policy = .drop →
      (sentOf ts).Sublist (takenOf ts) ∧ takenOf ts = triedOf ts ++ w.stage.phase.unsent ∧
      fullOf ts = droppedOf ts ++ w.stage.phase.rejected) ∧
    ∀ t ∈ ts, ∀ frame, t.worker.stage.phase = .sending frame →
      (event t = .full frame ↔ t.around.frames.receiverAlive = true ∧
        t.around.frames.capacity ≤ t.around.frames.queue.length) ∧
      (event t = .closed frame ↔ t.around.frames.receiverAlive = false) := by
  have hcounts := H.counts
  have htaken := H.taken_eq
  refine ⟨htaken, frames_of_dequeue, fun t _ p' w' h => ⟨messages_of_step h, fun frame =>
    camera_of_step h⟩, hcounts, fun report hended => ?_, fun hpolicy => ?_, fun hpolicy =>
    ⟨?_, H.tried_eq hpolicy, H.full_eq hpolicy⟩, fun t _ frame => event_of_sending⟩
  · have hleaves := H.leaves
    have hclosed := H.closed_eq
    have hlength := length_disposedOf ts
    obtain rfl := hleaves.report_eq report (by rw [hended]; rfl)
    have hframes : w.stage.phase.frames = [] := by rw [hended]; rfl
    have hrefused : w.stage.phase.refused = [] := by rw [hended]; rfl
    rw [hframes, List.append_nil] at htaken
    rw [hrefused, List.append_nil] at hclosed
    refine ⟨rfl, htaken, ?_, hleaves.length_le, hleaves.stopped (by rw [hended]; rfl)⟩
    rw [hcounts.captured, hcounts.forwarded, hcounts.dropped, htaken, hclosed, hlength]
  · obtain ⟨hbegin, hle⟩ := (H.gapless hpolicy).sent_prefix_disposed
    refine ⟨?_, hcounts.dropped ▸ hle, (H.gapless hpolicy).dropping⟩
    rw [hcounts.forwarded, htaken]
    exact List.prefix_iff_eq_take.mp (hbegin.trans (List.prefix_append _ _))
  · rw [htaken]
    exact (sentOf_sublist ts).trans (List.sublist_append_left _ _)

/-! ### A run over a full mailbox -/

def shot (sequence : Nat) : Captured :=
  .lend ⟨sequence, #[16, 128, 16, 128]⟩ 4 (.packed 2 1 .yuyv) sequence 0

/-- A camera that has one frame, and a mailbox that has no space for it. -/
def crowded : Plant ScriptedCamera Unit where
  camera := {
    device := "bench", format := .packed 2 1 .yuyv, inner := none, queue := .new [],
    cycles := [{ Cycle.plain with
      frame := .usual (some ⟨#[16, 128, 16, 128], none, none, none, none, 0⟩) }]
    current := .plain, startError := none, stopError := none, made := 0, transientErrors := 0 }
  frames := ⟨1, [⟨.capture, 0, shot 7⟩], 1, 1, true⟩
  pool := .fresh 0 0 0
  ticks := ⟨1, [], 0, 1, true⟩
  sink := ()
  clock := 0
  epoch := 0
  logs := #[]

def dropping : Worker CaptureStage := .start (.new ⟨"bench", 0, none, .drop⟩) 0

/-- The stage up to the moment at which it has given the frame back. -/
def crowdedRun : List (Turn (Plant ScriptedCamera Unit) CaptureStage) × Plant ScriptedCamera Unit ×
    Worker CaptureStage :=
  Course.alone (fun p w => w.stepCapture? p) 6 crowded dropping

/-- Then it is asked to stop. -/
def stoppedRun : List (Turn (Plant ScriptedCamera Unit) CaptureStage) × Plant ScriptedCamera Unit ×
    Worker CaptureStage :=
  Course.alone (fun p w => w.stepCapture? p) 3 crowdedRun.2.1 crowdedRun.2.2.raiseStop

/-- The frame is taken, finds no space, and is given back; then the stage leaves with its report. -/
theorem run_over_full_mailbox :
    Course crowded dropping (crowdedRun.1 ++ stoppedRun.1) stoppedRun.2.1 stoppedRun.2.2 ∧
    stoppedRun.2.2.stage.phase = .ended (.finished ⟨1, 0, 1, 0, 0, ⟨1, 0, 0⟩⟩) ∧
    takenOf (crowdedRun.1 ++ stoppedRun.1) = [shot 0] ∧
    droppedOf (crowdedRun.1 ++ stoppedRun.1) = [shot 0] := by
  have H : Course crowded dropping (crowdedRun.1 ++ stoppedRun.1) stoppedRun.2.1 stoppedRun.2.2 :=
    (Course.start.then_alone 6).raiseStop.then_alone 3
  obtain ⟨-, -, -, -, -, -, hdrop, -⟩ := run_sends_or_returns H
  obtain ⟨-, htried, hfull⟩ := hdrop rfl
  refine ⟨H, rfl, htried, ?_⟩
  rw [← List.append_nil (droppedOf _)]
  exact hfull.symm

end CaptureStage
end TickCapture
