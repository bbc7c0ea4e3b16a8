import TickCapture.Proofs.Stage.Holdings

/-! # Where the frames of a sequence are

Seen from outside, a line takes frames from its camera and hands images to its sink. In between a frame
passes through two mailboxes and three stages, and every one of these is a queue: what went into it is
what came out of it followed by what is inside.

A stage may lose frames only on its way out. Then it accepts no further ones, so what it lost is the end
of what it was given, and what it passed on before is a beginning.

This module is about the reader of a mailbox in general and about the capture stage. -/

namespace TickCapture

variable {κ σ : Type}

/-! ### A reader and its mailbox -/

/-- Of the messages `given` the reader has worked off those of `done`; the rest is `inside`, unless the
reader is on its way out. -/
structure Passed {α : Type} (retired : Bool) (given done inside : List α) : Prop where
  done_prefix_given : done <+: given
  given_eq : retired = false → given = done ++ inside

namespace Passed

variable {α : Type} {retired : Bool} {given done inside inside' : List α} {x : α}

theorem of_eq (h : given = done ++ inside) : Passed retired given done inside :=
  ⟨h ▸ List.prefix_append _ _, fun _ => h⟩

theorem give (H : Passed retired given done inside) (new : List α) :
    Passed retired (given ++ new) done (inside ++ new) where
  done_prefix_given := H.done_prefix_given.trans (List.prefix_append _ _)
  given_eq h := by rw [H.given_eq h, List.append_assoc]

theorem leave (H : Passed retired given done inside) : Passed true given done inside' :=
  ⟨H.done_prefix_given, nofun⟩

theorem take (H : Passed false given done (x :: inside)) :
    Passed retired given (done ++ [x]) inside :=
  .of_eq (by rw [H.given_eq rfl, List.append_assoc]; rfl)

end Passed

/-! ### The capture stage -/

/-- The stage takes no more frames: it was asked to stop and will see that before the next one, or it is
on its way out. -/
def CapturePhase.finishing (stop : Bool) : CapturePhase → Bool
  | .checking | .pacing | .paced => stop
  | .counting | .leaving _ | .ended _ => true
  | _ => false

/-- The frames `taken` from the camera, of which the stage sent those of `sent` on. -/
structure CaptureStage.Tracks (stop : Bool) (s : CaptureStage) (taken sent : List Captured) :
    Prop where
  policy : s.settings.policy = .block
  rejecting : ∀ f, s.phase = .rejecting f → stop = true
  taken_eq : ∃ lost, taken = sent ++ s.phase.frames ++ lost ∧
    (lost = [] ∨ s.phase.finishing stop = true)

namespace CaptureStage.Tracks

variable {stop : Bool} {s : CaptureStage} {taken sent : List Captured}

/-- A stage that goes on has lost nothing. -/
theorem eq_of_not_finishing (H : s.Tracks stop taken sent) (h : s.phase.finishing stop = false) :
    taken = sent ++ s.phase.frames := by
  obtain ⟨lost, htaken, rfl | hfin⟩ := H.taken_eq
  · rw [htaken, List.append_nil]
  · rw [h] at hfin
    cases hfin

theorem sent_prefix_taken (H : s.Tracks stop taken sent) : sent <+: taken := by
  obtain ⟨lost, htaken, -⟩ := H.taken_eq
  rw [htaken, List.append_assoc]
  exact List.prefix_append _ _

theorem raiseStop (H : s.Tracks stop taken sent) : s.Tracks true taken sent := by
  obtain ⟨lost, htaken, hlost⟩ := H.taken_eq
  refine ⟨H.policy, fun _ _ => rfl, lost, htaken, hlost.imp_right fun hfin => ?_⟩
  revert hfin
  cases s.phase <;> simp [CapturePhase.finishing]

end CaptureStage.Tracks

/-- The frame that the stage takes from the camera in a step, if it takes one. -/
def Plant.taken [Camera κ] (p : Plant κ σ) (w : Worker CaptureStage) : List Captured :=
  match w.stage.request with
  | .dequeue =>
    match (Camera.dequeue p.camera p.now).2 with
    | .frame frame => [frame]
    | _ => []
  | _ => []

theorem Plant.taken_of_ne [Camera κ] {p : Plant κ σ} {w : Worker CaptureStage}
    (h : w.stage.request ≠ .dequeue) : p.taken w = [] := by
  unfold Plant.taken
  split
  · exact absurd ‹_› h
  · rfl

/-- A step that moves no frame. -/
theorem CaptureStage.Tracks.quiet {stop : Bool} {s s' : CaptureStage} {taken sent : List Captured}
    (H : s.Tracks stop taken sent) (hsettings : s'.settings = s.settings)
    (hframes : s'.phase.frames = s.phase.frames)
    (hfin : s.phase.finishing stop = true → s'.phase.finishing stop = true)
    (hreject : ∀ f, s'.phase = .rejecting f → stop = true) : s'.Tracks stop taken sent := by
  obtain ⟨lost, htaken, hlost⟩ := H.taken_eq
  exact ⟨by rw [hsettings, H.policy], hreject, lost, by rw [hframes, htaken], hlost.imp_right hfin⟩

/-- Once the frame in hand is disposed of, it was sent, or the stage was asked to stop. -/
theorem CaptureStage.Tracks.afterFrame {stop : Bool} {s : CaptureStage}
    {sent lost : List Captured} (hpolicy : s.settings.policy = .block)
    (hlost : lost = [] ∨ stop = true) : s.afterFrame.Tracks stop (sent ++ lost) sent := by
  unfold CaptureStage.afterFrame
  split
  · exact ⟨hpolicy, nofun, lost, by simp [CaptureStage.enter, CapturePhase.frames], hlost⟩
  · exact ⟨hpolicy, nofun, lost, by simp [CapturePhase.frames], hlost⟩

theorem CaptureStep.tracks [Camera κ] {p p' : Plant κ σ} {w : Worker CaptureStage}
    {s : CaptureStage} {taken sent : List Captured} (h : CaptureStep p w p' s)
    (H : w.stage.Tracks w.stop taken sent) (hfifo : p.frames.Fifo .capture) :
    p'.frames.Fifo .capture ∧
    ∃ new, p'.frames.messages = p.frames.messages ++ new ∧
      s.Tracks w.stop (taken ++ p.taken w) (sent ++ new) := by
  have hquiet (htaken : p.taken w = []) (hs : s.Tracks w.stop taken sent) :
      ∃ new, p.frames.messages = p.frames.messages ++ new ∧
        s.Tracks w.stop (taken ++ p.taken w) (sent ++ new) :=
    ⟨[], (List.append_nil _).symm, by rwa [htaken, List.append_nil, List.append_nil]⟩
  cases h with
  | starts hp | proceeds hp hs | ready hp | notReady hp | waitFails hp | blocks hp | closed hp
  | givesUp hp hs | retries hp hs | sleeps hp hs | wakes hp | counts hp | stops hp =>
    refine ⟨hfifo, hquiet (Plant.taken_of_ne (by simp [CaptureStage.request, hp])) ?_⟩
    refine H.quiet rfl ?_ ?_ ?_ <;>
      simp_all [CapturePhase.frames, CapturePhase.finishing, CaptureStage.enter, CaptureStage.fail]
  | empty hp hd | transient hp hd | fatal hp hd | faults hp hd =>
    refine ⟨hfifo, hquiet (by simp [Plant.taken, CaptureStage.request, hp, hd]) ?_⟩
    refine H.quiet rfl ?_ ?_ ?_ <;>
      simp_all [CapturePhase.frames, CapturePhase.finishing, CaptureStage.enter, CaptureStage.fail]
  | overflows hp hpolicy =>
    rw [H.policy] at hpolicy
    cases hpolicy
  | leaves hp =>
    refine ⟨hfifo.dropSender, hquiet (Plant.taken_of_ne (by simp [CaptureStage.request, hp])) ?_⟩
    refine H.quiet rfl ?_ ?_ ?_ <;>
      simp_all [CapturePhase.frames, CapturePhase.finishing, CaptureStage.enter]
  | @takes camera frame hp hd =>
    have htaken : p.taken w = [frame] := by simp [Plant.taken, CaptureStage.request, hp, hd]
    have heq := H.eq_of_not_finishing (by rw [hp]; rfl)
    refine ⟨hfifo, [], (List.append_nil _).symm, H.policy, fun _ h => ?_, [], ?_, .inl rfl⟩
    · cases h
    · simpa [htaken, hp, CapturePhase.frames] using heq
  | @sends frames frame hp ha =>
    obtain ⟨hfifo', hmessages⟩ := hfifo.accepted ha
    have heq := H.eq_of_not_finishing (by rw [hp]; rfl)
    rw [hp, CapturePhase.frames] at heq
    have htaken := Plant.taken_of_ne (p := p) (w := w) (by simp [CaptureStage.request, hp])
    refine ⟨hfifo', [frame], hmessages, ?_⟩
    rw [htaken, heq]
    exact .afterFrame H.policy (.inl rfl)
  | @rejects frame hp =>
    have heq := H.eq_of_not_finishing (by rw [hp]; rfl)
    rw [hp, CapturePhase.frames] at heq
    refine ⟨hfifo, hquiet (Plant.taken_of_ne (by simp [CaptureStage.request, hp])) ?_⟩
    rw [heq]
    exact .afterFrame H.policy (.inr (H.rejecting frame hp))
  | @discards frame hp =>
    have heq := H.eq_of_not_finishing (by rw [hp]; rfl)
    rw [hp, CapturePhase.frames] at heq
    refine ⟨hfifo, hquiet (Plant.taken_of_ne (by simp [CaptureStage.request, hp])) ?_⟩
    refine ⟨H.policy, fun _ h => ?_, [frame], ?_, .inr rfl⟩
    · cases h
    · rw [heq]
      simp [CaptureStage.enter, CapturePhase.frames]

end TickCapture
