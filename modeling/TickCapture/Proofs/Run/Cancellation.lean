import TickCapture.Proofs.Line.Cancellation
import TickCapture.Proofs.Run.Verdict

/-! # Cancellation is bounded

What is shown of the single stages and of the run that joins them, put together. -/

namespace TickCapture
namespace Run

variable {κ σ : Type}

/-- A stage whose stop flag is up winds up by itself: however its mailboxes behave from then on, it is
answered at most ten more times, among them at most one dequeue, one receive or one stored image,
and at most one attempt to send; and it ends if time passes and the calls of the camera return. So
a run that stops and joins its stages comes to its end although nobody but the one it waits for
moves. -/
theorem cancellation_bounded [Camera κ] [ImageSink σ] :
    (∀ (w : Worker CaptureStage) (around : Nat → Plant κ σ), w.stop = true →
      (∀ n, (w.amid Worker.stepCapture? around n).2.length ≤ 10 ∧
        (w.amid Worker.stepCapture? around n).2.countP (·.request.isDequeue) ≤ 1 ∧
        (w.amid Worker.stepCapture? around n).2.countP (·.request.isSend) ≤ 1) ∧
      (Worker.Passing around → (∀ n, Camera.Returns (around n).camera) →
        ∃ n, (w.amid Worker.stepCapture? around n).1.stage.ending?.isSome = true)) ∧
    (∀ settings detector now (before : Nat → Plant κ σ) m w (around : Nat → Plant κ σ),
      w = ((Worker.start (DetectionStage.new settings detector) now).amid
        Worker.stepDetection? before m).1.raiseStop →
      (∀ n, (w.amid Worker.stepDetection? around n).2.length ≤ 10 ∧
        (w.amid Worker.stepDetection? around n).2.countP (·.request.isReceive) ≤ 1 ∧
        (w.amid Worker.stepDetection? around n).2.countP (·.request.isSend) ≤ 1) ∧
      (Worker.Passing around →
        ∃ n, (w.amid Worker.stepDetection? around n).1.stage.ending?.isSome = true)) ∧
    (∀ (w : Worker PersistenceStage) (around : Nat → Plant κ σ), w.stop = true →
      (∀ n, (w.amid Worker.stepPersistence? around n).2.length ≤ 10 ∧
        (w.amid Worker.stepPersistence? around n).2.countP (·.request.isReceive) ≤ 1 ∧
        (w.amid Worker.stepPersistence? around n).2.countP (·.request.isStore) ≤ 1) ∧
      (Worker.Passing around →
        ∃ n, (w.amid Worker.stepPersistence? around n).1.stage.ending?.isSome = true)) ∧
    ∀ settings host (camera : κ) (sink : σ) epoch (r₀ r : Run κ σ) schedule,
      prepare settings host camera sink epoch = .ok r₀ → Reaches r₀ r →
      r.phase.starting = false → (∀ since, r.phase ≠ .watching since) → r.Served schedule →
      (∀ n, Camera.Returns (r.after schedule n).line.plant.camera) →
      ∃ n, (r.after schedule n).phase = .ended := by
  refine ⟨fun w around hstop => Worker.capture_cancels hstop around,
    fun settings detector now before m w around hw => ?_,
    fun w around hstop => Worker.persistence_cancels hstop around, ?_⟩
  · subst hw
    have hanswerable := Worker.answerable_amid settings detector now before m
    exact Worker.detection_cancels (w := Worker.raiseStop _) rfl hanswerable around
  · intro settings host camera sink epoch r₀ r schedule hprepare hr hstarting hwatch hserved hcamera
    have hclosing : r.Closing := ⟨hstarting, fun since hsince => absurd hsince (hwatch since)⟩
    exact hclosing.ends ((Conducted.prepare hprepare).reaches hr) hserved hcamera

/-! ### A mailbox that stays full -/

def waitingFrame : Captured := ⟨none, 0, .packed 2 1 .yuyv, 0, 0⟩

/-- A plant whose mailbox of captured frames is full, at some time. -/
def clogged (now : Clock) : Plant UnpluggedCamera MemoryStore where
  camera := ⟨⟩
  frames := ⟨1, [⟨.capture, 0, waitingFrame⟩], 1, 1, true⟩
  pool := .fresh 0 4 6
  ticks := ⟨1, [], 0, 1, true⟩
  sink := .empty
  clock := now
  epoch := 0
  logs := #[]

/-- A capture stage that was asked to stop when it had just taken a frame. -/
def sendingWorker : Worker CaptureStage :=
  ⟨⟨⟨"unplugged", 2000 * nanosPerMilli, none, .block⟩, .sending waitingFrame, 0,
    ⟨1, 0, 0, 0, 0, ⟨1, 1, 0⟩⟩⟩, 0, true⟩

/-- Until the conductor has seen that the capture stage has ended. -/
def untilStopping : List Move := untilUnplugged ++ [.conductor]

/-- It ends before the mailbox that nobody empties. And a run that begins to stop its stages ends. -/
theorem cancellation_of_clogged :
    (∃ n, (sendingWorker.amid Worker.stepCapture? clogged n).1.stage.ending?.isSome = true) ∧
    (∀ n, (sendingWorker.amid Worker.stepCapture? clogged n).2.countP (·.request.isSend) ≤ 1) ∧
    ∃ (r₀ : Run UnpluggedCamera MemoryStore) (n : Nat),
      prepare keepAll ⟨1, true⟩ ⟨⟩ MemoryStore.empty 0 = .ok r₀ ∧
      (r₀.moves untilStopping).phase = .stopCapture ∧
      ((r₀.moves untilStopping).after roundRobin n).phase = .ended := by
  obtain ⟨hcapture, -, -, hrun⟩ := cancellation_bounded (κ := UnpluggedCamera) (σ := MemoryStore)
  have hcamera (camera : UnpluggedCamera) : Camera.Returns camera := ⟨fun _ => nofun, fun _ => nofun⟩
  obtain ⟨hbounded, hends⟩ := hcapture sendingWorker clogged rfl
  have hpassing : Worker.Passing clogged := fun moment => ⟨moment, fun _ hm => hm⟩
  have hended := hends hpassing fun n => hcamera (clogged n).camera
  refine ⟨hended, ?_, ?_⟩
  · intro n
    exact (hbounded n).2.2
  obtain ⟨r₀, hprepare⟩ : ∃ r₀ : Run UnpluggedCamera MemoryStore,
      prepare keepAll ⟨1, true⟩ ⟨⟩ MemoryStore.empty 0 = .ok r₀ := ⟨_, rfl⟩
  have hwrites : Writes r₀ _ _ := Writes.refl.moves untilStopping
  have hr : Reaches r₀ (r₀.moves untilStopping) := hwrites.reaches
  have hphase : (r₀.moves untilStopping).phase = .stopCapture := by
    cases hprepare
    rfl
  have hstarting : (r₀.moves untilStopping).phase.starting = false := by
    rw [hphase]
    rfl
  have hwatch (since : Clock) :
      (r₀.moves untilStopping).phase ≠ .watching since := by
    rw [hphase]
    nofun
  have hclosing : (r₀.moves untilStopping).Closing :=
    ⟨hstarting, fun since hsince => absurd hsince (hwatch since)⟩
  have hserved := hclosing.served ((Conducted.prepare hprepare).reaches hr) roundRobin_fair
  obtain ⟨n, hn⟩ := hrun _ _ _ _ _ r₀ _ _ hprepare hr hstarting hwatch hserved fun _ => hcamera _
  exact ⟨r₀, n, hprepare, hphase, hn⟩

end Run
end TickCapture
