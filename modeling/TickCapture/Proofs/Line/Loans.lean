import TickCapture.Proofs.Camera.Lending
import TickCapture.Proofs.Line.Buffers

/-! # The buffers of the camera on their way

At every moment each buffer of the camera is in its bank, waits in the mailbox of captured frames, or
is in the hands of the capture or the detection stage (`Line.Banked`).

Taking a frame may fault after the buffer has left the bank. So nothing is said about a line whose
capture stage has faulted. -/

namespace TickCapture

variable {κ σ : Type}

/-- The stage ends, or has ended, with a fault. -/
def CapturePhase.faulted : CapturePhase → Bool
  | .leaving (.faulted _) | .ended (.faulted _) => true
  | _ => false

/-! ### The plant -/

namespace Plant

variable [BankedCamera κ]

/-- A plant whose camera has `count` buffers: they are in the bank, in the mailbox of captured frames,
or with those who hold `held`. -/
structure Banked (count : Nat) (p : Plant κ σ) (held : List Captured) : Prop where
  lends : BankedCamera.Lends p.camera count (held ++ p.frames.messages)
  fifo : p.frames.Fifo .capture

namespace Banked

variable {count : Nat} {p p' : Plant κ σ} {held held' : List Captured} {frame : Captured}

/-- Nothing has been taken from a camera that lends nothing. -/
theorem new {capacity : Nat} (hcamera : BankedCamera.Lends p.camera count [])
    (hframes : Mailbox.bounded capacity = .ok p.frames) : Banked count p [] := by
  obtain ⟨-, hempty⟩ := Mailbox.Orderly.bounded hframes
  refine ⟨?_, .of_bounded hframes⟩
  rw [hempty]
  exact hcamera

theorem perm (H : Banked count p held) (h : held.Perm held') : Banked count p held' :=
  { H with lends := H.lends.perm (h.append_right _) }

theorem congr (H : Banked count p held) (hc : p'.camera = p.camera) (hf : p'.frames = p.frames) :
    Banked count p' held where
  lends := by rw [hc, hf]; exact H.lends
  fifo := by rw [hf]; exact H.fifo

/-- The camera did something that leaves all buffers where they are. -/
theorem camera {camera : κ} (H : Banked count p held)
    (h : ∀ {b}, BankedCamera.bank? p.camera = some b →
      ∃ b', BankedCamera.bank? camera = some b' ∧ b'.slots = b.slots) :
    Banked count { p with camera } held :=
  { H with lends := H.lends.congr h }

theorem dropSender (H : Banked count p held) :
    Banked count { p with frames := p.frames.dropSender } held :=
  { H with fifo := H.fifo.dropSender }

theorem dequeue {camera : κ} {moment : Moment} (H : Banked count p held)
    (h : Camera.dequeue p.camera moment = (camera, .frame frame)) :
    Banked count { p with camera } (frame :: held) :=
  { H with lends := H.lends.dequeue h }

/-- The buffer of a frame in hand is not refused. -/
theorem giveBack {camera : κ} {refusal : Option IoError} (H : Banked count p (frame :: held))
    (h : TickCapture.giveBack p.camera frame = (camera, refusal)) :
    refusal = none ∧ Banked count { p with camera } held := by
  obtain ⟨hanswer, hlends⟩ := H.lends.giveBack
  rw [h] at hanswer hlends
  exact ⟨hanswer, { H with lends := hlends }⟩

theorem discard (H : Banked count p (frame :: held)) : Banked count (p.discard frame) held where
  lends := by rw [frames_discard]; exact H.lends.discard
  fifo := by rw [frames_discard]; exact H.fifo

theorem foldl_discard (lost : List Captured) {p : Plant κ σ} (H : Banked count p (lost ++ held)) :
    Banked count (lost.foldl Plant.discard p) held := by
  induction lost generalizing p with
  | nil => exact H
  | cons frame lost ih => exact ih H.discard

/-- A frame that is sent passes from a hand to the mailbox. -/
theorem send {frames : Mailbox Captured} (H : Banked count p (frame :: held))
    (h : p.frames.attempt frame .capture = (frames, .accepted)) :
    Banked count { p with frames } held := by
  obtain ⟨hfifo, hmessages⟩ := H.fifo.accepted h
  refine ⟨H.lends.perm ?_, hfifo⟩
  rw [hmessages, ← List.append_assoc]
  exact (List.perm_append_singleton frame _).symm

/-- A frame that is received passes from the mailbox to a hand. -/
theorem receive {frames : Mailbox Captured} (H : Banked count p held)
    (h : p.frames.receive = (frames, .got frame)) :
    Banked count { p with frames } (frame :: held) := by
  obtain ⟨hfifo, hmessages⟩ := H.fifo.got h
  refine ⟨H.lends.perm ?_, hfifo⟩
  rw [hmessages]
  exact List.perm_middle

/-- The frames in the mailbox go back to the camera when their receiver is gone. -/
theorem closeFrames (H : Banked count p held) : Banked count p.closeFrames held := by
  have H₀ : Banked count { p with frames := p.frames.dropReceiver.1 }
      (p.frames.messages ++ held) := {
    lends := by
      refine H.lends.perm ?_
      rw [Mailbox.messages_dropReceiver, List.append_nil]
      exact List.perm_append_comm
    fifo := .dropReceiver }
  exact foldl_discard _ H₀

end Banked
end Plant

/-! ### The stages -/

section Stages

variable [BankedCamera κ] {count : Nat} {p p' : Plant κ σ} {others : List Captured}

theorem CaptureStep.banked {w : Worker CaptureStage} {s : CaptureStage}
    (h : CaptureStep p w p' s) (hs : s.phase.faulted = false)
    (H : p.Banked count (w.stage.phase.frames ++ others)) :
    p'.Banked count (s.phase.frames ++ others) := by
  cases h with
  | starts hp | stops hp | proceeds hp | blocks hp | overflows hp | closed hp | givesUp hp
  | retries hp | sleeps hp | wakes hp | counts hp =>
    rw [hp] at H
    exact H
  | ready hp hc | notReady hp hc | waitFails hp hc =>
    rw [hp] at H
    exact H.camera fun hb => BankedCamera.bank_poll hb hc
  | takes hp hd =>
    rw [hp] at H
    exact H.dequeue hd
  | empty hp hd | transient hp hd | fatal hp hd =>
    rw [hp] at H
    exact H.camera fun hb => BankedCamera.bank_failed hb hd
  | faults => cases hs
  | sends hp ha =>
    rw [hp] at H
    rw [CaptureStage.frames_afterFrame]
    exact H.send ha
  | rejects hp =>
    rw [hp] at H
    rw [CaptureStage.frames_afterFrame]
    exact Plant.Banked.discard (H.congr rfl rfl)
  | discards hp =>
    rw [hp] at H
    exact Plant.Banked.discard (H.congr rfl rfl)
  | leaves hp =>
    rw [hp] at H
    exact H.dropSender

/-- A fault is not made good. -/
theorem CaptureStep.faulted {w : Worker CaptureStage} {s : CaptureStage} (h : CaptureStep p w p' s)
    (hs : s.phase.faulted = false) : w.stage.phase.faulted = false := by
  cases h with
  | @leaves ending hp =>
    rw [hp]
    cases ending with
    | faulted => cases hs
    | finished | failed => rfl
  | starts hp | stops hp | proceeds hp | ready hp | notReady hp | waitFails hp | takes hp | empty hp
  | transient hp | fatal hp | faults hp | sends hp | blocks hp | overflows hp | closed hp
  | givesUp hp | retries hp | rejects hp | discards hp | sleeps hp | wakes hp | counts hp =>
    rw [hp]
    rfl

theorem DetectionStep.banked {w : Worker DetectionStage} {s : DetectionStage}
    (h : DetectionStep p w p' s) (H : p.Banked count (w.stage.phase.frames ++ others)) :
    p'.Banked count (s.phase.frames ++ others) := by
  cases h with
  | stops hp | proceeds hp | waits hp | inboxClosed hp | blocks hp | outboxClosed hp | givesUp hp
  | retries hp =>
    rw [hp] at H
    exact H
  | receives hp hr =>
    rw [hp] at H
    rw [DetectionStage.frames_takeIn]
    exact H.receive hr
  | acquires hp =>
    rw [hp] at H
    rw [DetectionStage.frames_convert]
    exact H.congr rfl rfl
  | exhausts hp | acquireFaults hp | releaseRefused hp =>
    rw [hp] at H
    exact H.congr rfl rfl
  | skips hp | discards hp =>
    rw [hp] at H
    exact Plant.Banked.discard (H.congr rfl rfl)
  | returns hp hg =>
    rw [hp] at H
    rw [DetectionStage.frames_detect]
    exact (H.giveBack hg).2
  | refused hp hg =>
    rw [hp] at H
    exact (H.giveBack hg).2
  | sends hp =>
    rw [hp] at H
    exact H.congr rfl rfl
  | @releases _ _ last hp =>
    rw [hp] at H
    cases last <;> exact H.congr rfl rfl
  | @drops _ _ frame _ hp hd =>
    rw [hp] at H
    obtain ⟨-, hf, hc⟩ := Plant.drop_eq hd
    cases frame <;> exact H.congr hc hf
  | @dropFaults _ _ frame _ _ hp hd =>
    rw [hp] at H
    obtain ⟨-, hf, hc⟩ := Plant.drop_eq hd
    cases frame <;> exact H.congr hc hf
  | closesInbox hp =>
    rw [hp] at H
    exact H.closeFrames
  | closesOutbox hp =>
    rw [hp] at H
    rw [DetectionStage.frames_forget]
    exact H.congr rfl rfl
  | forgets hp _ hd | forgetFaults hp _ hd =>
    rw [hp] at H
    obtain ⟨-, hf, hc⟩ := Plant.drop_eq hd
    exact H.congr hc hf

end Stages

namespace Line

def captureFrames (l : Line κ σ) : List Captured :=
  (l.capture.map (·.stage.phase.frames)).getD []

def detectionFrames (l : Line κ σ) : List Captured :=
  (l.detection.map (·.stage.phase.frames)).getD []

def captureFaulted (l : Line κ σ) : Bool := l.capture.any (·.stage.phase.faulted)

variable [BankedCamera κ]

/-- All buffers of the camera are accounted for, unless the capture stage has faulted: they are in the
bank, in the mailbox of captured frames, or in the hands of one of the two stages. -/
def Banked (count : Nat) (l : Line κ σ) : Prop :=
  l.captureFaulted = false → l.plant.Banked count (l.captureFrames ++ l.detectionFrames)

namespace Banked

variable {l l' : Line κ σ} {count : Nat}

theorem raiseStop (H : l.Banked count) (name : StageName) : (l.raiseStop name).Banked count := by
  obtain ⟨p, c, d, v⟩ := l
  cases name with
  | capture => cases c <;> exact H
  | detection => cases d <;> exact H
  | persistence => exact H

theorem pass (H : l.Banked count) (nanos : Nat) : (l.pass nanos).Banked count :=
  fun hfault => (H hfault).congr rfl rfl

variable [ImageSink σ]

theorem step? {name : StageName} (H : l.Banked count) (h : l.step? name = some l') :
    l'.Banked count := by
  obtain ⟨p, c, d, v⟩ := l
  cases step?_cases h with
  | capture hw hs =>
    cases hw
    intro hfault
    exact hs.banked hfault (H (hs.faulted hfault))
  | detection hw hs =>
    cases hw
    intro hfault
    exact (hs.banked ((H hfault).perm List.perm_append_comm)).perm List.perm_append_comm
  | persistence hw hs =>
    cases hw
    intro hfault
    obtain ⟨hf, hc⟩ := hs.frames_eq
    exact (H hfault).congr hc hf

end Banked
end Line
end TickCapture
