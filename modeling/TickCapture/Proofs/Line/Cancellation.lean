import TickCapture.Proofs.Line.Stopping

/-! # A stage that is asked to stop, whatever the others do

What a stage finds around it at each of its turns is an arbitrary sequence of plants (`Worker.amid`): the
others may fill its mailboxes, leave them silent for ever, or be gone. A stage with a raised stop flag
passes each rank of its way out at most once, so it makes each of the calls that stand at one rank
only at most once more. And it ends, if time passes and the calls of the camera return. -/

namespace TickCapture

variable {κ σ : Type}

namespace Worker

variable {α β : Type} {step? : Plant κ σ → Worker α → Option (Plant κ σ × Worker α)}
  {around : Nat → Plant κ σ} {w : Worker α} {n m : Nat}

/-- Where a stage is after so many turns, and the states in which it was answered. It takes a step
where it is answered at once and waits where it is not. -/
def amid (step? : Plant κ σ → Worker α → Option (Plant κ σ × Worker α)) (around : Nat → Plant κ σ)
    (w : Worker α) : Nat → Worker α × List α
  | 0 => (w, [])
  | n + 1 =>
    let (w, passed) := w.amid step? around n
    match step? (around n) w with
    | none => (w, passed)
    | some (_, w') => (w', passed ++ [w.stage])

/-- Every moment comes. -/
def Passing (around : Nat → Plant κ σ) : Prop :=
  ∀ moment : Clock, ∃ n, ∀ m, n ≤ m → moment ≤ (around m).clock

theorem amid_succ (step? : Plant κ σ → Worker α → Option (Plant κ σ × Worker α))
    (around : Nat → Plant κ σ) (w : Worker α) (n : Nat) :
    (step? (around n) (w.amid step? around n).1 = none ∧
      w.amid step? around (n + 1) = w.amid step? around n) ∨
      ∃ p' w', step? (around n) (w.amid step? around n).1 = some (p', w') ∧
        w.amid step? around (n + 1) =
          (w', (w.amid step? around n).2 ++ [(w.amid step? around n).1.stage]) := by
  rw [amid]
  dsimp only
  split
  · next hwaits => exact .inl ⟨hwaits, rfl⟩
  · next p' w' hstep => exact .inr ⟨p', w', hstep, rfl⟩

/-- A rank that every step of a stage asked to stop lowers. Until it is zero the stage is answered
sooner or later. -/
structure Winds (step? : Plant κ σ → Worker α → Option (Plant κ σ × Worker α)) (rank : α → Nat)
    (good : α → Prop) (fine : Plant κ σ → Prop) : Prop where
  stop_eq : ∀ {p p' w w'}, step? p w = some (p', w') → w'.stop = w.stop
  rank_lt : ∀ {p p' w w'}, step? p w = some (p', w') → w.stop = true → rank w'.stage < rank w.stage
  good_of_step : ∀ {p p' w w'}, step? p w = some (p', w') → good w'.stage
  answered : ∀ {w}, w.stop = true → good w.stage → rank w.stage ≠ 0 →
    ∃ limit, ∀ p, fine p → limit ≤ p.clock → (step? p w).isSome = true

namespace Winds

variable {rank : α → Nat} {good : α → Prop} {fine : Plant κ σ → Prop}

theorem stop_amid (H : Winds step? rank good fine) (hstop : w.stop = true) (n : Nat) :
    (w.amid step? around n).1.stop = true := by
  induction n with
  | zero => exact hstop
  | succ n ih =>
    obtain ⟨-, hwaits⟩ | ⟨p', w', hstep, hnext⟩ := amid_succ step? around w n
    · rw [hwaits]
      exact ih
    · rw [hnext]
      exact (H.stop_eq hstep).trans ih

theorem good_amid (H : Winds step? rank good fine) (hgood : good w.stage) (n : Nat) :
    good (w.amid step? around n).1.stage := by
  induction n with
  | zero => exact hgood
  | succ n ih =>
    obtain ⟨-, hwaits⟩ | ⟨p', w', hstep, hnext⟩ := amid_succ step? around w n
    · rw [hwaits]
      exact ih
    · rw [hnext]
      exact H.good_of_step hstep

/-- With every answer the stage is a rank or more further. -/
theorem length_amid_le (H : Winds step? rank good fine) (hstop : w.stop = true) (n : Nat) :
    (w.amid step? around n).2.length + rank (w.amid step? around n).1.stage ≤ rank w.stage := by
  induction n with
  | zero => exact Nat.le_of_eq (Nat.zero_add _)
  | succ n ih =>
    obtain ⟨-, hwaits⟩ | ⟨p', w', hstep, hnext⟩ := amid_succ step? around w n
    · rw [hwaits]
      exact ih
    · have hlt := H.rank_lt hstep (H.stop_amid hstop n)
      rw [hnext, List.length_append, List.length_singleton]
      dsimp only
      omega

/-- The ranks it has passed descend, down to where it is. -/
theorem descends (H : Winds step? rank good fine) (hstop : w.stop = true) (n : Nat) :
    ((w.amid step? around n).2.map rank ++ [rank (w.amid step? around n).1.stage]).Pairwise
      (· > ·) := by
  induction n with
  | zero => exact List.pairwise_singleton _ _
  | succ n ih =>
    obtain ⟨-, hwaits⟩ | ⟨p', w', hstep, hnext⟩ := amid_succ step? around w n
    · rw [hwaits]
      exact ih
    · have hlt := H.rank_lt hstep (H.stop_amid hstop n)
      rw [hnext, List.map_append, List.map_singleton]
      refine List.pairwise_append.mpr ⟨ih, List.pairwise_singleton _ _, fun r hr r' hr' => ?_⟩
      rw [List.mem_singleton.mp hr']
      rcases List.mem_append.mp hr with hr | hr
      · exact Nat.lt_trans hlt
          ((List.pairwise_append.mp ih).2.2 r hr _ (List.mem_singleton.mpr rfl))
      · rw [List.mem_singleton.mp hr]
        exact hlt

/-- A call that stands at one rank only is made at most once more. -/
theorem countP_amid_le (H : Winds step? rank good fine) (hstop : w.stop = true) {rank₀ : Nat}
    {calls : α → Bool} (hcalls : ∀ s, calls s = true → rank s = rank₀) (n : Nat) :
    (w.amid step? around n).2.countP calls ≤ 1 := by
  have hnodup : ((w.amid step? around n).2.map rank).Nodup :=
    (List.pairwise_append.mp (H.descends hstop n)).1.imp Nat.ne_of_gt
  calc (w.amid step? around n).2.countP calls
      ≤ (w.amid step? around n).2.countP (rank · == rank₀) :=
        List.countP_mono_left fun s _ hs => beq_iff_eq.mpr (hcalls s hs)
    _ = ((w.amid step? around n).2.map rank).count rank₀ := by
        rw [List.count, List.countP_map]
        rfl
    _ ≤ 1 := List.nodup_iff_count.mp hnodup rank₀

/-- Meanwhile the stage has stayed where it was, or is further. -/
theorem rests_or_descends (H : Winds step? rank good fine) (hstop : w.stop = true) (h : n ≤ m) :
    (w.amid step? around m).1 = (w.amid step? around n).1 ∨
      rank (w.amid step? around m).1.stage < rank (w.amid step? around n).1.stage := by
  induction h with
  | refl => exact .inl rfl
  | @step m _ ih =>
    obtain ⟨-, hwaits⟩ | ⟨p', w', hstep, hnext⟩ := amid_succ step? around w m
    · rw [hwaits]
      exact ih
    · have hlt := H.rank_lt hstep (H.stop_amid hstop m)
      rw [hnext]
      refine .inr ?_
      obtain heq | hless := ih
      · rwa [heq] at hlt
      · exact Nat.lt_trans hlt hless

/-- The stage comes to its end. -/
theorem ends (H : Winds step? rank good fine) (hstop : w.stop = true) (hgood : good w.stage)
    (htime : Passing around) (hfine : ∀ n, fine (around n)) (n : Nat) :
    ∃ m, rank (w.amid step? around m).1.stage = 0 := by
  induction hrank : rank (w.amid step? around n).1.stage using Nat.strongRecOn generalizing n with
  | ind left ih =>
    by_cases hzero : rank (w.amid step? around n).1.stage = 0
    · exact ⟨n, hzero⟩
    · have hasked : (w.amid step? around n).1.stop = true := H.stop_amid hstop n
      obtain ⟨limit, hlimit⟩ := H.answered hasked (H.good_amid hgood n) hzero
      obtain ⟨k, hk⟩ := htime limit
      have hwhere : (w.amid step? around (max n k)).1 = (w.amid step? around n).1 ∨
          rank (w.amid step? around (max n k)).1.stage < rank (w.amid step? around n).1.stage :=
        H.rests_or_descends hstop (Nat.le_max_left n k)
      obtain hrests | hless := hwhere
      · -- it has waited until its time limit has passed
        have hanswer := hlimit _ (hfine (max n k)) (hk _ (Nat.le_max_right n k))
        obtain ⟨hnone, -⟩ | ⟨p', w', hstep, hnext⟩ := amid_succ step? around w (max n k)
        · rw [← hrests, hnone] at hanswer
          cases hanswer
        · have hlt := H.rank_lt hstep (H.stop_amid hstop _)
          refine ih _ ?_ (max n k + 1) rfl
          rw [hnext, ← hrank]
          rwa [hrests] at hlt
      · exact ih _ (hrank ▸ hless) (max n k) rfl

end Winds
end Worker

/-! ### The three stages -/

def CaptureRequest.isDequeue : CaptureRequest → Bool
  | .dequeue => true
  | _ => false

def CaptureRequest.isSend : CaptureRequest → Bool
  | .send .. => true
  | _ => false

def DetectionRequest.isReceive : DetectionRequest → Bool
  | .receive _ => true
  | _ => false

def DetectionRequest.isSend : DetectionRequest → Bool
  | .send .. => true
  | _ => false

def PersistenceRequest.isReceive : PersistenceRequest → Bool
  | .receive _ => true
  | _ => false

def PersistenceRequest.isStore : PersistenceRequest → Bool
  | .store _ => true
  | _ => false

/-! Each of these requests is made at one rank only. -/

namespace CaptureStage

variable {s : CaptureStage}

theorem rank_of_isDequeue (h : s.request.isDequeue = true) : s.phase.stepsLeft = 9 := by
  unfold request at h
  cases hp : s.phase <;> rw [hp] at h <;> first | rfl | cases h

theorem rank_of_isSend (h : s.request.isSend = true) : s.phase.stepsLeft = 8 := by
  unfold request at h
  cases hp : s.phase <;> rw [hp] at h <;> first | rfl | cases h

theorem ending?_isSome : s.ending?.isSome = true ↔ s.phase.stepsLeft = 0 := by
  unfold ending?
  cases s.phase <;> simp [CapturePhase.stepsLeft]

end CaptureStage

namespace DetectionStage

variable {s : DetectionStage}

theorem rank_of_isReceive (h : s.request.isReceive = true) : s.phase.stepsLeft = 10 := by
  unfold request at h
  cases hp : s.phase <;> simp only [hp] at h <;>
    first | rfl | cases h | (split at h <;> cases h)

theorem rank_of_isSend (h : s.request.isSend = true) : s.phase.stepsLeft = 7 := by
  unfold request at h
  cases hp : s.phase <;> simp only [hp] at h <;>
    first | rfl | cases h | (split at h <;> cases h)

theorem ending?_isSome : s.ending?.isSome = true ↔ s.phase.stepsLeft = 0 := by
  unfold ending?
  cases s.phase <;> simp [DetectionPhase.stepsLeft]

end DetectionStage

namespace PersistenceStage

variable {s : PersistenceStage}

theorem rank_of_isReceive (h : s.request.isReceive = true) : s.phase.stepsLeft = 6 := by
  unfold request at h
  cases hp : s.phase <;> rw [hp] at h <;> first | rfl | cases h

theorem rank_of_isStore (h : s.request.isStore = true) : s.phase.stepsLeft = 4 := by
  unfold request at h
  cases hp : s.phase <;> rw [hp] at h <;> first | rfl | cases h

theorem ending?_isSome : s.ending?.isSome = true ↔ s.phase.stepsLeft = 0 := by
  unfold ending?
  cases s.phase <;> simp [PersistencePhase.stepsLeft]

end PersistenceStage

namespace Worker

theorem winds_capture [Camera κ] :
    Winds (stepCapture? (κ := κ) (σ := σ)) (·.phase.stepsLeft) (fun _ => True)
      fun p => Camera.Returns p.camera where
  stop_eq hstep := by
    obtain ⟨s, rfl, -⟩ := stepCapture?_cases hstep
    rfl
  rank_lt hstep hstop := by
    obtain ⟨s, rfl, hs⟩ := stepCapture?_cases hstep
    exact hs.stepsLeft_lt hstop
  good_of_step _ := trivial
  answered {w} hstop _ hrank := by
    refine ⟨w.captureLimit, fun p hcamera htime => stepCapture?_isSome ?_ hcamera hstop htime⟩
    exact Option.not_isSome_iff_eq_none.mp (mt CaptureStage.ending?_isSome.mp hrank)

theorem winds_detection [DriverQueue κ] :
    Winds (stepDetection? (κ := κ) (σ := σ)) (·.phase.stepsLeft) DetectionStage.Answerable
      fun _ => True where
  stop_eq hstep := by
    obtain ⟨s, rfl, -⟩ := stepDetection?_cases hstep
    rfl
  rank_lt hstep hstop := by
    obtain ⟨s, rfl, hs⟩ := stepDetection?_cases hstep
    exact hs.stepsLeft_lt hstop
  good_of_step hstep := by
    obtain ⟨s, rfl, hs⟩ := stepDetection?_cases hstep
    exact hs.answerable
  answered {w} _ hgood hrank := by
    refine ⟨w.detectionLimit, fun p _ htime => stepDetection?_isSome ?_ hgood htime⟩
    exact Option.not_isSome_iff_eq_none.mp (mt DetectionStage.ending?_isSome.mp hrank)

theorem winds_persistence [ImageSink σ] :
    Winds (stepPersistence? (κ := κ) (σ := σ)) (·.phase.stepsLeft) (fun _ => True)
      fun _ => True where
  stop_eq hstep := by
    obtain ⟨s, rfl, -⟩ := stepPersistence?_cases hstep
    rfl
  rank_lt hstep hstop := by
    obtain ⟨s, rfl, hs⟩ := stepPersistence?_cases hstep
    exact hs.stepsLeft_lt hstop
  good_of_step _ := trivial
  answered {w} _ _ hrank := by
    refine ⟨w.persistenceLimit, fun p _ htime => stepPersistence?_isSome ?_ htime⟩
    exact Option.not_isSome_iff_eq_none.mp (mt PersistenceStage.ending?_isSome.mp hrank)

/-- A capture stage that is asked to stop dequeues at most once more and makes at most one more
attempt to send, whatever is around it, and it ends. -/
theorem capture_cancels [Camera κ] {w : Worker CaptureStage} (hstop : w.stop = true)
    (around : Nat → Plant κ σ) :
    (∀ n, (w.amid stepCapture? around n).2.length ≤ 10 ∧
      (w.amid stepCapture? around n).2.countP (·.request.isDequeue) ≤ 1 ∧
      (w.amid stepCapture? around n).2.countP (·.request.isSend) ≤ 1) ∧
    (Passing around → (∀ n, Camera.Returns (around n).camera) →
      ∃ n, (w.amid stepCapture? around n).1.stage.ending?.isSome = true) := by
  have hrank : w.stage.phase.stepsLeft ≤ 10 := by
    cases w.stage.phase <;> simp [CapturePhase.stepsLeft]
  refine ⟨fun n => ⟨?_, ?_, ?_⟩, fun htime hcamera => ?_⟩
  · exact Nat.le_trans (Nat.le_of_add_right_le (winds_capture.length_amid_le hstop n)) hrank
  · exact winds_capture.countP_amid_le hstop (fun _ => CaptureStage.rank_of_isDequeue) n
  · exact winds_capture.countP_amid_le hstop (fun _ => CaptureStage.rank_of_isSend) n
  · obtain ⟨n, hn⟩ := winds_capture.ends hstop trivial htime hcamera 0
    exact ⟨n, CaptureStage.ending?_isSome.mpr hn⟩

/-- A detection stage that is asked to stop receives at most once more and makes at most one more
attempt to send, whatever is around it, and it ends. -/
theorem detection_cancels [DriverQueue κ] {w : Worker DetectionStage} (hstop : w.stop = true)
    (hgood : w.stage.Answerable) (around : Nat → Plant κ σ) :
    (∀ n, (w.amid stepDetection? around n).2.length ≤ 10 ∧
      (w.amid stepDetection? around n).2.countP (·.request.isReceive) ≤ 1 ∧
      (w.amid stepDetection? around n).2.countP (·.request.isSend) ≤ 1) ∧
    (Passing around → ∃ n, (w.amid stepDetection? around n).1.stage.ending?.isSome = true) := by
  have hrank : w.stage.phase.stepsLeft ≤ 10 := by
    cases w.stage.phase <;> simp [DetectionPhase.stepsLeft]
  refine ⟨fun n => ⟨?_, ?_, ?_⟩, fun htime => ?_⟩
  · exact Nat.le_trans (Nat.le_of_add_right_le (winds_detection.length_amid_le hstop n)) hrank
  · exact winds_detection.countP_amid_le hstop (fun _ => DetectionStage.rank_of_isReceive) n
  · exact winds_detection.countP_amid_le hstop (fun _ => DetectionStage.rank_of_isSend) n
  · obtain ⟨n, hn⟩ := winds_detection.ends hstop hgood htime (fun _ => trivial) 0
    exact ⟨n, DetectionStage.ending?_isSome.mpr hn⟩

/-- A persistence stage that is asked to stop receives at most once more and stores at most one more
image, whatever is around it, and it ends. -/
theorem persistence_cancels [ImageSink σ] {w : Worker PersistenceStage} (hstop : w.stop = true)
    (around : Nat → Plant κ σ) :
    (∀ n, (w.amid stepPersistence? around n).2.length ≤ 10 ∧
      (w.amid stepPersistence? around n).2.countP (·.request.isReceive) ≤ 1 ∧
      (w.amid stepPersistence? around n).2.countP (·.request.isStore) ≤ 1) ∧
    (Passing around → ∃ n, (w.amid stepPersistence? around n).1.stage.ending?.isSome = true) := by
  have hrank : w.stage.phase.stepsLeft ≤ 10 := by
    cases w.stage.phase <;> simp [PersistencePhase.stepsLeft]
  refine ⟨fun n => ⟨?_, ?_, ?_⟩, fun htime => ?_⟩
  · exact Nat.le_trans (Nat.le_of_add_right_le (winds_persistence.length_amid_le hstop n)) hrank
  · exact winds_persistence.countP_amid_le hstop (fun _ => PersistenceStage.rank_of_isReceive) n
  · exact winds_persistence.countP_amid_le hstop (fun _ => PersistenceStage.rank_of_isStore) n
  · obtain ⟨n, hn⟩ := winds_persistence.ends hstop trivial htime (fun _ => trivial) 0
    exact ⟨n, PersistenceStage.ending?_isSome.mpr hn⟩

/-- A detection stage never asks to drop a frame that its detector does not hold. -/
theorem answerable_amid [DriverQueue κ] (settings : DetectionSettings) (detector : TickDetector Float)
    (now : Clock) (before : Nat → Plant κ σ) (m : Nat) :
    ((start (.new settings detector) now).amid stepDetection? before m).1.stage.Answerable :=
  winds_detection.good_amid (.of_inbox rfl) m

end Worker
end TickCapture
