import TickCapture.Pipeline.Settings
import TickCapture.Proofs.Line.Buffers

/-! # How many slots the pool needs

When the detection stage asks for a slot, it holds one converted frame, that of the detector. The
persistence stage holds one at most, and the mailbox between them as many as there is room for. So
two slots more than there is room are not enough, and three more always are. -/

namespace TickCapture

variable {κ σ : Type}

theorem DetectionStage.request_eq_acquire {s : DetectionStage} (h : s.request = .acquire) :
    ∃ frame, s.phase = .acquiring frame := by
  unfold request at h
  split at h <;> first | cases h | skip
  · exact ⟨_, ‹_›⟩
  · split at h <;> cases h

/-- A step of the detection stage counts no frame without a slot unless the pool had none. -/
theorem DetectionStep.poolExhausted [DriverQueue κ] {p p' : Plant κ σ}
    {w : Worker DetectionStage} {s : DetectionStage} (h : DetectionStep p w p' s) :
    s.report.poolExhausted = w.stage.report.poolExhausted ∨
      ∃ frame pool, w.stage.phase = .acquiring frame ∧ p.pool.acquire = (pool, .ok none) := by
  cases h with
  | exhausts hp ha => exact .inr ⟨_, _, hp, ha⟩
  | @receives _ frame => exact .inl (w.stage.poolExhausted_takeIn frame)
  | @acquires _ frame slot => exact .inl (w.stage.poolExhausted_convert frame slot)
  | @returns _ _ converted => exact .inl (w.stage.poolExhausted_detect converted)
  | @releases _ _ last => cases last <;> exact .inl rfl
  | @drops _ _ frame | @dropFaults _ _ frame => cases frame <;> exact .inl rfl
  | closesOutbox | stops | proceeds | waits | inboxClosed | acquireFaults | skips | refused | sends
  | blocks | outboxClosed | givesUp | retries | releaseRefused | discards | closesInbox | forgets
  | forgetFaults => exact .inl rfl

theorem PersistencePhase.length_buffers (phase : PersistencePhase) : phase.buffers.length ≤ 1 := by
  cases phase <;> simp [PersistencePhase.buffers]

namespace Line

variable {l l' : Line κ σ} {count size room slots : Nat}

/-- Nothing has passed the detection and the persistence stage yet, there is `room` for so many
frames between them, and nobody else has a share in the pool. -/
structure Fresh (l : Line κ σ) (room slots : Nat) : Prop where
  ticks : Mailbox.bounded room = .ok l.plant.ticks
  pool : ∃ id size, l.plant.pool = .fresh id slots size
  detection : ∃ settings hysteresis now,
    l.detection = some (.start (.new settings (.new hysteresis)) now)
  persistence : ∃ settings now, l.persistence = some (.start (.new settings) now)

theorem length_persistenceBuffers (l : Line κ σ) : l.persistenceBuffers.length ≤ 1 := by
  unfold persistenceBuffers
  cases l.persistence with
  | none => exact Nat.zero_le _
  | some w => exact w.stage.phase.length_buffers

theorem Fresh.pooled (H : l.Fresh room slots) : ∃ size, l.Pooled slots size room := by
  obtain ⟨id, size, hpool⟩ := H.pool
  obtain ⟨dset, h, now, hd⟩ := H.detection
  obtain ⟨pset, now', hp⟩ := H.persistence
  have hdbuf : l.detectionBuffers = [] := detectionBuffers_of_some hd
  have hpbuf : l.persistenceBuffers = [] := by
    rw [persistenceBuffers_of_some hp]
    exact PersistenceStage.buffers_nextRound _
  refine ⟨size, ?_⟩
  rw [Line.Pooled, hdbuf, hpbuf]
  exact .new hpool H.ticks

/-! ### Three more are enough -/

/-- Every slot in use is in one of three places when the detection stage asks for another. -/
theorem Pooled.free_ne_nil {w : Worker DetectionStage} {frame : Captured}
    (H : l.Pooled count size room) (hcount : room + PipelineSettings.poolHeadroom ≤ count)
    (hw : l.detection = some w) (hp : w.stage.phase = .acquiring frame) :
    l.plant.pool.free ≠ [] := by
  intro hfree
  have hsum := H.length_free
  have hpers := l.length_persistenceBuffers
  have hprev : w.stage.buffers.length ≤ 1 := by
    rw [DetectionStage.buffers, hp]
    exact Option.length_toList_le
  have hqueue := H.bounded
  rw [hfree, List.length_append, detectionBuffers_of_some hw] at hsum
  simp only [PipelineSettings.poolHeadroom, List.length_nil] at hcount hsum
  omega

variable [Camera κ] [ImageSink σ]

/-- While the pool is large enough no frame is dropped for want of a slot. -/
theorem Pooled.moves (H : l.Pooled count size room)
    (hcount : room + PipelineSettings.poolHeadroom ≤ count)
    (hnone : ∀ w, l.detection = some w → w.stage.report.poolExhausted = 0) (ms : List Move) :
    (l.moves ms).Pooled count size room ∧
      ∀ w, (l.moves ms).detection = some w → w.stage.report.poolExhausted = 0 := by
  refine moves_induction (P := fun l => l.Pooled count size room ∧
    ∀ w, l.detection = some w → w.stage.report.poolExhausted = 0) ⟨H, hnone⟩ ?_ ms
  rintro l l' m ⟨H, hnone⟩ h
  refine ⟨H.move? h, fun w' hw' => ?_⟩
  cases m with
  | pass nanos => cases h; exact hnone w' hw'
  | raiseStop name =>
    cases h
    cases name with
    | capture | persistence => exact hnone w' hw'
    | detection =>
      obtain ⟨w, hw, rfl⟩ := Option.map_eq_some_iff.mp hw'
      exact hnone w hw
  | stage name =>
    cases step?_cases h with
    | capture hw hs | persistence hw hs => exact hnone w' hw'
    | detection hw hs =>
      cases hw'
      rcases hs.poolExhausted with heq | ⟨frame, pool, hphase, hacquire⟩
      · exact heq.trans (hnone _ hw)
      · rcases Plant.Pooled.acquire H hacquire with ⟨hfree, -⟩ | ⟨slot, hslot, -⟩
        · exact absurd hfree (H.free_ne_nil hcount hw hphase)
        · cases hslot

end Line
end TickCapture
