import TickCapture.Proofs.Stage.PersistenceSteps

/-! # What the persistence stage has stored

A ledger lists the images that the sink has accepted, in that order, each with the size it stated. The
stage numbers its images from one and never stores more than were asked for. It counts an image only
when the slot of its frame has gone back, so between the two its report is one image behind the
ledger. -/

namespace TickCapture

variable {κ σ : Type}

abbrev Ledger := List (ImageRecord × Nat)

namespace Ledger

/-- Bytes of all images, as the sink stated them. -/
def bytes : Ledger → Nat
  | [] => 0
  | image :: images => image.2 + bytes images

/-- The images are numbered from one, without a gap. -/
def Numbered (images : Ledger) : Prop :=
  images.map (·.1.sequence) = List.range' 1 images.length

variable {images : Ledger}

theorem bytes_concat (images : Ledger) (record : ImageRecord) (bytes : Nat) :
    Ledger.bytes (images ++ [(record, bytes)]) = images.bytes + bytes := by
  induction images with
  | nil => exact Nat.add_comm _ _
  | cons image images ih =>
    rw [List.cons_append, Ledger.bytes, Ledger.bytes, ih, Nat.add_assoc]

theorem Numbered.concat {record : ImageRecord} (H : images.Numbered)
    (h : record.sequence = images.length + 1) (bytes : Nat) :
    Ledger.Numbered (images ++ [(record, bytes)]) := by
  unfold Numbered at H ⊢
  rw [List.map_append, H, List.length_append, List.length_singleton, List.range'_concat,
    List.map_singleton, h, Nat.one_mul, Nat.add_comm]

end Ledger

/-- The image that the sink accepts in a step of the stage, if it accepts one. -/
def Worker.accepted [ImageSink σ] (p : Plant κ σ) (w : Worker PersistenceStage) : Ledger :=
  match w.stage.request with
  | .store record =>
    match (ImageSink.store p.sink record).2 with
    | .ok bytes => [(record, bytes)]
    | .error _ => []
  | _ => []

/-- The report counts the images of a ledger and their sizes. -/
structure PersistenceReport.Counts (r : PersistenceReport) (images : Ledger) : Prop where
  written : r.framesWritten = images.length
  bytes : r.bytesWritten = images.bytes

namespace PersistenceStage

variable {target : Nat} {s : PersistenceStage} {images : Ledger}

/-- The report once the image in hand is counted. -/
def counted (s : PersistenceStage) (bytes : Nat) : PersistenceReport :=
  { s.report with
    framesWritten := s.report.framesWritten + 1
    bytesWritten := s.report.bytesWritten + bytes }

/-- The stage has stored the images of a ledger, of at most `target`. -/
structure Keeps (target : Nat) (s : PersistenceStage) (images : Ledger) : Prop where
  target_eq : s.report.target = target
  numbered : images.Numbered
  length_le : images.length ≤ target
  written_le : s.report.framesWritten ≤ images.length
  counts : match s.phase with
    | .checking | .receiving | .skipping _ | .timing _ =>
      s.report.Counts images ∧ images.length < target
    | .storing _ record =>
      s.report.Counts images ∧ images.length < target ∧ record.sequence = images.length + 1
    | .releasing _ bytes => (s.counted bytes).Counts images
    | .dropping _ ending | .leaving ending | .ended ending =>
      ∀ report, ending = .finished report → report = s.report ∧ report.Counts images

end PersistenceStage

theorem Ending.afterFault_ne_finished {ρ : Type} (ending : Ending ρ) (fault : Fault) (report : ρ) :
    ending.afterFault fault ≠ .finished report := by
  cases ending <;> nofun

namespace PersistenceStage.Keeps

variable {target : Nat} {s : PersistenceStage} {images : Ledger}

/-- A stage that has reached its target leaves; any other one goes on. -/
theorem nextRound (htarget : s.report.target = target) (hnumbered : images.Numbered)
    (hle : images.length ≤ target) (hcounts : s.report.Counts images) :
    s.nextRound.Keeps target images := by
  have hwritten : s.report.framesWritten ≤ images.length := Nat.le_of_eq hcounts.written
  unfold PersistenceStage.nextRound
  split
  · refine ⟨htarget, hnumbered, hle, hwritten, fun report hreport => ?_⟩
    cases hreport
    exact ⟨rfl, hcounts⟩
  · next hreached =>
    refine ⟨htarget, hnumbered, hle, hwritten, hcounts, ?_⟩
    have hlt : s.report.framesWritten < s.report.target := by
      simpa [PersistenceReport.reachedTarget] using hreached
    rwa [← hcounts.written, ← htarget]

theorem new (settings : PersistenceSettings) :
    (PersistenceStage.new settings).Keeps settings.target [] :=
  nextRound rfl rfl (Nat.zero_le _) ⟨rfl, rfl⟩

/-- A sum of sizes that does not fit ends the stage; the image is counted all the same. -/
theorem count (H : s.Keeps target images) {bytes : Nat} (h : (s.counted bytes).Counts images) :
    (s.count bytes).Keeps target images := by
  unfold PersistenceStage.count
  dsimp only
  split
  · exact nextRound H.target_eq H.numbered H.length_le h
  · refine ⟨H.target_eq, H.numbered, H.length_le, Nat.le_of_eq h.written, fun report hreport => ?_⟩
    cases hreport

/-- On the way out only an ending that reports something has to agree with the ledger. -/
theorem enter (H : s.Keeps target images) {phase : PersistencePhase}
    (h : match phase with
      | .dropping _ ending | .leaving ending | .ended ending =>
        ∀ report, ending = .finished report → report = s.report ∧ report.Counts images
      | _ => False) : (s.enter phase).Keeps target images := by
  refine ⟨H.target_eq, H.numbered, H.length_le, H.written_le, ?_⟩
  cases phase <;> first | exact h | exact h.elim

/-- A stage between two images leaves with its report. -/
theorem finish (H : s.Keeps target images) (h : s.report.Counts images) :
    s.finish.Keeps target images :=
  H.enter fun report hreport => by
    cases hreport
    exact ⟨rfl, h⟩

end PersistenceStage.Keeps

namespace Worker

variable [ImageSink σ] {p : Plant κ σ} {w : Worker PersistenceStage}

theorem accepted_of_ne (h : ∀ record, w.stage.request ≠ .store record) : w.accepted p = [] := by
  unfold accepted
  split
  · exact absurd ‹_› (h _)
  · rfl

theorem accepted_of_storing {frame : PooledBuffer} {record : ImageRecord}
    (hp : w.stage.phase = .storing frame record) : w.accepted p =
      match (ImageSink.store p.sink record).2 with
      | .ok bytes => [(record, bytes)]
      | .error _ => [] := by
  simp only [accepted, PersistenceStage.request, hp]

end Worker

/-- One step of the stage: the ledger grows by the image that the sink accepts in it. -/
theorem PersistenceStep.keeps [ImageSink σ] {p p' : Plant κ σ} {w : Worker PersistenceStage}
    {s : PersistenceStage} {target : Nat} {images : Ledger} (hstep : PersistenceStep p w p' s)
    (H : w.stage.Keeps target images) : s.Keeps target (images ++ w.accepted p) := by
  have hcounts := H.counts
  -- what most steps do: nothing is stored
  have hquiet {s : PersistenceStage} (hne : ∀ record, w.stage.request ≠ .store record)
      (hs : s.Keeps target images) : s.Keeps target (images ++ w.accepted p) := by
    rwa [Worker.accepted_of_ne hne, List.append_nil]
  have hrefused {s : PersistenceStage} {frame : PooledBuffer} {record : ImageRecord}
      {trouble : Trouble SinkError} (hp : w.stage.phase = .storing frame record)
      (hstore : (ImageSink.store p.sink record).2 = .error trouble) (hs : s.Keeps target images) :
      s.Keeps target (images ++ w.accepted p) := by
    rwa [Worker.accepted_of_storing hp, hstore, List.append_nil]
  cases hstep with
  | stops hp | inboxClosed hp =>
    rw [hp] at hcounts
    exact hquiet (by simp [PersistenceStage.request, hp]) (H.finish hcounts.1)
  | proceeds hp | accepts hp | skips hp =>
    rw [hp] at hcounts
    exact hquiet (by simp [PersistenceStage.request, hp])
      ⟨H.target_eq, H.numbered, H.length_le, H.written_le, ⟨hcounts.1.1, hcounts.1.2⟩, hcounts.2⟩
  | waits hp | releasesSkipped hp =>
    rw [hp] at hcounts
    exact hquiet (by simp [PersistenceStage.request, hp])
      (.nextRound H.target_eq H.numbered H.length_le hcounts.1)
  | skippedRefused hp | timeless hp | releaseRefused hp =>
    refine hquiet (by simp [PersistenceStage.request, hp]) (H.enter fun report hreport => ?_)
    cases hreport
  | @times frame time hp =>
    rw [hp] at hcounts
    refine hquiet (by simp [PersistenceStage.request, hp])
      ⟨H.target_eq, H.numbered, H.length_le, H.written_le, hcounts.1, hcounts.2, ?_⟩
    exact congrArg (· + 1) hcounts.1.written
  | @stores sink frame record bytes hp hstore =>
    rw [hp] at hcounts
    obtain ⟨⟨hwritten, hbytes⟩, hlt, hsequence⟩ := hcounts
    have haccepted : w.accepted p = [(record, bytes)] := by
      rw [Worker.accepted_of_storing hp, hstore]
    have hlength : (images ++ [(record, bytes)]).length = images.length + 1 := by
      simp
    rw [haccepted]
    refine ⟨H.target_eq, H.numbered.concat hsequence bytes, ?_, ?_, ?_, ?_⟩
    · rw [hlength]
      exact hlt
    · rw [hlength]
      exact Nat.le_succ_of_le H.written_le
    · rw [hlength, ← hwritten]
      rfl
    · rw [Ledger.bytes_concat, ← hbytes]
      rfl
  | storeFails hp hstore | storeFaults hp hstore =>
    refine hrefused hp (by rw [hstore]) (H.enter fun report hreport => ?_)
    cases hreport
  | releases hp =>
    rw [hp] at hcounts
    exact hquiet (by simp [PersistenceStage.request, hp]) (H.count hcounts)
  | drops hp | leaves hp =>
    rw [hp] at hcounts
    exact hquiet (by simp [PersistenceStage.request, hp]) (H.enter hcounts)
  | dropFaults hp | leaveFaults hp =>
    refine hquiet (by simp [PersistenceStage.request, hp]) (H.enter fun report hreport => ?_)
    exact absurd hreport (Ending.afterFault_ne_finished _ _ report)

end TickCapture
