import TickCapture.Proofs.Line.Buffers
import TickCapture.Proofs.Line.Reference
import TickCapture.Proofs.Tracking.Capture

/-! # Where the frames of a sequence are: the persistence stage

The stage hands the frames it receives to its sink one after another, under their numbers. It counts an
image only when the slot of its frame has gone back, so between the two it is one ahead of its count. -/

namespace TickCapture

variable {κ σ : Type}

def PersistencePhase.retired : PersistencePhase → Bool
  | .dropping .. | .leaving _ | .ended _ => true
  | _ => false

namespace PersistenceStage

/-- The images of frames with these contents. -/
def pictures (s : PersistenceStage) (contents : List (Bytes × Nat × Bool)) : List Picture :=
  numbered s.settings.width s.settings.height (contents.map Prod.fst)

theorem pictures_concat (s : PersistenceStage) (contents : List (Bytes × Nat × Bool))
    (x : PooledBuffer) : s.pictures (contents ++ [x.content]) = s.pictures contents ++
      [⟨contents.length + 1, s.settings.width, s.settings.height, x.bytes⟩] := by
  rw [pictures, pictures, List.map_append, List.map_singleton, numbered_concat, List.length_map]
  rfl

theorem pictures_mono (s : PersistenceStage) {contents contents' : List (Bytes × Nat × Bool)}
    (h : contents <+: contents') : s.pictures contents <+: s.pictures contents' :=
  numbered_mono (h.map _)

/-- The stage has received frames with the contents `seen`, and handed the images `handed` to its
sink. -/
def Tracks (s : PersistenceStage) (seen : List (Bytes × Nat × Bool)) (handed : List Picture) :
    Prop :=
  match s.phase with
  | .checking | .receiving => handed = s.pictures seen ∧ s.report.framesWritten = seen.length
  | .skipping _ => False
  | .timing x => ∃ before, seen = before ++ [x.content] ∧ handed = s.pictures before ∧
      s.report.framesWritten = before.length
  | .storing x record => ∃ before, seen = before ++ [x.content] ∧ handed = s.pictures before ∧
      s.report.framesWritten = before.length ∧ record.picture =
        ⟨before.length + 1, s.settings.width, s.settings.height, x.bytes⟩
  | .releasing x _ => ∃ before, seen = before ++ [x.content] ∧ handed = s.pictures seen ∧
      s.report.framesWritten = before.length
  | .dropping .. | .leaving _ | .ended _ => handed <+: s.pictures seen

variable {s : PersistenceStage} {seen : List (Bytes × Nat × Bool)} {handed : List Picture}

namespace Tracks

theorem handed_prefix_pictures (H : s.Tracks seen handed) : handed <+: s.pictures seen := by
  unfold Tracks at H
  split at H
  · exact H.1 ▸ List.prefix_rfl
  · exact H.1 ▸ List.prefix_rfl
  · exact H.elim
  · obtain ⟨before, rfl, rfl, -⟩ := H
    exact s.pictures_mono (List.prefix_append _ _)
  · obtain ⟨before, rfl, rfl, -⟩ := H
    exact s.pictures_mono (List.prefix_append _ _)
  · obtain ⟨before, -, rfl, -⟩ := H
    exact List.prefix_rfl
  all_goals exact H

/-- Between two images everything received has been handed over and counted. -/
theorem caughtUp (H : s.Tracks seen handed) (hp : s.phase = .checking ∨ s.phase = .receiving) :
    handed = s.pictures seen ∧ s.report.framesWritten = seen.length := by
  obtain hp | hp := hp
  · simpa [Tracks, hp] using H
  · simpa [Tracks, hp] using H

theorem storing {x : PooledBuffer} {record : ImageRecord} (H : s.Tracks seen handed)
    (hp : s.phase = .storing x record) : ∃ before, seen = before ++ [x.content] ∧
      handed = s.pictures before ∧ s.report.framesWritten = before.length ∧
      record.picture = ⟨before.length + 1, s.settings.width, s.settings.height, x.bytes⟩ := by
  simpa [Tracks, hp] using H

/-- At the end of a round everything received has been handed over and counted. -/
theorem nextRound (hhanded : handed = s.pictures seen)
    (hcount : s.report.framesWritten = seen.length) : s.nextRound.Tracks seen handed := by
  unfold PersistenceStage.nextRound
  split
  · exact hhanded ▸ List.prefix_rfl
  · exact ⟨hhanded, hcount⟩

theorem count (hhanded : handed = s.pictures seen)
    (hcount : s.report.framesWritten + 1 = seen.length) (bytes : Nat) :
    (s.count bytes).Tracks seen handed := by
  unfold PersistenceStage.count
  dsimp only
  split
  · exact nextRound hhanded hcount
  · exact hhanded ▸ List.prefix_rfl

end Tracks

@[simp] theorem settings_nextRound (s : PersistenceStage) :
    s.nextRound.settings = s.settings := by
  unfold nextRound
  split <;> rfl

@[simp] theorem settings_count (s : PersistenceStage) (bytes : Nat) :
    (s.count bytes).settings = s.settings := by
  unfold count
  dsimp only
  split
  · exact settings_nextRound _
  · rfl

end PersistenceStage

/-- The image that the stage hands to its sink in a step, if it hands one. -/
def Worker.handed (w : Worker PersistenceStage) : List ImageRecord :=
  match w.stage.request with
  | .store record => [record]
  | _ => []

theorem Worker.handed_of_ne {w : Worker PersistenceStage}
    (h : ∀ record, w.stage.request ≠ .store record) : w.handed = [] := by
  unfold Worker.handed
  split
  · exact absurd ‹_› (h _)
  · rfl

theorem PersistenceStep.settings_eq [ImageSink σ] {p p' : Plant κ σ} {w : Worker PersistenceStage}
    {s : PersistenceStage} (h : PersistenceStep p w p' s) : s.settings = w.stage.settings := by
  cases h <;> first
    | rfl
    | exact PersistenceStage.settings_nextRound _
    | exact PersistenceStage.settings_count _ _

theorem Worker.handed_of_storing {w : Worker PersistenceStage} {x : PooledBuffer}
    {record : ImageRecord} (hp : w.stage.phase = .storing x record) : w.handed = [record] := by
  simp [Worker.handed, PersistenceStage.request, hp]

/-- A step of the persistence stage: what it receives comes out of its mailbox, and what it hands over
continues the images of what it has received. -/
theorem PersistenceStep.tracks [ImageSink σ] {p p' : Plant κ σ} {w : Worker PersistenceStage}
    {s : PersistenceStage} {given seen : List (Bytes × Nat × Bool)} {handed : List Picture}
    (hstep : PersistenceStep p w p' s) (H : w.stage.Tracks seen handed)
    (hticks : p.ticks.Fifo .tick)
    (hkeep : ∀ c ∈ given, (c.2.2 || w.stage.settings.saveAll) = true)
    (hin : Passed w.stage.phase.retired given seen (p.ticks.messages.map (·.content))) :
    ∃ seen', s.Tracks seen' (handed ++ w.handed.map (·.picture)) ∧
      Passed s.phase.retired given seen' (p'.ticks.messages.map (·.content)) := by
  have hprefix := H.handed_prefix_pictures
  -- what most steps do: nothing is received and nothing is handed over
  have hquiet {q : Plant κ σ} {s' : PersistenceStage}
      (hrequest : ∀ record, w.stage.request ≠ .store record) (hs : s'.Tracks seen handed)
      (hpass : Passed s'.phase.retired given seen (q.ticks.messages.map (·.content))) :
      ∃ seen', s'.Tracks seen' (handed ++ w.handed.map (·.picture)) ∧
        Passed s'.phase.retired given seen' (q.ticks.messages.map (·.content)) :=
    ⟨seen, by simpa [Worker.handed_of_ne hrequest] using hs, hpass⟩
  cases hstep with
  | stops hp hs | inboxClosed hp hr | timeless hp ht | drops hp hd | dropFaults hp hd
  | leaves hp hc | leaveFaults hp hc | releaseRefused hp hb =>
    exact hquiet (by simp [PersistenceStage.request, hp]) hprefix hin.leave
  | proceeds hp hs =>
    have hdone := H.caughtUp (.inl hp)
    rw [hp] at hin
    exact hquiet (by simp [PersistenceStage.request, hp]) hdone hin
  | waits hp hr he =>
    have hdone := H.caughtUp (.inr hp)
    rw [hp] at hin
    exact hquiet (by simp [PersistenceStage.request, hp]) (.nextRound hdone.1 hdone.2)
      (.of_eq (hin.given_eq rfl))
  | @accepts ticks x hp hr hk =>
    have hdone := H.caughtUp (.inr hp)
    obtain ⟨-, hmessages⟩ := hticks.got hr
    rw [hp, hmessages, List.map_cons] at hin
    refine ⟨seen ++ [x.content], ⟨seen, rfl, ?_, hdone.2⟩, hin.take⟩
    rw [Worker.handed_of_ne (by simp [PersistenceStage.request, hp]), List.map_nil, List.append_nil]
    exact hdone.1
  | @skips ticks x hp hr hk =>
    obtain ⟨-, hmessages⟩ := hticks.got hr
    have hgiven := hin.given_eq (by rw [hp]; rfl)
    have hx := hkeep x.content (by simp [hgiven, hmessages])
    rw [show x.content.2.2 = x.selected from rfl, hk] at hx
    cases hx
  | releasesSkipped hp hb | skippedRefused hp hb =>
    simp [PersistenceStage.Tracks, hp] at H
  | @times x time hp ht =>
    obtain ⟨before, hseen, hhanded, hcount⟩ : ∃ before, seen = before ++ [x.content] ∧
        handed = w.stage.pictures before ∧ w.stage.report.framesWritten = before.length := by
      simpa [PersistenceStage.Tracks, hp] using H
    rw [hp] at hin
    refine hquiet (by simp [PersistenceStage.request, hp]) ⟨before, hseen, hhanded, hcount, ?_⟩ hin
    rw [← hcount]
    rfl
  | @stores sink x record bytes hp hst =>
    obtain ⟨before, rfl, hhanded, hcount, hrecord⟩ := H.storing hp
    rw [hp] at hin
    refine ⟨_, ⟨before, rfl, ?_, hcount⟩, hin⟩
    rw [Worker.handed_of_storing hp, List.map_singleton, hrecord, hhanded]
    exact (w.stage.pictures_concat before x).symm
  | @storeFails sink x record e hp hst =>
    obtain ⟨before, rfl, hhanded, hcount, hrecord⟩ := H.storing hp
    refine ⟨_, ?_, hin.leave⟩
    rw [Worker.handed_of_storing hp, List.map_singleton, hrecord, hhanded,
      ← w.stage.pictures_concat before x]
    exact List.prefix_rfl
  | @storeFaults sink x record fault hp hst =>
    obtain ⟨before, rfl, hhanded, hcount, hrecord⟩ := H.storing hp
    refine ⟨_, ?_, hin.leave⟩
    rw [Worker.handed_of_storing hp, List.map_singleton, hrecord, hhanded,
      ← w.stage.pictures_concat before x]
    exact List.prefix_rfl
  | @releases pool x bytes hp hb =>
    obtain ⟨before, hseen, hhanded, hcount⟩ : ∃ before, seen = before ++ [x.content] ∧
        handed = w.stage.pictures seen ∧ w.stage.report.framesWritten = before.length := by
      simpa [PersistenceStage.Tracks, hp] using H
    rw [hp] at hin
    refine hquiet (by simp [PersistenceStage.request, hp]) (.count hhanded ?_ bytes)
      (.of_eq (hin.given_eq rfl))
    rw [hseen, List.length_append, List.length_singleton, ← hcount]

end TickCapture
