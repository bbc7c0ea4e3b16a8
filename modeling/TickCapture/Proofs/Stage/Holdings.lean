import TickCapture.Proofs.Detect.Conversion
import TickCapture.Proofs.Pool.Accounts
import TickCapture.Proofs.Stage.PersistenceSteps

/-! # What the stages hold

A stage holds captured frames, each with a camera buffer, and converted frames, each with a slot of
the pool. The detection stage holds converted frames in two places, since its detector keeps one.

No function of a stage loses or doubles what the stage holds: the lemmas on `takeIn`, `convert`,
`detect` and the ways out say where it goes. -/

namespace TickCapture

/-- The captured frame in the hands of the stage. -/
def CapturePhase.frames : CapturePhase → List Captured
  | .sending frame | .blocked frame | .rejecting frame | .closing frame => [frame]
  | _ => []

namespace DetectionPhase

/-- The captured frame in the hands of the stage. -/
def frames : DetectionPhase → List Captured
  | .acquiring frame | .exhausted frame | .returning frame _ | .discarding frame _ => [frame]
  | .dropping _ frame _ => frame.toList
  | _ => []

/-- The converted frame in the hands of the stage, besides the one that the detector keeps. -/
def buffers : DetectionPhase → List PooledBuffer
  | .returning _ buffer | .sending buffer | .blocked buffer | .releasing buffer _
  | .dropping buffer _ _ => [buffer]
  | _ => []

end DetectionPhase

def PersistencePhase.buffers : PersistencePhase → List PooledBuffer
  | .skipping frame | .timing frame | .storing frame _ | .releasing frame _
  | .dropping frame _ => [frame]
  | _ => []

namespace CaptureStage

@[simp] theorem frames_afterFrame (s : CaptureStage) : s.afterFrame.phase.frames = [] := by
  unfold afterFrame
  split <;> rfl

end CaptureStage

namespace PersistenceStage

@[simp] theorem buffers_nextRound (s : PersistenceStage) : s.nextRound.phase.buffers = [] := by
  unfold nextRound
  split <;> rfl

@[simp] theorem buffers_count (s : PersistenceStage) (bytes : Nat) :
    (s.count bytes).phase.buffers = [] := by
  unfold count
  dsimp only
  split
  · exact buffers_nextRound _
  · rfl

end PersistenceStage

/-! ### The detector -/

namespace TickDetector

variable {α : Type} [Scale α]

/-- What the detector can do with a frame. -/
inductive ProcessCase (d : TickDetector α) (b : PooledBuffer) : TickDetector α → Detection → Prop
  | seeded {d' : TickDetector α} : d.previous = none → d'.previous = some b →
    ProcessCase d b d' .seeded
  | displaced {d' : TickDetector α} {previous : PooledBuffer} {tick : Bool} :
    d.previous = some previous → d'.previous = some b →
    ProcessCase d b d'
      (.displaced (if tick then { previous with selected := true } else previous))
  | rejected {e : DetectError} : ProcessCase d b d (.rejected e b)

theorem process_cases {d d' : TickDetector α} {b : PooledBuffer} {out : Detection}
    (h : d.process b = (d', out)) : ProcessCase d b d' out := by
  unfold process at h
  split at h
  · next hprev =>
    split at h <;> cases h
    · exact .rejected
    · exact .seeded hprev rfl
  · next previous hprev =>
    split at h <;> cases h
    · exact .rejected
    · exact .displaced hprev rfl

theorem process_of_none {d : TickDetector α} {b : PooledBuffer} (h : d.previous = none)
    (hb : b.len ≠ 0) :
    ∃ d', d.process b = (d', .seeded) ∧ d'.previous = some b ∧ d'.expectedLen = b.len := by
  simp only [process, h, hb, if_false]
  exact ⟨_, rfl, rfl, rfl⟩

theorem process_of_some {d : TickDetector α} {b previous : PooledBuffer}
    (h : d.previous = some previous) (hb : b.len = d.expectedLen) :
    ∃ d' x, d.process b = (d', .displaced x) ∧ d'.previous = some b ∧
      d'.expectedLen = d.expectedLen := by
  simp only [process, h, hb, ne_eq, not_true_eq_false, if_false]
  exact ⟨_, _, rfl, rfl, rfl⟩

end TickDetector

namespace DetectionStage

variable {s : DetectionStage}

/-- All converted frames that the stage holds. -/
def buffers (s : DetectionStage) : List PooledBuffer :=
  s.phase.buffers ++ s.detector.previous.toList

/-- The stage turns to the frame with its conversion in hand, or lets the slot go again. -/
theorem convert_cases (s : DetectionStage) (frame : Captured) (slot : PooledBuffer) :
    (∃ b, s.convert frame slot = s.enter (.returning frame b)) ∨
      ∃ ending, s.convert frame slot = s.enter (.dropping slot (some frame) ending) := by
  unfold convert
  split
  · exact .inr ⟨_, rfl⟩
  · exact .inr ⟨_, rfl⟩
  · split
    · exact .inr ⟨_, rfl⟩
    · exact .inl ⟨_, rfl⟩

theorem forget_cases (s : DetectionStage) (ending : Ending DetectionReport) :
    s.forget ending = s.enter (.forgetting ending) ∨
      s.forget ending = s.enter (.ended ending) := by
  unfold forget
  split
  · exact .inl rfl
  · exact .inr rfl

@[simp] theorem frames_takeIn (s : DetectionStage) (frame : Captured) :
    (s.takeIn frame).phase.frames = [frame] := by
  unfold takeIn
  dsimp only
  split <;> rfl

@[simp] theorem buffers_takeIn (s : DetectionStage) (frame : Captured) :
    (s.takeIn frame).buffers = s.detector.previous.toList := by
  unfold takeIn
  dsimp only
  split <;> rfl

@[simp] theorem frames_convert (s : DetectionStage) (frame : Captured) (slot : PooledBuffer) :
    (s.convert frame slot).phase.frames = [frame] := by
  obtain ⟨b, h⟩ | ⟨ending, h⟩ := s.convert_cases frame slot <;> rw [h] <;> rfl

theorem convert_of_ok {s : DetectionStage} {frame : Captured} {slot : PooledBuffer} {data : Bytes}
    {len : Nat} (hdata : slot.data = some data)
    (hlen : conversionLen frame.bytes frame.format data.size = .ok len) :
    s.convert frame slot = s.enter (.returning frame
      { slot with data := some (convertedBytes frame.bytes frame.format data), len }) := by
  have hle : len ≤ data.size := (conversionLen_eq_ok hlen).2
  have hrgb : toRgb frame.bytes frame.format slot.whole =
      .ok (convertedBytes frame.bytes frame.format data, len) := by
    rw [PooledBuffer.whole, hdata, Option.getD_some, toRgb_eq, hlen]
    rfl
  simp only [convert, hrgb, PooledBuffer.setLen, PooledBuffer.withData, PooledBuffer.capacity,
    hdata, Option.map_some, size_convertedBytes, hle, if_true]

/-- The slot that was acquired is in hand after the conversion, with other contents. -/
theorem buffers_convert {p : Pool} {slot : PooledBuffer} (s : DetectionStage) (frame : Captured)
    (ho : p.Owns slot) : ∃ b, (s.convert frame slot).buffers = b :: s.detector.previous.toList ∧
      b.slot = slot.slot ∧ p.Owns b := by
  unfold convert
  split
  · exact ⟨slot, rfl, rfl, ho⟩
  · exact ⟨slot, rfl, rfl, ho⟩
  · next rgb written hrgb =>
    split
    · exact ⟨slot, rfl, rfl, ho⟩
    · next converted hlen =>
      refine ⟨converted, rfl, ?_⟩
      obtain ⟨hhome, data, hdata, hsize⟩ := ho
      unfold PooledBuffer.setLen at hlen
      split at hlen
      · cases hlen
        refine ⟨rfl, hhome, rgb, by simp [PooledBuffer.withData, hdata], ?_⟩
        rw [(toRgb_eq_ok hrgb).1, size_convertedBytes, PooledBuffer.whole, hdata, Option.getD_some,
          hsize]
      · cases hlen

@[simp] theorem buffers_forget (s : DetectionStage) (ending : Ending DetectionReport) :
    (s.forget ending).buffers = s.detector.previous.toList := by
  obtain h | h := s.forget_cases ending <;> rw [h] <;> rfl

@[simp] theorem frames_forget (s : DetectionStage) (ending : Ending DetectionReport) :
    (s.forget ending).phase.frames = [] := by
  obtain h | h := s.forget_cases ending <;> rw [h] <;> rfl

@[simp] theorem settings_takeIn (s : DetectionStage) (frame : Captured) :
    (s.takeIn frame).settings = s.settings := by
  unfold takeIn
  dsimp only
  split <;> rfl

@[simp] theorem settings_convert (s : DetectionStage) (frame : Captured) (slot : PooledBuffer) :
    (s.convert frame slot).settings = s.settings := by
  obtain ⟨b, h⟩ | ⟨ending, h⟩ := s.convert_cases frame slot <;> rw [h] <;> rfl

theorem poolExhausted_takeIn (s : DetectionStage) (frame : Captured) :
    (s.takeIn frame).report.poolExhausted = s.report.poolExhausted := by
  unfold takeIn
  dsimp only
  split <;> rfl

theorem poolExhausted_convert (s : DetectionStage) (frame : Captured) (slot : PooledBuffer) :
    (s.convert frame slot).report.poolExhausted = s.report.poolExhausted := by
  obtain ⟨b, h⟩ | ⟨ending, h⟩ := s.convert_cases frame slot <;> rw [h] <;> rfl

/-- A displaced frame is sent on if it is selected, or if all are; otherwise it is released. -/
theorem afterDisplaced_eq (s : DetectionStage) (x : PooledBuffer) :
    s.afterDisplaced x = { s with
      report.ticks := if x.selected then s.report.ticks + 1 else s.report.ticks
      phase := if x.selected || s.settings.forwardAll then .sending x else .releasing x false } := by
  unfold afterDisplaced enter
  cases x.selected <;> cases hall : s.settings.forwardAll <;> simp [hall]

inductive DetectCase (s : DetectionStage) (b : PooledBuffer) : DetectionStage → Prop
  | seeded {d : TickDetector Float} : s.detector.process b = (d, .seeded) →
    DetectCase s b { s with
      detector := d, report.converted := s.report.converted + 1, phase := .checking }
  | displaced {d : TickDetector Float} {x : PooledBuffer} :
    s.detector.process b = (d, .displaced x) →
    DetectCase s b { s with
      detector := d
      report := { s.report with
        converted := s.report.converted + 1
        ticks := if x.selected then s.report.ticks + 1 else s.report.ticks }
      phase := if x.selected || s.settings.forwardAll then .sending x else .releasing x false }
  | rejected {d : TickDetector Float} {e : DetectError} {x : PooledBuffer} :
    s.detector.process b = (d, .rejected e x) →
    DetectCase s b { s with
      detector := d
      report.converted := s.report.converted + 1
      phase := .dropping x none (.failed (.of (.detect e))) }

theorem detect_cases (s : DetectionStage) (b : PooledBuffer) : DetectCase s b (s.detect b) := by
  unfold detect
  dsimp only
  split
  · next hout => exact .seeded (Prod.ext rfl hout)
  · next x hout =>
    rw [afterDisplaced_eq]
    exact .displaced (Prod.ext rfl hout)
  · next hout => exact .rejected (Prod.ext rfl hout)

@[simp] theorem frames_detect (s : DetectionStage) (b : PooledBuffer) :
    (s.detect b).phase.frames = [] := by
  have hcase := detect_cases s b
  generalize s.detect b = s' at hcase ⊢
  cases hcase with
  | seeded hproc => rfl
  | displaced hproc => dsimp only; split <;> rfl
  | rejected hproc => rfl

@[simp] theorem settings_detect (s : DetectionStage) (b : PooledBuffer) :
    (s.detect b).settings = s.settings := by
  have hcase := detect_cases s b
  generalize s.detect b = s' at hcase ⊢
  cases hcase <;> rfl

theorem poolExhausted_detect (s : DetectionStage) (b : PooledBuffer) :
    (s.detect b).report.poolExhausted = s.report.poolExhausted := by
  have hcase := detect_cases s b
  generalize s.detect b = s' at hcase ⊢
  cases hcase <;> rfl

/-- A converted frame goes to the detector, and what it displaces comes into hand. -/
theorem accounts_detect {p : Pool} {b : PooledBuffer} {rest : List PooledBuffer}
    (H : p.Accounts (b :: (s.detector.previous.toList ++ rest))) :
    p.Accounts ((s.detect b).buffers ++ rest) := by
  have hcase := detect_cases s b
  generalize s.detect b = s' at hcase ⊢
  cases hcase with
  | seeded hproc =>
    cases TickDetector.process_cases hproc with
    | seeded hprev hprev' => simpa [buffers, hprev', DetectionPhase.buffers, hprev] using H
  | @displaced d x hproc =>
    have hhand : (if x.selected || s.settings.forwardAll then DetectionPhase.sending x
        else .releasing x false).buffers = [x] := by
      split <;> rfl
    generalize hx : Detection.displaced x = out at hproc
    cases TickDetector.process_cases hproc with
    | @displaced _ previous tick hprev hprev' =>
      obtain rfl := Detection.displaced.inj hx
      rw [hprev] at H
      simp only [buffers, hhand, hprev']
      refine (H.perm (.swap _ _ _)).replace ?_ ?_
      · cases tick <;> rfl
      · have := H.owned previous (by simp)
        cases tick <;> exact this
    | seeded | rejected => cases hx
  | rejected hproc =>
    cases TickDetector.process_cases hproc with
    | rejected => simpa [buffers, DetectionPhase.buffers] using H

end DetectionStage
end TickCapture
