import TickCapture.Pipeline.Line
import TickCapture.Proofs.Stage.Holdings

/-! # Interleavings of the stages

A move of a line is a step of a stage, a stop request to a stage, or the passing of time. Every
sequence of moves is an interleaving: those that cannot be made are left out. What one move preserves
holds along all of them (`moves_induction`), and what a step of a stage can come to is listed by
`step?_cases`. -/

namespace TickCapture
namespace Line

variable {κ σ : Type}

/-- What can happen next on a line. -/
inductive Move where
  | stage (name : StageName)
  | raiseStop (name : StageName)
  | pass (nanos : Nat)
  deriving DecidableEq, Repr

/-- Makes a move; none if the stage to make it is waiting, has ended or was never started. -/
def move? [Camera κ] [ImageSink σ] (l : Line κ σ) : Move → Option (Line κ σ)
  | .stage name => l.step? name
  | .raiseStop name => some (l.raiseStop name)
  | .pass nanos => some (l.pass nanos)

/-- Makes moves one after another; those that cannot be made are left out. -/
def moves [Camera κ] [ImageSink σ] (l : Line κ σ) (ms : List Move) : Line κ σ :=
  ms.foldl (fun l m => (l.move? m).getD l) l

/-- What a step of a stage does to the line. -/
inductive StepCase [Camera κ] [ImageSink σ] (l : Line κ σ) : StageName → Line κ σ → Prop
  | capture {p : Plant κ σ} {w : Worker CaptureStage} {s : CaptureStage} :
    l.capture = some w → CaptureStep l.plant w p s →
    StepCase l .capture { l with plant := p, capture := some ⟨s, p.clock, w.stop⟩ }
  | detection {p : Plant κ σ} {w : Worker DetectionStage} {s : DetectionStage} :
    l.detection = some w → DetectionStep l.plant w p s →
    StepCase l .detection { l with plant := p, detection := some ⟨s, p.clock, w.stop⟩ }
  | persistence {p : Plant κ σ} {w : Worker PersistenceStage} {s : PersistenceStage} :
    l.persistence = some w → PersistenceStep l.plant w p s →
    StepCase l .persistence { l with plant := p, persistence := some ⟨s, p.clock, w.stop⟩ }

variable [Camera κ] [ImageSink σ] {l l' l'' : Line κ σ}

theorem step?_cases {name : StageName} (h : l.step? name = some l') : StepCase l name l' := by
  cases name with
  | capture =>
    obtain ⟨w, hw, h⟩ := Option.bind_eq_some_iff.mp h
    obtain ⟨⟨p, w'⟩, hstep, hl⟩ := Option.bind_eq_some_iff.mp h
    obtain ⟨s, rfl, hs⟩ := Worker.stepCapture?_cases hstep
    cases hl
    exact .capture hw hs
  | detection =>
    obtain ⟨w, hw, h⟩ := Option.bind_eq_some_iff.mp h
    obtain ⟨⟨p, w'⟩, hstep, hl⟩ := Option.bind_eq_some_iff.mp h
    obtain ⟨s, rfl, hs⟩ := Worker.stepDetection?_cases hstep
    cases hl
    exact .detection hw hs
  | persistence =>
    obtain ⟨w, hw, h⟩ := Option.bind_eq_some_iff.mp h
    obtain ⟨⟨p, w'⟩, hstep, hl⟩ := Option.bind_eq_some_iff.mp h
    obtain ⟨s, rfl, hs⟩ := Worker.stepPersistence?_cases hstep
    cases hl
    exact .persistence hw hs

/-- What every move preserves is preserved along all moves. -/
theorem moves_induction {P : Line κ σ → Prop} (H : P l)
    (hmove : ∀ {l l' : Line κ σ} {m : Move}, P l → l.move? m = some l' → P l') (ms : List Move) :
    P (l.moves ms) := by
  induction ms generalizing l with
  | nil => exact H
  | cons m ms ih =>
    rw [moves, List.foldl_cons, ← moves]
    cases h : l.move? m with
    | none => exact ih H
    | some l' => exact ih (hmove H h)

theorem moves_append (l : Line κ σ) (ms ms' : List Move) :
    l.moves (ms ++ ms') = (l.moves ms).moves ms' := List.foldl_append ..

/-! ### Moves that lead somewhere -/

/-- Some moves lead from `l` to `l'`. -/
def Leads (l l' : Line κ σ) : Prop := ∃ ms, l.moves ms = l'

namespace Leads

theorem refl (l : Line κ σ) : Leads l l := ⟨[], rfl⟩

theorem trans (H : Leads l l') (H' : Leads l' l'') : Leads l l'' := by
  obtain ⟨ms, rfl⟩ := H
  obtain ⟨ms', rfl⟩ := H'
  exact ⟨ms ++ ms', l.moves_append ms ms'⟩

theorem single {m : Move} (h : l.move? m = some l') : Leads l l' :=
  ⟨[m], by simp [moves, h]⟩

theorem detection {w : Worker DetectionStage} (p : Plant κ σ) (answer : DetectionAnswer)
    (hw : l.detection = some w) (h : l.plant.answerDetection? w = some (p, answer)) :
    Leads l { l with plant := p, detection := some ⟨w.stage.resume answer, p.clock, w.stop⟩ } :=
  single (m := .stage .detection) (by simp [move?, step?, hw, Worker.stepDetection?, h])

theorem persistence {w : Worker PersistenceStage} (p : Plant κ σ) (answer : PersistenceAnswer)
    (hw : l.persistence = some w) (h : l.plant.answerPersistence? w = some (p, answer)) :
    Leads l { l with plant := p, persistence := some ⟨w.stage.resume answer, p.clock, w.stop⟩ } :=
  single (m := .stage .persistence) (by simp [move?, step?, hw, Worker.stepPersistence?, h])

end Leads
end Line
end TickCapture
