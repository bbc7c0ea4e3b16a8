import TickCapture.Proofs.Run.ConductorSteps
import TickCapture.Proofs.Stage.Ledger

/-! # What a run has stored

The ledger of a run lists the images that its sink has accepted since the run was prepared. Whatever
happens in the run, the ledger is that of the persistence stage. -/

namespace TickCapture

variable {κ σ : Type}

namespace Run

variable {settings : PipelineSettings} {r r' : Run κ σ}

/-- The image that the sink accepts in a move, if it accepts one. -/
def accepted [ImageSink σ] (r : Run κ σ) : Move → Ledger
  | .stage .persistence => r.line.persistence.elim [] (·.accepted r.line.plant)
  | _ => []

theorem accepted_of_ne [ImageSink σ] {m : Move} (h : m ≠ .stage .persistence) :
    r.accepted m = [] := by
  unfold accepted
  split
  · exact absurd rfl h
  · rfl

/-- The runs that a run can come to, with the images that the sink has accepted on the way. -/
inductive Writes [Camera κ] [ImageSink σ] (r : Run κ σ) : Ledger → Run κ σ → Prop
  | refl : Writes r [] r
  | move {images : Ledger} {r₁ r₂ : Run κ σ} {m : Move} : Writes r images r₁ →
    r₁.move? m = some r₂ → Writes r (images ++ r₁.accepted m) r₂
  | raiseStop {images : Ledger} {r₁ : Run κ σ} (name : StageName) : Writes r images r₁ →
    Writes r images { r₁ with line := r₁.line.raiseStop name }

/-- The images that the sink accepts along these moves. -/
def imagesAccepted [Camera κ] [ImageSink σ] (r : Run κ σ) : List Move → Ledger
  | [] => []
  | m :: ms =>
    match r.move? m with
    | none => imagesAccepted r ms
    | some r' => r.accepted m ++ imagesAccepted r' ms

namespace Writes

variable [Camera κ] [ImageSink σ] {images : Ledger}

theorem reaches (H : Writes r images r') : Reaches r r' := by
  induction H with
  | refl => exact .refl
  | move _ hmove ih => exact ih.move hmove
  | raiseStop name _ ih => exact ih.raiseStop name

theorem moves (H : Writes r images r') (ms : List Move) :
    Writes r (images ++ r'.imagesAccepted ms) (r'.moves ms) := by
  induction ms generalizing images r' with
  | nil => simpa [Run.moves, imagesAccepted] using H
  | cons m ms ih =>
    rw [Run.moves, List.foldl_cons, ← Run.moves, imagesAccepted]
    cases hmove : r'.move? m with
    | none => exact ih H
    | some r'' =>
      dsimp only
      rw [← List.append_assoc]
      exact ih (H.move hmove)

end Writes

/-- The persistence stage, once it is started, has stored the images of the ledger. -/
structure Recorded (r : Run κ σ) (images : Ledger) : Prop where
  unstarted : r.line.persistence = none → images = []
  keeps : ∀ {w}, r.line.persistence = some w → w.stage.Keeps r.settings.target.toNat images

namespace Recorded

variable {images : Ledger}

theorem congr (H : r.Recorded images) (hsettings : r'.settings = r.settings)
    (hline : r'.line.persistence = r.line.persistence) : r'.Recorded images where
  unstarted hv := H.unstarted (hline ▸ hv)
  keeps hv := hsettings ▸ H.keeps (hline ▸ hv)

theorem raiseStop (H : r.Recorded images) (stage : StageName) :
    Recorded { r with line := r.line.raiseStop stage } images := by
  cases stage with
  | capture | detection => exact H.congr rfl rfl
  | persistence =>
    refine ⟨fun hv => H.unstarted (Option.map_eq_none_iff.mp hv), fun hv => ?_⟩
    obtain ⟨w, hw, rfl⟩ := Option.map_eq_some_iff.mp hv
    have hkeeps := H.keeps hw
    exact hkeeps

theorem conductor [Camera κ] (H : r.Recorded images) (hr : Conducted settings r)
    (h : ConductorStep r r') : r'.Recorded images := by
  cases h with
  | persistenceStarts hp =>
    have hunstarted : r.line.started .persistence = false := hr.started (by rw [hp]; rfl)
    have himages : images = [] := H.unstarted (by simpa [Line.started] using hunstarted)
    constructor
    · intro hv
      cases hv
    · intro w hv
      cases hv
      rw [himages]
      exact .new r.persistenceSettings
  | asks => exact (H.raiseStop _).congr rfl rfl
  | _ => exact H.congr rfl rfl

theorem move? [Camera κ] [ImageSink σ] {m : Move} (H : r.Recorded images)
    (hr : Conducted settings r) (h : r.move? m = some r') :
    r'.Recorded (images ++ r.accepted m) := by
  have hquiet {r' : Run κ σ} (hm : m ≠ .stage .persistence) (H' : r'.Recorded images) :
      r'.Recorded (images ++ r.accepted m) := by
    rwa [accepted_of_ne hm, List.append_nil]
  cases m with
  | stage name =>
    obtain ⟨l, hl, rfl⟩ := Option.map_eq_some_iff.mp h
    cases Line.step?_cases hl with
    | capture | detection => exact hquiet nofun (H.congr rfl rfl)
    | persistence hw hs =>
      refine ⟨nofun, fun hv => ?_⟩
      cases hv
      rw [accepted, hw]
      exact hs.keeps (H.keeps hw)
  | conductor => exact hquiet nofun (H.conductor hr (conduct?_cases h))
  | interrupt | pass =>
    cases h
    exact hquiet nofun (H.congr rfl rfl)

end Recorded

theorem Writes.recorded [Camera κ] [ImageSink σ] {images : Ledger} (h : Writes r images r')
    (hr : Conducted settings r) (H : r.Recorded []) : r'.Recorded images := by
  induction h with
  | refl => exact H
  | move hwrites hmove ih => exact ih.move? (hr.reaches hwrites.reaches) hmove
  | raiseStop name _ ih => exact ih.raiseStop name

theorem Recorded.prepare [Camera κ] {host : Host} {camera : κ} {sink : σ} {epoch : Moment}
    (h : Run.prepare settings host camera sink epoch = .ok r) : r.Recorded [] := by
  obtain ⟨-, -, -, p, -, -, hline⟩ := prepare_eq_ok h
  refine ⟨fun _ => rfl, fun hv => ?_⟩
  rw [hline] at hv
  cases hv

end Run
end TickCapture
