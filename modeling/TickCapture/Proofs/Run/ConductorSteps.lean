import TickCapture.Pipeline.Run
import TickCapture.Proofs.Except
import TickCapture.Proofs.Line.Stopping

/-! # The steps of the conductor

`ConductorStep r r'` lists what one step of the conductor can come to; whatever is said of all its
steps goes through these cases. From it follows what the conductor knows of the stages in each phase
(`Conducted`): which of them have been started, which have been asked to stop, and which have been
joined. -/

namespace TickCapture

variable {κ σ : Type}

namespace RunPhase

/-- Whether a stage has been started when the conductor comes to a phase, as far as that is known. -/
def started? : RunPhase → StageName → Option Bool
  | .startPersistence, _ => some false
  | .startDetection, name => some (name == .persistence)
  | .startStreaming, name | .startCapture, name => some (name != .capture)
  | _, _ => none

/-- Whether a stage has been joined when the conductor comes to a phase. -/
def joined : RunPhase → StageName → Bool
  | .stopDetection, name | .joinDetection, name => name == .capture
  | .stopStreaming, name | .stopPersistence, name | .joinPersistence, name => name != .persistence
  | .ended, _ => true
  | _, _ => false

/-- The stage that is to be asked to stop in a phase, and the phase after it. -/
def asks? : RunPhase → Option (StageName × RunPhase)
  | .stopCapture => some (.capture, .joinCapture)
  | .stopDetection => some (.detection, .joinDetection)
  | .stopPersistence => some (.persistence, .joinPersistence)
  | _ => none

/-- The stage that is waited for in a phase, and the phase after it. -/
def joins? : RunPhase → Option (StageName × RunPhase)
  | .joinCapture => some (.capture, .stopDetection)
  | .joinDetection => some (.detection, .stopStreaming)
  | .joinPersistence => some (.persistence, .ended)
  | _ => none

/-- Whether stages are still being started. -/
def starting : RunPhase → Bool
  | .startPersistence | .startDetection | .startStreaming | .startCapture => true
  | _ => false

variable {phase next : RunPhase} {name : StageName}

theorem starting_of_started? {known : Bool} (h : phase.started? name = some known) :
    phase.starting = true := by
  cases phase <;> first | rfl | cases h

theorem started?_capture (h : phase.starting = true) : phase.started? .capture = some false := by
  cases phase <;> first | rfl | cases h

theorem starting_of_joined (h : phase.joined name = true) : phase.starting = false := by
  cases phase <;> first | rfl | cases h

theorem of_asks? (h : phase.asks? = some (name, next)) :
    phase.starting = false ∧ next.starting = false ∧ next.joined = phase.joined ∧
      ∃ last, next.joins? = some (name, last) := by
  cases phase <;> cases h <;> exact ⟨rfl, rfl, rfl, _, rfl⟩

theorem of_joins? (h : phase.joins? = some (name, next)) :
    phase.starting = false ∧ next.starting = false ∧ next.joins? = none ∧
      ∀ other, next.joined other = true → phase.joined other = true ∨ other = name := by
  cases phase <;> cases h <;> refine ⟨rfl, rfl, rfl, fun other hjoined => ?_⟩ <;> cases other <;>
    simp [joined] at hjoined ⊢

end RunPhase

namespace Run

/-- What one step of the conductor can come to. -/
inductive ConductorStep [Camera κ] (r : Run κ σ) : Run κ σ → Prop
  | persistenceRefused {failure : Failure} : r.phase = .startPersistence →
    r.refusal? .persistence = some failure →
    ConductorStep r { r with refused := some failure, phase := .ended, startedAt := r.clock }
  | persistenceStarts : r.phase = .startPersistence → r.refusal? .persistence = none →
    ConductorStep r { r with
      line.persistence := some (.start (.new r.persistenceSettings) r.clock)
      phase := .startDetection
      startedAt := r.clock }
  /-- The host refuses the stage, or its thresholds make no detector. -/
  | detectionRefused {failure : Failure} : r.phase = .startDetection →
    (r.refusal? .detection = some failure ∨
      ∃ e, Hysteresis.make r.settings.stillThreshold r.settings.movingThreshold = .error e ∧
        failure = .of (.settings (.thresholds e))) →
    ConductorStep r (r.abandonDetection failure)
  | detectionStarts {hysteresis : Hysteresis Float} : r.phase = .startDetection →
    r.refusal? .detection = none →
    Hysteresis.make r.settings.stillThreshold r.settings.movingThreshold = .ok hysteresis →
    ConductorStep r { r with
      line.detection := some (.start (.new r.detectionSettings (.new hysteresis)) r.clock)
      phase := .startStreaming }
  | streams {camera : κ} : r.phase = .startStreaming →
    Camera.start r.line.plant.camera = (camera, none) →
    ConductorStep r ((r.withPlant { r.line.plant with camera }).enter .startCapture)
  | streamingFails {camera : κ} {e : CameraError} : r.phase = .startStreaming →
    Camera.start r.line.plant.camera = (camera, some e) →
    ConductorStep r { r.withPlant { r.line.plant with camera } with
      refused := some ⟨[.startStreaming (Camera.device r.line.plant.camera)], .camera e⟩
      phase := .stopDetection }
  | captureRefused {failure : Failure} : r.phase = .startCapture →
    r.refusal? .capture = some failure →
    ConductorStep r
      { r.withPlant { r.line.plant with frames := r.line.plant.frames.dropSender } with
        refused := some failure, phase := .stopDetection }
  | captureStarts : r.phase = .startCapture → r.refusal? .capture = none →
    ConductorStep r { r with
      line.capture := some (.start (.new r.captureSettings) r.clock)
      phase := .watching r.clock }
  | seesEnding {since : Clock} {name : StageName} : r.phase = .watching since →
    r.line.ended name = true → ConductorStep r (r.enter .stopCapture)
  | interrupted {since : Clock} : r.phase = .watching since →
    (∀ name, r.line.ended name = false) → since + exitPoll ≤ r.clock → r.interrupt = true →
    ConductorStep r
      { r.withPlant (r.line.plant.log [.warn "Pipeline: interrupted, shutting down"]) with
        interrupted := true, phase := .stopCapture }
  | watches {since : Clock} : r.phase = .watching since → (∀ name, r.line.ended name = false) →
    since + exitPoll ≤ r.clock → r.interrupt = false →
    ConductorStep r (r.enter (.watching r.clock))
  | asks {name : StageName} {next : RunPhase} : r.phase.asks? = some (name, next) →
    ConductorStep r (r.stopStage name next)
  | joins {name : StageName} {next : RunPhase} : r.phase.joins? = some (name, next) →
    r.line.Over name → ConductorStep r (r.enter next)
  /-- The capture stage has handed the camera back. -/
  | stopsStreaming {report : CaptureReport} {camera : κ} {failure : Option CameraError}
      {records : List LogRecord} : r.phase = .stopStreaming →
    r.line.captureEnding? = some (.finished report) →
    Camera.stop r.line.plant.camera = (camera, failure) →
    ConductorStep r
      ((r.withPlant ({ r.line.plant with camera }.log records)).enter .stopPersistence)
  | leavesStreaming : r.phase = .stopStreaming →
    (∀ report, r.line.captureEnding? ≠ some (.finished report)) →
    ConductorStep r (r.enter .stopPersistence)

variable {r r' : Run κ σ}

theorem joinStage?_eq_some {name : StageName} {next : RunPhase}
    (h : r.joinStage? name next = some r') : r' = r.enter next ∧ r.line.Over name := by
  unfold joinStage? at h
  split at h
  · cases h
  · next hover =>
    refine ⟨(Option.some.inj h).symm, fun hstarted => ?_⟩
    simpa [hstarted] using hover

theorem watch?_cases [Camera κ] {since : Clock} (hp : r.phase = .watching since)
    (h : r.watch? since = some r') : ConductorStep r r' := by
  unfold watch? at h
  split at h
  · next hended =>
    cases h
    rw [Bool.or_eq_true, Bool.or_eq_true] at hended
    rcases hended with (hended | hended) | hended
    · exact .seesEnding hp hended
    · exact .seesEnding hp hended
    · exact .seesEnding hp hended
  · next hrunning =>
    have hnone (name : StageName) : r.line.ended name = false := by
      simp only [Bool.or_eq_true, not_or, Bool.not_eq_true] at hrunning
      cases name with
      | capture => exact hrunning.1.1
      | detection => exact hrunning.1.2
      | persistence => exact hrunning.2
    split at h
    · cases h
    · next hdue =>
      have hdue : since + exitPoll ≤ r.clock := Nat.le_of_not_lt hdue
      split at h
      · next hinterrupt => cases h; exact .interrupted hp hnone hdue hinterrupt
      · next hinterrupt =>
        cases h
        exact .watches hp hnone hdue (Bool.eq_false_iff.mpr hinterrupt)

theorem conduct?_cases [Camera κ] (h : r.conduct? = some r') : ConductorStep r r' := by
  unfold conduct? at h
  cases hp : r.phase <;> simp only [hp] at h
  case startPersistence =>
    cases h
    unfold startPersistence
    split
    · next hrefused => exact .persistenceRefused hp hrefused
    · next hrefused => exact .persistenceStarts hp hrefused
  case startDetection =>
    cases h
    unfold startDetection
    split
    · next hrefused => exact .detectionRefused hp (.inl hrefused)
    · next hmake => exact .detectionRefused hp (.inr ⟨_, hmake, rfl⟩)
    · next hrefused hmake => exact .detectionStarts hp hrefused hmake
  case startStreaming =>
    cases h
    unfold startStreaming
    dsimp only
    split
    · next hstart => exact .streams hp hstart
    · next hstart => exact .streamingFails hp hstart
  case startCapture =>
    cases h
    unfold startCapture
    split
    · next hrefused => exact .captureRefused hp hrefused
    · next hrefused => exact .captureStarts hp hrefused
  case watching since => exact watch?_cases hp h
  case stopCapture | stopDetection | stopPersistence => cases h; exact .asks (by rw [hp]; rfl)
  case joinCapture | joinDetection | joinPersistence =>
    obtain ⟨rfl, hover⟩ := joinStage?_eq_some h
    exact .joins (by rw [hp]; rfl) hover
  case stopStreaming =>
    cases h
    unfold stopStreaming
    split
    · next hending => exact .stopsStreaming hp hending rfl
    · next hending => exact .leavesStreaming hp hending
  case ended => cases h

/-- The runs that a run can come to: the conductor and the stages take their steps in any order, time
passes, somebody interrupts the run, and the stages may be asked to stop at any moment. -/
inductive Reaches [Camera κ] [ImageSink σ] (r : Run κ σ) : Run κ σ → Prop
  | refl : Reaches r r
  | move {r₁ r₂ : Run κ σ} {m : Move} : Reaches r r₁ → r₁.move? m = some r₂ → Reaches r r₂
  | raiseStop {r₁ : Run κ σ} (name : StageName) : Reaches r r₁ →
    Reaches r { r₁ with line := r₁.line.raiseStop name }

namespace Reaches

variable [Camera κ] [ImageSink σ]

theorem moves {r₁ : Run κ σ} (H : Reaches r r₁) (ms : List Move) : Reaches r (r₁.moves ms) := by
  induction ms generalizing r₁ with
  | nil => exact H
  | cons m ms ih =>
    rw [Run.moves, List.foldl_cons, ← Run.moves]
    cases hmove : r₁.move? m with
    | none => exact ih H
    | some r₂ => exact ih (H.move hmove)

end Reaches

/-! ### What the conductor knows -/

theorem prepare_eq_ok [Camera κ] {settings : PipelineSettings} {host : Host} {camera : κ} {sink : σ}
    {epoch : Moment} (h : prepare settings host camera sink epoch = .ok r) :
    r.settings = settings ∧ r.phase = .startPersistence ∧ r.refused = none ∧
      ∃ p size, plant settings camera sink size epoch = .ok p ∧ r.line = .idle p := by
  obtain ⟨size, -, h⟩ := bind_eq_ok h
  split at h
  · cases h
  · cases h
  · next p hp =>
    cases h
    exact ⟨rfl, rfl, rfl, p, size, hp, rfl⟩

/-- The stages are where the conductor takes them to be. -/
structure Conducted (settings : PipelineSettings) (r : Run κ σ) : Prop where
  settings_eq : r.settings = settings
  started : ∀ {name known}, r.phase.started? name = some known → r.line.started name = known
  asked : ∀ {name next}, r.phase.joins? = some (name, next) → r.line.asked name = true
  joined : ∀ {name}, r.phase.joined name = true → r.line.Over name
  unrefused : r.phase.starting = true → r.refused = none
  /-- Once no more stages are started, all of them have been, or one was refused. -/
  complete : r.phase.starting = false → (r.refused = none ↔ ∀ name, r.line.started name = true)
  answerable : r.line.Answerable

namespace Conducted

variable {settings : PipelineSettings}

theorem prepare [Camera κ] {host : Host} {camera : κ} {sink : σ} {epoch : Moment}
    (h : Run.prepare settings host camera sink epoch = .ok r) : Conducted settings r := by
  obtain ⟨hsettings, hphase, hrefused, p, -, -, hline⟩ := prepare_eq_ok h
  exact {
    settings_eq := hsettings
    started := fun {name known} hk => by
      rw [hphase] at hk
      rw [hline]
      cases name <;> cases hk <;> rfl
    asked := fun hj => by
      rw [hphase] at hj
      cases hj
    joined := fun hj => by
      rw [hphase] at hj
      cases hj
    unrefused := fun _ => hrefused
    complete := fun hs => by
      rw [hphase] at hs
      cases hs
    answerable := by
      rw [hline]
      exact fun w hw => nomatch hw }

/-- The line goes on while the conductor waits. -/
theorem line (H : Conducted settings r) {l : Line κ σ}
    (hstarted : ∀ name, l.started name = r.line.started name)
    (hasked : ∀ name, r.line.asked name = true → l.asked name = true)
    (hended : ∀ name, r.line.ended name = true → l.ended name = true) (hanswerable : l.Answerable) :
    Conducted settings { r with line := l } where
  settings_eq := H.settings_eq
  started hk := (hstarted _).trans (H.started hk)
  asked hj := hasked _ (H.asked hj)
  joined hj hs := hended _ (H.joined hj ((hstarted _).symm.trans hs))
  unrefused := H.unrefused
  complete hp := by simpa only [hstarted] using H.complete hp
  answerable := hanswerable

theorem step? [Camera κ] [ImageSink σ] {name : StageName} {l : Line κ σ}
    (H : Conducted settings r) (h : r.line.step? name = some l) :
    Conducted settings { r with line := l } :=
  H.line (Line.started_step? h) (fun _ ha => (Line.asked_step? h).trans ha)
    (fun _ => Line.ended_step? h) (H.answerable.step? h)

theorem raiseStop (H : Conducted settings r) (stage : StageName) :
    Conducted settings { r with line := r.line.raiseStop stage } :=
  H.line (r.line.started_raiseStop stage) (fun _ ha => Line.asked_of_raiseStop ha stage)
    (fun name he => (r.line.ended_raiseStop stage name).trans he) (H.answerable.raiseStop stage)

/-- The conductor goes on to a phase in which more stages are started. -/
theorem start (H : Conducted settings r) (hsettings : r'.settings = r.settings)
    (hphase : r'.phase.starting = true)
    (hstarted : ∀ {name known}, r'.phase.started? name = some known → r'.line.started name = known)
    (hanswerable : r'.line.Answerable) (hrefused : r'.refused = none) :
    Conducted settings r' where
  settings_eq := hsettings.trans H.settings_eq
  started := hstarted
  asked hj := by
    rw [(RunPhase.of_joins? hj).1] at hphase
    cases hphase
  joined hj := by
    rw [RunPhase.starting_of_joined hj] at hphase
    cases hphase
  unrefused _ := hrefused
  complete hp := absurd (hphase.symm.trans hp) nofun
  answerable := hanswerable

/-- The conductor goes on to a phase in which no more stages are started. -/
theorem settle (H : Conducted settings r) (hsettings : r'.settings = r.settings)
    (hphase : r'.phase.starting = false)
    (hasked : ∀ {name next}, r'.phase.joins? = some (name, next) → r'.line.asked name = true)
    (hjoined : ∀ {name}, r'.phase.joined name = true → r'.line.Over name)
    (hcomplete : r'.refused = none ↔ ∀ name, r'.line.started name = true)
    (hanswerable : r'.line.Answerable) : Conducted settings r' where
  settings_eq := hsettings.trans H.settings_eq
  started hk := by
    rw [RunPhase.starting_of_started? hk] at hphase
    cases hphase
  asked := hasked
  joined := hjoined
  unrefused hs := absurd (hs.symm.trans hphase) nofun
  complete _ := hcomplete
  answerable := hanswerable

/-- A stage that has not been started needs not be joined. -/
theorem over_of_unstarted {name : StageName} (H : Conducted settings r)
    (h : r.phase.started? name = some false) : r.line.Over name := by
  intro hs
  rw [H.started h] at hs
  cases hs

theorem conduct? [Camera κ] (H : Conducted settings r) (h : r.conduct? = some r') :
    Conducted settings r' := by
  have hincomplete {failure : Failure} {l : Line κ σ} (name : StageName)
      (h : l.started name = false) :
      some failure = none ↔ ∀ name, l.started name = true :=
    ⟨nofun, fun hall => absurd (h.symm.trans (hall name)) nofun⟩
  cases conduct?_cases h with
  | persistenceRefused hp =>
    refine H.settle rfl rfl nofun (fun {name} _ => ?_)
      (hincomplete .capture (H.started (by rw [hp]; rfl))) H.answerable
    exact H.over_of_unstarted (by rw [hp]; cases name <;> rfl)
  | persistenceStarts hp =>
    have hnone (name : StageName) : r.line.started name = false := H.started (by rw [hp]; rfl)
    refine H.start rfl rfl (fun {name _} hk => ?_) H.answerable (H.unrefused (by rw [hp]; rfl))
    cases name <;> cases hk
    · exact hnone .capture
    · exact hnone .detection
    · rfl
  | detectionRefused hp =>
    have hc : r.line.started .capture = false := H.started (by rw [hp]; rfl)
    have hd : r.line.started .detection = false := H.started (by rw [hp]; rfl)
    refine H.settle rfl rfl nofun (fun {name} hj hs => ?_) (hincomplete .capture hc) H.answerable
    cases name with
    | capture => cases hc.symm.trans hs
    | detection => cases hd.symm.trans hs
    | persistence => cases hj
  | detectionStarts hp =>
    have hc : r.line.started .capture = false := H.started (by rw [hp]; rfl)
    have hv : r.line.started .persistence = true := H.started (by rw [hp]; rfl)
    refine H.start rfl rfl (fun {name _} hk => ?_) (fun w hw => ?_)
      (H.unrefused (by rw [hp]; rfl))
    · cases name <;> cases hk
      · exact hc
      · rfl
      · exact hv
    · cases hw
      exact .of_inbox rfl
  | streams hp =>
    exact H.start rfl rfl (fun hk => H.started (by rw [hp]; exact hk)) H.answerable
      (H.unrefused (by rw [hp]; rfl))
  | streamingFails hp | captureRefused hp =>
    have hc : r.line.started .capture = false := H.started (by rw [hp]; rfl)
    refine H.settle rfl rfl nofun (fun {name} hj hs => ?_) (hincomplete .capture hc) H.answerable
    cases name <;> cases hj
    cases hc.symm.trans hs
  | captureStarts hp =>
    have hd : r.line.started .detection = true := H.started (by rw [hp]; rfl)
    have hv : r.line.started .persistence = true := H.started (by rw [hp]; rfl)
    have hall (name : StageName) :
        { r.line with capture := some (Worker.start (.new r.captureSettings) r.clock) }.started
          name = true := by
      cases name with
      | capture => rfl
      | detection => exact hd
      | persistence => exact hv
    have hrefused : r.refused = none := H.unrefused (by rw [hp]; rfl)
    exact H.settle rfl rfl nofun nofun ⟨fun _ => hall, fun _ => hrefused⟩ H.answerable
  | seesEnding hp =>
    exact H.settle rfl rfl nofun nofun (H.complete (by rw [hp]; rfl)) H.answerable
  | interrupted hp =>
    exact H.settle rfl rfl nofun nofun (H.complete (by rw [hp]; rfl)) H.answerable
  | watches hp =>
    exact H.settle rfl rfl nofun nofun (H.complete (by rw [hp]; rfl)) H.answerable
  | @asks name next hp =>
    obtain ⟨hphase, hnext, hjoined, last, hjoins⟩ := RunPhase.of_asks? hp
    have H' := H.raiseStop name
    refine H'.settle rfl hnext (fun hj => ?_) (fun hj => ?_) (H'.complete hphase) H'.answerable
    · cases hjoins.symm.trans hj
      exact r.line.asked_raiseStop name
    · exact H'.joined ((congrFun hjoined _).symm.trans hj)
  | @joins name next hp hover =>
    obtain ⟨hphase, hnext, hjoins, hjoined⟩ := RunPhase.of_joins? hp
    refine H.settle rfl hnext (fun hj => ?_) (fun {other} hj => ?_) (H.complete hphase) H.answerable
    · cases hjoins.symm.trans hj
    · obtain hj | rfl := hjoined other hj
      · exact H.joined hj
      · exact hover
  | stopsStreaming hp | leavesStreaming hp =>
    refine H.settle rfl rfl nofun (fun hj => ?_) (H.complete (by rw [hp]; rfl)) H.answerable
    exact H.joined (by rw [hp]; exact hj)

theorem move? [Camera κ] [ImageSink σ] {m : Move} (H : Conducted settings r)
    (h : r.move? m = some r') : Conducted settings r' := by
  cases m with
  | stage name =>
    obtain ⟨l, hl, rfl⟩ := Option.map_eq_some_iff.mp h
    exact H.step? hl
  | conductor => exact H.conduct? h
  | interrupt =>
    cases h
    exact ⟨H.settings_eq, H.started, H.asked, H.joined, H.unrefused, H.complete, H.answerable⟩
  | pass nanos =>
    cases h
    exact H.line (fun _ => rfl) (fun _ ha => ha) (fun _ he => he) H.answerable

theorem reaches [Camera κ] [ImageSink σ] (H : Conducted settings r) (h : r.Reaches r') :
    Conducted settings r' := by
  induction h with
  | refl => exact H
  | move _ hmove ih => exact ih.move? hmove
  | raiseStop name _ ih => exact ih.raiseStop name

end Conducted

/-! ### Time -/

/-- Only the passing of time moves the clock. -/
theorem ConductorStep.clock_eq [Camera κ] (h : ConductorStep r r') : r'.clock = r.clock := by
  cases h with
  | detectionRefused => exact r.line.plant.clock_closeFrames
  | @asks name => cases name <;> rfl
  | _ => rfl

theorem clock_le_move? [Camera κ] [ImageSink σ] {m : Move} (h : r.move? m = some r') :
    r.clock ≤ r'.clock := by
  cases m with
  | stage name =>
    obtain ⟨l, hl, rfl⟩ := Option.map_eq_some_iff.mp h
    exact Nat.le_of_eq (Line.clock_step? hl).symm
  | conductor => exact Nat.le_of_eq (conduct?_cases h).clock_eq.symm
  | interrupt =>
    cases h
    exact Nat.le_refl _
  | pass nanos =>
    cases h
    exact Nat.le_add_right _ _

end Run
end TickCapture
