import TickCapture.Proofs.Run.Conservation
import TickCapture.Proofs.Run.Shutdown
import TickCapture.Proofs.Run.Stored

/-! # What a run comes to

A run that succeeds without having been interrupted has stored as many images as were asked for. If a
stage fails, the run fails, and with the failure of the first such stage in the order in which frames
pass them. -/

namespace TickCapture

variable {κ σ : Type}

/-! ### The failures of the stages -/

/-- What whoever joins a stage gets in place of a report. -/
def Ending.failure? {ρ : Type} (service : String) : Ending ρ → Option Failure
  | .finished _ => none
  | .failed failure => some (failure.within (.serviceFailed service))
  | .faulted fault => some (.of (.panicked service fault))

namespace Line

/-- The failure of a stage, if it has ended with one. -/
def failure? (l : Line κ σ) : StageName → Option Failure
  | .capture => l.captureEnding?.bind (·.failure? StageName.capture.text)
  | .detection => l.detectionEnding?.bind (·.failure? StageName.detection.text)
  | .persistence => l.persistenceEnding?.bind (·.failure? StageName.persistence.text)

/-- The failure of the first stage that has one, in the order in which frames pass them. -/
def firstFailure? (l : Line κ σ) : Option Failure :=
  [StageName.capture, .detection, .persistence].findSome? l.failure?

variable {l l' : Line κ σ} {name : StageName} {failure : Failure}

theorem ended_of_failure? (h : l.failure? name = some failure) : l.ended name = true := by
  cases name <;> obtain ⟨ending, hending, -⟩ := Option.bind_eq_some_iff.mp h <;>
    exact Option.isSome_iff_exists.mpr ⟨ending, hending⟩

theorem failure?_raiseStop (l : Line κ σ) (stage name : StageName) :
    (l.raiseStop stage).failure? name = l.failure? name := by
  cases stage <;> cases name <;>
    simp [raiseStop, failure?, captureEnding?, detectionEnding?, persistenceEnding?,
      Worker.raiseStop, Option.bind_map, Function.comp_def]

/-- A failure stays. -/
theorem failure?_step? [Camera κ] [ImageSink σ] {stage : StageName} (h : l.step? stage = some l')
    (hfailed : l.failure? name = some failure) : l'.failure? name = some failure := by
  by_cases hname : name = stage
  · subst hname
    have hended := ended_of_failure? hfailed
    cases step?_cases h with
    | capture hw hs => simp [ended, captureEnding?, hw, hs.running] at hended
    | detection hw hs => simp [ended, detectionEnding?, hw, hs.running] at hended
    | persistence hw hs => simp [ended, persistenceEnding?, hw, hs.running] at hended
  · have hrests := rests_step? h hname
    cases name <;> simp only [Rests] at hrests <;>
      simpa [failure?, captureEnding?, detectionEnding?, persistenceEnding?, hrests] using hfailed

theorem firstFailure?_isSome (h : l.failure? name = some failure) :
    ∃ first, l.firstFailure? = some first := by
  refine Option.isSome_iff_exists.mp (List.findSome?_isSome_iff.mpr ⟨name, ?_, ?_⟩)
  · cases name <;> simp
  · simp [h]

end Line

namespace Run

variable {settings : PipelineSettings} {r r' : Run κ σ}

theorem failureOf_eq {ρ : Type} (name : StageName) (ending : Option (Ending ρ)) :
    failureOf name ending = (ending.bind (·.failure? name.text)).toList := by
  cases ending with
  | none => rfl
  | some ending => cases ending <;> rfl

/-- The failures of a run begin with that of the first stage that has one. -/
theorem head?_failures (r : Run κ σ) : r.failures.head? = r.line.firstFailure? := by
  have hfailures : r.failures = (r.line.failure? .capture).toList ++
      (r.line.failure? .detection).toList ++ (r.line.failure? .persistence).toList := by
    rw [failures, failureOf_eq, failureOf_eq, failureOf_eq]
    rfl
  rw [hfailures, Line.firstFailure?]
  cases hc : r.line.failure? .capture <;> cases hd : r.line.failure? .detection <;>
    cases hv : r.line.failure? .persistence <;> simp [hc, hd, hv]

/-! ### The verdict -/

/-- A run all of whose stages were started fails with the first failure that there is. -/
theorem verdict?_of_firstFailure? {failure : Failure} (hended : r.phase = .ended)
    (hrefused : r.refused = none) (h : r.line.firstFailure? = some failure) :
    ∃ logs, r.verdict? = some (logs, .error failure) := by
  obtain ⟨later, hfailures⟩ : ∃ later, r.failures = failure :: later :=
    List.head?_eq_some_iff.mp (r.head?_failures.trans h)
  refine ⟨later.map laterRecord, ?_⟩
  rw [verdict?, if_neg (not_not_intro hended), hrefused, hfailures]

/-- What is known of a run that has succeeded. -/
theorem verdict?_eq_ok {logs : List LogRecord} {report : RunReport}
    (h : r.verdict? = some (logs, .ok report)) :
    r.line.persistenceEnding? = some (.finished report.persistence) ∧
      (report.interrupted = false → report.persistence.reachedTarget = true) := by
  unfold verdict? at h
  split at h
  · cases h
  · split at h
    · cases h
    · cases h
    · split at h
      · next c d p hc hd hv =>
        obtain ⟨-, hreport⟩ := Prod.mk.inj (Option.some.inj h)
        unfold conclude at hreport
        split at hreport
        · cases hreport
        · split at hreport
          · cases hreport
          · next hreached =>
            cases hreport
            refine ⟨hv, fun hinterrupted => ?_⟩
            simpa [show r.interrupted = false from hinterrupted] using hreached
      · cases h

/-- What a run that has succeeded reports is what the sink has accepted. -/
theorem Recorded.counts {images : Ledger} {logs : List LogRecord} {report : RunReport}
    (H : r.Recorded images) (h : r.verdict? = some (logs, .ok report)) :
    report.persistence.Counts images ∧ report.persistence.target = r.settings.target.toNat ∧
      images.Numbered ∧ images.length ≤ r.settings.target.toNat := by
  obtain ⟨hending, -⟩ := verdict?_eq_ok h
  obtain ⟨w, hw, hended⟩ := Option.bind_eq_some_iff.mp hending
  obtain ⟨htarget, hnumbered, hle, -, hcounts⟩ := H.keeps hw
  unfold PersistenceStage.ending? at hended
  split at hended
  · next ending hp =>
    cases hended
    rw [hp] at hcounts
    obtain ⟨hreport, hcounts⟩ := hcounts _ rfl
    exact ⟨hcounts, hreport ▸ htarget, hnumbered, hle⟩
  · cases hended

/-! ### Failures during shutdown -/

section Failing

variable [Camera κ] [ImageSink σ] {name : StageName} {failure : Failure}

omit [Camera κ] [ImageSink σ] in
/-- Once all stages are started, a failure of one of them is a reason to end the run. -/
theorem Closing.of_failure (hr : Conducted settings r) (hall : ∀ name, r.line.started name = true)
    (h : r.line.failure? name = some failure) : r.Closing := by
  refine ⟨?_, fun _ _ => ⟨name, Line.ended_of_failure? h⟩⟩
  cases hphase : r.phase.starting with
  | false => rfl
  | true =>
    have hunstarted : r.line.started .capture = false :=
      hr.started (RunPhase.started?_capture hphase)
    cases hunstarted.symm.trans (hall .capture)

/-- Shutdown neither refuses a stage nor undoes a failure. -/
theorem Closing.failure?_move? {m : Move} (H : r.Closing) (h : r.move? m = some r')
    (hfailed : r.line.failure? name = some failure) :
    r'.line.failure? name = some failure ∧ r'.refused = r.refused := by
  cases m with
  | stage stage =>
    obtain ⟨l, hl, rfl⟩ := Option.map_eq_some_iff.mp h
    exact ⟨Line.failure?_step? hl hfailed, rfl⟩
  | conductor =>
    cases conduct?_cases h with
    | persistenceRefused hp | persistenceStarts hp | detectionRefused hp | detectionStarts hp
    | streams hp | streamingFails hp | captureRefused hp | captureStarts hp =>
      have hstarting := H.1
      rw [hp] at hstarting
      cases hstarting
    | @asks stage => exact ⟨(r.line.failure?_raiseStop stage name).trans hfailed, rfl⟩
    | seesEnding | interrupted | watches | joins | stopsStreaming | leavesStreaming =>
      exact ⟨hfailed, rfl⟩
  | interrupt | pass =>
    cases h
    exact ⟨hfailed, rfl⟩

/-- A run of which a stage has failed ends under a fair schedule, and fails. -/
theorem Closing.fails {schedule : Nat → Move} (H : r.Closing) (hr : Conducted settings r)
    (hrefused : r.refused = none) (hfailed : r.line.failure? name = some failure)
    (hfair : Fair schedule)
    (hcamera : ∀ n, Camera.Returns (r.after schedule n).line.plant.camera) :
    ∃ n first logs, (r.after schedule n).line.firstFailure? = some first ∧
      (r.after schedule n).verdict? = some (logs, .error first) := by
  obtain ⟨n, hended⟩ := H.ends hr (H.served hr hfair) hcamera
  obtain ⟨hstays, hrefused', -⟩ : (r.after schedule n).line.failure? name = some failure ∧
      (r.after schedule n).refused = none ∧ (r.after schedule n).Closing ∧
      Conducted settings (r.after schedule n) := by
    refine after_induction (P := fun r => r.line.failure? name = some failure ∧
      r.refused = none ∧ r.Closing ∧ Conducted settings r) ⟨hfailed, hrefused, H, hr⟩
      (fun h hmove => ?_) n
    obtain ⟨hfailed, hrefused, H, hr⟩ := h
    obtain ⟨hstays, hsame⟩ := H.failure?_move? hmove hfailed
    exact ⟨hstays, hsame.trans hrefused, (H.move? hr hmove).2, hr.move? hmove⟩
  obtain ⟨first, hfirst⟩ := Line.firstFailure?_isSome hstays
  obtain ⟨logs, hverdict⟩ := verdict?_of_firstFailure? hended hrefused' hfirst
  exact ⟨n, first, logs, hfirst, hverdict⟩

end Failing

/-- A run that ends well without having been interrupted has stored exactly as many images as were asked
for, numbered from one, and reports their number and their size; in no run are more images counted than
were asked for. If all stages were started and one of them fails, the run ends, with the failure of the
first stage that has one in the order in which frames pass them; it ends under every fair schedule, if
the calls of the camera return. -/
theorem verdict_complete_or_first_failure [Camera κ] [ImageSink σ] {settings : PipelineSettings}
    {host : Host} {camera : κ} {sink : σ} {epoch : Moment} {r₀ r : Run κ σ} {images : Ledger}
    (hprepare : prepare settings host camera sink epoch = .ok r₀) (hr : Writes r₀ images r) :
    let target := settings.target.toNat
    (∀ logs report, r.verdict? = some (logs, .ok report) → report.interrupted = false →
      images.length = target ∧ images.map (·.1.sequence) = List.range' 1 target ∧
        report.framesWritten = target ∧
        report.persistence.bytesWritten = images.bytes) ∧
    (∀ w, r.line.persistence = some w → w.stage.report.framesWritten ≤ target) ∧
    (∀ logs report, r.verdict? = some (logs, .ok report) → report.framesWritten ≤ target) ∧
    ((∀ name, r.line.started name = true) →
      (∀ failure, r.phase = .ended → r.line.firstFailure? = some failure →
        ∃ logs, r.verdict? = some (logs, .error failure)) ∧
      ∀ name failure schedule, r.line.failure? name = some failure → Fair schedule →
        (∀ n, Camera.Returns (r.after schedule n).line.plant.camera) →
        ∃ n first logs, (r.after schedule n).line.firstFailure? = some first ∧
          (r.after schedule n).verdict? = some (logs, .error first)) := by
  intro target
  have H : Conducted settings r := (Conducted.prepare hprepare).reaches hr.reaches
  have hrecorded : r.Recorded images := hr.recorded (.prepare hprepare) (.prepare hprepare)
  have htarget : r.settings.target.toNat = target := congrArg (·.target.toNat) H.settings_eq
  refine ⟨fun logs report hok hinterrupted => ?_, fun w hw => ?_, fun logs report hok => ?_,
    fun hall => ⟨fun failure hended hfirst => ?_, fun name failure schedule hfailed hfair hcamera =>
      ?_⟩⟩
  · obtain ⟨⟨hwritten, hbytes⟩, hsought, hnumbered, hle⟩ := hrecorded.counts hok
    have hreached : report.persistence.target ≤ report.persistence.framesWritten :=
      of_decide_eq_true ((verdict?_eq_ok hok).2 hinterrupted)
    have hlength : images.length = target := by omega
    exact ⟨hlength, hlength ▸ hnumbered, hwritten.trans hlength, hbytes⟩
  · obtain ⟨-, -, hle, hwritten, -⟩ := hrecorded.keeps hw
    exact Nat.le_trans hwritten (htarget ▸ hle)
  · obtain ⟨⟨hwritten, -⟩, -, -, hle⟩ := hrecorded.counts hok
    exact Nat.le_trans (Nat.le_of_eq hwritten) (htarget ▸ hle)
  · have hrefused : r.refused = none := (H.complete (by rw [hended]; rfl)).mpr hall
    exact verdict?_of_firstFailure? hended hrefused hfirst
  · have hclosing : r.Closing := .of_failure H hall hfailed
    have hrefused : r.refused = none := (H.complete hclosing.1).mpr hall
    exact hclosing.fails H hrefused hfailed hfair hcamera

/-! ### A run that succeeds, and one that fails -/

/-- The run has succeeded, and not because it was interrupted. -/
def succeeded (r : Run κ σ) : Bool :=
  match r.verdict? with
  | some (_, .ok report) => !report.interrupted
  | _ => false

theorem verdict?_of_succeeded (h : r.succeeded = true) :
    ∃ logs report, r.verdict? = some (logs, .ok report) ∧ report.interrupted = false := by
  unfold succeeded at h
  split at h
  · next logs report hok => exact ⟨logs, report, hok, by simpa using h⟩
  · cases h

/-- Everybody takes a step in turn, and time passes. -/
def roundRobin (n : Nat) : Move :=
  match n % 5 with
  | 0 => .conductor
  | 1 => .stage .persistence
  | 2 => .stage .detection
  | 3 => .stage .capture
  | _ => .pass 1

theorem roundRobin_fair : Fair roundRobin where
  conductor n := ⟨5 * n, by omega, by simp [roundRobin]⟩
  stage name n := by
    cases name with
    | persistence => exact ⟨5 * n + 1, by omega, by simp [roundRobin]⟩
    | detection => exact ⟨5 * n + 2, by omega, by simp [roundRobin]⟩
    | capture => exact ⟨5 * n + 3, by omega, by simp [roundRobin]⟩
  time n := ⟨5 * n + 4, by omega, 1, Nat.one_pos, by simp [roundRobin]⟩

/-- A camera that has been unplugged. -/
structure UnpluggedCamera where

instance : Camera UnpluggedCamera where
  requeue camera _ := (camera, none)
  device _ := "unplugged"
  format _ := .packed 2 1 .yuyv
  start camera := (camera, none)
  stop camera := (camera, none)
  poll camera _ _ := (camera, .failed (.raised "no such device"))
  dequeue camera _ := (camera, .failed (.fatal (.text "no such device")))
  stats _ := ⟨0, 0, 0⟩

/-- Until the capture stage has ended. -/
def untilUnplugged : List Move :=
  List.replicate 4 .conductor ++ List.replicate 4 (.stage .capture)

theorem verdicts_of_two_runs :
    (∃ (r₀ r : Run SyntheticCamera MemoryStore) (images : Ledger) (report : RunReport),
      prepare keepAll ⟨1, true⟩ twoBuffers MemoryStore.empty 0 = .ok r₀ ∧ Writes r₀ images r ∧
        (∃ logs, r.verdict? = some (logs, .ok report)) ∧ report.interrupted = false ∧
        report.framesWritten = 1 ∧ images.map (·.1.sequence) = [1]) ∧
    ∃ (r₀ r : Run UnpluggedCamera MemoryStore) (images : Ledger) (n : Nat) (failure : Failure),
      prepare keepAll ⟨1, true⟩ ⟨⟩ MemoryStore.empty 0 = .ok r₀ ∧ Writes r₀ images r ∧
        r.line.failure? .capture = some failure ∧
        ∃ first logs, (r.after roundRobin n).verdict? = some (logs, .error first) := by
  constructor
  · obtain ⟨r₀, hprepare⟩ : ∃ r₀ : Run SyntheticCamera MemoryStore,
        prepare keepAll ⟨1, true⟩ twoBuffers MemoryStore.empty 0 = .ok r₀ := ⟨_, rfl⟩
    have hsucceeds : (prepare keepAll ⟨1, true⟩ twoBuffers MemoryStore.empty 0).toOption.map
        (fun r => (r.moves (rounds 33)).succeeded) = some true := by
      decide +kernel
    rw [hprepare] at hsucceeds
    obtain ⟨logs, report, hok, hinterrupted⟩ := verdict?_of_succeeded (Option.some.inj hsucceeds)
    have hwrites : Writes r₀ _ _ := Writes.refl.moves (rounds 33)
    obtain ⟨hcomplete, -⟩ := verdict_complete_or_first_failure hprepare hwrites
    obtain ⟨-, hsequences, hwritten, -⟩ := hcomplete logs report hok hinterrupted
    exact ⟨r₀, _, _, report, hprepare, hwrites, ⟨logs, hok⟩, hinterrupted, hwritten, hsequences⟩
  · obtain ⟨r₀, hprepare⟩ : ∃ r₀ : Run UnpluggedCamera MemoryStore,
        prepare keepAll ⟨1, true⟩ ⟨⟩ MemoryStore.empty 0 = .ok r₀ := ⟨_, rfl⟩
    have hwrites : Writes r₀ _ _ := Writes.refl.moves untilUnplugged
    have hall (name : StageName) : (r₀.moves untilUnplugged).line.started name = true := by
      cases hprepare
      cases name <;> rfl
    obtain ⟨failure, hfailed⟩ : ∃ failure,
        (r₀.moves untilUnplugged).line.failure? .capture = some failure := by
      cases hprepare
      exact ⟨_, rfl⟩
    obtain ⟨-, -, -, hfails⟩ := verdict_complete_or_first_failure hprepare hwrites
    obtain ⟨n, first, logs, -, hverdict⟩ := (hfails hall).2 .capture failure roundRobin hfailed
      roundRobin_fair fun _ => ⟨fun _ => nofun, fun _ => nofun⟩
    exact ⟨r₀, _, _, n, failure, hprepare, hwrites, hfailed, first, logs, hverdict⟩

end Run
end TickCapture
