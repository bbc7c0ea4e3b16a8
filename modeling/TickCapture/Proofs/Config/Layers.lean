import TickCapture.Console.Program
import TickCapture.Proofs.Except

/-! # Layers of a configuration

A configuration passes its judgement exactly if it is `Valid`. What the environment overrides in a
file is of no account (`besides`), since the two are merged before anything is judged. But they are
judged once before the command line overrides them, so a value that would be refused makes the start
fail even where the command line `Mends` it with a better one. -/

namespace TickCapture

/-! ### What is judged -/

/-- The settings that a run can be made with. -/
structure PipelineSettings.Valid (s : PipelineSettings) : Prop where
  target : s.target ≠ 0
  captureCapacity : s.captureCapacity ≠ 0
  tickCapacity : s.tickCapacity ≠ 0
  recommended : s.tickCapacity.toNat + poolHeadroom < UInt64.size
  pool : ∀ n, s.poolCapacity = some n → 2 ≤ n.toNat
  thresholds : ∃ h, Hysteresis.make s.stillThreshold s.movingThreshold = .ok h
  receiveTimeout : s.receiveTimeoutMs ≠ 0
  readyTimeout : s.readyTimeoutMs ≠ 0
  cpus : s.cpuError? = none

structure Configuration.Valid (c : Configuration) : Prop where
  device : ¬isBlankText c.camera.device
  buffers : ¬c.camera.buffers < 2
  stem : ¬c.stem.contains '/'
  pipeline : c.pipeline.Valid

namespace PipelineSettings

variable {s : PipelineSettings}

theorem recommendedPool_eq_ok {n : Nat} : s.recommendedPool = .ok n ↔
    s.tickCapacity.toNat + poolHeadroom < UInt64.size ∧ n = s.tickCapacity.toNat + poolHeadroom := by
  unfold recommendedPool word64
  split
  · next hlt => simp [hlt, eq_comm]
  · next hlt => simp [hlt]

theorem effectivePool_eq_ok {n : Nat} : s.effectivePool = .ok n ↔
    s.tickCapacity.toNat + poolHeadroom < UInt64.size ∧
      n = (s.poolCapacity.map (·.toNat)).getD (s.tickCapacity.toNat + poolHeadroom) := by
  unfold effectivePool recommendedPool word64
  split
  · next hlt => simp [Except.map, hlt, eq_comm]
  · next hlt => simp [Except.map, hlt]

theorem checkRest_eq_ok : s.checkRest = .ok () ↔
    (∃ h, Hysteresis.make s.stillThreshold s.movingThreshold = .ok h) ∧
      ¬(s.receiveTimeoutMs = 0 ∨ s.readyTimeoutMs = 0) ∧ s.cpuError? = none := by
  unfold checkRest
  cases hmake : Hysteresis.make s.stillThreshold s.movingThreshold with
  | error e => simp
  | ok h =>
    by_cases htimeout : s.receiveTimeoutMs = 0 ∨ s.readyTimeoutMs = 0
    · simp [htimeout]
    · cases hcpus : s.cpuError? with
      | some e => simp [htimeout]
      | none => simp [htimeout]

theorem validate_eq_ok : s.validate.2 = .ok () ↔ s.Valid := by
  constructor
  · intro h
    unfold validate at h
    split at h
    · cases h
    · next htarget =>
      split at h
      · cases h
      · next hcapacity =>
        split at h
        · cases h
        · next pool hpool =>
          obtain ⟨hrecommended, rfl⟩ := effectivePool_eq_ok.mp hpool
          split at h
          · cases h
          · next hroom =>
            rw [recommendedPool_eq_ok.mpr ⟨hrecommended, rfl⟩] at h
            obtain ⟨hthresholds, htimeouts, hcpus⟩ := checkRest_eq_ok.mp h
            rw [not_or] at hcapacity htimeouts
            refine ⟨htarget, hcapacity.1, hcapacity.2, hrecommended, fun n hn => ?_, hthresholds,
              htimeouts.1, htimeouts.2, hcpus⟩
            rw [hn] at hroom
            exact Nat.le_of_not_lt hroom
  · intro V
    have hpool : ¬(s.poolCapacity.map (·.toNat)).getD (s.tickCapacity.toNat + poolHeadroom) < 2 := by
      cases hn : s.poolCapacity with
      | none => simp [poolHeadroom]
      | some n => exact Nat.not_lt_of_le (V.pool n hn)
    rw [validate, if_neg V.target, if_neg (not_or.mpr ⟨V.captureCapacity, V.tickCapacity⟩),
      effectivePool_eq_ok.mpr ⟨V.recommended, rfl⟩]
    dsimp only
    rw [if_neg hpool, recommendedPool_eq_ok.mpr ⟨V.recommended, rfl⟩]
    exact checkRest_eq_ok.mpr ⟨V.thresholds, not_or.mpr ⟨V.receiveTimeout, V.readyTimeout⟩, V.cpus⟩

theorem standard_valid : standard.Valid where
  target := by decide
  captureCapacity := by decide
  tickCapacity := by decide
  recommended := by decide
  pool := nofun
  thresholds := ⟨Hysteresis.standard, rfl⟩
  receiveTimeout := by decide
  readyTimeout := by decide
  cpus := rfl

end PipelineSettings

namespace Configuration

variable {c : Configuration}

theorem validate_eq_ok : c.validate.2 = .ok () ↔ c.Valid := by
  constructor
  · intro h
    unfold validate at h
    split at h
    · cases h
    · next hdevice =>
      split at h
      · cases h
      · next hbuffers =>
        split at h
        · cases h
        · next hstem =>
          refine ⟨hdevice, hbuffers, hstem, PipelineSettings.validate_eq_ok.mp ?_⟩
          split at h
          · next hpipeline => rw [hpipeline]
          · cases h
          · cases h
  · intro V
    have hpipeline := PipelineSettings.validate_eq_ok.mpr V.pipeline
    rw [validate, if_neg V.device, if_neg V.buffers, if_neg V.stem]
    generalize c.pipeline.validate = judged at hpipeline
    obtain ⟨logs, judged⟩ := judged
    subst hpipeline
    rfl

theorem loadFrom_eq_ok {reader : FileReader} {e : Environment} {name? : Option FileName} :
    (loadFrom reader e name?).2 = .ok c ↔ merge reader e name? = .ok c ∧ c.Valid := by
  rw [← validate_eq_ok, loadFrom]
  cases merge reader e name? with
  | error error => simp
  | ok merged =>
    dsimp only
    cases hjudged : merged.validate.2 with
    | error trouble =>
      refine iff_of_false nofun ?_
      rintro ⟨hmerged, hvalid⟩
      cases hmerged
      cases hjudged.symm.trans hvalid
    | ok _ =>
      constructor
      · intro h
        cases h
        exact ⟨rfl, hjudged⟩
      · rintro ⟨hmerged, -⟩
        cases hmerged
        rfl

end Configuration

/-! ### The file below the environment -/

/-- The value of a lower layer, unless a higher one has a value. -/
def below {β γ : Type} (higher : Option β) (lower : Option γ) : Option γ :=
  if higher.isSome then none else lower

/-- A file's settings besides those that the environment overrides. -/
def FileSettings.besides (file : FileSettings) (e : Environment) : FileSettings where
  camera := { file.camera with
    device := below (Configuration.present? e Variable.device) file.camera.device }
  output := { file.output with
    dir := below (Configuration.present? e Variable.outputDir) file.output.dir }
  detection :=
    { stillThreshold := below (e.text? Variable.stillThreshold) file.detection.stillThreshold
      movingThreshold := below (e.text? Variable.movingThreshold) file.detection.movingThreshold }
  pipeline := { file.pipeline with count := below (e.text? Variable.count) file.pipeline.count }
  scheduling := { file.scheduling with
    realtime := below (e.text? Variable.realtime) file.scheduling.realtime }

namespace Configuration

variable {β γ : Type}

theorem map_getD_below (f : β → γ) (higher : Option β) (lower : Option γ) (otherwise : γ) :
    (higher.map f).getD ((below higher lower).getD otherwise) =
      (higher.map f).getD (lower.getD otherwise) := by
  cases higher <;> rfl

theorem getD_below (higher lower : Option γ) (otherwise : γ) :
    higher.getD ((below higher lower).getD otherwise) = higher.getD (lower.getD otherwise) := by
  cases higher <;> rfl

theorem override_below (e : Environment) (name : String) (lower : Option γ) (otherwise : γ)
    (read? : String → Option γ) (error : String → ConfigError) :
    override e name ((below (e.text? name) lower).getD otherwise) read? error =
      override e name (lower.getD otherwise) read? error := by
  unfold override
  cases e.text? name <;> rfl

theorem ofFile_besides (file : FileSettings) (e : Environment) :
    (ofFile (file.besides e)).bind (·.withEnvironment e) =
      (ofFile file).bind (·.withEnvironment e) := by
  unfold ofFile
  cases hpolicy : policyOf file.pipeline.backpressure with
  | error error => simp [FileSettings.besides, hpolicy, bind, Except.bind]
  | ok policy =>
    simp only [FileSettings.besides, hpolicy, bind, Except.bind, pure, Except.pure, withEnvironment,
      override_below, getD_below, map_getD_below]

/-- Files that differ in overridden settings only are the same below the environment. -/
theorem merge_eq_of_besides {reader reader' : FileReader} {e : Environment} {name : FileName}
    {file file' : FileSettings} (hfile : reader.read name = .ok file)
    (hfile' : reader'.read name = .ok file') (hsame : file'.besides e = file.besides e) :
    merge reader' e (some name) = merge reader e (some name) := by
  have hmerged {reader : FileReader} {file : FileSettings} (h : reader.read name = .ok file) :
      merge reader e (some name) = (ofFile file).bind (·.withEnvironment e) := by
    rw [merge, h]
    rfl
  rw [hmerged hfile, hmerged hfile', ← ofFile_besides file, ← ofFile_besides file', hsame]

end Configuration

/-! ### The command line above them -/

namespace Arguments

variable {a : Arguments} {c : Configuration}

/-- The command line has a device or a number of frames, and the one below it would be refused. -/
def Mends (a : Arguments) (c : Configuration) : Prop :=
  a.device.isSome ∧ isBlankText c.camera.device ∨ a.count.isSome ∧ c.pipeline.target = 0

/-- Only the device and the number of frames are both judged and overridden. -/
theorem valid_below_iff (V : (a.override c).Valid) : c.Valid ↔ ¬a.Mends c := by
  constructor
  · rintro H (⟨-, hblank⟩ | ⟨-, hzero⟩)
    · exact H.device hblank
    · exact H.pipeline.target hzero
  · intro hmends
    have hdevice : ¬isBlankText c.camera.device := by
      intro hblank
      cases hgiven : a.device with
      | none =>
        have h := V.device
        rw [override, hgiven] at h
        exact h hblank
      | some device => exact hmends (.inl ⟨by rw [hgiven]; rfl, hblank⟩)
    have htarget : c.pipeline.target ≠ 0 := by
      intro hzero
      cases hgiven : a.count with
      | none =>
        have h := V.pipeline.target
        rw [override, hgiven] at h
        exact h hzero
      | some count => exact hmends (.inr ⟨by rw [hgiven]; rfl, hzero⟩)
    exact ⟨hdevice, V.buffers, V.stem, { V.pipeline with target := htarget }⟩

/-- What is loaded is judged again once the command line has overridden it. -/
theorem configure_eq (a : Arguments) (reader : FileReader) (e : Environment) :
    (a.configure reader e).2 = (Configuration.loadFrom reader e a.config).2.bind fun c =>
      (a.override c).validate.2.map fun () => a.override c := by
  rw [configure]
  generalize Configuration.loadFrom reader e a.config = loaded
  obtain ⟨logs, loaded⟩ := loaded
  cases loaded <;> rfl

theorem configure_eq_ok {reader : FileReader} {e : Environment} {result : Configuration} :
    (a.configure reader e).2 = .ok result ↔
      ∃ c, Configuration.merge reader e a.config = .ok c ∧ c.Valid ∧ (a.override c).Valid ∧
        result = a.override c := by
  rw [configure_eq]
  constructor
  · intro h
    obtain ⟨c, hloaded, hjudged⟩ := bind_eq_ok h
    obtain ⟨hmerge, H⟩ := Configuration.loadFrom_eq_ok.mp hloaded
    cases hvalid : (a.override c).validate.2 with
    | error trouble =>
      rw [hvalid] at hjudged
      cases hjudged
    | ok _ =>
      rw [hvalid] at hjudged
      cases hjudged
      exact ⟨c, hmerge, H, Configuration.validate_eq_ok.mp hvalid, rfl⟩
  · rintro ⟨c, hmerge, H, V, rfl⟩
    rw [Configuration.loadFrom_eq_ok.mpr ⟨hmerge, H⟩, Except.bind,
      Configuration.validate_eq_ok.mpr V]
    rfl

/-- A program whose layers give values gets to a configuration exactly if the merged one passes the
judgement and the command line does not mend one that would be refused. Settings of the file that the
environment overrides have no influence. -/
theorem configure_succeeds_iff (a : Arguments) (reader : FileReader) (e : Environment) :
    (∀ c, Configuration.merge reader e a.config = .ok c → ∀ result,
      (a.configure reader e).2 = .ok result ↔
        result = a.override c ∧ (a.override c).validate.2 = .ok () ∧ ¬a.Mends c) ∧
    ∀ name reader' file file', a.config = some name → reader.read name = .ok file →
      FileReader.read reader' name = .ok file' → file'.besides e = file.besides e →
      a.configure reader' e = a.configure reader e := by
  refine ⟨fun c hmerge result => ?_, fun name reader' file file' hname hfile hfile' hsame => ?_⟩
  · rw [configure_eq_ok, Configuration.validate_eq_ok]
    constructor
    · rintro ⟨c', hmerge', H, V, rfl⟩
      cases hmerge.symm.trans hmerge'
      exact ⟨rfl, V, (valid_below_iff V).mp H⟩
    · rintro ⟨rfl, V, hmends⟩
      exact ⟨c, hmerge, (valid_below_iff V).mpr hmends, V, rfl⟩
  · rw [configure, configure, Configuration.loadFrom, Configuration.loadFrom, hname,
      Configuration.merge_eq_of_besides hfile hfile' hsame]

end Arguments

/-! ### A number of frames in three layers -/

/-- A reader for which all files hold the same text. -/
def FileReader.sameFiles (cs : List Char) : FileReader :=
  .standard fun _ => .ok (Bytes.ofText (String.ofList cs))

/-- A file that is read as JSON. -/
theorem FileReader.read_sameFiles {name : FileName} {cs : List Char} {d : Datum}
    {settings : FileSettings} (hformat : FileSettings.formatOf name = .json)
    (htext : Utf8.decode? (Bytes.ofText (String.ofList cs)).toList = some cs)
    (hdatum : Json.read? cs = some d) (hsettings : FileSettings.ofDatum? false d = some settings) :
    (sameFiles cs).read name = .ok settings := by
  simp only [read, sameFiles, standard, htext, hformat, hdatum, Option.bind_some, hsettings]

namespace Configuration

/-- The defaults with a number of frames. -/
def standardCount (n : UInt64) : Configuration where
  camera := CameraSettings.standard
  dir := defaultDir
  stem := defaultStem
  pipeline := { PipelineSettings.standard with target := n }

theorem standardCount_valid {n : UInt64} (hn : n ≠ 0) : (standardCount n).Valid where
  device := show ¬isBlankText CameraSettings.standard.device by decide +kernel
  buffers := show ¬CameraSettings.standard.buffers < 2 by decide
  stem := by simp [standardCount, defaultStem]
  pipeline := { PipelineSettings.standard_valid with target := hn }

/-- An environment that sets the number of frames. -/
def countSet (text : String) : Environment := ⟨[(Variable.count, Bytes.ofText text)]⟩

def noFiles : FileReader := .standard fun _ => .error (.system .notFound)

theorem merge_countSet (text : String) {n : UInt64}
    (htext : (countSet text).text? Variable.count = some text) (hn : countOf? text = some n) :
    merge noFiles (countSet text) none = .ok (standardCount n) := by
  simp only [merge, withEnvironment, override, present?, htext, hn]
  rfl

end Configuration

namespace Arguments

open TickCapture.Configuration (standardCount standardCount_valid countSet noFiles
  merge_countSet)
open FileReader (sameFiles)

/-- What a file holds that asks for no frames. -/
def zeroFile : List Char :=
  ['{', '"', 'p', 'i', 'p', 'e', 'l', 'i', 'n', 'e', '"', ':',
    '{', '"', 'c', 'o', 'u', 'n', 't', '"', ':', '0', '}', '}']

/-- One frame from the command line, over five from the environment; and five from there, over none
from a file. -/
theorem configure_count_over_others :
    (({ count := some 1 } : Arguments).configure noFiles (countSet "5")).2 = .ok (standardCount 1) ∧
    ({ config := some (Bytes.ofText "f") } : Arguments).configure (sameFiles zeroFile)
        (countSet "5") =
      ({ config := some (Bytes.ofText "f") } : Arguments).configure (sameFiles ['{', '}'])
        (countSet "5") := by
  have hfive : (countSet "5").text? Variable.count = some "5" := by decide +kernel
  constructor
  · have hmerge := merge_countSet "5" hfive (n := 5) (by decide +kernel)
    refine ((configure_succeeds_iff _ _ _).1 _ hmerge _).mpr ⟨rfl, ?_, ?_⟩
    · exact Configuration.validate_eq_ok.mpr (standardCount_valid (by decide))
    · rintro (⟨hdevice, -⟩ | ⟨-, hzero⟩)
      · cases hdevice
      · exact absurd hzero (by decide)
  · have hformat : FileSettings.formatOf (Bytes.ofText "f") = .json := by decide +kernel
    have hempty : (sameFiles ['{', '}']).read (Bytes.ofText "f") = .ok {} :=
      FileReader.read_sameFiles (d := .table []) hformat (by decide +kernel) rfl rfl
    have hzero : (sameFiles zeroFile).read (Bytes.ofText "f") =
        .ok { pipeline := { count := some 0 } } :=
      FileReader.read_sameFiles (d := .table [("pipeline", .table [("count", .integer 0)])])
        hformat (by decide +kernel) rfl rfl
    refine (configure_succeeds_iff _ _ _).2 _ _ _ _ rfl hempty hzero ?_
    simp only [FileSettings.besides, hfive]
    rfl

/-- No frames in the environment, which the command line corrects: the merged configuration passes the
judgement, and the program does not start. -/
theorem configure_refuses_mended : ∃ c,
    Configuration.merge noFiles (countSet "0") ({ count := some 1 } : Arguments).config = .ok c ∧
    (({ count := some 1 } : Arguments).override c).validate.2 = .ok () ∧
    ∀ result, (({ count := some 1 } : Arguments).configure noFiles (countSet "0")).2 ≠ .ok result := by
  have hmerge := merge_countSet "0" (n := 0) (by decide +kernel) (by decide +kernel)
  refine ⟨standardCount 0, hmerge, ?_, fun result h => ?_⟩
  · have hone : standardCount 1 = ({ count := some 1 } : Arguments).override (standardCount 0) := rfl
    rw [← hone]
    exact Configuration.validate_eq_ok.mpr (standardCount_valid (by decide))
  · obtain ⟨c, hmerge', H, -, -⟩ := configure_eq_ok.mp h
    cases hmerge.symm.trans hmerge'
    exact H.pipeline.target rfl

end Arguments
end TickCapture
