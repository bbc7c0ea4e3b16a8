import TickCapture.Proofs.Config.Entries
import TickCapture.Proofs.Config.SettingsPath

/-! # Where the settings of a configuration come from

Every setting has one place in a settings file, and some have a variable of the environment or an
option. A layer that has a value for a setting decides it for the layers below: the command line, then
the environment, then the file, then the default. So a configuration is told setting by setting from the
values that its sources have for it, and two sources that differ in one value give configurations that
differ in one setting. -/

namespace TickCapture

inductive SettingName where
  | device
  | forceFormat
  | buffers
  | dir
  | stem
  | saveAll
  | stillThreshold
  | movingThreshold
  | target
  | captureCapacity
  | tickCapacity
  | poolCapacity
  | captureInterval
  | receiveTimeout
  | readyTimeout
  | backpressure
  | realtime
  | captureCpu
  | detectionCpu
  | persistenceCpu
  deriving DecidableEq

namespace SettingName

/-- What a setting is set to. Some may be left open. -/
abbrev Value : SettingName → Type
  | device | stem => String
  | dir => PathText
  | forceFormat | saveAll | realtime => Bool
  | buffers => UInt32
  | stillThreshold | movingThreshold => Float
  | backpressure => Backpressure
  | target | captureCapacity | tickCapacity | receiveTimeout | readyTimeout => UInt64
  | poolCapacity | captureInterval | captureCpu | detectionCpu | persistenceCpu => Option UInt64

/-- The section and the key of a setting in a file. -/
def place : SettingName → FileSection × String
  | device => (.camera, "device")
  | forceFormat => (.camera, "force_format")
  | buffers => (.camera, "buffers")
  | dir => (.output, "dir")
  | stem => (.output, "prefix")
  | saveAll => (.output, "save_all")
  | stillThreshold => (.detection, "still_threshold")
  | movingThreshold => (.detection, "moving_threshold")
  | target => (.pipeline, "count")
  | captureCapacity => (.pipeline, "capture_capacity")
  | tickCapacity => (.pipeline, "tick_capacity")
  | poolCapacity => (.pipeline, "pool_capacity")
  | captureInterval => (.pipeline, "capture_interval_ms")
  | receiveTimeout => (.pipeline, "recv_timeout_ms")
  | readyTimeout => (.pipeline, "ready_timeout_ms")
  | backpressure => (.pipeline, "backpressure")
  | realtime => (.scheduling, "realtime")
  | captureCpu => (.scheduling, "capture_cpu")
  | detectionCpu => (.scheduling, "detection_cpu")
  | persistenceCpu => (.scheduling, "persistence_cpu")

/-- The variable of the environment that sets a setting. -/
def envName? : SettingName → Option String
  | device => some Variable.device
  | dir => some Variable.outputDir
  | target => some Variable.count
  | stillThreshold => some Variable.stillThreshold
  | movingThreshold => some Variable.movingThreshold
  | realtime => some Variable.realtime
  | _ => none

/-- What a datum sets a setting to: to nothing if it is null. Other data may be refused. -/
def ofDatum? : (s : SettingName) → Datum → Option (Option s.Value)
  | device, d | stem, d => d.text?
  | dir, d => d.text?.map (·.map String.toList)
  | forceFormat, d | saveAll, d | realtime, d => d.truth?
  | buffers, d => d.word32?
  | stillThreshold, d | movingThreshold, d => d.number?
  | backpressure, d => d.text?.bind fun
    | none => some none
    | some word => (Backpressure.ofText word).toOption.map some
  | target, d | captureCapacity, d | tickCapacity, d | receiveTimeout, d | readyTimeout, d =>
    d.word64?
  | poolCapacity, d | captureInterval, d | captureCpu, d | detectionCpu, d | persistenceCpu, d =>
    d.word64?.map (·.map some)

/-- What the text of its variable sets a setting to: to nothing if a device or a directory is blank.
Other texts may be refused. -/
def ofText? : (s : SettingName) → String → Option (Option s.Value)
  | device, text => some ((some text).filter (!isBlankText ·))
  | dir, text => some (((some text).filter (!isBlankText ·)).map String.toList)
  | target, text => (Configuration.countOf? text).map some
  | stillThreshold, text | movingThreshold, text => (Configuration.numberOf? text).map some
  | realtime, text => (truthWord? text).map some
  | _, _ => some none

def standard : (s : SettingName) → s.Value
  | device => CameraSettings.standard.device
  | forceFormat => CameraSettings.standard.forceFormat
  | buffers => CameraSettings.standard.buffers
  | dir => Configuration.defaultDir
  | stem => Configuration.defaultStem
  | saveAll => false
  | stillThreshold => PipelineSettings.standard.stillThreshold
  | movingThreshold => PipelineSettings.standard.movingThreshold
  | target => Configuration.defaultCount
  | captureCapacity => PipelineSettings.standard.captureCapacity
  | tickCapacity => PipelineSettings.standard.tickCapacity
  | receiveTimeout => PipelineSettings.standard.receiveTimeoutMs
  | readyTimeout => PipelineSettings.standard.readyTimeoutMs
  | backpressure => PipelineSettings.standard.backpressure
  | realtime => true
  | poolCapacity | captureInterval | captureCpu | detectionCpu | persistenceCpu => none

theorem envName?_inj {s t : SettingName} {name : String} (hs : s.envName? = some name)
    (ht : t.envName? = some name) : s = t := by
  cases s <;> cases hs <;> cases t <;> first | rfl | exact absurd ht (by decide)

theorem ofDatum?_null (s : SettingName) : s.ofDatum? .null = some none := by
  cases s <;> rfl

end SettingName

/-! ### Values that the layers have -/

def Configuration.value (c : Configuration) : (s : SettingName) → s.Value
  | .device => c.camera.device
  | .forceFormat => c.camera.forceFormat
  | .buffers => c.camera.buffers
  | .dir => c.dir
  | .stem => c.stem
  | .saveAll => c.pipeline.saveAll
  | .stillThreshold => c.pipeline.stillThreshold
  | .movingThreshold => c.pipeline.movingThreshold
  | .target => c.pipeline.target
  | .captureCapacity => c.pipeline.captureCapacity
  | .tickCapacity => c.pipeline.tickCapacity
  | .poolCapacity => c.pipeline.poolCapacity
  | .captureInterval => c.pipeline.captureIntervalMs
  | .receiveTimeout => c.pipeline.receiveTimeoutMs
  | .readyTimeout => c.pipeline.readyTimeoutMs
  | .backpressure => c.pipeline.backpressure
  | .realtime => c.pipeline.realtime
  | .captureCpu => c.pipeline.cpus.capture
  | .detectionCpu => c.pipeline.cpus.detection
  | .persistenceCpu => c.pipeline.cpus.persistence

/-- What options set; a flag that is not given sets nothing. -/
def Arguments.value? (a : Arguments) : (s : SettingName) → Option s.Value
  | .device => a.device
  | .forceFormat => if a.forceFormat then some true else none
  | .dir => a.outputDir
  | .saveAll => if a.saveAll then some true else none
  | .target => a.count
  | .backpressure => if a.dropWhenFull then some .drop else none
  | .realtime => if a.noRealtime then some false else none
  | _ => none

def Environment.value? (e : Environment) (s : SettingName) : Option s.Value :=
  ((s.envName?.bind e.text?).bind s.ofText?).join

def FileSettings.value? (file : FileSettings) : (s : SettingName) → Option s.Value
  | .device => file.camera.device
  | .forceFormat => file.camera.forceFormat
  | .buffers => file.camera.buffers
  | .dir => file.output.dir
  | .stem => file.output.stem
  | .saveAll => file.output.saveAll
  | .stillThreshold => file.detection.stillThreshold
  | .movingThreshold => file.detection.movingThreshold
  | .target => file.pipeline.count
  | .captureCapacity => file.pipeline.captureCapacity
  | .tickCapacity => file.pipeline.tickCapacity
  | .poolCapacity => file.pipeline.poolCapacity.map some
  | .captureInterval => file.pipeline.captureIntervalMs.map some
  | .receiveTimeout => file.pipeline.receiveTimeoutMs
  | .readyTimeout => file.pipeline.readyTimeoutMs
  | .backpressure => file.pipeline.backpressure.bind fun word => (Backpressure.ofText word).toOption
  | .realtime => file.scheduling.realtime
  | .captureCpu => file.scheduling.captureCpu.map some
  | .detectionCpu => file.scheduling.detectionCpu.map some
  | .persistenceCpu => file.scheduling.persistenceCpu.map some

namespace Datum

/-- What the data of a file give a setting as. -/
def given (d : Datum) (s : SettingName) : Datum := d.entry s.place.1 s.place.2

def value? (d : Datum) (s : SettingName) : Option s.Value := (s.ofDatum? (d.given s)).join

end Datum

namespace FileReader

/-- The data of the settings file; of no file, if none is named, they are an empty table. -/
def dataOf? (reader : FileReader) : Option FileName → Option Datum
  | none => some (.table [])
  | some name =>
    match reader.contents name with
    | .error _ => none
    | .ok bytes => (Utf8.decode? bytes.toList).bind (reader.data? (FileSettings.formatOf name))

end FileReader

/-- The settings are what the data give them as. Whether a word names a policy is not looked at. -/
structure FileSettings.Reads (file : FileSettings) (d : Datum) : Prop where
  value_eq : ∀ s ≠ .backpressure, s.ofDatum? (d.given s) = some (file.value? s)
  word_eq : (d.given .backpressure).text? = some file.pipeline.backpressure

/-- The settings that the reader makes of data are what the data give them as. -/
def FileReader.Faithful (reader : FileReader) : Prop :=
  ∀ {format d file}, reader.settings? format d = some file → file.Reads d

/-! ### From one layer to the next -/

theorem Configuration.policyOf_eq_ok {word? : Option String} {policy : Backpressure}
    (h : policyOf word? = .ok policy) :
    policy = (word?.bind fun word => (Backpressure.ofText word).toOption).getD
      PipelineSettings.standard.backpressure ∧
    ∀ word, word? = some word → Backpressure.ofText word = .ok policy := by
  cases word? with
  | none =>
    cases h
    exact ⟨rfl, nofun⟩
  | some word =>
    have hword := mapError_eq_ok h
    refine ⟨?_, fun _ h => Option.some.inj h ▸ hword⟩
    simp only [Option.bind_some, hword]
    rfl

namespace FileSettings

variable {file : FileSettings} {d : Datum}

theorem reads_of_ofDatum? {spare : Bool} (h : ofDatum? spare d = some file) : file.Reads d := by
  obtain ⟨hcamera, houtput, hdetection, hpipeline, hscheduling⟩ := ofDatum?_eq_some h
  obtain ⟨hdevice, hforce, hbuffers⟩ := CameraSection.ofDatum?_eq_some hcamera
  obtain ⟨hdir, hstem, hall⟩ := OutputSection.ofDatum?_eq_some houtput
  obtain ⟨hstill, hmoving⟩ := DetectionSection.ofDatum?_eq_some hdetection
  obtain ⟨hcount, hcapture, htick, hpool, hinterval, hreceive, hready, hword⟩ :=
    PipelineSection.ofDatum?_eq_some hpipeline
  obtain ⟨hrealtime, hcpus⟩ := SchedulingSection.ofDatum?_eq_some hscheduling
  refine ⟨fun s hs => ?_, hword⟩
  cases s with
  | device => exact hdevice
  | forceFormat => exact hforce
  | buffers => exact hbuffers
  | dir => exact hdir
  | stem => exact hstem
  | saveAll => exact hall
  | stillThreshold => exact hstill
  | movingThreshold => exact hmoving
  | target => exact hcount
  | captureCapacity => exact hcapture
  | tickCapacity => exact htick
  | receiveTimeout => exact hreceive
  | readyTimeout => exact hready
  | realtime => exact hrealtime
  | poolCapacity => exact congrArg (Option.map (·.map some)) hpool
  | captureInterval => exact congrArg (Option.map (·.map some)) hinterval
  | captureCpu => exact congrArg (Option.map (·.map some)) hcpus.1
  | detectionCpu => exact congrArg (Option.map (·.map some)) hcpus.2.1
  | persistenceCpu => exact congrArg (Option.map (·.map some)) hcpus.2.2
  | backpressure => exact absurd rfl hs

/-- No data make no settings. -/
theorem reads_empty : ({} : FileSettings).Reads (.table []) :=
  reads_of_ofDatum? (show ofDatum? false (.table []) = some {} from rfl)

/-- Nothing is passed over once the word for the policy has been understood. -/
theorem Reads.given {policy : Backpressure} (H : file.Reads d)
    (hpolicy : Configuration.policyOf file.pipeline.backpressure = .ok policy) (s : SettingName) :
    s.ofDatum? (d.given s) = some (file.value? s) := by
  by_cases hs : s = .backpressure
  · subst hs
    rw [SettingName.ofDatum?, H.word_eq, Option.bind_some, value?]
    cases hgiven : file.pipeline.backpressure with
    | none => rfl
    | some word =>
      simp only [Option.bind_some, (Configuration.policyOf_eq_ok hpolicy).2 word hgiven]
      rfl
  · exact H.value_eq s hs

end FileSettings

namespace FileReader

variable {reader : FileReader} {name : FileName} {file : FileSettings}

theorem standard_faithful (contents : FileName → Except IoError Bytes) :
    (standard contents).Faithful := by
  intro format d file h
  cases format with
  | json => exact FileSettings.reads_of_ofDatum? h
  | toml => exact FileSettings.reads_of_ofDatum? h

/-- A file that was read had data, and the settings were made of them. -/
theorem dataOf?_of_read (h : reader.read name = .ok file) :
    ∃ d, reader.dataOf? (some name) = some d ∧
      reader.settings? (FileSettings.formatOf name) d = some file := by
  unfold read at h
  dsimp only at h
  split at h
  · cases h
  · next bytes hcontents =>
    split at h
    · cases h
    · next text htext =>
      split at h
      · cases h
      · next settings hsettings =>
        cases h
        obtain ⟨d, hd, hfile⟩ := Option.bind_eq_some_iff.mp hsettings
        refine ⟨d, ?_, hfile⟩
        simp only [dataOf?, hcontents, htext, Option.bind_some, hd]

end FileReader

theorem getD_map_some {α : Type} (o : Option α) : (o.map some).getD none = o := by
  cases o <;> rfl

namespace Configuration

variable {file : FileSettings} {c c' : Configuration} {e : Environment}

/-- The file decides what it has a value for. -/
theorem value_ofFile (h : ofFile file = .ok c) (s : SettingName) :
    c.value s = (file.value? s).getD s.standard := by
  obtain ⟨policy, hpolicy, h⟩ := bind_eq_ok h
  cases h
  cases s with
  | backpressure => exact (policyOf_eq_ok hpolicy).1
  | poolCapacity | captureInterval | captureCpu | detectionCpu | persistenceCpu =>
    exact (getD_map_some _).symm
  | _ => rfl

theorem value?_device (e : Environment) : e.value? .device = present? e Variable.device := by
  show ((e.text? Variable.device).bind _).join = (e.text? Variable.device).filter _
  cases e.text? Variable.device <;> rfl

theorem value?_dir (e : Environment) :
    e.value? .dir = (present? e Variable.outputDir).map String.toList := by
  show ((e.text? Variable.outputDir).bind _).join = ((e.text? Variable.outputDir).filter _).map _
  cases e.text? Variable.outputDir <;> rfl

/-- A setting whose variable is read by `read?`. -/
theorem value_override {s : SettingName} {name : String} {otherwise a : s.Value}
    {read? : String → Option s.Value} {error : String → ConfigError}
    (hname : s.envName? = some name) (hread : ∀ text, s.ofText? text = (read? text).map some)
    (h : override e name otherwise read? error = .ok a) :
    a = (e.value? s).getD otherwise ∧
      ∀ text, s.envName?.bind e.text? = some text → (s.ofText? text).isSome := by
  rw [Environment.value?, hname, Option.bind_some]
  unfold override at h
  cases htext : e.text? name with
  | none =>
    rw [htext] at h
    cases h
    exact ⟨rfl, nofun⟩
  | some text =>
    rw [htext] at h
    cases hvalue : read? text with
    | none =>
      simp only [hvalue] at h
      cases h
    | some value =>
      simp only [hvalue] at h
      cases h
      have hread : s.ofText? text = some (some a) := by rw [hread, hvalue]; rfl
      refine ⟨by rw [Option.bind_some, hread]; rfl, fun _ h => ?_⟩
      cases h
      rw [hread]
      rfl

/-- The environment decides what it has a value for, and is not passed over where it is set. -/
theorem value_withEnvironment (h : c.withEnvironment e = .ok c') (s : SettingName) :
    c'.value s = (e.value? s).getD (c.value s) ∧
      ∀ text, s.envName?.bind e.text? = some text → (s.ofText? text).isSome := by
  obtain ⟨target, htarget, h⟩ := bind_eq_ok h
  obtain ⟨still, hstill, h⟩ := bind_eq_ok h
  obtain ⟨moving, hmoving, h⟩ := bind_eq_ok h
  obtain ⟨realtime, hrealtime, h⟩ := bind_eq_ok h
  cases h
  cases s with
  | device => exact ⟨by rw [value?_device]; rfl, fun _ _ => rfl⟩
  | dir => exact ⟨by rw [value?_dir]; rfl, fun _ _ => rfl⟩
  | target => exact value_override rfl (fun _ => rfl) htarget
  | stillThreshold => exact value_override rfl (fun _ => rfl) hstill
  | movingThreshold => exact value_override rfl (fun _ => rfl) hmoving
  | realtime => exact value_override rfl (fun _ => rfl) hrealtime
  | _ => exact ⟨rfl, nofun⟩

end Configuration

/-- The command line decides what it has a value for. -/
theorem Arguments.value_override (a : Arguments) (c : Configuration) (s : SettingName) :
    (a.override c).value s = (a.value? s).getD (c.value s) := by
  cases s with
  | forceFormat =>
    show (a.forceFormat || c.camera.forceFormat) = (if a.forceFormat then some true else none).getD _
    cases a.forceFormat <;> rfl
  | saveAll =>
    show (a.saveAll || c.pipeline.saveAll) = (if a.saveAll then some true else none).getD _
    cases a.saveAll <;> rfl
  | backpressure =>
    show (if a.dropWhenFull then _ else _) = (if a.dropWhenFull then some _ else none).getD _
    cases a.dropWhenFull <;> rfl
  | realtime =>
    show (!a.noRealtime && c.pipeline.realtime) = (if a.noRealtime then some false else none).getD _
    cases a.noRealtime <;> rfl
  | _ => rfl

theorem Arguments.value?_empty (s : SettingName) : ({} : Arguments).value? s = none := by
  cases s <;> rfl

/-! ### A whole configuration -/

/-- A configuration is told from the values that its sources have. Nothing that a source gives for a
setting was passed over as unreadable. -/
structure Configuration.ComesFrom (c : Configuration) (a : Arguments) (e : Environment) (d : Datum) :
    Prop where
  given : ∀ s : SettingName, (s.ofDatum? (d.given s)).isSome
  set : ∀ s : SettingName, ∀ text, s.envName?.bind e.text? = some text → (s.ofText? text).isSome
  value_eq : ∀ s, c.value s = ((a.value? s).or ((e.value? s).or (d.value? s))).getD s.standard

theorem Datum.value?_of_absent {d : Datum} {s : SettingName} (h : d.fileSection s.place.1 = .null) :
    d.value? s = none := by
  rw [value?, given, entry_of_absent h, s.ofDatum?_null]
  rfl

/-- Sources that are the same but for one setting. -/
theorem Environment.value?_eq {e e' : Environment} {s t : SettingName}
    (h : ∀ name, t.envName? ≠ some name → e'.bytes? name = e.bytes? name) (hne : s ≠ t) :
    e'.value? s = e.value? s := by
  cases hs : s.envName? with
  | none => simp only [value?, hs, Option.bind_none]
  | some name =>
    -- no variable sets two settings
    have hname : t.envName? ≠ some name := fun ht => hne (SettingName.envName?_inj hs ht)
    simp only [value?, text?, hs, Option.bind_some, h name hname]

theorem Configuration.merge_eq_ok {reader : FileReader} {e : Environment}
    {name? : Option FileName} {c : Configuration} (hreader : reader.Faithful)
    (h : merge reader e name? = .ok c) :
    ∃ d file below, reader.dataOf? name? = some d ∧ FileSettings.Reads file d ∧
      ofFile file = .ok below ∧ below.withEnvironment e = .ok c := by
  cases name? with
  | none =>
    have h : (ofFile {} >>= (·.withEnvironment e)) = .ok c := h
    obtain ⟨below, hbelow, h⟩ := bind_eq_ok h
    exact ⟨.table [], {}, below, rfl, FileSettings.reads_empty, hbelow, h⟩
  | some name =>
    have h : (reader.read name >>= fun file => ofFile file >>= (·.withEnvironment e)) = .ok c := h
    obtain ⟨file, hfile, h⟩ := bind_eq_ok h
    obtain ⟨below, hbelow, h⟩ := bind_eq_ok h
    obtain ⟨d, hd, hsettings⟩ := FileReader.dataOf?_of_read hfile
    exact ⟨d, file, below, hd, hreader hsettings, hbelow, h⟩

theorem Configuration.comesFrom_of_merge {reader : FileReader} {e : Environment}
    {name? : Option FileName} {c : Configuration} (hreader : reader.Faithful)
    (h : merge reader e name? = .ok c) :
    ∃ d, reader.dataOf? name? = some d ∧ c.ComesFrom {} e d := by
  obtain ⟨d, file, below, hd, hreads, hbelow, h⟩ := merge_eq_ok hreader h
  obtain ⟨policy, hpolicy, -⟩ := bind_eq_ok hbelow
  have hgiven := hreads.given hpolicy
  refine ⟨d, hd, fun s => by rw [hgiven]; rfl, fun s => (value_withEnvironment h s).2,
    fun s => ?_⟩
  have hvalue : d.value? s = file.value? s := by rw [Datum.value?, hgiven]; rfl
  rw [(value_withEnvironment h s).1, value_ofFile hbelow, Arguments.value?_empty, hvalue,
    Option.none_or, Option.getD_or]

theorem Configuration.ComesFrom.override {c : Configuration} {e : Environment} {d : Datum}
    (H : c.ComesFrom {} e d) (a : Arguments) : (a.override c).ComesFrom a e d where
  given := H.given
  set := H.set
  value_eq s := by
    rw [a.value_override, H.value_eq, Arguments.value?_empty, Option.none_or, Option.getD_or,
      Option.getD_or, Option.getD_or]

namespace Arguments

variable {a : Arguments} {reader : FileReader} {e : Environment} {c : Configuration}

theorem comesFrom_of_configure (hreader : reader.Faithful) (h : (a.configure reader e).2 = .ok c) :
    ∃ d, reader.dataOf? a.config = some d ∧ c.ComesFrom a e d ∧ c.Valid := by
  obtain ⟨below, hmerge, -, V, rfl⟩ := configure_eq_ok.mp h
  obtain ⟨d, hd, H⟩ := Configuration.comesFrom_of_merge hreader hmerge
  exact ⟨d, hd, H.override a, V⟩

/-- The configuration for a run is told from the values of its sources, the highest one that has a value
for a setting deciding it. A blank device or directory in the environment is no value, and neither is
anything in a section that the file does not have; flags have values of one kind only; and as long as
nobody sets the capacity of the pool, it follows the capacity for ticks that the run is made with.

Two configurations whose sources differ in what they have for one setting differ in that one only. -/
theorem configure_comesFrom (hreader : reader.Faithful) (h : (a.configure reader e).2 = .ok c) :
    ∃ d, reader.dataOf? a.config = some d ∧ c.ComesFrom a e d ∧
      (∀ text, isBlankText text →
        (e.text? Variable.device = some text → e.value? .device = none) ∧
        (e.text? Variable.outputDir = some text → e.value? .dir = none)) ∧
      (a.value? .forceFormat ≠ some false ∧ a.value? .saveAll ≠ some false ∧
        a.value? .realtime ≠ some true ∧ a.value? .backpressure ≠ some .block) ∧
      (∀ s : SettingName, d.fileSection s.place.1 = .null → d.value? s = none) ∧
      (c.pipeline.poolCapacity = none → c.pipeline.effectivePool =
        .ok (c.pipeline.tickCapacity.toNat + PipelineSettings.poolHeadroom)) ∧
      ∀ (t : SettingName) (a' : Arguments) (reader' : FileReader) (e' : Environment) (d' : Datum)
        (c' : Configuration), reader'.Faithful → (a'.configure reader' e').2 = .ok c' →
        reader'.dataOf? a'.config = some d' →
        (∀ s ≠ t, a'.value? s = a.value? s) →
        (∀ name, t.envName? ≠ some name → e'.bytes? name = e.bytes? name) →
        (∀ s ≠ t, d'.given s = d.given s) → ∀ s ≠ t, c'.value s = c.value s := by
  obtain ⟨d, hd, H, V⟩ := comesFrom_of_configure hreader h
  refine ⟨d, hd, H, fun text hblank => ?_, ?_, fun s => Datum.value?_of_absent, fun hpool => ?_,
    ?_⟩
  · have hnone {name : String} (htext : e.text? name = some text) :
        Configuration.present? e name = none :=
      Configuration.present?_eq_none fun _ h => Option.some.inj (htext.symm.trans h) ▸ hblank
    rw [Configuration.value?_device, Configuration.value?_dir]
    exact ⟨hnone, fun htext => by rw [hnone htext]; rfl⟩
  · simp [value?]
  · rw [PipelineSettings.effectivePool_eq_ok.mpr ⟨V.pipeline.recommended, rfl⟩, hpool]
    rfl
  · intro t a' reader' e' d' c' hreader' h' hd' harguments henvironment hdata s hne
    obtain ⟨d'', hd'', H', -⟩ := comesFrom_of_configure hreader' h'
    cases hd'.symm.trans hd''
    have hvalue : d'.value? s = d.value? s := by rw [Datum.value?, Datum.value?, hdata s hne]
    rw [H.value_eq, H'.value_eq, harguments s hne, Environment.value?_eq henvironment hne, hvalue]

open TickCapture.Configuration (standardCount standardCount_valid countSet)
open Program (otherFiles)

/-- A number of frames and perhaps a flag, above an environment with another number of frames and a file
with a directory. -/
def fourLayers (saveAll : Bool) : Arguments where
  config := some (Bytes.ofText "f")
  count := some 1
  saveAll := saveAll

theorem configure_fourLayers (saveAll : Bool) :
    ((fourLayers saveAll).configure otherFiles (countSet "5")).2 =
      .ok ((fourLayers saveAll).override { standardCount 5 with dir := "other".toList }) := by
  have hfive : (countSet "5").text? Variable.count = some "5" := by decide +kernel
  have hcount : Configuration.countOf? "5" = some 5 := by decide +kernel
  have hfile : otherFiles.read (Bytes.ofText "f") =
      .ok { output := { dir := some "other".toList } } :=
    FileReader.read_sameFiles (d := .table [("output", .table [("dir", .text "other")])])
      (by decide +kernel) (by decide +kernel) rfl rfl
  have hmerge : Configuration.merge otherFiles (countSet "5") (fourLayers saveAll).config =
      .ok { standardCount 5 with dir := "other".toList } := by
    simp only [fourLayers, Configuration.merge, hfile, Configuration.withEnvironment,
      Configuration.override, Configuration.present?, hfive, hcount]
    rfl
  have V : (standardCount 5).Valid := standardCount_valid (by decide)
  have V' : (standardCount 1).Valid := standardCount_valid (by decide)
  refine configure_eq_ok.mpr ⟨_, hmerge, ⟨V.device, V.buffers, V.stem, V.pipeline⟩, ?_, rfl⟩
  exact ⟨V'.device, V'.buffers, V'.stem, { V'.pipeline with }⟩

/-- Each of the layers decides something, and one more flag changes one setting. -/
theorem configure_comesFrom_fourLayers : ∃ d c c',
    ((fourLayers false).configure otherFiles (countSet "5")).2 = .ok c ∧
    ((fourLayers true).configure otherFiles (countSet "5")).2 = .ok c' ∧
    c.ComesFrom (fourLayers false) (countSet "5") d ∧
    (c.value .target = 1 ∧ c.value .dir = "other".toList ∧ c.value .device = "/dev/video0") ∧
    (c.value .saveAll = false ∧ c'.value .saveAll = true) ∧
    ∀ s ≠ .saveAll, c'.value s = c.value s := by
  have hreader : otherFiles.Faithful := FileReader.standard_faithful _
  obtain ⟨d, hd, H, -, -, -, -, hsame⟩ := configure_comesFrom hreader (configure_fourLayers false)
  refine ⟨d, _, _, configure_fourLayers false, configure_fourLayers true, H, ⟨rfl, rfl, rfl⟩,
    ⟨rfl, rfl⟩, ?_⟩
  refine hsame .saveAll (fourLayers true) _ _ d _ hreader (configure_fourLayers true) hd
    (fun s hne => ?_) (fun _ _ => rfl) fun _ _ => rfl
  cases s with
  | saveAll => exact absurd rfl hne
  | _ => rfl

end Arguments
end TickCapture
