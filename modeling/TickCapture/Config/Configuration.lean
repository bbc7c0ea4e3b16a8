import TickCapture.Camera.Open
import TickCapture.Config.Environment
import TickCapture.Config.FileSettings
import TickCapture.Pipeline.Settings

/-! # Configuration

A configuration starts from the defaults. A settings file overrides them, and the environment overrides
the file. Then the result is judged, whatever the layers on the way held. -/

namespace TickCapture

structure Configuration where
  camera : CameraSettings
  dir : PathText
  /-- What the names of image files start with. -/
  stem : String
  pipeline : PipelineSettings
  deriving Repr

/-- A text as one of the words for true and false, whatever its case and the blanks around it. -/
def truthWord? (s : String) : Option Bool :=
  let word := keyword s
  if word ∈ ["1", "true", "yes", "on"] then some true
  else if word ∈ ["0", "false", "no", "off"] then some false
  else none

namespace Configuration

def defaultCount : UInt64 := 100
def defaultDir : PathText := "frames".toList
def defaultStem : String := "test"

def policyOf : Option String → Except ConfigError Backpressure
  | none => .ok PipelineSettings.standard.backpressure
  | some word => (Backpressure.ofText word).mapError .backpressure

/-- The settings of a file, and the defaults for those that it lacks. -/
def ofFile (file : FileSettings) : Except ConfigError Configuration := do
  let d := PipelineSettings.standard
  let backpressure ← policyOf file.pipeline.backpressure
  return {
    camera := {
      device := file.camera.device.getD CameraSettings.standard.device
      forceFormat := file.camera.forceFormat.getD CameraSettings.standard.forceFormat
      buffers := file.camera.buffers.getD CameraSettings.standard.buffers }
    dir := file.output.dir.getD defaultDir
    stem := file.output.stem.getD defaultStem
    pipeline := {
      target := file.pipeline.count.getD defaultCount
      saveAll := file.output.saveAll.getD false
      stillThreshold := file.detection.stillThreshold.getD d.stillThreshold
      movingThreshold := file.detection.movingThreshold.getD d.movingThreshold
      captureCapacity := file.pipeline.captureCapacity.getD d.captureCapacity
      tickCapacity := file.pipeline.tickCapacity.getD d.tickCapacity
      poolCapacity := file.pipeline.poolCapacity
      captureIntervalMs := file.pipeline.captureIntervalMs
      backpressure
      receiveTimeoutMs := file.pipeline.receiveTimeoutMs.getD d.receiveTimeoutMs
      readyTimeoutMs := file.pipeline.readyTimeoutMs.getD d.readyTimeoutMs
      realtime := file.scheduling.realtime.getD true
      cpus := ⟨file.scheduling.captureCpu, file.scheduling.detectionCpu,
        file.scheduling.persistenceCpu⟩ } }

/-! ## The environment -/

/-- The text of a variable that is not blank. -/
def present? (e : Environment) (name : String) : Option String :=
  (e.text? name).filter fun s => !isBlankText s

/-- The value of a variable, or `otherwise` if it is not set. -/
def override {α : Type} (e : Environment) (name : String) (otherwise : α)
    (read? : String → Option α) (error : String → ConfigError) : Except ConfigError α :=
  match e.text? name with
  | none => .ok otherwise
  | some s =>
    match read? s with
    | some a => .ok a
    | none => .error (error name)

def countOf? (s : String) : Option UInt64 := (unsigned? 64 (trimmed s.toList)).map Nat.toUInt64

def numberOf? (s : String) : Option Float := number? (trimmed s.toList)

def withEnvironment (c : Configuration) (e : Environment) : Except ConfigError Configuration := do
  let device := (present? e Variable.device).getD c.camera.device
  let dir := ((present? e Variable.outputDir).map String.toList).getD c.dir
  let p := c.pipeline
  let target ← override e Variable.count p.target countOf? .notCount
  let stillThreshold ← override e Variable.stillThreshold p.stillThreshold numberOf? .notNumber
  let movingThreshold ← override e Variable.movingThreshold p.movingThreshold numberOf? .notNumber
  let realtime ← override e Variable.realtime p.realtime truthWord? .notTruth
  return { c with
    camera := { c.camera with device }
    dir
    pipeline := { p with target, stillThreshold, movingThreshold, realtime } }

/-! ## Judgement -/

/-- Whether a run can be made with the configuration, and what is to be logged about it. -/
def validate (c : Configuration) : List LogRecord × Except (Trouble ConfigError) Unit :=
  if isBlankText c.camera.device then ([], .error (.error .noDevice))
  else if c.camera.buffers < 2 then ([], .error (.error .tooFewBuffers))
  else if c.stem.contains '/' then ([], .error (.error .separatorInName))
  else
    match c.pipeline.validate with
    | (logs, .ok ()) => (logs, .ok ())
    | (logs, .error (.error e)) => (logs, .error (.error (.settings e)))
    | (logs, .error (.fault f)) => (logs, .error (.fault f))

/-- The layers below the command line: the defaults, the file called `name?` if there is one, and the
environment. -/
def merge (reader : FileReader) (e : Environment) (name? : Option FileName) :
    Except ConfigError Configuration := do
  let file ← match name? with
    | none => .ok {}
    | some name => reader.read name
  (← ofFile file).withEnvironment e

def loadFrom (reader : FileReader) (e : Environment) (name? : Option FileName) :
    List LogRecord × Except (Trouble ConfigError) Configuration :=
  match merge reader e name? with
  | .error error => ([], .error (.error error))
  | .ok c =>
    let (logs, judged) := c.validate
    (logs, judged.map fun () => c)

/-- The settings file that the environment names by a text that is not blank. -/
def fileName? (e : Environment) : Option FileName :=
  (e.bytes? Variable.config).filter fun _ => (present? e Variable.config).isSome

/-- Loads the configuration whose file the environment names. -/
def load (reader : FileReader) (e : Environment) :
    List LogRecord × Except (Trouble ConfigError) Configuration :=
  loadFrom reader e (fileName? e)

end Configuration
end TickCapture
