import TickCapture.Config.Error
import TickCapture.Config.Toml.Document
import TickCapture.Store.FileTree
import TickCapture.Text.Utf8

/-! # Settings from a file

What a settings file gives, section by section. Every setting may be absent, and so may be a section;
settings that nobody knows do not matter. -/

namespace TickCapture

structure CameraSection where
  device : Option String := none
  forceFormat : Option Bool := none
  buffers : Option UInt32 := none
  deriving DecidableEq, Repr

structure OutputSection where
  dir : Option PathText := none
  stem : Option String := none
  saveAll : Option Bool := none
  deriving DecidableEq, Repr

structure DetectionSection where
  stillThreshold : Option Float := none
  movingThreshold : Option Float := none
  deriving Repr

structure PipelineSection where
  count : Option UInt64 := none
  captureCapacity : Option UInt64 := none
  tickCapacity : Option UInt64 := none
  poolCapacity : Option UInt64 := none
  captureIntervalMs : Option UInt64 := none
  receiveTimeoutMs : Option UInt64 := none
  readyTimeoutMs : Option UInt64 := none
  backpressure : Option String := none
  deriving DecidableEq, Repr

structure SchedulingSection where
  realtime : Option Bool := none
  captureCpu : Option UInt64 := none
  detectionCpu : Option UInt64 := none
  persistenceCpu : Option UInt64 := none
  deriving DecidableEq, Repr

structure FileSettings where
  camera : CameraSection := {}
  output : OutputSection := {}
  detection : DetectionSection := {}
  pipeline : PipelineSection := {}
  scheduling : SchedulingSection := {}
  deriving Repr

def CameraSection.ofDatum? (spare : Bool) (d : Datum) : Option CameraSection := do
  let [device, force, buffers] ← d.settings? ["device", "force_format", "buffers"] spare | none
  return { device := ← device.text?, forceFormat := ← force.truth?, buffers := ← buffers.word32? }

def OutputSection.ofDatum? (spare : Bool) (d : Datum) : Option OutputSection := do
  let [dir, stem, all] ← d.settings? ["dir", "prefix", "save_all"] spare | none
  return {
    dir := (← dir.text?).map String.toList
    stem := ← stem.text?
    saveAll := ← all.truth? }

def DetectionSection.ofDatum? (spare : Bool) (d : Datum) : Option DetectionSection := do
  let [still, moving] ← d.settings? ["still_threshold", "moving_threshold"] spare | none
  return { stillThreshold := ← still.number?, movingThreshold := ← moving.number? }

def PipelineSection.ofDatum? (spare : Bool) (d : Datum) : Option PipelineSection := do
  let [count, capture, tick, pool, interval, receive, ready, backpressure] ←
    d.settings? ["count", "capture_capacity", "tick_capacity", "pool_capacity",
      "capture_interval_ms", "recv_timeout_ms", "ready_timeout_ms", "backpressure"] spare | none
  return {
    count := ← count.word64?
    captureCapacity := ← capture.word64?
    tickCapacity := ← tick.word64?
    poolCapacity := ← pool.word64?
    captureIntervalMs := ← interval.word64?
    receiveTimeoutMs := ← receive.word64?
    readyTimeoutMs := ← ready.word64?
    backpressure := ← backpressure.text? }

def SchedulingSection.ofDatum? (spare : Bool) (d : Datum) : Option SchedulingSection := do
  let [realtime, capture, detection, persistence] ←
    d.settings? ["realtime", "capture_cpu", "detection_cpu", "persistence_cpu"] spare | none
  return {
    realtime := ← realtime.truth?
    captureCpu := ← capture.word64?
    detectionCpu := ← detection.word64?
    persistenceCpu := ← persistence.word64? }

namespace FileSettings

/-- The sections of a file. The file as a whole may not be null. -/
def ofDatum? (spare : Bool) : Datum → Option FileSettings
  | .null => none
  | d => do
    let [camera, output, detection, pipeline, scheduling] ←
      d.settings? ["camera", "output", "detection", "pipeline", "scheduling"] spare | none
    return {
      camera := ← CameraSection.ofDatum? spare camera
      output := ← OutputSection.ofDatum? spare output
      detection := ← DetectionSection.ofDatum? spare detection
      pipeline := ← PipelineSection.ofDatum? spare pipeline
      scheduling := ← SchedulingSection.ofDatum? spare scheduling }

/-- A file is TOML if its extension says so, in any case of letters, and else JSON. -/
def formatOf (name : FileName) : FileFormat :=
  if name.letters.extension?.map (·.map lowerAscii) = some "toml".toList then .toml else .json

end FileSettings

/-! ## Reading a file -/

/-- How settings files are read: what a file holds, the data that a text stands for in a notation, and
the settings that are made of data. -/
structure FileReader where
  contents : FileName → Except IoError Bytes
  data? : FileFormat → List Char → Option Datum
  settings? : FileFormat → Datum → Option FileSettings

namespace FileReader

def read (reader : FileReader) (name : FileName) : Except ConfigError FileSettings :=
  let path := lossyText name.toList
  let format := FileSettings.formatOf name
  match reader.contents name with
  | .error e => .error (.unreadable path e)
  | .ok bytes =>
    match Utf8.decode? bytes.toList with
    | none => .error (.unreadable path (.text "stream did not contain valid UTF-8"))
    | some text =>
      match (reader.data? format text).bind (reader.settings? format) with
      | none => .error (.malformed path format)
      | some settings => .ok settings

/-- The reader that programs are run with. A list in TOML may be longer than its section. -/
def standard (contents : FileName → Except IoError Bytes) : FileReader where
  contents
  data?
    | .json => Json.read?
    | .toml => Toml.read?
  settings?
    | .json => FileSettings.ofDatum? false
    | .toml => FileSettings.ofDatum? true

end FileReader

/-- Reads the files of a tree, in which all names are texts. -/
def FileTree.reader (t : FileTree) : FileReader := .standard fun name =>
  match Utf8.decode? name.toList with
  | none => .error (.system .notFound)
  | some path => t.read path

end TickCapture
