import Mathlib.Data.List.GetD
import TickCapture.Config.FileSettings

/-! # Where the settings of a file are

The data of a settings file are five sections, each with settings of its own. A section in a table and
one in a list give them in different ways, but either gives every setting at one place (`Datum.field`),
and what is read as settings has been read at these places (`FileSettings.ofDatum?_eq_some`). -/

namespace TickCapture

/-! ### Sections -/

inductive FileSection where
  | camera
  | output
  | detection
  | pipeline
  | scheduling
  deriving DecidableEq

namespace FileSection

def name : FileSection → String
  | camera => "camera"
  | output => "output"
  | detection => "detection"
  | pipeline => "pipeline"
  | scheduling => "scheduling"

def all : List FileSection := [camera, output, detection, pipeline, scheduling]

/-- The settings of a section, in the order in which it declares them. -/
def keys : FileSection → List String
  | camera => ["device", "force_format", "buffers"]
  | output => ["dir", "prefix", "save_all"]
  | detection => ["still_threshold", "moving_threshold"]
  | pipeline => ["count", "capture_capacity", "tick_capacity", "pool_capacity",
      "capture_interval_ms", "recv_timeout_ms", "ready_timeout_ms", "backpressure"]
  | scheduling => ["realtime", "capture_cpu", "detection_cpu", "persistence_cpu"]

theorem nodup_keys (s : FileSection) : s.keys.Nodup := by
  cases s <;> decide

end FileSection

namespace Datum

variable {names : List String} {d : Datum} {ds : List Datum} {spare : Bool}

/-- What one of the settings `names` is given as; null if it is not given. -/
def field (d : Datum) (names : List String) (name : String) : Datum :=
  match d with
  | list items => items.getD (names.idxOf name) null
  | table fields => (fields.lookup name).getD null
  | _ => null

theorem take_eq_map_getD {items : List Datum} (hnames : names.Nodup)
    (hlength : names.length ≤ items.length) :
    items.take names.length = names.map fun name => items.getD (names.idxOf name) null := by
  refine List.ext_getElem (by simp [hlength]) fun i hi hi' => ?_
  have hi : i < names.length := by simpa using hi'
  rw [List.getElem_take, List.getElem_map, hnames.idxOf_getElem i hi,
    List.getD_eq_getElem _ _ (Nat.lt_of_lt_of_le hi hlength)]

/-- The data of a section are what it gives its settings as. -/
theorem settings?_eq_some (hnames : names.Nodup) (h : d.settings? names spare = some ds) :
    ds = names.map (d.field names) := by
  unfold settings? at h
  split at h
  · cases h
    rfl
  · next items =>
    split at h
    · next hlength =>
      cases h
      exact take_eq_map_getD hnames (by omega)
    · cases h
  · split at h
    · cases h
      rfl
    · cases h
  · cases h

/-- What is made of the data of a section is made of what the section gives its settings as. -/
theorem bind_settings?_eq_some {α : Type} {make : List Datum → Option α} {a : α}
    (hnames : names.Nodup) (h : (d.settings? names spare).bind make = some a) :
    make (names.map (d.field names)) = some a := by
  obtain ⟨ds, hds, hmake⟩ := Option.bind_eq_some_iff.mp h
  rwa [← settings?_eq_some hnames hds]

/-- What a section of a file is given as. -/
def fileSection (d : Datum) (s : FileSection) : Datum :=
  d.field (FileSection.all.map FileSection.name) s.name

/-- What a setting of the section is given as. -/
def entry (d : Datum) (s : FileSection) (key : String) : Datum :=
  (d.fileSection s).field s.keys key

theorem entry_of_absent {s : FileSection} (h : d.fileSection s = null) (key : String) :
    d.entry s key = null := by
  rw [entry, h]
  rfl

end Datum

/-! ### What is read -/

section Sections

variable {d : Datum} {spare : Bool}

theorem CameraSection.ofDatum?_eq_some {c : CameraSection} (h : ofDatum? spare d = some c) :
    let get := d.field FileSection.camera.keys
    (get "device").text? = some c.device ∧
      (get "force_format").truth? = some c.forceFormat ∧
      (get "buffers").word32? = some c.buffers := by
  have h := Datum.bind_settings?_eq_some FileSection.camera.nodup_keys h
  simp only [FileSection.keys, List.map_cons, List.map_nil, Option.bind_eq_bind, Option.pure_def,
    Option.bind_eq_some_iff] at h
  obtain ⟨_, hdevice, _, hforce, _, hbuffers, h⟩ := h
  cases h
  exact ⟨hdevice, hforce, hbuffers⟩

theorem OutputSection.ofDatum?_eq_some {o : OutputSection} (h : ofDatum? spare d = some o) :
    let get := d.field FileSection.output.keys
    (get "dir").text?.map (·.map String.toList) = some o.dir ∧
      (get "prefix").text? = some o.stem ∧
      (get "save_all").truth? = some o.saveAll := by
  have h := Datum.bind_settings?_eq_some FileSection.output.nodup_keys h
  simp only [FileSection.keys, List.map_cons, List.map_nil, Option.bind_eq_bind, Option.pure_def,
    Option.bind_eq_some_iff] at h
  obtain ⟨_, hdir, _, hstem, _, hall, h⟩ := h
  cases h
  exact ⟨congrArg (Option.map (·.map String.toList)) hdir, hstem, hall⟩

theorem DetectionSection.ofDatum?_eq_some {m : DetectionSection} (h : ofDatum? spare d = some m) :
    let get := d.field FileSection.detection.keys
    (get "still_threshold").number? = some m.stillThreshold ∧
      (get "moving_threshold").number? = some m.movingThreshold := by
  have h := Datum.bind_settings?_eq_some FileSection.detection.nodup_keys h
  simp only [FileSection.keys, List.map_cons, List.map_nil, Option.bind_eq_bind, Option.pure_def,
    Option.bind_eq_some_iff] at h
  obtain ⟨_, hstill, _, hmoving, h⟩ := h
  cases h
  exact ⟨hstill, hmoving⟩

theorem PipelineSection.ofDatum?_eq_some {p : PipelineSection} (h : ofDatum? spare d = some p) :
    let get := d.field FileSection.pipeline.keys
    (get "count").word64? = some p.count ∧
      (get "capture_capacity").word64? = some p.captureCapacity ∧
      (get "tick_capacity").word64? = some p.tickCapacity ∧
      (get "pool_capacity").word64? = some p.poolCapacity ∧
      (get "capture_interval_ms").word64? = some p.captureIntervalMs ∧
      (get "recv_timeout_ms").word64? = some p.receiveTimeoutMs ∧
      (get "ready_timeout_ms").word64? = some p.readyTimeoutMs ∧
      (get "backpressure").text? = some p.backpressure := by
  have h := Datum.bind_settings?_eq_some FileSection.pipeline.nodup_keys h
  simp only [FileSection.keys, List.map_cons, List.map_nil, Option.bind_eq_bind, Option.pure_def,
    Option.bind_eq_some_iff] at h
  obtain ⟨_, hcount, _, hcapture, _, htick, _, hpool, _, hinterval, _, hreceive, _, hready, _,
    hpolicy, h⟩ := h
  cases h
  exact ⟨hcount, hcapture, htick, hpool, hinterval, hreceive, hready, hpolicy⟩

theorem SchedulingSection.ofDatum?_eq_some {s : SchedulingSection} (h : ofDatum? spare d = some s) :
    let get := d.field FileSection.scheduling.keys
    (get "realtime").truth? = some s.realtime ∧
      (get "capture_cpu").word64? = some s.captureCpu ∧
      (get "detection_cpu").word64? = some s.detectionCpu ∧
      (get "persistence_cpu").word64? = some s.persistenceCpu := by
  have h := Datum.bind_settings?_eq_some FileSection.scheduling.nodup_keys h
  simp only [FileSection.keys, List.map_cons, List.map_nil, Option.bind_eq_bind, Option.pure_def,
    Option.bind_eq_some_iff] at h
  obtain ⟨_, hrealtime, _, hcapture, _, hdetection, _, hpersistence, h⟩ := h
  cases h
  exact ⟨hrealtime, hcapture, hdetection, hpersistence⟩

end Sections

theorem FileSettings.ofDatum?_eq_some {d : Datum} {spare : Bool} {file : FileSettings}
    (h : ofDatum? spare d = some file) :
    CameraSection.ofDatum? spare (d.fileSection .camera) = some file.camera ∧
      OutputSection.ofDatum? spare (d.fileSection .output) = some file.output ∧
      DetectionSection.ofDatum? spare (d.fileSection .detection) = some file.detection ∧
      PipelineSection.ofDatum? spare (d.fileSection .pipeline) = some file.pipeline ∧
      SchedulingSection.ofDatum? spare (d.fileSection .scheduling) = some file.scheduling := by
  unfold ofDatum? at h
  split at h
  · cases h
  · have h := Datum.bind_settings?_eq_some (by decide) h
    simp only [List.map_cons, List.map_nil, Option.bind_eq_bind, Option.pure_def,
      Option.bind_eq_some_iff] at h
    obtain ⟨_, hcamera, _, houtput, _, hdetection, _, hpipeline, _, hscheduling, h⟩ := h
    cases h
    exact ⟨hcamera, houtput, hdetection, hpipeline, hscheduling⟩

end TickCapture
