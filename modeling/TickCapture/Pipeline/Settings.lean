import TickCapture.Service

/-! # Settings of a run

Whether a run can be made with its settings is decided before anything is started. The pool should
have a slot for every frame that waits to be stored and three more: for the frame the detector
holds, for the one just converted, and for the one being stored. With fewer a run can be made, but
frames may be dropped, and the log says so. -/

namespace TickCapture

structure StageCpus where
  capture : Option UInt64
  detection : Option UInt64
  persistence : Option UInt64
  deriving DecidableEq, Repr

structure StagePriorities where
  capture : Int
  detection : Int
  persistence : Int
  deriving DecidableEq, Repr

/-- The capture stage gets the highest fixed priority, and each stage after it one less; without
fixed priorities all are equal. -/
def StagePriorities.ofClass (realtime : Bool) : StagePriorities :=
  if realtime then
    let top := fixedPriorityRange.2
    ⟨top, top - 1, top - 2⟩
  else ⟨0, 0, 0⟩

structure PipelineSettings where
  target : UInt64
  /-- Whether every frame is stored, not only the selected ones. -/
  saveAll : Bool
  stillThreshold : Float
  movingThreshold : Float
  captureCapacity : UInt64
  tickCapacity : UInt64
  poolCapacity : Option UInt64
  captureIntervalMs : Option UInt64
  backpressure : Backpressure
  receiveTimeoutMs : UInt64
  readyTimeoutMs : UInt64
  realtime : Bool
  cpus : StageCpus
  deriving Repr

namespace PipelineSettings

/-- Slots that the pool needs besides those of the frames that wait to be stored. -/
def poolHeadroom : Nat := 3

def standard : PipelineSettings where
  target := 1
  saveAll := false
  stillThreshold := Hysteresis.defaultStill
  movingThreshold := Hysteresis.defaultMoving
  captureCapacity := 40
  tickCapacity := 40
  poolCapacity := none
  captureIntervalMs := none
  backpressure := .block
  receiveTimeoutMs := 1000
  readyTimeoutMs := 2000
  realtime := true
  cpus := ⟨none, none, none⟩

def recommendedPool (s : PipelineSettings) : Except (Trouble SettingsError) Nat :=
  word64 (s.tickCapacity.toNat + poolHeadroom)

/-- How many slots the pool has: as many as recommended, unless another number is set. The
recommendation is worked out in either case. -/
def effectivePool (s : PipelineSettings) : Except (Trouble SettingsError) Nat :=
  s.recommendedPool.map fun recommended => (s.poolCapacity.map (·.toNat)).getD recommended

def smallPoolRecord (capacity : Nat) : LogRecord :=
  .warn <| s!"Pipeline: pool capacity {capacity} below tick channel capacity + {poolHeadroom}, " ++
    "expect dropped frames"

/-- The first of the stages whose processor no affinity set can hold. -/
def cpuError? (s : PipelineSettings) : Option SettingsError :=
  [("capture", s.cpus.capture), ("detection", s.cpus.detection),
    ("persistence", s.cpus.persistence)].findSome? fun (stage, cpu) =>
      cpu.bind fun n =>
        if affinityLimit ≤ n.toNat then some (.cpuOutOfRange stage n.toNat affinityLimit) else none

/-- What is checked after the size of the pool. -/
def checkRest (s : PipelineSettings) : Except (Trouble SettingsError) Unit :=
  match Hysteresis.make s.stillThreshold s.movingThreshold with
  | .error e => .error (.error (.thresholds e))
  | .ok _ =>
    if s.receiveTimeoutMs = 0 ∨ s.readyTimeoutMs = 0 then .error (.error .zeroTimeout)
    else match s.cpuError? with
      | some e => .error (.error e)
      | none => .ok ()

def validate (s : PipelineSettings) : List LogRecord × Except (Trouble SettingsError) Unit :=
  if s.target = 0 then ([], .error (.error .noTarget))
  else if s.captureCapacity = 0 ∨ s.tickCapacity = 0 then ([], .error (.error .zeroCapacity))
  else
    match s.effectivePool with
    | .error trouble => ([], .error trouble)
    | .ok pool =>
      if pool < 2 then ([], .error (.error (.poolTooSmall pool)))
      else
        match s.recommendedPool with
        | .error trouble => ([], .error trouble)
        | .ok recommended =>
          (if pool < recommended then [smallPoolRecord pool] else [], s.checkRest)

end PipelineSettings
end TickCapture
