import TickCapture.Pipeline.Line

/-! # A whole run

A run starts its stages in the order opposite to that in which frames pass them, so that every frame
finds a reader. It goes on until a stage ends or somebody interrupts it. Then it stops and joins the
stages in the order in which frames pass them, and stops the camera once no frame is on loan any
more. What it comes to is decided at the end: the failure of the first stage that failed, in the order
in which frames pass them, or else a report.

The one who does all this is the conductor; `Run.move?` lets the conductor or a stage take one step.
A sequence of moves is one interleaving, and any sequence is possible. -/

namespace TickCapture

structure RunReport where
  elapsed : Clock
  capture : CaptureReport
  detection : DetectionReport
  persistence : PersistenceReport
  interrupted : Bool
  deriving DecidableEq, Repr

def imagesPerSecond (elapsed : Span) (images : UInt64) : Float :=
  let secs := elapsed.toSeconds
  if secs > 0 then images.toFloat / secs else 0

def RunReport.framesWritten (r : RunReport) : Nat := r.persistence.framesWritten

def RunReport.fps (r : RunReport) : Float :=
  imagesPerSecond (.ofNanos r.elapsed) r.framesWritten.toUInt64

inductive RunPhase where
  | startPersistence
  | startDetection
  | startStreaming
  | startCapture
  /-- The stages run; their endings and the interrupt flag have been looked at since. -/
  | watching (since : Clock)
  | stopCapture
  | joinCapture
  | stopDetection
  | joinDetection
  | stopStreaming
  | stopPersistence
  | joinPersistence
  | ended
  deriving DecidableEq, Repr

structure Run (κ σ : Type) where
  settings : PipelineSettings
  host : Host
  format : Format
  line : Line κ σ
  phase : RunPhase
  startedAt : Clock
  interrupt : Bool
  /-- Whether the run has ended for that reason. -/
  interrupted : Bool
  /-- Why not all stages could be started. -/
  refused : Option Failure

namespace Run

variable {κ σ : Type}

/-- How often the interrupt flag is looked at. -/
def exitPoll : Clock := 100 * nanosPerMilli

/-- Formats with which a run can be made: 4:2:2, lines of whole pixel pairs, and a size that fits.
The answer is the size of a converted frame. -/
def checkFormat (device : String) (f : Format) : Except Failure Nat :=
  if f.encoding ≠ .yuyv then .error (.of (.formatRefused (.notYuyv device f.encoding)))
  else if f.width % 2 ≠ 0 then .error (.of (.formatRefused (.oddWidth device f.width)))
  else match f.rgbFrameBytes with
    | .error e => .error (.of (.format e))
    | .ok n => .ok n

def millis (n : UInt64) : Clock := n.toNat * nanosPerMilli

def plant (settings : PipelineSettings) (camera : κ) (sink : σ) (slotLen : Nat) (epoch : Moment) :
    Except (Trouble SettingsError) (Plant κ σ) := do
  let slots ← settings.effectivePool
  let lift {α : Type} (x : Except Fault α) : Except (Trouble SettingsError) α := x.mapError .fault
  let pool ← lift (Pool.new 0 slots slotLen)
  let frames ← lift (Mailbox.bounded settings.captureCapacity.toNat)
  let ticks ← lift (Mailbox.bounded settings.tickCapacity.toNat)
  return {
    camera
    frames
    pool
    ticks
    sink
    clock := 0
    epoch
    logs := #[] }

/-- A run that has not started yet. The camera has to deliver frames that a run can be made with. -/
def prepare [Camera κ] (settings : PipelineSettings) (host : Host) (camera : κ) (sink : σ)
    (epoch : Moment) : Except (Trouble Failure) (Run κ σ) := do
  let format := Camera.format camera
  let slotLen ← (checkFormat (Camera.device camera) format).mapError .error
  match plant settings camera sink slotLen epoch with
  | .error (.error e) => .error (.error (.of (.settings e)))
  | .error (.fault fault) => .error (.fault fault)
  | .ok plant =>
    return {
      settings
      host
      format
      line := .idle plant
      phase := .startPersistence
      startedAt := 0
      interrupt := false
      interrupted := false
      refused := none }

def clock (r : Run κ σ) : Clock := r.line.plant.clock

def enter (r : Run κ σ) (phase : RunPhase) : Run κ σ := { r with phase }

def withPlant (r : Run κ σ) (plant : Plant κ σ) : Run κ σ := { r with line.plant := plant }

def serviceSpec (r : Run κ σ) (stage : StageName) : ServiceSpec :=
  let priorities := StagePriorities.ofClass r.settings.realtime
  let (priority, cpu) := match stage with
    | .capture => (priorities.capture, r.settings.cpus.capture)
    | .detection => (priorities.detection, r.settings.cpus.detection)
    | .persistence => (priorities.persistence, r.settings.cpus.persistence)
  ⟨stage.text, priority, r.settings.realtime, cpu.map (·.toNat)⟩

def refusal? (r : Run κ σ) (stage : StageName) : Option Failure := r.host.refuse (r.serviceSpec stage)

def captureSettings [Camera κ] (r : Run κ σ) : CaptureSettings where
  device := Camera.device r.line.plant.camera
  readyTimeout := millis r.settings.readyTimeoutMs
  interval := r.settings.captureIntervalMs.map millis
  policy := r.settings.backpressure

def detectionSettings (r : Run κ σ) : DetectionSettings where
  receiveTimeout := millis r.settings.receiveTimeoutMs
  forwardAll := r.settings.saveAll

def persistenceSettings (r : Run κ σ) : PersistenceSettings where
  width := r.format.width
  height := r.format.height
  target := r.settings.target.toNat
  saveAll := r.settings.saveAll
  receiveTimeout := millis r.settings.receiveTimeoutMs

/-- Starts the persistence stage. If it cannot be started, nothing else is. -/
def startPersistence (r : Run κ σ) : Run κ σ :=
  match r.refusal? .persistence with
  | some failure => { r with refused := some failure, phase := .ended }
  | none =>
    let w := Worker.start (PersistenceStage.new r.persistenceSettings) r.clock
    { r with line.persistence := some w, phase := .startDetection }

/-- Gives the ends of the mailboxes up that the detection stage was to have. -/
def abandonDetection [DriverQueue κ] (r : Run κ σ) (failure : Failure) : Run κ σ :=
  let plant := r.line.plant.closeFrames
  let plant := { plant with ticks := plant.ticks.dropSender }
  { r.withPlant plant with refused := some failure, phase := .stopPersistence }

def startDetection [DriverQueue κ] (r : Run κ σ) : Run κ σ :=
  match r.refusal? .detection,
    Hysteresis.make r.settings.stillThreshold r.settings.movingThreshold with
  | some failure, _ => r.abandonDetection failure
  | none, .error e => r.abandonDetection (.of (.settings (.thresholds e)))
  | none, .ok hysteresis =>
    let w := Worker.start (DetectionStage.new r.detectionSettings (.new hysteresis)) r.clock
    { r with line.detection := some w, phase := .startStreaming }

def startStreaming [Camera κ] (r : Run κ σ) : Run κ σ :=
  let device := Camera.device r.line.plant.camera
  match Camera.start r.line.plant.camera with
  | (camera, none) => (r.withPlant { r.line.plant with camera }).enter .startCapture
  | (camera, some e) =>
    { r.withPlant { r.line.plant with camera } with
      refused := some ⟨[.startStreaming device], .camera e⟩
      phase := .stopDetection }

/-- Starts the capture stage. If it cannot be started, its end of the mailbox is given up. -/
def startCapture [Camera κ] (r : Run κ σ) : Run κ σ :=
  match r.refusal? .capture with
  | some failure =>
    let plant := { r.line.plant with frames := r.line.plant.frames.dropSender }
    { r.withPlant plant with refused := some failure, phase := .stopDetection }
  | none =>
    let w := Worker.start (CaptureStage.new r.captureSettings) r.clock
    { r with line.capture := some w, phase := .watching r.clock }

/-- Looks whether the run is to end: because a stage has ended, or because of an interrupt. -/
def watch? (r : Run κ σ) (since : Clock) : Option (Run κ σ) :=
  if r.line.ended .capture || r.line.ended .detection || r.line.ended .persistence then
    some (r.enter .stopCapture)
  else if r.clock < since + exitPoll then none
  else if r.interrupt then
    let plant := r.line.plant.log [.warn "Pipeline: interrupted, shutting down"]
    some { r.withPlant plant with interrupted := true, phase := .stopCapture }
  else some (r.enter (.watching r.clock))

/-- Asks a stage to stop, if it was started, and goes on. -/
def stopStage (r : Run κ σ) (stage : StageName) (next : RunPhase) : Run κ σ :=
  { r with line := r.line.raiseStop stage, phase := next }

/-- Goes on once a stage has ended; one that was never started need not be waited for. -/
def joinStage? (r : Run κ σ) (stage : StageName) (next : RunPhase) : Option (Run κ σ) :=
  if r.line.started stage && !r.line.ended stage then none else some (r.enter next)

/-- Stops the camera, if the capture stage has handed it back. -/
def stopStreaming [Camera κ] (r : Run κ σ) : Run κ σ :=
  match r.line.captureEnding? with
  | some (.finished _) =>
    let (camera, failure) := Camera.stop r.line.plant.camera
    let records := failure.toList.map fun e =>
      LogRecord.warn s!"Pipeline: stop streaming failed: {e.message}"
    (r.withPlant ({ r.line.plant with camera }.log records)).enter .stopPersistence
  | _ => r.enter .stopPersistence

/-- One step of the conductor; none while it waits, or when the run has ended. -/
def conduct? [Camera κ] (r : Run κ σ) : Option (Run κ σ) :=
  match r.phase with
  | .startPersistence => some { r.startPersistence with startedAt := r.clock }
  | .startDetection => some r.startDetection
  | .startStreaming => some r.startStreaming
  | .startCapture => some r.startCapture
  | .watching since => r.watch? since
  | .stopCapture => some (r.stopStage .capture .joinCapture)
  | .joinCapture => r.joinStage? .capture .stopDetection
  | .stopDetection => some (r.stopStage .detection .joinDetection)
  | .joinDetection => r.joinStage? .detection .stopStreaming
  | .stopStreaming => some r.stopStreaming
  | .stopPersistence => some (r.stopStage .persistence .joinPersistence)
  | .joinPersistence => r.joinStage? .persistence .ended
  | .ended => none

inductive Move where
  | stage (name : StageName)
  | conductor
  | interrupt
  | pass (nanos : Nat)
  deriving DecidableEq, Repr

/-- Makes a move; none if the one to make it is waiting or has ended. -/
def move? [Camera κ] [ImageSink σ] (r : Run κ σ) : Move → Option (Run κ σ)
  | .stage name => (r.line.step? name).map fun line => { r with line }
  | .conductor => r.conduct?
  | .interrupt => some { r with interrupt := true }
  | .pass nanos => some { r with line := r.line.pass nanos }

/-- Makes moves one after another; those that cannot be made are left out. -/
def moves [Camera κ] [ImageSink σ] (r : Run κ σ) (ms : List Move) : Run κ σ :=
  ms.foldl (fun r m => (r.move? m).getD r) r

/-- The failure that a stage ended with, if it did. -/
def failureOf {ρ : Type} (name : StageName) : Option (Ending ρ) → List Failure
  | none => []
  | some ending =>
    match ending.join name.text with
    | .error failure => [failure]
    | .ok _ => []

/-- The failures of the stages, in the order in which frames pass them. -/
def failures (r : Run κ σ) : List Failure :=
  failureOf .capture r.line.captureEnding? ++ failureOf .detection r.line.detectionEnding? ++
    failureOf .persistence r.line.persistenceEnding?

def laterRecord (failure : Failure) : LogRecord := .error s!"Pipeline: {failure.message}"

/-- What a run comes to whose stages all ended as they should. -/
def conclude (r : Run κ σ) (capture : CaptureReport) (detection : DetectionReport)
    (persistence : PersistenceReport) : Except Failure RunReport :=
  match r.line.plant.pool.check with
  | .error e => .error ⟨[.poolAccounting], .pool e⟩
  | .ok () =>
    if !r.interrupted && !persistence.reachedTarget then
      .error (.of (.stoppedEarly persistence.framesWritten r.settings.target.toNat))
    else .ok ⟨r.clock - r.startedAt, capture, detection, persistence, r.interrupted⟩

/-- What a run came to, and what is logged about it; none if it has not ended. -/
def verdict? (r : Run κ σ) : Option (List LogRecord × Except Failure RunReport) :=
  if r.phase ≠ .ended then none
  else
    match r.refused, r.failures with
    | some failure, _ => some ([], .error failure)
    | none, failure :: later => some (later.map laterRecord, .error failure)
    | none, [] =>
      match r.line.captureEnding?, r.line.detectionEnding?, r.line.persistenceEnding? with
      | some (.finished c), some (.finished d), some (.finished p) => some ([], r.conclude c d p)
      | _, _, _ => none

end Run
end TickCapture
