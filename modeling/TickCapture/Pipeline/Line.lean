import TickCapture.Pipeline.Plant
import TickCapture.Pipeline.Settings

/-! # The three stages over one plant

A line is a plant and the stages that have been started on it. `Line.step?` lets one stage take one
step; which one is up to a scheduler, so every order of steps is a run of the line. -/

namespace TickCapture

inductive StageName where
  | capture
  | detection
  | persistence
  deriving DecidableEq, Repr

def StageName.text : StageName → String
  | capture => "capture"
  | detection => "detection"
  | persistence => "persistence"

structure Line (κ σ : Type) where
  plant : Plant κ σ
  capture : Option (Worker CaptureStage)
  detection : Option (Worker DetectionStage)
  persistence : Option (Worker PersistenceStage)

namespace Line

variable {κ σ : Type}

/-- A plant on which nothing has been started. -/
def idle (plant : Plant κ σ) : Line κ σ := ⟨plant, none, none, none⟩

/-- Lets one stage take one step; none if it is waiting, has ended or was never started. -/
def step? [Camera κ] [ImageSink σ] (l : Line κ σ) : StageName → Option (Line κ σ)
  | .capture => do
    let (plant, w) ← (← l.capture).stepCapture? l.plant
    return { l with plant, capture := some w }
  | .detection => do
    let (plant, w) ← (← l.detection).stepDetection? l.plant
    return { l with plant, detection := some w }
  | .persistence => do
    let (plant, w) ← (← l.persistence).stepPersistence? l.plant
    return { l with plant, persistence := some w }

def raiseStop (l : Line κ σ) : StageName → Line κ σ
  | .capture => { l with capture := l.capture.map Worker.raiseStop }
  | .detection => { l with detection := l.detection.map Worker.raiseStop }
  | .persistence => { l with persistence := l.persistence.map Worker.raiseStop }

def pass (l : Line κ σ) (nanos : Nat) : Line κ σ := { l with plant := l.plant.pass nanos }

def captureEnding? (l : Line κ σ) : Option (Ending CaptureReport) :=
  l.capture.bind fun w => w.stage.ending?

def detectionEnding? (l : Line κ σ) : Option (Ending DetectionReport) :=
  l.detection.bind fun w => w.stage.ending?

def persistenceEnding? (l : Line κ σ) : Option (Ending PersistenceReport) :=
  l.persistence.bind fun w => w.stage.ending?

def started (l : Line κ σ) : StageName → Bool
  | .capture => l.capture.isSome
  | .detection => l.detection.isSome
  | .persistence => l.persistence.isSome

def ended (l : Line κ σ) : StageName → Bool
  | .capture => l.captureEnding?.isSome
  | .detection => l.detectionEnding?.isSome
  | .persistence => l.persistenceEnding?.isSome

end Line

namespace Worker

variable {κ σ : Type}

/-- When a waiting stage will be answered at the latest. -/
def captureWake? [Camera κ] (p : Plant κ σ) (w : Worker CaptureStage) : Option Clock :=
  match w.stage.request with
  | .wait timeout =>
    let deadline := w.since + timeout
    match (Camera.poll p.camera p.clock deadline).2 with
    | .waiting (some wake) => some (min wake deadline)
    | _ => some deadline
  | .send _ timeout => timeout.map (w.since + ·)
  | .sleep deadline => some deadline
  | _ => none

def detectionWake? (w : Worker DetectionStage) : Option Clock :=
  match w.stage.request with
  | .receive timeout | .send _ timeout => some (w.since + timeout)
  | _ => none

def persistenceWake? (w : Worker PersistenceStage) : Option Clock :=
  match w.stage.request with
  | .receive timeout => some (w.since + timeout)
  | _ => none

end Worker

/-- The earliest time at which one of the waiting stages will be answered at the latest. -/
def Line.wakes {κ σ : Type} [Camera κ] (l : Line κ σ) : List Clock :=
  (l.capture.bind (·.captureWake? l.plant)).toList ++
    (l.detection.bind (·.detectionWake?)).toList ++
    (l.persistence.bind (·.persistenceWake?)).toList

end TickCapture
