import TickCapture.Pipeline.Line
import TickCapture.Rehearsal.Recorder

/-! # Trials of the detection stage

The detection stage runs alone over frames that wait in its mailbox. A recorder stands in for the
camera, and nobody receives the frames it sends on. -/

namespace TickCapture

structure DetectionTrialSettings where
  stage : DetectionSettings
  hysteresis : Hysteresis Float
  format : Format
  frames : List (FrameScript × Priority)
  pool : Nat
  slotLen : Nat
  /-- Slots of the pool that somebody else holds. -/
  held : Nat
  tickCapacity : Nat
  refuses : List Nat
  /-- Whether a sender lives on. -/
  keepOpen : Bool
  /-- Whether the receiver of displaced frames is gone. -/
  ticksClosed : Bool
  stopped : Bool
  /-- After how many buffers given back the stage is asked to stop. -/
  stopAfterReturns : Option Nat
  /-- When the stage is asked to stop. -/
  stopAt : Option Clock

structure DetectionTrial where
  plant : Plant Recorder Unit
  worker : Worker DetectionStage
  held : List PooledBuffer
  stopAfterReturns : Option Nat
  stopAt : Option Clock

namespace DetectionTrial

/-- Puts frames into a mailbox that has space for all of them. -/
def fill (format : Format) (frames : List (FrameScript × Priority)) :
    Except Fault (Mailbox Captured) := do
  let empty ← Mailbox.bounded (max 1 frames.length)
  return (frames.zipIdx.foldl (fun m ((script, priority), i) =>
    (m.attempt (script.frame format i) priority).1) empty)

/-- Takes `n` slots out of a pool, as far as it has them. -/
def hold : Nat → Pool → List PooledBuffer → Pool × List PooledBuffer
  | 0, p, held => (p, held)
  | n + 1, p, held =>
    match p.acquire with
    | (p, .ok (some b)) => hold n p (held ++ [b])
    | _ => (p, held)

def new (s : DetectionTrialSettings) : Except Fault DetectionTrial := do
  let frames ← fill s.format s.frames
  let ticks ← Mailbox.bounded s.tickCapacity
  let (pool, held) := hold s.held (← Pool.new 0 s.pool s.slotLen) []
  return {
    plant := {
      camera := .new s.refuses
      frames := if s.keepOpen then frames else frames.dropSender
      pool
      ticks := if s.ticksClosed then ticks.dropReceiver.1 else ticks
      sink := ()
      clock := 0
      epoch := 0
      logs := #[] }
    worker := { stage := .new s.stage (.new s.hysteresis), since := 0, stop := s.stopped }
    held
    stopAfterReturns := s.stopAfterReturns
    stopAt := s.stopAt }

/-- Asks the stage to stop when it is time to. -/
def heed (t : DetectionTrial) : DetectionTrial :=
  if t.stopAfterReturns.any (· ≤ t.plant.camera.calls) || t.stopAt.any (· ≤ t.plant.clock) then
    { t with worker := t.worker.raiseStop }
  else t

def stepTime : Clock := 10000

def turn? (t : DetectionTrial) : Option DetectionTrial :=
  match t.worker.stepDetection? t.plant with
  | some (plant, worker) => some (heed { t with plant := plant.pass stepTime, worker })
  | none =>
    t.worker.detectionWake?.bind fun wake =>
      if t.plant.clock < wake then
        some (heed { t with plant := t.plant.pass (wake - t.plant.clock) })
      else none

def run : Nat → DetectionTrial → DetectionTrial
  | 0, t => t
  | n + 1, t =>
    match t.turn? with
    | none => t
    | some t => run n t

/-- Runs the stage to its end. A frame takes a bounded number of turns; the rest is for waits that
end without a frame, until the stage is asked to stop. -/
def finish (t : DetectionTrial) : DetectionTrial :=
  t.run (100 * (t.plant.frames.queue.length + 2) + t.stopAt.getD 0 / stepTime)

/-- The frames sent on, in the order of delivery, and the pool after these and the slots held are
dropped. -/
def collect (t : DetectionTrial) : List PooledBuffer × Pool :=
  let sent := t.plant.ticks.pending
  (sent, (sent ++ t.held).foldl (fun p b => (p.drop false b).1) t.plant.pool)

end DetectionTrial
end TickCapture
