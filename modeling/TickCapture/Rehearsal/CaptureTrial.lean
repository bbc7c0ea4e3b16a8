import TickCapture.Pipeline.Line
import TickCapture.Rehearsal.ScriptedCamera

/-! # Trials of the capture stage

The capture stage runs alone against a scripted camera. Nobody receives its frames but the script,
and when the script is over the stage is asked to stop. -/

namespace TickCapture

structure CaptureTrial where
  plant : Plant ScriptedCamera Unit
  worker : Worker CaptureStage
  /-- The numbers of the frames that the script took out of the mailbox. -/
  drained : Array Nat
  /-- Whether the script has been carried out for the present wait. -/
  prompted : Bool

namespace CaptureTrial

/-- Takes up to `n` frames out of the mailbox and gives their buffers back. -/
def drain : Nat → CaptureTrial → CaptureTrial
  | 0, t => t
  | n + 1, t =>
    match t.plant.frames.receive with
    | (frames, .got frame) =>
      drain n { t with
        plant := { t.plant with frames }.discard frame
        drained := t.drained.push frame.sequence }
    | _ => t

def follow (t : CaptureTrial) (c : Cycle) : CaptureTrial :=
  let t := t.drain c.drain
  let t := if c.close then { t with plant := t.plant.closeFrames } else t
  if c.stop then { t with worker := t.worker.raiseStop } else t

def prompt (t : CaptureTrial) : CaptureTrial :=
  let t := match t.plant.camera.cycles with
    | [] => { t with worker := t.worker.raiseStop }
    | cycle :: _ => t.follow cycle
  { t with prompted := true }

def beginsWait (t : CaptureTrial) : Bool :=
  !t.prompted && match t.worker.stage.phase with
    | .waiting => true
    | _ => false

/-- How long after its deadline a sleep ends. -/
def sleepLateness : Clock := 50000

/-- How much time passes until a wait that ends at `wake` is over. -/
def passage (t : CaptureTrial) (wake : Clock) : Clock :=
  match t.worker.stage.phase with
  | .pacing => wake - t.plant.clock + sleepLateness
  | _ => wake - t.plant.clock

/-- One turn; none when the stage has ended, or waits for ever. -/
def turn? (t : CaptureTrial) : Option CaptureTrial :=
  if t.beginsWait then some t.prompt
  else
    match t.worker.stepCapture? t.plant with
    | some (plant, worker) => some { t with plant, worker, prompted := false }
    | none =>
      (t.worker.captureWake? t.plant).bind fun wake =>
        if t.plant.clock < wake then some { t with plant := t.plant.pass (t.passage wake) }
        else none

def run : Nat → CaptureTrial → CaptureTrial
  | 0, t => t
  | n + 1, t =>
    match t.turn? with
    | none => t
    | some t => run n t

/-- A stage over a mailbox of the given capacity. -/
def new (camera : ScriptedCamera) (capacity : Nat) (settings : CaptureSettings) :
    Except Fault CaptureTrial := do
  let frames ← Mailbox.bounded capacity
  let ticks ← Mailbox.bounded 1
  return {
    plant := {
      camera
      frames
      pool := .fresh 0 0 0
      ticks
      sink := ()
      clock := 0
      epoch := 0
      logs := #[] }
    worker := .start (.new settings) 0
    drained := #[]
    prompted := false }

/-- Runs the stage to its end. A cycle takes a bounded number of turns, unless the stage waits for
space that nobody makes. -/
def finish (t : CaptureTrial) : CaptureTrial :=
  t.run (100 * (t.plant.camera.cycles.length + 2))

/-- The frames that still wait in the mailbox, in the order of delivery, and the plant after their
buffers are given back. -/
def collect (t : CaptureTrial) : List Captured × Plant ScriptedCamera Unit :=
  let queued := t.plant.frames.pending
  (queued, queued.foldl Plant.discard t.plant)

end CaptureTrial
end TickCapture
