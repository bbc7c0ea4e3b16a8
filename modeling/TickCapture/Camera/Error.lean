import TickCapture.Frame.Captured

/-! # Failures of cameras -/

namespace TickCapture

inductive DequeueError where
  /-- No buffer is filled yet. -/
  | empty
  /-- It may work again after the next wait. -/
  | transient (cause : IoError)
  /-- The camera cannot go on. -/
  | fatal (cause : IoError)
  deriving DecidableEq, Repr

namespace DequeueError

def message : DequeueError → String
  | empty => "no buffer ready"
  | transient cause => s!"transient dequeue error: {cause.message}"
  | fatal cause => s!"fatal dequeue error: {cause.message}"

def isFatal : DequeueError → Bool
  | fatal _ => true
  | _ => false

def cause? : DequeueError → Option IoError
  | empty => none
  | transient cause | fatal cause => some cause

end DequeueError

/-- Why a camera could not be opened, started, stopped or waited for. -/
inductive CameraError where
  | tooFewBuffers (buffers : Nat)
  /-- The device is no stub, and no driver for real devices is built in. -/
  | noDriver (device : String)
  | notStreaming (device : String)
  /-- A failure raised on purpose, with its text. -/
  | raised (text : String)
  deriving DecidableEq, Repr

def CameraError.message : CameraError → String
  | tooFewBuffers buffers => s!"at least 2 driver buffers are required, got {buffers}"
  | noDriver device =>
    s!"cannot open {device}: built without the ingest-v4l2 feature (use a stub:// device)"
  | notStreaming device => s!"{device} is not streaming"
  | raised text => text

end TickCapture
