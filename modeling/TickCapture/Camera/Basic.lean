import TickCapture.Camera.Error
import TickCapture.Fault

/-! # What a camera is

A camera owns a few buffers. It fills them while it is streaming, lends the oldest filled one out
with every frame taken from it, and takes the buffers back as a `DriverQueue`.

Time is a count of nanoseconds on a clock that only moves forward. -/

namespace TickCapture

/-- Nanoseconds on the running clock. -/
abbrev Clock := Nat

def nanosPerMilli : Nat := 1000000

structure CameraStats where
  framesDequeued : Nat
  buffersOnLoan : Nat
  transientErrors : Nat
  deriving DecidableEq, Repr

/-- What came of taking a frame. -/
inductive Dequeued where
  | frame (frame : Captured)
  | failed (error : DequeueError)
  | faulted (fault : Fault)
  /-- The camera never answers. -/
  | never
  deriving DecidableEq, Repr

/-- How a wait for a frame stands. -/
inductive Readiness where
  /-- The wait is over: a frame is there, or none has come in time. -/
  | answered (ready : Bool)
  /-- The camera goes on waiting: until the time given, or else until a buffer comes back. -/
  | waiting (wake : Option Clock)
  | failed (error : CameraError)
  deriving DecidableEq, Repr

/-- A camera with its buffers. -/
class Camera (κ : Type) extends DriverQueue κ where
  device : κ → String
  format : κ → Format
  start : κ → κ × Option CameraError
  stop : κ → κ × Option CameraError
  /-- How a wait that ends at `deadline` stands at `now`. -/
  poll (camera : κ) (now deadline : Clock) : κ × Readiness
  /-- Takes a frame, captured at the moment given. -/
  dequeue : κ → Moment → κ × Dequeued
  stats : κ → CameraStats

end TickCapture
