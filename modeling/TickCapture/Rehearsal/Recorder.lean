import TickCapture.Frame.Captured

/-! # A place that buffers go back to

A recorder stands in for a camera's buffers: it notes the numbers of the buffers given back to it and
refuses those it was told to refuse. -/

namespace TickCapture

structure Recorder where
  /-- The numbers of the buffers that it refuses. -/
  refuses : List Nat
  /-- The numbers of the buffers it has taken, in order. -/
  taken : Array Nat
  /-- How many buffers have been given back, refused ones included. -/
  calls : Nat
  deriving Repr

namespace Recorder

def new (refuses : List Nat) : Recorder := ⟨refuses, #[], 0⟩

def requeue (r : Recorder) (slot : DriverSlot) : Recorder × Option IoError :=
  let r := { r with calls := r.calls + 1 }
  if slot.index ∈ r.refuses then (r, some (.text s!"requeue of {slot.index} refused"))
  else ({ r with taken := r.taken.push slot.index }, none)

end Recorder

instance : DriverQueue Recorder where
  requeue := Recorder.requeue

/-- A frame as it is to be made; what is left out follows from how many were made before. -/
structure FrameScript where
  memory : Bytes
  used : Option Nat
  index : Option Nat
  sequence : Option Nat
  /-- The format, if it is not the usual one. -/
  format : Option Format
  capturedAt : Moment
  deriving Repr

def FrameScript.frame (s : FrameScript) (format : Format) (made : Nat) : Captured :=
  .lend ⟨s.index.getD made, s.memory⟩ (s.used.getD s.memory.size) (s.format.getD format)
    (s.sequence.getD made) s.capturedAt

end TickCapture
