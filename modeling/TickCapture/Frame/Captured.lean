import TickCapture.Bytes
import TickCapture.Frame.Format
import TickCapture.Frame.WallTime
import TickCapture.LogRecord

/-! # Captured frames

A camera lends out one of its buffers with every frame. A `Captured` holds that buffer until it is
given back; what is left afterwards holds none, so a buffer goes back once at most. -/

namespace TickCapture

/-- One of a camera's buffers, by its number, with the memory that was lent out. -/
structure DriverSlot where
  index : Nat
  memory : Bytes
  deriving DecidableEq, Repr

inductive SystemError where
  | notFound
  | alreadyExists
  | isADirectory
  | notADirectory
  | invalidFilename
  | invalidArgument
  | notPermitted
  deriving DecidableEq, Repr

/-- Why an input or output operation failed: in words, or as a system error. -/
inductive IoError where
  | text (words : String)
  | system (error : SystemError)
  deriving DecidableEq, Repr

def SystemError.words : SystemError → String
  | notFound => "No such file or directory (os error 2)"
  | alreadyExists => "File exists (os error 17)"
  | isADirectory => "Is a directory (os error 21)"
  | notADirectory => "Not a directory (os error 20)"
  | invalidFilename => "File name too long (os error 36)"
  | invalidArgument => "Invalid argument (os error 22)"
  | notPermitted => "Operation not permitted (os error 1)"

def IoError.message : IoError → String
  | text words => words
  | system error => error.words

def IoError.isSystem : IoError → Bool
  | text _ => false
  | system _ => true

structure Captured where
  /-- The buffer, until it is given back. -/
  slot : Option DriverSlot
  /-- Bytes of the buffer that the camera filled. -/
  used : Nat
  format : Format
  /-- The camera's number for the frame. -/
  sequence : Nat
  capturedAt : Moment
  deriving DecidableEq, Repr

namespace Captured

/-- A frame in a buffer just lent out; a camera that states more bytes than the buffer has is not
believed. -/
def lend (slot : DriverSlot) (used : Nat) (format : Format) (sequence : Nat)
    (capturedAt : Moment) : Captured :=
  ⟨some slot, min used slot.memory.size, format, sequence, capturedAt⟩

/-- The number of the buffer; the largest 64-bit word when it has been given back. -/
def index (f : Captured) : Nat :=
  match f.slot with
  | some slot => slot.index
  | none => UInt64.size - 1

def bytes (f : Captured) : Bytes :=
  match f.slot with
  | some slot => slot.memory.extract 0 f.used
  | none => #[]

def spent (f : Captured) : Captured := { f with slot := none }

def debugText (f : Captured) : String :=
  "CaptureHandle \x7b index: " ++ toString f.index ++ ", bytes_used: " ++ toString f.used ++
    ", sequence: " ++ toString f.sequence ++ " \x7d"

end Captured

/-- Where lent buffers go back to. A refusal leaves the buffer lost. -/
class DriverQueue (δ : Type) where
  requeue : δ → DriverSlot → δ × Option IoError

/-- Gives the buffer of a frame back, if it still has one. -/
def giveBack {δ : Type} [DriverQueue δ] (queue : δ) (f : Captured) : δ × Option IoError :=
  match f.slot with
  | some slot => DriverQueue.requeue queue slot
  | none => (queue, none)

/-- The log record of a frame that is dropped while its buffer is refused. -/
def refusedRecord (e : IoError) : LogRecord :=
  .error s!"CaptureHandle: failed to return buffer to driver: {e.message}"

/-- Gives the buffer back as `giveBack` does, but a refusal only goes to the log. -/
def discard {δ : Type} [DriverQueue δ] (queue : δ) (f : Captured) : δ × List LogRecord :=
  let (queue, refusal) := giveBack queue f
  (queue, (refusal.map refusedRecord).toList)

end TickCapture
