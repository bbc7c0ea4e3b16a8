import TickCapture.Rehearsal.Recorder

/-! # Frames in the hands of a caller

A caller makes frames, looks at them and gives their buffers back to a recorder, each request being
one `HandleRequest`. -/

namespace TickCapture

inductive HandleRequest where
  | make (script : FrameScript)
  | info (handle : Nat)
  | release (handle : Nat)
  | drop (handle : Nat)
  /-- Drops a frame, but keeps what is left of it. -/
  | spend (handle : Nat)

inductive HandleReply where
  | made (handle : Nat) (memory : Nat)
  | info (frame : Captured)
  | done
  | refused (error : IoError)
  | noSuchHandle

structure Handles where
  queue : Recorder
  format : Format
  /-- Every frame by its number; a frame that was used up leaves a gap. -/
  frames : Array (Option Captured)

namespace Handles

def new (format : Format) (refuses : List Nat) : Handles := ⟨.new refuses, format, #[]⟩

def set (h : Handles) (handle : Nat) (frame : Option Captured) : Handles :=
  { h with frames := h.frames.setIfInBounds handle frame }

def drop (h : Handles) (frame : Captured) : Handles × List LogRecord × HandleReply :=
  let (queue, records) := discard h.queue frame
  ({ h with queue }, records, .done)

/-- Carries out a request on a frame that is held. -/
def stepFrame (h : Handles) (handle : Nat) (frame : Captured) :
    HandleRequest → Handles × List LogRecord × HandleReply
  | .make _ | .info _ => (h, [], .info frame)
  | .release _ =>
    match giveBack h.queue frame with
    | (queue, none) => ({ h.set handle none with queue }, [], .done)
    | (queue, some e) => ({ h.set handle none with queue }, [], .refused e)
  | .drop _ => (h.set handle none).drop frame
  | .spend _ => (h.set handle (some frame.spent)).drop frame

def subject? : HandleRequest → Option Nat
  | .make _ => none
  | .info handle | .release handle | .drop handle | .spend handle => some handle

/-- Carries out one request: the reply, and what was logged meanwhile. -/
def step (h : Handles) (request : HandleRequest) : Handles × List LogRecord × HandleReply :=
  match request, subject? request with
  | .make script, _ =>
    let frame := script.frame h.format h.frames.size
    ({ h with frames := h.frames.push (some frame) }, [], .made h.frames.size script.memory.size)
  | _, none => (h, [], .noSuchHandle)
  | request, some handle =>
    match h.frames[handle]?.join with
    | some frame => h.stepFrame handle frame request
    | none => (h, [], .noSuchHandle)

end Handles
end TickCapture
