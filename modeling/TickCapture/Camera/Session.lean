import TickCapture.Camera.Synthetic
import TickCapture.LogRecord

/-! # A camera in the hands of one caller

One caller drives a camera and holds the frames taken from it, numbered in the order they were taken.
`CameraSession.step` carries out one request; nobody else acts meanwhile, so a wait for a buffer to
come back lasts until its time limit.

Safe callers never ask for `copy`, which brings about two frames for one buffer. -/

namespace TickCapture

/-- Waits for a camera that nobody else touches: the camera, the time afterwards, and the answer. -/
def waitAlone {κ : Type} [Camera κ] (camera : κ) (now timeout : Clock) : κ × Clock × Readiness :=
  let deadline := now + timeout
  match Camera.poll camera now deadline with
  | (camera, .waiting wake) =>
    let later := min deadline (wake.getD deadline)
    let (camera, readiness) := Camera.poll camera later deadline
    (camera, later, readiness)
  | (camera, readiness) => (camera, now, readiness)

inductive CameraRequest where
  | start
  | stop
  | wait (timeout : Clock)
  | dequeue
  | release (handle : Nat)
  | drop (handle : Nat)
  /-- Forgets the frame `leak`, and makes a second frame for the buffer of `handle`. -/
  | copy (handle leak : Nat)

inductive CameraReply where
  | done
  | waited (readiness : Readiness)
  | frame (handle : Nat) (frame : Captured)
  | failed (error : DequeueError)
  | faulted (fault : Fault)
  | never
  | refused (error : IoError)
  | copied (handle : Nat)
  | noSuchHandle

structure CameraSession where
  camera : SyntheticCamera
  frames : Array (Option Captured)
  clock : Clock

namespace CameraSession

def new (settings : SyntheticSettings) : CameraSession := ⟨.new settings, #[], 0⟩

def set (s : CameraSession) (handle : Nat) (frame : Option Captured) : CameraSession :=
  { s with frames := s.frames.setIfInBounds handle frame }

def frame? (s : CameraSession) (handle : Nat) : Option Captured := s.frames[handle]?.join

def dequeue (s : CameraSession) : CameraSession × CameraReply :=
  match s.camera.dequeue s.clock with
  | (camera, .frame frame) =>
    ({ s with camera, frames := s.frames.push (some frame) }, .frame s.frames.size frame)
  | (camera, .failed e) => ({ s with camera }, .failed e)
  | (camera, .faulted fault) => ({ s with camera }, .faulted fault)
  | (camera, .never) => ({ s with camera }, .never)

/-- Carries out one request: the reply, and what was logged meanwhile. -/
def step (s : CameraSession) : CameraRequest → CameraSession × List LogRecord × CameraReply
  | .start => ({ s with camera := s.camera.start }, [], .done)
  | .stop => ({ s with camera := s.camera.stop }, [], .done)
  | .wait timeout =>
    let (camera, clock, readiness) := waitAlone s.camera s.clock timeout
    ({ s with camera, clock }, [], .waited readiness)
  | .dequeue =>
    let (s, reply) := s.dequeue
    (s, [], reply)
  | .release handle =>
    match s.frame? handle with
    | none => (s, [], .noSuchHandle)
    | some frame =>
      match giveBack s.camera frame with
      | (camera, none) => ({ s.set handle none with camera }, [], .done)
      | (camera, some e) => ({ s.set handle none with camera }, [], .refused e)
  | .drop handle =>
    match s.frame? handle with
    | none => (s, [], .noSuchHandle)
    | some frame =>
      let (camera, records) := discard s.camera frame
      ({ s.set handle none with camera }, records, .done)
  | .copy handle leak =>
    match s.frame? handle, s.frame? leak with
    | some frame, some _ =>
      let s := s.set leak none
      ({ s with frames := s.frames.push (some frame) }, [], .copied s.frames.size)
    | _, _ => (s, [], .noSuchHandle)

/-- Whether a frame with noise differs from the same frame without it only as noise may: luma samples
are raised by the limit at most and stay within their range, and chroma samples are equal. -/
def withinNoise (limit : UInt8) (noisy clean : Bytes) : Bool :=
  noisy.size == clean.size && (List.range clean.size).all fun i =>
    let a := (noisy.getD i 0).toNat
    let c := (clean.getD i 0).toNat
    if i % 2 = 1 then a == c else c ≤ a && a ≤ min (c + limit.toNat) 235

end CameraSession
end TickCapture
