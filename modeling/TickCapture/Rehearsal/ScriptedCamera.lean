import TickCapture.Camera.Synthetic
import TickCapture.Rehearsal.Recorder

/-! # Cameras that follow a script

A scripted camera plays one cycle with every wait: whether the wait succeeds and what comes of taking
a frame after it. It can have a synthetic camera inside, which then makes the frames.

A cycle also says what happens around the camera when the wait begins; that is carried out by whoever
rehearses with the camera. -/

namespace TickCapture

inductive CycleWait where
  | fails (text : String)
  | notReady
  /-- The camera inside decides; without one the wait succeeds. -/
  | usual
  deriving Repr

inductive CycleFrame where
  | transient (text : String)
  | fatal (text : String)
  | fault (fault : Fault)
  /-- The camera inside makes the frame; without one there is the frame given, or none. -/
  | usual (script : Option FrameScript)
  deriving Repr

structure Cycle where
  /-- How many frames are taken out of the mailbox when the wait begins. -/
  drain : Nat
  /-- Whether the mailbox is closed then. -/
  close : Bool
  /-- Whether the stage is then asked to stop. -/
  stop : Bool
  /-- Whether the wait begins together with a certain image being stored. -/
  meet : Bool
  wait : CycleWait
  frame : CycleFrame
  deriving Repr

/-- A cycle in which nothing special happens. -/
def Cycle.plain : Cycle := ⟨0, false, false, false, .usual, .usual none⟩

structure ScriptedCamera where
  device : String
  format : Format
  inner : Option SyntheticCamera
  queue : Recorder
  /-- The cycles still to be played. -/
  cycles : List Cycle
  /-- The cycle of the last wait. -/
  current : Cycle
  startError : Option String
  stopError : Option String
  made : Nat
  transientErrors : Nat
  deriving Repr

namespace ScriptedCamera

/-- Passes an operation on to the camera inside. -/
def withInner {α : Type} (c : ScriptedCamera) (outcome : SyntheticCamera × α) : ScriptedCamera × α :=
  ({ c with inner := some outcome.1 }, outcome.2)

def start (c : ScriptedCamera) : ScriptedCamera × Option CameraError :=
  match c.startError with
  | some text => (c, some (.raised text))
  | none => ({ c with inner := c.inner.map (·.start) }, none)

def stop (c : ScriptedCamera) : ScriptedCamera × Option CameraError :=
  match c.stopError with
  | some text => (c, some (.raised text))
  | none => ({ c with inner := c.inner.map (·.stop) }, none)

/-- Plays the next cycle; when there is none left, no wait succeeds. -/
def poll (c : ScriptedCamera) (now deadline : Clock) : ScriptedCamera × Readiness :=
  match c.cycles with
  | [] => (c, .answered false)
  | cycle :: cycles =>
    let c := { c with cycles, current := cycle }
    match cycle.wait, c.inner with
    | .fails text, _ => (c, .failed (.raised text))
    | .notReady, _ => (c, .answered false)
    | .usual, none => (c, .answered true)
    | .usual, some inner => c.withInner (inner.poll now deadline)

def dequeue (c : ScriptedCamera) (at_ : Moment) : ScriptedCamera × Dequeued :=
  match c.current.frame, c.inner with
  | .transient text, _ =>
    ({ c with transientErrors := c.transientErrors + 1 }, .failed (.transient (.text text)))
  | .fatal text, _ => (c, .failed (.fatal (.text text)))
  | .fault fault, _ => (c, .faulted fault)
  | .usual _, some inner => c.withInner (inner.dequeue at_)
  | .usual none, none => (c, .failed .empty)
  | .usual (some script), none =>
    ({ c with made := c.made + 1 }, .frame (script.frame c.format c.made))

def stats (c : ScriptedCamera) : CameraStats :=
  match c.inner with
  | some inner => inner.stats
  | none => ⟨c.made, c.made - c.queue.calls, c.transientErrors⟩

def requeue (c : ScriptedCamera) (slot : DriverSlot) : ScriptedCamera × Option IoError :=
  match c.inner with
  | some inner => c.withInner (inner.requeue slot)
  | none =>
    let (queue, refusal) := c.queue.requeue slot
    ({ c with queue }, refusal)

end ScriptedCamera

instance : Camera ScriptedCamera where
  requeue := ScriptedCamera.requeue
  device c := (c.inner.map (·.settings.device)).getD c.device
  format c := (c.inner.map (·.format)).getD c.format
  start := ScriptedCamera.start
  stop := ScriptedCamera.stop
  poll := ScriptedCamera.poll
  dequeue := ScriptedCamera.dequeue
  stats := ScriptedCamera.stats

end TickCapture
