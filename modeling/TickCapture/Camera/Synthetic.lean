import TickCapture.Camera.Noise
import TickCapture.Camera.Scene
import TickCapture.Camera.SlotBank

/-! # Synthetic cameras

A camera that plays a scripted scene: a diagonal luma ramp on neutral chroma, shifted by a fixed
step with every moving frame. Its buffers behave as a real camera's do, so one that is on loan is
not filled until it comes back.

A frame is rendered into the buffer that is lent out. The bytes behind the pixel pairs of a line
keep what the buffer held before. -/

namespace TickCapture

structure SyntheticSettings where
  device : String
  width : UInt32
  height : UInt32
  buffers : Nat
  script : List Segment
  /-- Whether the script starts over when it is over. -/
  repeated : Bool
  /-- Time from one frame to the next. -/
  frameInterval : Option Clock
  /-- The most that noise adds to a luma sample. -/
  noise : UInt8
  seed : UInt64
  generator : NoiseGenerator
  /-- Every how many attempts taking a frame fails. -/
  transientEvery : Option Nat
  deriving Repr

namespace SyntheticSettings

/-- A small scene of three still and three moving frames, over and over. -/
def standard : SyntheticSettings where
  device := "stub://synthetic"
  width := 64
  height := 48
  buffers := 6
  script := [.still 3, .moving 3]
  repeated := true
  frameInterval := none
  noise := 0
  seed := 0
  generator := .mixing
  transientEvery := none

def format (s : SyntheticSettings) : Format := .packed s.width s.height .yuyv

end SyntheticSettings

structure SyntheticCamera where
  settings : SyntheticSettings
  bank : SlotBank
  streaming : Bool
  scene : Scene
  phase : UInt32
  /-- Frames made so far, and so the number of the next one. -/
  sequence : Nat
  attempts : Nat
  transientErrors : Nat
  /-- When the next frame is due, once there has been one. -/
  nextFrameAt : Option Clock
  deriving Repr

namespace SyntheticCamera

/-- What a moving frame shifts the ramp by. -/
def motionStep : UInt32 := 37

def luma (base : UInt32) : UInt8 := 16 + (base * 5 % 220).toUInt8

def noisy (value sample : UInt8) : UInt8 := (min 235 (value.toNat + sample.toNat)).toUInt8

def stride (f : Format) : Nat := f.bytesPerLine.toNat

/-- Bytes of a line that pixel pairs fill; the last pixel of an odd line is in no pair. -/
def pairBytes (f : Format) : Nat := f.width.toNat / 2 * 4

/-- The byte at position `i` of a frame, over a buffer that held `old` there. -/
def frameByte (f : Format) (phase : UInt32) (limit : UInt8) (noise : Noise) (i : Nat) (old : UInt8) :
    UInt8 :=
  let row := i / stride f
  let offset := i % stride f
  if i < stride f * f.height.toNat ∧ offset < pairBytes f then
    if offset % 2 = 1 then 128
    else
      let value := luma ((offset / 2).toUInt32 + row.toUInt32 + phase)
      if limit = 0 then value else noisy value (noise.sample i limit)
  else old

/-- The largest of the sums `column + row + phase` of a frame, if it has a pixel pair. -/
def largestSum? (f : Format) (phase : UInt32) : Option Nat :=
  if f.width.toNat < 2 ∨ f.height = 0 then none
  else some (f.width.toNat / 2 * 2 - 1 + (f.height.toNat - 1) + phase.toNat)

/-- Renders a frame over `memory`: its contents, and how many bytes the frame takes. -/
def render (f : Format) (phase : UInt32) (limit : UInt8) (noise : Noise) (memory : Bytes) :
    Except Fault (Bytes × Nat) :=
  let used := stride f * f.height.toNat
  if memory.size < used then .error .outOfBounds
  else if stride f = 0 then .error .zeroChunk
  else if f.height ≠ 0 ∧ stride f < f.width.toNat * 2 then .error .outOfBounds
  else if ((largestSum? f phase).any fun n => UInt32.size ≤ n) then .error .overflow
  else .ok (Array.ofFn fun i : Fin memory.size => frameByte f phase limit noise i (memory.getD i 0), used)

def new (s : SyntheticSettings) : SyntheticCamera where
  settings := s
  bank := .new s.buffers s.format.sizeImage.toNat
  streaming := false
  scene := .opening s.script s.repeated
  phase := 0
  sequence := 0
  attempts := 0
  transientErrors := 0
  nextFrameAt := none

def format (c : SyntheticCamera) : Format := c.settings.format

/-- The noise of the next frame. -/
def noise (c : SyntheticCamera) : Noise :=
  c.settings.generator.noise c.settings.seed c.sequence

/-- Starts streaming; every buffer that is not on loan is queued. -/
def start (c : SyntheticCamera) : SyntheticCamera :=
  { c with streaming := true, bank := c.bank.fill }

def stop (c : SyntheticCamera) : SyntheticCamera :=
  { c with streaming := false, bank := c.bank.clear }

def poll (c : SyntheticCamera) (now deadline : Clock) : SyntheticCamera × Readiness :=
  if !c.streaming then (c, .failed (.notStreaming c.settings.device))
  else if c.bank.queued.isEmpty then
    (c, if deadline ≤ now then .answered false else .waiting none)
  else
    match c.settings.frameInterval with
    | none => (c, .answered true)
    | some interval =>
      let due := c.nextFrameAt.getD now
      if due ≤ now then ({ c with nextFrameAt := some (now + interval) }, .answered true)
      else (c, if deadline ≤ now then .answered false else .waiting (some due))

/-- Shows the next frame of the scene, the ramp shifted if it moved. -/
def advance? (c : SyntheticCamera) : Option SyntheticCamera :=
  c.scene.advance?.map fun (scene, moved) =>
    { c with scene, phase := if moved then c.phase + motionStep else c.phase }

/-- Fills a buffer that was just taken out of the bank, and lends it out. -/
def lendFrame (c : SyntheticCamera) (slot : DriverSlot) (at_ : Moment) :
    SyntheticCamera × Dequeued :=
  match c.advance? with
  | none => (c, .never)
  | some c =>
    match render c.format c.phase c.settings.noise c.noise slot.memory with
    | .error fault => (c, .faulted fault)
    | .ok (memory, used) =>
      ({ c with sequence := c.sequence + 1 },
        .frame (.lend { slot with memory } used c.format c.sequence at_))

def failsAttempt (c : SyntheticCamera) (attempt : Nat) : Bool :=
  match c.settings.transientEvery with
  | some n => 0 < n && attempt % n == 0
  | none => false

def dequeue (c : SyntheticCamera) (at_ : Moment) : SyntheticCamera × Dequeued :=
  if !c.streaming then (c, .failed (.fatal (.text "dequeue while not streaming")))
  else
    let c := { c with attempts := c.attempts + 1 }
    if c.failsAttempt c.attempts then
      ({ c with transientErrors := c.transientErrors + 1 },
        .failed (.transient (.text "simulated transient I/O error")))
    else
      match c.bank.take with
      | (bank, .error e) => ({ c with bank }, .failed e)
      | (bank, .ok slot) => lendFrame { c with bank } slot at_

def stats (c : SyntheticCamera) : CameraStats := ⟨c.sequence, c.bank.onLoan, c.transientErrors⟩

def requeue (c : SyntheticCamera) (slot : DriverSlot) : SyntheticCamera × Option IoError :=
  let (bank, refusal) := c.bank.requeue slot
  ({ c with bank }, refusal)

end SyntheticCamera

instance : Camera SyntheticCamera where
  requeue := SyntheticCamera.requeue
  device c := c.settings.device
  format := SyntheticCamera.format
  start c := (c.start, none)
  stop c := (c.stop, none)
  poll := SyntheticCamera.poll
  dequeue := SyntheticCamera.dequeue
  stats := SyntheticCamera.stats

end TickCapture
