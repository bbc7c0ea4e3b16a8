import TickCapture.Detect.Error
import TickCapture.Detect.Hysteresis
import TickCapture.Pool.Registry

/-! # Tick detection

The detector holds the last frame it accepted. The next one is compared with it, takes its place and
displaces it; when the comparison is a tick, the displaced frame is selected. The first frame fixes
the size that all later ones must have. -/

namespace TickCapture

/-- The sum of the absolute differences of two byte sequences, as far as both reach. -/
def diffSum (a b : Bytes) : Nat :=
  (Array.zipWith (fun x y : UInt8 => if x ≤ y then y.toNat - x.toNat else x.toNat - y.toNat) a b).foldl
    (· + ·) 0

inductive Detection where
  /-- It is the first frame, and is held. -/
  | seeded
  /-- It is held now, and this is the frame held before it. -/
  | displaced (frame : PooledBuffer)
  /-- It is not held. Nobody else has it, so it is dropped. -/
  | rejected (error : DetectError) (frame : PooledBuffer)

structure TickDetector (α : Type) where
  hysteresis : Hysteresis α
  previous : Option PooledBuffer
  /-- The size fixed by the first frame. -/
  expectedLen : Nat
  /-- The largest difference sum that two frames of that size can have. -/
  maxDiff : Nat
  frames : Nat
  ticks : Nat
  lastDifference : Option α

namespace TickDetector

variable {α : Type} [Scale α]

def new (hysteresis : Hysteresis α) : TickDetector α := ⟨hysteresis, none, 0, 0, 0, 0, none⟩

def expectedLen? (d : TickDetector α) : Option Nat := d.previous.map fun _ => d.expectedLen

/-- How much of the greatest possible difference there is between two frames. -/
def difference (d : TickDetector α) (current previous : PooledBuffer) : α :=
  Scale.ratio (diffSum current.bytes previous.bytes) d.maxDiff

/-- Offers the next frame. A rejected frame leaves the detector as it was. -/
def process (d : TickDetector α) (current : PooledBuffer) : TickDetector α × Detection :=
  match d.previous with
  | none =>
    if current.len = 0 then (d, .rejected .emptyFrame current)
    else
      ({ d with
          previous := some current
          expectedLen := current.len
          maxDiff := current.len * 255
          frames := 1 }, .seeded)
  | some previous =>
    if current.len ≠ d.expectedLen then
      (d, .rejected (.frameSizeMismatch d.expectedLen current.len) current)
    else
      let difference := d.difference current previous
      let (hysteresis, tick) := d.hysteresis.step difference
      ({ d with
          hysteresis
          previous := some current
          frames := d.frames + 1
          ticks := if tick then d.ticks + 1 else d.ticks
          lastDifference := some difference },
        .displaced (if tick then { previous with selected := true } else previous))

/-- Offers the next frame, and drops it if it is rejected: its slot goes back to its pool before there
is an answer. -/
def offer (d : TickDetector α) (pools : Registry) (current : PooledBuffer) :
    TickDetector α × Detection × Registry × List LogRecord × Option Fault :=
  match d.process current with
  | (d, .rejected e frame) => (d, .rejected e frame, pools.dropInto false frame)
  | (d, outcome) => (d, outcome, pools, [], none)

end TickDetector
end TickCapture
