/-! # Sensor noise

What noise adds to the samples of a frame is told by a seed and the number of the frame. Which generator
makes the numbers is a setting of the camera. -/

namespace TickCapture

/-- The noise of a frame: for each place a number, from zero to a limit. -/
structure Noise where
  sample : (place : Nat) → (limit : UInt8) → UInt8

def Noise.silent : Noise := ⟨fun _ _ => 0⟩

/-- The noise that a seed gives for each frame of a camera, by its number. -/
structure NoiseGenerator where
  noise : (seed : UInt64) → (sequence : Nat) → Noise

namespace NoiseGenerator

/-- Mixes the bits of a word (a multiply-and-shift finaliser). -/
def mix (x : UInt64) : UInt64 :=
  let x := (x ^^^ (x >>> 30)) * 0xbf58476d1ce4e5b9
  let x := (x ^^^ (x >>> 27)) * 0x94d049bb133111eb
  x ^^^ (x >>> 31)

/-- A generator that cameras can be run with. -/
def mixing : NoiseGenerator where
  noise seed sequence :=
    let state := mix (seed + sequence.toUInt64 * 0x632be59bd9b4e019)
    ⟨fun place limit =>
      (mix (state + place.toUInt64 * 0x9e3779b97f4a7c15) % (limit.toUInt64 + 1)).toUInt8⟩

instance : Repr NoiseGenerator := ⟨fun _ _ => "generator"⟩

end NoiseGenerator
end TickCapture
