import TickCapture.Frame.Encoding

/-! # Frame formats

The geometry of a frame as a camera states it: all five numbers are 32-bit words. Derived sizes
saturate at the largest word; the byte counts of a packed frame are refused when they do not
fit. -/

namespace TickCapture

def saturatingMul (a b : UInt32) : UInt32 :=
  if a.toNat * b.toNat < UInt32.size then a * b else 0xFFFFFFFF

def checkedMul? (a b : UInt32) : Option UInt32 :=
  if a.toNat * b.toNat < UInt32.size then some (a * b) else none

/-- What a camera delivers: size in pixels, encoding, bytes from one line to the next, bytes of a
whole image. -/
structure Format where
  width : UInt32
  height : UInt32
  encoding : Encoding
  bytesPerLine : UInt32
  sizeImage : UInt32
  deriving DecidableEq, Repr

inductive FormatError where
  | overflow
  deriving DecidableEq, Repr

def FormatError.message : FormatError → String
  | overflow => "frame dimensions overflow"

namespace Format

/-- Raises the line and image sizes to what the geometry needs at least; some cameras state too
little. -/
def sanitized (f : Format) : Format :=
  let line := max f.bytesPerLine (saturatingMul f.width 2)
  { f with
    bytesPerLine := line
    sizeImage := max f.sizeImage (saturatingMul line f.height) }

/-- The format of lines that follow one another without a gap. -/
def packed (width height : UInt32) (encoding : Encoding) : Format :=
  let line := saturatingMul width (encoding.bytesPerPixel?.getD 2)
  sanitized ⟨width, height, encoding, line, saturatingMul line height⟩

/-- Bytes of a packed frame with `bpp` bytes per pixel. -/
def frameBytes (f : Format) (bpp : UInt32) : Except FormatError Nat :=
  match (checkedMul? f.width f.height).bind (checkedMul? · bpp) with
  | some n => .ok n.toNat
  | none => .error .overflow

def yuyvFrameBytes (f : Format) : Except FormatError Nat := f.frameBytes 2

def rgbFrameBytes (f : Format) : Except FormatError Nat := f.frameBytes 3

def text (f : Format) : String :=
  s!"{f.encoding.text} {f.width}x{f.height} (stride {f.bytesPerLine}, {f.sizeImage} bytes)"

end Format
end TickCapture
