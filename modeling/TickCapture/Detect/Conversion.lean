import TickCapture.Bytes
import TickCapture.Fault
import TickCapture.Detect.Colour
import TickCapture.Detect.Error
import TickCapture.Frame.Format

/-! # Conversion of whole frames

`convertOver` turns packed 4:2:2 lines into packed RGB, in place: line by line, and in a line group by
group. Lines may be longer than their pixels need; what lies between them is not read. Two pixels
share one group of four source bytes, so the last pixel of a line of odd width is not written.

All sizes are 64-bit words, so computing one may overflow, and lines of no bytes cannot be stepped
through: these are faults. -/

namespace TickCapture

/-- The byte at position `i`. Positions come from the size checks of a conversion. -/
def byteAt (src : Bytes) (i : Nat) : UInt8 := src.getD i 0

/-- The two pixels of the four bytes at `group`: each has its own luma, and they share the chroma. -/
def groupPixels (src : Bytes) (group : Nat) : List UInt8 :=
  let u := byteAt src (group + 1)
  let v := byteAt src (group + 3)
  colourOf (byteAt src group) u v ++ colourOf (byteAt src (group + 2)) u v

/-- Converts a number of groups from position `start` on, over `dst` from position `out` on. -/
def convertLine (src : Bytes) : (groups start out : Nat) → Bytes → Bytes
  | 0, _, _, dst => dst
  | n + 1, start, out, dst =>
    convertLine src n (start + 4) (out + 6) (dst.put out (groupPixels src start))

namespace Format

/-- Bytes that the pixels of one source line take. -/
def lineBytes (f : Format) : Nat := f.width.toNat * 2

def stride (f : Format) : Nat := max f.bytesPerLine.toNat f.lineBytes

def rgbLineBytes (f : Format) : Nat := f.width.toNat * 3

/-- Bytes of source that a frame needs: full strides, but for the last line only its pixels. -/
def sourceBytes (f : Format) : Nat :=
  if f.height = 0 then 0 else f.stride * (f.height.toNat - 1) + f.lineBytes

def rgbBytes (f : Format) : Nat := f.rgbLineBytes * f.height.toNat

/-- Groups of a line that are whole both in the source and in what they are converted to. -/
def lineGroups (f : Format) : Nat := min (f.lineBytes / 4) (f.rgbLineBytes / 6)

/-- Converts `n` lines over `dst`, the first of them being line `row`. -/
def convertLines (f : Format) (src : Bytes) :
    (n row : Nat) → Bytes → Bytes × Except (Trouble DetectError) Unit
  | 0, _, dst => (dst, .ok ())
  | n + 1, row, dst =>
    if row * f.stride + f.lineBytes ≤ src.size then
      f.convertLines src n (row + 1)
        (convertLine src f.lineGroups (row * f.stride) (row * f.rgbLineBytes) dst)
    else (dst, .error (.fault .outOfBounds))

/-- What a conversion is going to write, if source and destination are as large as it needs. -/
def checkSizes (f : Format) (source destination : Nat) : Except (Trouble DetectError) Nat := do
  let needed ← word64 f.sourceBytes
  if source < needed then throw (.error (.frameSizeMismatch needed source))
  let made ← word64 f.rgbBytes
  if destination < made then throw (.error (.outputTooSmall made destination))
  if f.rgbLineBytes = 0 then throw (.fault .zeroChunk)
  return made

end Format

/-- Converts a frame over `dst`: what `dst` holds afterwards, and how many bytes of it the frame
takes. -/
def convertOver (src : Bytes) (f : Format) (dst : Bytes) :
    Bytes × Except (Trouble DetectError) Nat :=
  match f.checkSizes src.size dst.size with
  | .error trouble => (dst, .error trouble)
  | .ok made =>
    let (rgb, outcome) := f.convertLines src f.height.toNat 0 dst
    (rgb, outcome.map fun () => made)

/-- The frame that a conversion over `dst` leaves there, if it succeeds. -/
def toRgb (src : Bytes) (f : Format) (dst : Bytes) :
    Except (Trouble DetectError) (Bytes × Nat) :=
  let (rgb, outcome) := convertOver src f dst
  outcome.map (rgb, ·)

end TickCapture
