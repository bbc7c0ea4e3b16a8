import TickCapture.Bytes
import TickCapture.Decimal.Digits
import TickCapture.Fault
import TickCapture.Frame.WallTime
import TickCapture.Store.Error

/-! # Images and their files

An image is stored as a binary portable pixmap: a header of four lines, of which the second tells
when the frame was taken, and then the pixel bytes.

The header contains `\n255\n` at its end only, so a file is cut behind the first place where that
stands, and the header lines are read back one by one. -/

namespace TickCapture

/-- One frame to be stored: packed RGB pixels under a sequence number. -/
structure ImageRecord where
  sequence : Nat
  time : WallTime
  width : UInt32
  height : UInt32
  pixels : Bytes
  deriving DecidableEq, Repr

class ImageSink (σ : Type) where
  /-- Stores one image: how many bytes its file has. -/
  store : σ → ImageRecord → σ × Except (Trouble SinkError) Nat

namespace Ppm

def headerText (time : WallTime) (width height : UInt32) : List Char :=
  "P6\n#".toList ++ padded 10 time.secs.toNat ++ " sec ".toList ++
    padded 10 time.millis.toNat ++ " msec \n ".toList ++ decimal width.toNat ++ [' '] ++
    decimal height.toNat ++ " \n255\n".toList

def asciiByte (c : Char) : UInt8 := c.toNat.toUInt8

def header (time : WallTime) (width height : UInt32) : Bytes :=
  ((headerText time width height).map asciiByte).toArray

def encode (time : WallTime) (width height : UInt32) (pixels : Bytes) : Bytes :=
  header time width height ++ pixels

/-- What a header ends with. -/
def terminator : List UInt8 := "\n255\n".toList.map asciiByte

/-- Cuts behind the first `\n255\n`: what comes up to there, and the rest. -/
def cut? : List UInt8 → Option (List UInt8 × List UInt8)
  | [] => none
  | b :: bs =>
    if terminator.isPrefixOf (b :: bs) then
      some ((b :: bs).take terminator.length, (b :: bs).drop terminator.length)
    else (cut? bs).map fun (head, rest) => (b :: head, rest)

/-- Takes a text off the front. -/
def skip? (text : String) (cs : List Char) : Option (List Char) :=
  if text.toList.isPrefixOf cs then some (cs.drop text.toList.length) else none

/-- Takes a run of digits off the front: their value, and the rest. -/
def number? (cs : List Char) : Option (Nat × List Char) :=
  (decimal? (cs.takeWhile isDigit)).map fun n => (n, cs.dropWhile isDigit)

/-- Reads a header back: seconds, milliseconds, width and height. -/
def parseHeader? (cs : List Char) : Option (Nat × Nat × Nat × Nat) := do
  let cs ← skip? "P6\n#" cs
  let (secs, cs) ← number? cs
  let cs ← skip? " sec " cs
  let (millis, cs) ← number? cs
  let cs ← skip? " msec \n " cs
  let (width, cs) ← number? cs
  let cs ← skip? " " cs
  let (height, cs) ← number? cs
  let cs ← skip? " \n255\n" cs
  if cs = [] then some (secs, millis, width, height) else none

/-- An image file as its header and its pixels; a file that has no header is all pixels. -/
def split (file : Bytes) : Bytes × Bytes :=
  match cut? file.toList with
  | some (head, rest) => (head.toArray, rest.toArray)
  | none => (#[], file)

end Ppm

namespace ImageRecord

/-- Bytes that the stated size needs; the number has to fit a 64-bit word. -/
def expectedBytes (r : ImageRecord) : Except (Trouble SinkError) Nat :=
  word64 (r.width.toNat * r.height.toNat * 3)

/-- The pixel bytes have to be as many as the stated size needs. -/
def check (r : ImageRecord) : Except (Trouble SinkError) Unit := do
  let expected ← r.expectedBytes
  if r.pixels.size ≠ expected then throw (.error (.invalidImage expected r.pixels.size))

def header (r : ImageRecord) : Bytes := Ppm.header r.time r.width r.height

def file (r : ImageRecord) : Bytes := r.header ++ r.pixels

end ImageRecord
end TickCapture
