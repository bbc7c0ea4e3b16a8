import TickCapture.Text.Utf8

/-! # Pixel encodings

An encoding is named by a code of four bytes. Two codes are known; any other is kept as it is. -/

namespace TickCapture

structure FourCC where
  a : UInt8
  b : UInt8
  c : UInt8
  d : UInt8
  deriving DecidableEq, Repr

def FourCC.toList (f : FourCC) : List UInt8 := [f.a, f.b, f.c, f.d]

inductive Encoding where
  /-- Packed 4:2:2, byte order Y0 U Y1 V. -/
  | yuyv
  /-- Packed 8-bit red, green, blue. -/
  | rgb24
  | other (code : FourCC)
  deriving DecidableEq, Repr

namespace Encoding

def yuyvCode : FourCC := ⟨89, 85, 89, 86⟩

def rgb24Code : FourCC := ⟨82, 71, 66, 51⟩

def ofFourCC (code : FourCC) : Encoding :=
  if code = yuyvCode then yuyv else if code = rgb24Code then rgb24 else other code

def fourCC : Encoding → FourCC
  | yuyv => yuyvCode
  | rgb24 => rgb24Code
  | other code => code

/-- Bytes of one pixel, for the encodings whose layout is known. -/
def bytesPerPixel? : Encoding → Option UInt32
  | yuyv => some 2
  | rgb24 => some 3
  | other _ => none

def text (e : Encoding) : String := lossyText e.fourCC.toList

end Encoding
end TickCapture
