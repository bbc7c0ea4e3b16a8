/-! # Colour conversion of one pixel

BT.601 in integers scaled by 256, rounded to the nearest and clamped to a byte. -/

namespace TickCapture

/-- The three channels of a colour, in the order they are stored. -/
inductive Channel where
  | red
  | green
  | blue
  deriving DecidableEq, Repr

def Channel.ofOffset (i : Nat) : Channel := if i = 0 then red else if i = 1 then green else blue

def clampByte (v : Int) : UInt8 := (min 255 (max 0 v)).toNat.toUInt8

def channelOf (y u v : UInt8) (channel : Channel) : UInt8 :=
  let c : Int := (y.toNat : Int) - 16
  let d : Int := (u.toNat : Int) - 128
  let e : Int := (v.toNat : Int) - 128
  match channel with
  | .red => clampByte ((298 * c + 409 * e + 128) / 256)
  | .green => clampByte ((298 * c - 100 * d - 208 * e + 128) / 256)
  | .blue => clampByte ((298 * c + 516 * d + 128) / 256)

/-- The bytes of one pixel, as they are stored. -/
def colourOf (y u v : UInt8) : List UInt8 :=
  [channelOf y u v .red, channelOf y u v .green, channelOf y u v .blue]

end TickCapture
