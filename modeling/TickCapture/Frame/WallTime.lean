/-! # Wall-clock time

A moment is a whole number of nanoseconds after (or before) the epoch, within the range of a
signed 64-bit count of seconds. A `WallTime` is a moment at or after the epoch, cut down to
milliseconds. -/

namespace TickCapture

/-- Nanoseconds after the epoch. -/
abbrev Moment := Int

def nanosPerSecond : Nat := 1000000000

def Moment.representable (t : Moment) : Bool :=
  -(Nat.pow 2 63 * nanosPerSecond : Nat) ≤ t && t < (Nat.pow 2 63 * nanosPerSecond : Nat)

structure WallTime where
  secs : UInt64
  millis : UInt32
  deriving DecidableEq, Repr

namespace WallTime

def ofMoment? (t : Moment) : Option WallTime :=
  if t < 0 then none
  else
    let n := t.toNat
    some ⟨(n / nanosPerSecond).toUInt64, (n % nanosPerSecond / 1000000).toUInt32⟩

def toSeconds (t : WallTime) : Float := t.secs.toFloat + t.millis.toFloat / 1000.0

/-- Earlier first: by seconds, then by milliseconds. -/
def compare (s t : WallTime) : Ordering :=
  (Ord.compare s.secs t.secs).then (Ord.compare s.millis t.millis)

end WallTime

/-- A span of time: whole seconds and nanoseconds below a second. -/
structure Span where
  secs : UInt64
  nanos : UInt32
  deriving DecidableEq, Repr

def Span.toSeconds (d : Span) : Float := d.secs.toFloat + d.nanos.toFloat / 1000000000.0

def Span.ofNanos (n : Nat) : Span :=
  ⟨(n / nanosPerSecond).toUInt64, (n % nanosPerSecond).toUInt32⟩

end TickCapture
