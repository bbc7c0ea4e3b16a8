import TickCapture.Decimal.Binary64

/-! # The fewest digits that read back

For a positive double `m * 2 ^ e` the decimal numbers that read back as it form an interval, whose
ends belong to it iff `m` is even. `shortest` looks at the decimal grids `10 ^ k` from coarse to
fine: the first grid with a point in the interval wins, and of two neighbours on it the nearer, or
the upper one if both are equally near. -/

namespace TickCapture
namespace Binary64

/-- A positive double scaled so that one decimal grid is the multiples of `unit`: its own value,
and the ends of the interval that reads back as it. -/
structure Scaled where
  unit : Nat
  value : Nat
  low : Nat
  high : Nat
  closed : Bool

/-- `m * 2 ^ e` against the grid `10 ^ k`. The interval reaches half a step up and half a step
down, but only a quarter down where the steps below are half as wide. -/
def scaled (m : Nat) (e k : Int) : Scaled :=
  let factor := Nat.pow 2 (e - 2).toNat * Nat.pow 10 (-k).toNat
  let below := if m = Nat.pow 2 52 ∧ minExponent < e then 1 else 2
  { unit := Nat.pow 10 k.toNat * Nat.pow 2 (2 - e).toNat
    value := 4 * m * factor
    low := (4 * m - below) * factor
    high := (4 * m + 2) * factor
    closed := m % 2 = 0 }

def Scaled.holds (s : Scaled) (d : Nat) : Bool :=
  if s.closed then s.low ≤ d * s.unit && d * s.unit ≤ s.high
  else s.low < d * s.unit && d * s.unit < s.high

def Scaled.nearest? (s : Scaled) : Option Nat :=
  let d := s.value / s.unit
  match s.holds d, s.holds (d + 1) with
  | true, true => some (if 2 * s.value < (2 * d + 1) * s.unit then d else d + 1)
  | true, false => some d
  | false, true => some (d + 1)
  | false, false => none

/-- The first of `n` grids from `10 ^ k` downward that has a point in the interval. -/
def firstGrid (m : Nat) (e : Int) : Nat → Int → Nat × Int
  | 0, k => ((scaled m e k).value / (scaled m e k).unit, k)
  | n + 1, k =>
    match (scaled m e k).nearest? with
    | some d => (d, k)
    | none => firstGrid m e n (k - 1)

/-- A decimal exponent not below that of `m * 2 ^ e`. -/
def topExponent (m : Nat) (e : Int) : Int := ((m.log2 + e + 1) * 30103).fdiv 100000 + 1

/-- Digits `d` and an exponent `k` such that `d * 10 ^ k` reads back as `m * 2 ^ e`, with as few
digits as possible. Seventeen digits always suffice, and `topExponent` is at most two too high. -/
def shortest (m : Nat) (e : Int) : Nat × Int := firstGrid m e 20 (topExponent m e)

end Binary64
end TickCapture
