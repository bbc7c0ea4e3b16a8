/-! # Double-precision numbers as integers and powers of two

A finite double is `m * 2 ^ e`. `Binary64.ofBits` takes the bits apart and `Binary64.nearestRatio`
finds the double nearest to a quotient, the even one of two that are equally near. All decimal
reading and writing of doubles rests on these two. -/

namespace TickCapture

/-- A double-precision number; `finite negative m e` stands for `m * 2 ^ e`, with its sign. -/
inductive Binary64 where
  | nan
  | infinite (negative : Bool)
  | finite (negative : Bool) (m : Nat) (e : Int)

namespace Binary64

/-- The least exponent: that of the subnormal numbers. -/
def minExponent : Int := -1074

/-- The number that 64 bits stand for. -/
def ofBits (bits : UInt64) : Binary64 :=
  let n := bits.toNat
  let negative : Bool := Nat.pow 2 63 ≤ n
  let field : Nat := n / Nat.pow 2 52 % Nat.pow 2 11
  let fraction : Nat := n % Nat.pow 2 52
  if field = 2047 then if fraction = 0 then infinite negative else nan
  else if field = 0 then finite negative fraction minExponent
  else finite negative (Nat.pow 2 52 + fraction) ((field : Int) - 1075)

/-- `num / den` rounded to an integer, a half going to the even neighbour. -/
def roundEven (num den : Nat) : Nat :=
  let q := num / den
  let r := num % den
  if 2 * r < den then q
  else if den < 2 * r then q + 1
  else q + q % 2

/-- `num / den / 2 ^ e` as a quotient of naturals. -/
def shifted (num den : Nat) (e : Int) : Nat × Nat :=
  if 0 ≤ e then (num, den * Nat.pow 2 e.toNat) else (num * Nat.pow 2 (-e).toNat, den)

def infinityBits : UInt64 := 0x7FF0000000000000

/-- The bits of the double nearest to `num / den`, infinity from half a step above the largest
finite one. -/
def nearestRatio (num den : Nat) : UInt64 :=
  if num = 0 then 0
  else
    let guess : Int := (num.log2 : Int) - den.log2 - 52
    let (a, b) := shifted num den guess
    let e := max minExponent (if a / b < Nat.pow 2 52 then guess - 1 else guess)
    let (a, b) := shifted num den e
    let bits := (e - minExponent).toNat * Nat.pow 2 52 + roundEven a b
    if infinityBits.toNat ≤ bits then infinityBits else bits.toUInt64

/-- The bits of the double nearest to `digits * 10 ^ e`. The two far ends are settled first, by
bounds on the decimal logarithm, so no power of ten far beyond the range of doubles is computed. -/
def nearestDecimal (digits : Nat) (e : Int) : UInt64 :=
  if digits = 0 then 0
  else if 400 < (digits.log2 * 3 / 10 : Nat) + e then infinityBits
  else if ((digits.log2 + 1) * 4 / 13 + 1 : Nat) + e < -400 then 0
  else if 0 ≤ e then nearestRatio (digits * Nat.pow 10 e.toNat) 1
  else nearestRatio digits (Nat.pow 10 (-e).toNat)

end Binary64
end TickCapture
