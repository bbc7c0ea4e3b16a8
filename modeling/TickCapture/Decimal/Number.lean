import TickCapture.Decimal.Digits
import TickCapture.Decimal.Shortest

/-! # Numbers in messages and settings

`numberText` writes a double with the fewest digits that read back, never with an exponent;
`fixedText` writes it with a given number of decimal places; `number?` reads one. -/

namespace TickCapture

/-- The digits of `d * 10 ^ k` in positional notation: no exponent, and no point in a whole
number. -/
def positional (d : Nat) (k : Int) : List Char :=
  if 0 ≤ k then decimal (d * Nat.pow 10 k.toNat)
  else
    let places := (-k).toNat
    let digits := padded (places + 1) d
    let whole := digits.take (digits.length - places)
    let fraction := digits.drop (digits.length - places)
    whole ++ '.' :: fraction

def signed (negative : Bool) (cs : List Char) : List Char := if negative then '-' :: cs else cs

/-- A double as messages show it. -/
def numberText (x : Float) : String :=
  String.ofList <| match Binary64.ofBits x.toBits with
    | .nan => ['N', 'a', 'N']
    | .infinite negative => signed negative ['i', 'n', 'f']
    | .finite negative 0 _ => signed negative ['0']
    | .finite negative m e =>
      let (d, k) := Binary64.shortest m e
      signed negative (positional d k)

/-- A finite double with `places` decimal places, a half going to the even neighbour; the other
values as `numberText` shows them. -/
def fixedText (places : Nat) (x : Float) : String :=
  match Binary64.ofBits x.toBits with
  | .finite negative m e =>
    let (num, den) := if 0 ≤ e then (m * Nat.pow 2 e.toNat, 1) else (m, Nat.pow 2 (-e).toNat)
    let rounded := Binary64.roundEven (num * Nat.pow 10 places) den
    String.ofList (signed negative (positional rounded (-places)))
  | _ => numberText x

/-- A number taken apart: its sign, all its digits, and the power of ten they are multiplied by. -/
structure Numeral where
  negative : Bool
  digits : Nat
  exponent : Int

/-- The double nearest to a numeral; beyond the largest finite one it is infinite. -/
def Numeral.toFloat (n : Numeral) : Float :=
  let x := Float.ofBits (Binary64.nearestDecimal n.digits n.exponent)
  if n.negative then -x else x

/-- Takes one plus or minus sign off the front: whether it was a minus, and the rest. -/
def takeSign : List Char → Bool × List Char
  | '+' :: cs => (false, cs)
  | '-' :: cs => (true, cs)
  | cs => (false, cs)

/-- The exponent part of a numeral, all of `cs`: nothing, or a letter, a sign and digits. -/
def exponent? : List Char → Option Int
  | [] => some 0
  | c :: cs =>
    if c = 'e' ∨ c = 'E' then
      let (negative, digits) := takeSign cs
      (decimal? digits).map fun n => if negative then -(n : Int) else n
    else none

/-- A numeral without its sign: digits, a point and digits, an exponent. One of the two runs of
digits may be empty. -/
def unsignedNumeral? (negative : Bool) (cs : List Char) : Option Numeral :=
  let whole := cs.takeWhile isDigit
  let (fraction, rest) := match cs.dropWhile isDigit with
    | '.' :: rest => (rest.takeWhile isDigit, rest.dropWhile isDigit)
    | rest => ([], rest)
  if whole = [] ∧ fraction = [] then none
  else (exponent? rest).map fun e => ⟨negative, ofDigits (whole ++ fraction), e - fraction.length⟩

/-- A double: a numeral, or the words for infinity and for not-a-number in any case of letters. -/
def number? (cs : List Char) : Option Float :=
  let (negative, body) := takeSign cs
  let word := body.map fun c => if 'A' ≤ c ∧ c ≤ 'Z' then Char.ofNat (c.toNat + 32) else c
  if word = "inf".toList ∨ word = "infinity".toList then
    some (Float.ofBits (if negative then 0xFFF0000000000000 else 0x7FF0000000000000))
  else if word = "nan".toList then some (Float.ofBits 0x7FF8000000000000)
  else (unsignedNumeral? negative body).map Numeral.toFloat

end TickCapture
