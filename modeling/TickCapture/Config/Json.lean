import TickCapture.Config.Datum
import TickCapture.Decimal.Number
import TickCapture.Text.Blank

/-! # Reading JSON

`Json.read?` takes a text that is one JSON value, blanks around it, and gives the datum. A text with half
of a surrogate pair and a number beyond the doubles are well-formed but unreadable; so is an object in
which a name is unreadable.

Numbers with a fraction or an exponent are read the quick way: the digits that fit a 64-bit word, and
then one multiplication or division by a power of ten. The result can miss the nearest double by a bit. -/

namespace TickCapture
namespace Json

def isSpace (c : Char) : Bool := c = ' ' || c = '\n' || c = '\t' || c = '\r'

def skip (s : List Char) : List Char := s.dropWhile isSpace

/-! ## Numbers -/

/-- A number as written: its sign, the digits before and after the point, and its exponent. -/
structure Number where
  negative : Bool
  whole : List Char
  fraction : List Char
  exponent : Option Int

/-- Appends digits to a number as long as a 64-bit word holds it; then the digits that are left do
not count any more. -/
def gather (n : Nat) : List Char → Nat × Nat
  | [] => (n, 0)
  | c :: cs =>
    let more := 10 * n + digitValue c
    if more < UInt64.size then gather more cs else (n, cs.length + 1)

def double (n : Nat) : Float := Float.ofBits (Binary64.nearestRatio n 1)

/-- The largest power of ten that is a double. -/
def topPower : Nat := 308

def power (n : Nat) : Float := Float.ofBits (Binary64.nearestDecimal 1 n)

def divided (x : Float) (n : Nat) : Float :=
  if n ≤ topPower then x / power n
  else if x == 0 then x
  else divided (x / power topPower) (n - topPower)
termination_by n
decreasing_by simp only [topPower] at *; omega

def multiplied? (x : Float) (n : Nat) : Option Float :=
  if n ≤ topPower then
    let y := x * power n
    if y.isInf then none else some y
  else if x == 0 then some x
  else none

def Number.real? (n : Number) : Option Float :=
  let (significand, dropped) := gather 0 n.whole
  let (significand, unread) := gather significand n.fraction
  let places : Int := dropped - (n.fraction.length - unread : Nat) + n.exponent.getD 0
  let x := double significand
  let size := if 0 ≤ places then multiplied? x places.toNat else some (divided x (-places).toNat)
  size.map fun x => if n.negative then -x else x

/-- The integer that a number denotes, if it is written as one and 64 bits hold it. Zero with a minus
sign is no integer. -/
def Number.integer? (n : Number) : Option Int :=
  if n.fraction ≠ [] ∨ n.exponent ≠ none then none
  else
    let size := ofDigits n.whole
    if n.negative then if size = 0 ∨ Nat.pow 2 63 < size then none else some (-size)
    else if size < UInt64.size then some size
    else none

def Number.datum (n : Number) : Datum :=
  match n.integer? with
  | some i => .integer i
  | none => (n.real?.map Datum.real).getD .unreadable

/-- The digits at the front, at least one. -/
def digits? (s : List Char) : Option (List Char × List Char) :=
  match s.takeWhile isDigit with
  | [] => none
  | digits => some (digits, s.dropWhile isDigit)

/-- The part of a number before its point: no zero in front of other digits. -/
def whole? : List Char → Option (List Char × List Char)
  | '0' :: r => some (['0'], r)
  | s => digits? s

def fraction? : List Char → Option (List Char × List Char)
  | '.' :: r => digits? r
  | s => some ([], s)

def exponentPart? : List Char → Option (Option Int × List Char)
  | c :: r =>
    if c = 'e' ∨ c = 'E' then do
      let (negative, r) := takeSign r
      let (digits, r) ← digits? r
      let n : Int := ofDigits digits
      return (some (if negative then -n else n), r)
    else some (none, c :: r)
  | [] => some (none, [])

def number? (s : List Char) : Option (Number × List Char) := do
  let (negative, s) := match s with
    | '-' :: r => (true, r)
    | _ => (false, s)
  let (whole, s) ← whole? s
  let (fraction, s) ← fraction? s
  let (exponent, s) ← exponentPart? s
  return (⟨negative, whole, fraction, exponent⟩, s)

/-! ## Texts -/

def hexValue? (c : Char) : Option Nat :=
  if isDigit c then some (digitValue c)
  else if 'a' ≤ lowerAscii c ∧ lowerAscii c ≤ 'f' then some ((lowerAscii c).toNat - 87)
  else none

def hex? (cs : List Char) : Option Nat :=
  cs.foldlM (fun n c => (hexValue? c).map (16 * n + ·)) 0

/-- The character that a letter after a backslash stands for. -/
def escaped? (c : Char) : Option Char :=
  ([('"', '"'), ('\\', '\\'), ('/', '/'), ('b', '\x08'), ('f', '\x0c'), ('n', '\n'), ('r', '\r'),
    ('t', '\t')] : List (Char × Char)).lookup c

/-- The code points of a text that has begun, up to its closing quote, and what follows. An escape can
give half of a surrogate pair. -/
def codes? : List Char → Option (List Nat × List Char)
  | [] => none
  | '"' :: r => some ([], r)
  | '\\' :: 'u' :: a :: b :: c :: d :: r => do
    let code ← hex? [a, b, c, d]
    let (more, r) ← codes? r
    return (code :: more, r)
  | '\\' :: c :: r => do
    let char ← escaped? c
    let (more, r) ← codes? r
    return (char.toNat :: more, r)
  | c :: r => do
    if c < ' ' ∨ c = '\\' then none
    let (more, r) ← codes? r
    return (c.toNat :: more, r)

/-- The text that code points make, if every surrogate has its other half. -/
def joined? : List Nat → Option (List Char)
  | [] => some []
  | high :: low :: r =>
    if 0xD800 ≤ high ∧ high < 0xDC00 then
      if 0xDC00 ≤ low ∧ low < 0xE000 then
        (joined? r).map (Char.ofNat (0x10000 + (high - 0xD800) * 0x400 + (low - 0xDC00)) :: ·)
      else none
    else if 0xDC00 ≤ high ∧ high < 0xE000 then none
    else (joined? (low :: r)).map (Char.ofNat high :: ·)
  | [code] => if 0xD800 ≤ code ∧ code < 0xE000 then none else some [Char.ofNat code]

def textOf? (codes : List Nat) : Option String := (joined? codes).map String.ofList

/-! ## Values -/

/-- An object; unreadable if one of its names is. -/
def object (fields : List (Option String × Datum)) : Datum :=
  match fields.mapM fun (name, d) => name.map (·, d) with
  | some fields => .table fields
  | none => .unreadable

mutual

/-- A value and what follows it. The number bounds the depth of the recursion. -/
def value? : Nat → List Char → Option (Datum × List Char)
  | 0, _ => none
  | n + 1, s =>
    match skip s with
    | '"' :: r => (codes? r).map fun (codes, r) =>
      (((textOf? codes).map Datum.text).getD .unreadable, r)
    | '[' :: r =>
      match skip r with
      | ']' :: r => some (.list [], r)
      | r => (items? n r).map fun (items, r) => (.list items, r)
    | '{' :: r =>
      match skip r with
      | '}' :: r => some (.table [], r)
      | r => (fields? n r).map fun (fields, r) => (object fields, r)
    | 'n' :: 'u' :: 'l' :: 'l' :: r => some (.null, r)
    | 't' :: 'r' :: 'u' :: 'e' :: r => some (.truth true, r)
    | 'f' :: 'a' :: 'l' :: 's' :: 'e' :: r => some (.truth false, r)
    | s => (number? s).map fun (n, r) => (n.datum, r)

def items? : Nat → List Char → Option (List Datum × List Char)
  | 0, _ => none
  | n + 1, s => do
    let (item, r) ← value? n s
    match skip r with
    | ',' :: r =>
      let (more, r) ← items? n r
      return (item :: more, r)
    | ']' :: r => return ([item], r)
    | _ => none

def fields? : Nat → List Char → Option (List (Option String × Datum) × List Char)
  | 0, _ => none
  | n + 1, s => do
    let '"' :: r := skip s | none
    let (name, r) ← codes? r
    let ':' :: r := skip r | none
    let (d, r) ← value? n r
    match skip r with
    | ',' :: r =>
      let (more, r) ← fields? n r
      return ((textOf? name, d) :: more, r)
    | '}' :: r => return ([(textOf? name, d)], r)
    | _ => none

end

def read? (s : List Char) : Option Datum := do
  let (d, r) ← value? (2 * s.length + 2) s
  if skip r = [] then some d else none

end Json
end TickCapture
