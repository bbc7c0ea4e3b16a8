import TickCapture.Config.Toml.Text

/-! # Values in TOML

Numbers, moments, texts, arrays and inline tables. Moments are checked and then forgotten: no setting
takes one, but a moment in place of a section gives a section without settings. -/

namespace TickCapture
namespace Toml

/-! ## Numbers -/

/-- Digits of a class, with single underscores between them: the digits, and what follows. -/
def spacedDigits? (isDigit : Char → Bool) : List Char → Option (List Char × List Char)
  | [] => none
  | [c] => if isDigit c then some ([c], []) else none
  | c :: '_' :: r =>
    if isDigit c then (spacedDigits? isDigit r).map fun (more, r) => (c :: more, r) else none
  | c :: d :: r =>
    if !isDigit c then none
    else if isDigit d then (spacedDigits? isDigit (d :: r)).map fun (more, r) => (c :: more, r)
    else some ([c], d :: r)

/-- A sign, if there is one, and what follows. -/
def sign (s : List Char) : List Char × List Char :=
  match s with
  | c :: r => if c = '+' ∨ c = '-' then ([c], r) else ([], s)
  | [] => ([], [])

/-- The digits of a decimal integer: a zero alone, or no zero in front. -/
def whole? : List Char → Option (List Char × List Char)
  | '0' :: r => some (['0'], r)
  | s => spacedDigits? isDigit s

def exponentPart? (s : List Char) : Option (List Char × List Char) :=
  match s with
  | c :: r =>
    if c = 'e' ∨ c = 'E' then do
      let (mark, r) := sign r
      let (digits, r) ← spacedDigits? isDigit r
      return ('e' :: mark ++ digits, r)
    else some ([], s)
  | [] => some ([], [])

def fractionPart? (s : List Char) : Option (List Char × List Char) :=
  match s with
  | '.' :: r => (spacedDigits? isDigit r).map fun (digits, r) => ('.' :: digits, r)
  | _ => some ([], s)

/-- The integers that a setting may have. -/
def integer? (n : Int) : Option Datum :=
  if -(Nat.pow 2 63 : Nat) ≤ n ∧ n < Nat.pow 2 63 then some (.integer n) else none

/-- A number in decimal notation. One that is too large is an error, unless it is negative. -/
def decimalNumber? (s : List Char) : Option (Datum × List Char) := do
  let (mark, r) := sign s
  let (whole, r) ← whole? r
  let (fraction, r) ← fractionPart? r
  let (exponent, r) ← exponentPart? r
  if fraction = [] ∧ exponent = [] then
    let size : Int := ofDigits whole
    return (← integer? (if mark = ['-'] then -size else size), r)
  else
    let x ← TickCapture.number? (mark ++ whole ++ fraction ++ exponent)
    if x.isInf && 0 < x then none else return (.real x, r)

/-- An infinity, or no number. -/
def specialNumber? (s : List Char) : Option (Datum × List Char) :=
  let (mark, r) := sign s
  match r with
  | a :: b :: c :: r =>
    if [a, b, c] = "inf".toList ∨ [a, b, c] = "nan".toList then
      (TickCapture.number? (mark ++ [a, b, c])).map fun x => (.real x, r)
    else none
  | _ => none

/-- An integer in the notation of base `base`, its introduction left out. -/
def basedNumber? (base : Nat) (s : List Char) : Option (Datum × List Char) := do
  let isDigit (c : Char) : Bool := (Json.hexValue? c).any (· < base)
  let (digits, r) ← spacedDigits? isDigit s
  let n := digits.foldl (fun n c => base * n + (Json.hexValue? c).getD 0) 0
  return (← integer? n, r)

/-! ## Moments -/

/-- A number of exactly `count` digits, within bounds. -/
def field? (count low high : Nat) (s : List Char) : Option (Nat × List Char) := do
  let n ← decimal? (s.take count)
  if s.length < count ∨ n < low ∨ high < n then none else some (n, s.drop count)

def mark? (c : Char) (s : List Char) : Option (List Char) :=
  match s with
  | d :: r => if c = d then some r else none
  | [] => none

def daysIn (year month : Nat) : Nat :=
  if month = 2 then
    if year % 4 = 0 ∧ (year % 100 ≠ 0 ∨ year % 400 = 0) then 29 else 28
  else if month ∈ [4, 6, 9, 11] then 30
  else 31

def date? (s : List Char) : Option (List Char) := do
  let (year, r) ← field? 4 0 9999 s
  let r ← mark? '-' r
  let (month, r) ← field? 2 1 12 r
  let r ← mark? '-' r
  let (_, r) ← field? 2 1 (daysIn year month) r
  return r

def hourAndMinute? (s : List Char) : Option (List Char) := do
  let (_, r) ← field? 2 0 23 s
  let r ← mark? ':' r
  let (_, r) ← field? 2 0 59 r
  return r

/-- What follows a time of day. A minute may have a leap second. -/
def time? (s : List Char) : Option (List Char) := do
  let r ← hourAndMinute? s
  let r ← mark? ':' r
  let (_, r) ← field? 2 0 60 r
  match r with
  | '.' :: digits => return if digits.takeWhile isDigit = [] then r else digits.dropWhile isDigit
  | _ => return r

/-- What follows a distance from universal time; there need not be one. -/
def offset? (s : List Char) : Option (List Char) :=
  match s with
  | c :: r =>
    if c = 'Z' ∨ c = 'z' then some r
    else if c = '+' ∨ c = '-' then hourAndMinute? r
    else some s
  | [] => some []

def moment? (s : List Char) : Option (List Char) :=
  match date? s with
  | none => time? s
  | some r =>
    match r with
    | c :: timed =>
      if c = 'T' ∨ c = 't' ∨ c = ' ' then
        match time? timed with
        | some r => offset? r
        | none => some r
      else some r
    | [] => some []

/-! ## Tables within values -/

/-- How a table came to be: by a header or braces, as a parent that a header names on the way, or by a
dotted key. -/
inductive Origin where
  | header
  | parent
  | dotted
  deriving DecidableEq

inductive Node where
  /-- A value, which is complete; so is an inline table. -/
  | value (d : Datum)
  | table (origin : Origin) (entries : List (String × Node))
  /-- The tables under a header in double brackets. -/
  | tables (elements : List (List (String × Node)))

abbrev Entries := List (String × Node)

namespace Entries

def set (es : Entries) (key : String) (node : Node) : Entries :=
  if es.any (·.1 = key) then es.map fun e => if e.1 = key then (key, node) else e
  else es ++ [(key, node)]

/-- Changes the table at the end of a path, and makes the tables on the way that are missing. Dotted
keys may not pass through a table that a header has made. -/
def alter (dotted : Bool) (f : Origin → Entries → Option Entries) (origin : Origin) :
    List String → Entries → Option Entries
  | [], es => f origin es
  | key :: path, es =>
    match es.lookup key with
    | none =>
      let made := if dotted then Origin.dotted else .parent
      (alter dotted f made path []).map fun new => es ++ [(key, .table made new)]
    | some (.value _) => none
    | some (.tables elements) =>
      match elements.getLast? with
      | none => none
      | some last =>
        (alter dotted f .header path last).map fun new =>
          es.set key (.tables (elements.dropLast ++ [new]))
    | some (.table made inner) =>
      if dotted && made = .header then none
      else (alter dotted f made path inner).map fun new => es.set key (.table made new)

/-- Adds a value at a dotted key, which has to be new. Where the path has only one part, the table may
not be one that dotted keys have made, and otherwise it has to be. -/
def add (es : Entries) (path : List String) (d : Datum) : Option Entries :=
  match path.getLast? with
  | none => none
  | some key =>
    let above := path.dropLast
    alter true (fun origin es =>
      if (origin = .dotted ↔ above = []) ∨ (es.lookup key).isSome then none
      else some (es ++ [(key, .value d)])) .header above es

end Entries

mutual

def Node.datum : Node → Datum
  | .value d => d
  | .table _ es => .table (entriesData es)
  | .tables elements => .list (tablesData elements)

def entriesData : List (String × Node) → List (String × Datum)
  | [] => []
  | (key, node) :: es => (key, node.datum) :: entriesData es

def tablesData : List (List (String × Node)) → List Datum
  | [] => []
  | es :: more => .table (entriesData es) :: tablesData more

end

/-! ## Values -/

def numeric? (s : List Char) : Option (Datum × List Char) :=
  match moment? s with
  | some r => some (.table [], r)
  | none =>
    match s with
    | '0' :: 'x' :: r => basedNumber? 16 r
    | '0' :: 'o' :: r => basedNumber? 8 r
    | '0' :: 'b' :: r => basedNumber? 2 r
    | _ => specialNumber? s <|> decimalNumber? s

mutual

/-- A value and what follows it. The first number bounds the depth of values in values, the second
one the recursion. -/
def value? (depth : Nat) : Nat → List Char → Option (Datum × List Char)
  | 0, _ => none
  | n + 1, s =>
    match s with
    | '"' :: _ | '\'' :: _ => (text? s).map fun (cs, r) => (.text (String.ofList cs), r)
    | '[' :: r =>
      if depth = 0 then none
      else (items? (depth - 1) n r).map fun (items, r) => (.list items, r)
    | '{' :: r =>
      if depth = 0 then none
      else
        match skip r with
        | '}' :: r => some (.table [], r)
        | r => (fields? (depth - 1) n r []).map fun (es, r) => (.table (entriesData es), r)
    | 't' :: 'r' :: 'u' :: 'e' :: r => some (.truth true, r)
    | 'f' :: 'a' :: 'l' :: 's' :: 'e' :: r => some (.truth false, r)
    | _ => numeric? s

/-- The items of an array up to its end; a comma may stand after the last. -/
def items? (depth : Nat) : Nat → List Char → Option (List Datum × List Char)
  | 0, _ => none
  | n + 1, s =>
    match skipLines false s with
    | ']' :: r => some ([], r)
    | s => do
      let (item, r) ← value? depth n s
      match skipLines false r with
      | ',' :: r =>
        let (more, r) ← items? depth n r
        return (item :: more, r)
      | ']' :: r => return ([item], r)
      | _ => none

def fields? (depth : Nat) : Nat → List Char → Entries → Option (Entries × List Char)
  | 0, _, _ => none
  | n + 1, s, es => do
    let (path, r) ← key? s
    let r ← mark? '=' r
    let (d, r) ← value? depth n (skip r)
    let es ← es.add path d
    match skip r with
    | ',' :: r => fields? depth n r es
    | '}' :: r => return (es, r)
    | _ => none

end

end Toml
end TickCapture
