import TickCapture.Config.Toml.Value

/-! # Reading TOML

A document is a table of pairs, and then headers, each with the pairs of its table. `Toml.read?` takes a
whole document and gives the datum of its root. -/

namespace TickCapture
namespace Toml

structure Header where
  path : List String
  /-- Double brackets: the header adds a table to those of that name. -/
  repeated : Bool

/-- Pairs of keys and values, each on lines of its own, up to a header or the end. -/
def pairs? : Nat → List Char → Option (List (List String × Datum) × List Char)
  | 0, _ => none
  | n + 1, s =>
    match skipLines false s with
    | [] => some ([], [])
    | '[' :: r => some ([], '[' :: r)
    | s => do
      let (path, r) ← key? s
      let r ← mark? '=' r
      let (d, r) ← value? depthLimit (2 * r.length + 2) (skip r)
      let r ← lineEnd? r
      let (more, r) ← pairs? n r
      return ((path, d) :: more, r)

def header? (s : List Char) : Option (Header × List Char) := do
  let (s, repeated) ← match s with
    | '[' :: '[' :: r => some (r, true)
    | '[' :: r => some (r, false)
    | _ => none
  let (path, r) ← key? s
  let r ← mark? ']' r
  let r ← if repeated then mark? ']' r else some r
  let r ← lineEnd? r
  return (⟨path, repeated⟩, r)

def groups? : Nat → List Char → Option (List (Header × List (List String × Datum)))
  | _, [] => some []
  | 0, _ => none
  | n + 1, s => do
    let (header, r) ← header? s
    let (pairs, r) ← pairs? (r.length + 1) r
    let more ← groups? n r
    return ((header, pairs) :: more)

def addPairs (es : Entries) (pairs : List (List String × Datum)) : Option Entries :=
  pairs.foldlM (fun es (path, d) => es.add path d) es

/-- Adds the table of a header. A table may have been named on the way to others before, but it may not
have had a header, nor dotted keys. -/
def addTable (root : Entries) (header : Header) (pairs : List (List String × Datum)) :
    Option Entries :=
  match header.path.getLast? with
  | none => none
  | some key =>
    Entries.alter false (fun _ es =>
      match header.repeated, es.lookup key with
      | true, none => (addPairs [] pairs).map fun new => es ++ [(key, .tables [new])]
      | true, some (.tables elements) =>
        (addPairs [] pairs).map fun new => es.set key (.tables (elements ++ [new]))
      | false, none => (addPairs [] pairs).map fun new => es ++ [(key, .table .header new)]
      | false, some (.table .parent inner) =>
        (addPairs inner pairs).map fun new => es.set key (.table .header new)
      | _, _ => none) .header header.path.dropLast root

/-- The datum that a whole document denotes. A byte order mark may stand in front. -/
def read? (s : List Char) : Option Datum := do
  let s := match s with
    | '\uFEFF' :: r => r
    | _ => s
  let (pairs, r) ← pairs? (s.length + 1) s
  let groups ← groups? (r.length + 1) r
  let root ← addPairs [] pairs
  let root ← groups.foldlM (fun root (header, pairs) => addTable root header pairs) root
  return .table (entriesData root)

end Toml
end TickCapture
