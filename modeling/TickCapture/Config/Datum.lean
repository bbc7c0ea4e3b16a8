import TickCapture.Decimal.Binary64

/-! # Data of settings files

Whatever the notation of a settings file, its contents are a tree of data. The settings of a section are
the fields of a table, in any order; a list gives them in the order in which the section declares them.
A setting that is null is as good as absent. -/

namespace TickCapture

inductive Datum where
  | null
  | truth (b : Bool)
  /-- A number without fraction and exponent. -/
  | integer (n : Int)
  | real (x : Float)
  | text (s : String)
  | list (items : List Datum)
  | table (fields : List (String × Datum))
  /-- Something well-formed whose value cannot be had. It may stand where nobody asks for it. -/
  | unreadable

namespace Datum

/-- A setting read by `f`: absent if it is null. -/
def setting? {α : Type} (f : Datum → Option α) : Datum → Option (Option α)
  | null => some none
  | d => (f d).map some

def truth? : Datum → Option (Option Bool) := setting? fun
  | truth b => some b
  | _ => none

def text? : Datum → Option (Option String) := setting? fun
  | text s => some s
  | _ => none

/-- An integer that a word of `bits` bits holds. -/
def natural? (bits : Nat) : Datum → Option (Option Nat) := setting? fun
  | integer (.ofNat n) => if n < Nat.pow 2 bits then some n else none
  | _ => none

def word32? (d : Datum) : Option (Option UInt32) := (natural? 32 d).map (·.map Nat.toUInt32)

def word64? (d : Datum) : Option (Option UInt64) := (natural? 64 d).map (·.map Nat.toUInt64)

/-- A number; an integer stands for the double nearest to it. -/
def number? : Datum → Option (Option Float) := setting? fun
  | integer n =>
    let x := Float.ofBits (Binary64.nearestRatio n.natAbs 1)
    some (if n < 0 then -x else x)
  | real x => some x
  | _ => none

/-- The data of a section with the settings `names`, in that order. In a table every one of them may
be given once, and other fields do not matter. A list has to give all of them; `spare` says whether it
may go on after that. A section that is null gives none of them. -/
def settings? (names : List String) (spare : Bool) : Datum → Option (List Datum)
  | null => some (names.map fun _ => null)
  | list items =>
    if items.length = names.length ∨ (spare ∧ names.length < items.length) then
      some (items.take names.length)
    else none
  | table fields =>
    if ((fields.map Prod.fst).filter (· ∈ names)).Nodup then
      some (names.map fun name => (fields.lookup name).getD null)
    else none
  | _ => none

end Datum
end TickCapture
