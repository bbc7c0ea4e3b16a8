import TickCapture.Pool.Error

/-! # Faults

A fault is a broken precondition: it ends the thread that runs into it instead of being handed to
a caller. Operations that can fault say so in their type. -/

namespace TickCapture

inductive Fault where
  /-- Lines of no bytes cannot be stepped through. -/
  | zeroChunk
  | overflow
  | outOfBounds
  | validLength (len size : Nat)
  | poolInvariant (error : PoolError)
  | zeroCapacity
  /-- More space is to be reserved than can be addressed. -/
  | capacityOverflow
  /-- A fault raised on purpose, with its text. -/
  | raised (text : String)
  /-- A fault that carries something other than a text. -/
  | wordless
  deriving DecidableEq, Repr

def Fault.message : Fault → String
  | zeroChunk => "chunk size must be non-zero"
  | overflow => "attempt to add with overflow"
  | outOfBounds => "range end index out of range"
  | validLength len size => s!"valid length {len} exceeds slot size {size}"
  | poolInvariant error => s!"buffer pool invariant violated: {error.message}"
  | zeroCapacity => "channel capacity must be non-zero"
  | capacityOverflow => "capacity overflow"
  | raised text => text
  | wordless => "unknown panic"

/-- An operation that did not succeed: an error for its caller, or a fault. -/
inductive Trouble (ε : Type) where
  | error (e : ε)
  | fault (f : Fault)
  deriving DecidableEq, Repr

/-- Space can be reserved for fewer bytes than this; more cannot be addressed. -/
def addressLimit : Nat := Nat.pow 2 63

/-- A size, if a 64-bit word can hold it. -/
def word64 {ε : Type} (n : Nat) : Except (Trouble ε) Nat :=
  if n < UInt64.size then .ok n else .error (.fault .overflow)

end TickCapture
