/-! # Failures of pool accounting -/

namespace TickCapture

inductive PoolError where
  /-- The buffer was taken from another pool. -/
  | foreignHandle (slot : Nat)
  /-- The slot is free already. -/
  | notOutstanding (slot : Nat)
  | unknownSlot (slot : Nat)
  /-- Free and outstanding slots do not add up to the capacity. -/
  | accounting (free outstanding capacity : Nat)
  deriving DecidableEq, Repr

def PoolError.message : PoolError → String
  | foreignHandle slot => s!"slot {slot} released to a pool it was not acquired from"
  | notOutstanding slot => s!"slot {slot} released while not outstanding"
  | unknownSlot slot => s!"slot {slot} does not exist"
  | accounting free outstanding capacity =>
    s!"pool accounting broken: {free} free + {outstanding} outstanding != {capacity} slots"

end TickCapture
