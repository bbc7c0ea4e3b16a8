import TickCapture.Bytes
import TickCapture.Fault
import TickCapture.LogRecord

/-! # Buffer pools

A pool has a fixed number of slots of one size. A slot is free, its storage lying in the pool, or
outstanding, its storage being in the hands of one `PooledBuffer`. Acquiring moves the storage out
and returning moves it back, so pixel bytes are never copied and contents survive.

The pool keeps the storage of the free slots, the free slots as a stack, and a count of the
outstanding ones; `Pool.check` compares the last two. -/

namespace TickCapture

/-- One slot taken out of a pool. -/
structure PooledBuffer where
  /-- The pool it belongs to. -/
  home : Nat
  slot : Nat
  /-- The storage, until it is returned. -/
  data : Option Bytes
  /-- How many bytes at the front are valid. -/
  len : Nat
  /-- Whether the frame is to be stored. -/
  selected : Bool
  deriving DecidableEq, Repr

namespace PooledBuffer

/-- The size of the slot; nothing once the storage has been returned. -/
def capacity (b : PooledBuffer) : Nat :=
  match b.data with
  | some data => data.size
  | none => 0

def bytes (b : PooledBuffer) : Bytes :=
  match b.data with
  | some data => data.extract 0 b.len
  | none => #[]

def whole (b : PooledBuffer) : Bytes := b.data.getD #[]

def withData (b : PooledBuffer) (data : Bytes) : PooledBuffer :=
  { b with data := b.data.map fun _ => data }

/-- Copies as much of `src` into the slot as fits behind position `start`: how much that is. -/
def write (b : PooledBuffer) (start : Nat) (src : Bytes) : PooledBuffer × Nat :=
  (b.withData (b.whole.overwrite start src), min src.size (b.capacity - start))

def setLen (b : PooledBuffer) (len : Nat) : Except Fault PooledBuffer :=
  if len ≤ b.capacity then .ok { b with len } else .error (.validLength len b.capacity)

def debugText (b : PooledBuffer) : String :=
  "PooledBuffer \x7b slot: " ++ toString b.slot ++ ", len: " ++ toString b.len ++
    ", selected: " ++ toString b.selected ++ " \x7d"

end PooledBuffer

/-- A pool of `capacity` slots of `slotLen` bytes. -/
structure Pool where
  id : Nat
  capacity : Nat
  slotLen : Nat
  /-- The storage of each slot that is free. -/
  storage : Array (Option Bytes)
  /-- The free slots, the next one to be handed out first. -/
  free : List Nat
  outstanding : Nat
  deriving DecidableEq, Repr

namespace Pool

/-- A pool of zeroed slots, slot 0 to be handed out first. -/
def fresh (id capacity slotLen : Nat) : Pool where
  id
  capacity
  slotLen
  storage := Array.replicate capacity (some (Bytes.zeros slotLen))
  free := List.range capacity
  outstanding := 0

/-- What a pool takes for each slot besides its bytes: where they are, and how many. -/
def handleBytes : Nat := 16

/-- Makes a fresh pool. Space for the handles of all slots is reserved at once, and then space for
each slot. -/
def new (id capacity slotLen : Nat) : Except Fault Pool :=
  if addressLimit ≤ capacity * handleBytes ∨ capacity ≠ 0 ∧ addressLimit ≤ slotLen then
    .error .capacityOverflow
  else .ok (fresh id capacity slotLen)

/-- Free and outstanding slots add up to the capacity. -/
def check (p : Pool) : Except PoolError Unit :=
  if p.free.length + p.outstanding = p.capacity then .ok ()
  else .error (.accounting p.free.length p.outstanding p.capacity)

/-- Takes the slot freed last, if one is free. A free list that names an outstanding slot, or
counts that do not add up, are faults. -/
def acquire (p : Pool) : Pool × Except Fault (Option PooledBuffer) :=
  match p.free with
  | [] => (p, .ok none)
  | slot :: free =>
    match p.storage[slot]?.join with
    | none => ({ p with free }, .error (.poolInvariant (.notOutstanding slot)))
    | some data =>
      let p := { p with
        free
        storage := p.storage.setIfInBounds slot none
        outstanding := p.outstanding + 1 }
      match p.check with
      | .ok () => (p, .ok (some ⟨p.id, slot, some data, 0, false⟩))
      | .error e => (p, .error (.poolInvariant e))

/-- Puts storage back into a slot. The slot has to exist and be outstanding, and the storage to be
of the pool's slot size. -/
def returnSlot (p : Pool) (slot : Nat) (data : Bytes) : Pool × Except PoolError Unit :=
  match p.storage[slot]? with
  | none => (p, .error (.unknownSlot slot))
  | some (some _) => (p, .error (.notOutstanding slot))
  | some none =>
    if data.size ≠ p.slotLen then (p, .error (.notOutstanding slot))
    else
      let p := { p with
        storage := p.storage.setIfInBounds slot (some data)
        free := slot :: p.free }
      if p.outstanding = 0 then (p, .error (.notOutstanding slot))
      else
        let p := { p with outstanding := p.outstanding - 1 }
        (p, p.check)

/-- Returns a buffer of this pool. One whose storage is gone has been returned before. -/
def takeBack (p : Pool) (b : PooledBuffer) : Pool × Except PoolError Unit :=
  match b.data with
  | some data => p.returnSlot b.slot data
  | none => (p, .error (.notOutstanding b.slot))

def dropRecord (e : PoolError) : LogRecord := .error s!"BufferPool: {e.message}"

/-- What dropping a buffer does: its storage goes back, if it still has some. A failure is logged,
and is a fault unless the thread is being unwound already. -/
def drop (p : Pool) (unwinding : Bool) (b : PooledBuffer) : Pool × List LogRecord × Option Fault :=
  match b.data with
  | none => (p, [], none)
  | some data =>
    match p.returnSlot b.slot data with
    | (p, .ok ()) => (p, [], none)
    | (p, .error e) => (p, [dropRecord e], if unwinding then none else some (.poolInvariant e))

def debugText (p : Pool) : String :=
  "BufferPool \x7b capacity: " ++ toString p.capacity ++ ", slot_len: " ++ toString p.slotLen ++
    ", free: " ++ toString p.free.length ++ ", outstanding: " ++ toString p.outstanding ++ " \x7d"

end Pool
end TickCapture
