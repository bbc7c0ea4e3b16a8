import TickCapture.Pool.Basic

/-! # Pools and the buffers taken from them

A `Registry` is a number of pools together with every buffer ever taken from one of them. Buffers
are numbered in the order they were taken. `Registry.step` carries out one request of a caller.

Some requests bring about what safe callers cannot: returning a slot while keeping its buffer
(`spend`), and two buffers for one slot (`copy`). -/

namespace TickCapture

inductive PoolRequest where
  | acquire (pool : Nat)
  | release (pool buf : Nat)
  | releaseSelf (buf : Nat)
  | drop (buf : Nat)
  | write (buf start : Nat) (data : Bytes)
  | setLen (buf len : Nat)
  | select (buf : Nat) (value : Bool)
  /-- Drops a buffer, but keeps what is left of it. -/
  | spend (buf : Nat)
  /-- Makes a second buffer for the slot of a buffer; only slots of no bytes allow it. -/
  | copy (buf : Nat)
  /-- Drops a buffer while its owner is being unwound. -/
  | dropUnwinding (buf : Nat)

inductive PoolReply where
  | taken (buf slot : Nat)
  | exhausted
  | done
  | count (n : Nat)
  | copied (buf : Nat)
  | refused (error : PoolError)
  | faulted (fault : Fault)
  | noSuchBuffer
  deriving DecidableEq, Repr

structure Registry where
  pools : Array Pool
  /-- Every buffer by its number; a buffer that was used up leaves a gap. -/
  buffers : Array (Option PooledBuffer)

namespace Registry

/-- Fresh pools of the given capacities and slot sizes, numbered in order. -/
def fresh (sizes : List (Nat × Nat)) : Registry where
  pools := (sizes.mapIdx fun id size => Pool.fresh id size.1 size.2).toArray
  buffers := #[]

/-- Makes such pools, one after another. -/
def new (sizes : List (Nat × Nat)) : Except Fault Registry := do
  let pools ← (sizes.mapIdx fun id size => Pool.new id size.1 size.2).mapM id
  return ⟨pools.toArray, #[]⟩

def buffer? (r : Registry) (buf : Nat) : Option PooledBuffer := r.buffers[buf]?.join

def setBuffer (r : Registry) (buf : Nat) (b : Option PooledBuffer) : Registry :=
  { r with buffers := r.buffers.setIfInBounds buf b }

def setPool (r : Registry) (id : Nat) (p : Pool) : Registry :=
  { r with pools := r.pools.setIfInBounds id p }

def dropInto (r : Registry) (unwinding : Bool) (b : PooledBuffer) :
    Registry × List LogRecord × Option Fault :=
  match r.pools[b.home]? with
  | none => (r, [], none)
  | some p =>
    let (p, logs, fault) := p.drop unwinding b
    (r.setPool b.home p, logs, fault)

def takeBack (r : Registry) (b : PooledBuffer) : Registry × PoolReply :=
  match r.pools[b.home]? with
  | none => (r, .noSuchBuffer)
  | some p =>
    match p.takeBack b with
    | (p, .ok ()) => (r.setPool b.home p, .done)
    | (p, .error e) => (r.setPool b.home p, .refused e)

/-- Takes a slot from a pool, if one is free. -/
def takeSlot (r : Registry) (pool : Nat) : Registry × Except Fault (Option PooledBuffer) :=
  match r.pools[pool]? with
  | none => (r, .ok none)
  | some p =>
    let (p, slot) := p.acquire
    (r.setPool pool p, slot)

def acquire (r : Registry) (pool : Nat) : Registry × PoolReply :=
  match r.takeSlot pool with
  | (r, .error fault) => (r, .faulted fault)
  | (r, .ok none) => (r, .exhausted)
  | (r, .ok (some b)) => ({ r with buffers := r.buffers.push (some b) }, .taken r.buffers.size b.slot)

def settle (r : Registry × List LogRecord × Option Fault) : Registry × List LogRecord × PoolReply :=
  (r.1, r.2.1, match r.2.2 with
    | none => .done
    | some fault => .faulted fault)

/-- Carries out a request on a buffer that is held. -/
def stepBuffer (r : Registry) (buf : Nat) (b : PooledBuffer) :
    PoolRequest → Registry × List LogRecord × PoolReply
  | .release pool _ =>
    let r := r.setBuffer buf none
    if pool = b.home then
      let (r, reply) := r.takeBack b
      (r, [], reply)
    else
      -- the buffer is dropped, which returns it to its own pool
      match r.dropInto false b with
      | (r, logs, none) => (r, logs, .refused (.foreignHandle b.slot))
      | (r, logs, some fault) => (r, logs, .faulted fault)
  | .releaseSelf _ =>
    let (r, reply) := (r.setBuffer buf none).takeBack b
    (r, [], reply)
  | .drop _ => settle ((r.setBuffer buf none).dropInto false b)
  | .dropUnwinding _ =>
    let (r, logs, _) := (r.setBuffer buf none).dropInto true b
    (r, logs, .faulted (.raised "scripted: unwinding"))
  | .spend _ => settle ((r.setBuffer buf (some { b with data := none })).dropInto false b)
  | .write _ start data =>
    let (b, n) := b.write start data
    (r.setBuffer buf (some b), [], .count n)
  | .setLen _ len =>
    match b.setLen len with
    | .ok b => (r.setBuffer buf (some b), [], .done)
    | .error fault => (r, [], .faulted fault)
  | .select _ value => (r.setBuffer buf (some { b with selected := value }), [], .done)
  | .copy _ =>
    ({ r with buffers := r.buffers.push (some { b with data := some #[] }) }, [],
      .copied r.buffers.size)
  | .acquire _ => (r, [], .noSuchBuffer)

def subject? : PoolRequest → Option Nat
  | .acquire _ => none
  | .release _ buf | .releaseSelf buf | .drop buf | .write buf _ _ | .setLen buf _
  | .select buf _ | .spend buf | .copy buf | .dropUnwinding buf => some buf

/-- Carries out one request: the reply, and what was logged meanwhile. -/
def step (r : Registry) (request : PoolRequest) : Registry × List LogRecord × PoolReply :=
  match request, subject? request with
  | .acquire pool, _ =>
    let (r, reply) := r.acquire pool
    (r, [], reply)
  | _, none => (r, [], .noSuchBuffer)
  | request, some buf =>
    match r.buffer? buf with
    | some b => r.stepBuffer buf b request
    | none => (r, [], .noSuchBuffer)

end Registry
end TickCapture
