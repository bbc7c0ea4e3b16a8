import TickCapture.Camera.Basic

/-! # The buffers of a camera

The storage of a buffer is in the bank unless the buffer is on loan. While the camera is streaming
the buffers in the bank queue up to be filled, the one that came back first being filled first. -/

namespace TickCapture

structure SlotBank where
  /-- The storage of each buffer that is not on loan. -/
  slots : Array (Option Bytes)
  /-- The buffers to be filled, the next one first. -/
  queued : List Nat
  deriving DecidableEq, Repr

namespace SlotBank

/-- `count` zeroed buffers of `size` bytes, none of them queued. -/
def new (count size : Nat) : SlotBank := ⟨Array.replicate count (some (Bytes.zeros size)), []⟩

def present (b : SlotBank) : List Nat :=
  (List.range b.slots.size).filter fun i => (b.slots[i]?.join).isSome

def onLoan (b : SlotBank) : Nat := b.slots.countP (·.isNone)

/-- Queues every buffer that is in the bank, in the order of their numbers. -/
def fill (b : SlotBank) : SlotBank := { b with queued := b.present }

def clear (b : SlotBank) : SlotBank := { b with queued := [] }

/-- Takes a buffer back and queues it. It has to exist and to be on loan. -/
def requeue (b : SlotBank) (slot : DriverSlot) : SlotBank × Option IoError :=
  match b.slots[slot.index]? with
  | none => (b, some (.text s!"unknown buffer index {slot.index}"))
  | some (some _) => (b, some (.text s!"buffer {slot.index} returned while not on loan"))
  | some none =>
    ({ slots := b.slots.setIfInBounds slot.index (some slot.memory)
       queued := b.queued ++ [slot.index] }, none)

/-- Takes the first queued buffer out. A queued buffer that is on loan is a failure. -/
def take (b : SlotBank) : SlotBank × Except DequeueError DriverSlot :=
  match b.queued with
  | [] => (b, .error .empty)
  | index :: queued =>
    let rest := { b with queued }
    match b.slots[index]?.join with
    | none => (rest, .error (.fatal (.text s!"queued buffer {index} is on loan")))
    | some memory =>
      ({ rest with slots := b.slots.setIfInBounds index none }, .ok ⟨index, memory⟩)

end SlotBank

instance : DriverQueue SlotBank where
  requeue := SlotBank.requeue

end TickCapture
