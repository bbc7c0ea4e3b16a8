import TickCapture.Detect.TickDetector

/-! # Trials of the detector

Frames are put into slots of a pool and offered to a detector. Displaced frames go back to the pool
at once, or are kept to the end. -/

namespace TickCapture

inductive DetectorReply where
  | seeded
  | displaced (frame : PooledBuffer)
  | rejected (error : DetectError)
  /-- The pool has no slot for it. -/
  | exhausted
  | faulted (fault : Fault)

structure DetectorTrial where
  /-- The pool that all frames are taken from. -/
  pools : Registry
  detector : TickDetector Float
  kept : List PooledBuffer

namespace DetectorTrial

def new (hysteresis : Hysteresis Float) (slots slotLen : Nat) : Except Fault DetectorTrial :=
  (Registry.new [(slots, slotLen)]).map fun pools => ⟨pools, .new hysteresis, []⟩

def drop (t : DetectorTrial) (b : PooledBuffer) : DetectorTrial :=
  { t with pools := (t.pools.dropInto false b).1 }

/-- Offers a frame that lies in a slot. -/
def offer (t : DetectorTrial) (keep : Bool) (frame : PooledBuffer) :
    DetectorTrial × DetectorReply :=
  let (detector, outcome, pools, _) := t.detector.offer t.pools frame
  let t := { t with detector, pools }
  match outcome with
  | .seeded => (t, .seeded)
  | .rejected e _ => (t, .rejected e)
  | .displaced frame =>
    (if keep then { t with kept := t.kept ++ [frame] } else t.drop frame, .displaced frame)

/-- Puts bytes into a slot and offers them. -/
def step (t : DetectorTrial) (keep : Bool) (bytes : Bytes) : DetectorTrial × DetectorReply :=
  match t.pools.takeSlot 0 with
  | (pools, .error fault) => ({ t with pools }, .faulted fault)
  | (pools, .ok none) => ({ t with pools }, .exhausted)
  | (pools, .ok (some slot)) =>
    let t := { t with pools }
    match (slot.write 0 bytes).1.setLen bytes.size with
    | .error fault => (t.drop slot, .faulted fault)
    | .ok frame => t.offer keep frame

def outstanding (t : DetectorTrial) : Nat :=
  t.pools.pools.foldl (fun n p => n + p.outstanding) 0

/-- The trial after the frame that the detector holds is dropped. -/
def close (t : DetectorTrial) : DetectorTrial := t.detector.previous.toList.foldl drop t

end DetectorTrial
end TickCapture
