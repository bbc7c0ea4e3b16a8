import TickCapture.Store.Image

/-! # Images kept in memory -/

namespace TickCapture

/-- An image as it is kept: what was stated about it, and its file. -/
structure StoredImage where
  sequence : Nat
  time : WallTime
  width : UInt32
  height : UInt32
  file : Bytes
  deriving DecidableEq, Repr

/-- Every image that was stored, in that order. -/
structure MemoryStore where
  images : List StoredImage
  deriving DecidableEq, Repr

namespace MemoryStore

def empty : MemoryStore := ⟨[]⟩

def store (s : MemoryStore) (r : ImageRecord) : MemoryStore × Except (Trouble SinkError) Nat :=
  match r.check with
  | .error trouble => (s, .error trouble)
  | .ok () =>
    (⟨s.images ++ [⟨r.sequence, r.time, r.width, r.height, r.file⟩]⟩, .ok r.file.size)

end MemoryStore

instance : ImageSink MemoryStore where
  store := MemoryStore.store

end TickCapture
