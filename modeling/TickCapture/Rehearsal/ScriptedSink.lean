import TickCapture.Store.Directory
import TickCapture.Store.Memory

/-! # Image stores that follow a script -/

namespace TickCapture

inductive AnyStore where
  | memory (store : MemoryStore)
  | directory (store : DirectoryStore)

def AnyStore.store (s : AnyStore) (r : ImageRecord) : AnyStore × Except (Trouble SinkError) Nat :=
  match s with
  | memory s =>
    let (s, outcome) := s.store r
    (memory s, outcome)
  | directory s =>
    let (s, outcome) := s.store r
    (directory s, outcome)

instance : ImageSink AnyStore where
  store := AnyStore.store

/-- A store that fails with one of its images, in place of storing it. -/
structure ScriptedSink where
  inner : AnyStore
  /-- How many images it has been given. -/
  given : Nat
  failAt : Option Nat
  failure : Trouble SinkError

namespace ScriptedSink

def store (s : ScriptedSink) (r : ImageRecord) : ScriptedSink × Except (Trouble SinkError) Nat :=
  let s := { s with given := s.given + 1 }
  if s.failAt = some s.given then (s, .error s.failure)
  else
    let (inner, outcome) := s.inner.store r
    ({ s with inner }, outcome)

end ScriptedSink

instance : ImageSink ScriptedSink where
  store := ScriptedSink.store

end TickCapture
