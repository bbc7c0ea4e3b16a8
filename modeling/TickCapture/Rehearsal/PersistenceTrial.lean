import TickCapture.Pipeline.Line
import TickCapture.Rehearsal.ScriptedSink

/-! # Trials of the persistence stage

The persistence stage runs alone over frames that wait in its mailbox, and stores them with a
scripted store. -/

namespace TickCapture

structure ConvertedScript where
  bytes : Bytes
  selected : Bool
  priority : Priority

structure PersistenceTrial where
  plant : Plant Unit ScriptedSink
  worker : Worker PersistenceStage
  /-- With which image the stage is asked to stop. -/
  stopWith : Option Nat
  /-- When the stage is asked to stop. -/
  stopAt : Option Clock

namespace PersistenceTrial

/-- Makes converted frames in slots of the pool, and puts them into the mailbox. -/
def fill (frames : List ConvertedScript) (p : Pool) (m : Mailbox PooledBuffer) :
    Except Fault (Pool × Mailbox PooledBuffer) :=
  frames.foldlM (fun (p, m) script => do
    let (p, slot) := p.acquire
    match ← slot with
    | none => return (p, m)
    | some slot =>
      let converted ← (slot.write 0 script.bytes).1.setLen script.bytes.size
      return (p, (m.attempt { converted with selected := script.selected } script.priority).1)) (p, m)

def new (settings : PersistenceSettings) (frames : List ConvertedScript) (slotLen : Nat)
    (sink : ScriptedSink) (keepOpen stopped : Bool) (stopWith : Option Nat)
    (stopAt : Option Clock) : Except Fault PersistenceTrial := do
  let empty ← Mailbox.bounded (max 1 frames.length)
  let (pool, ticks) ← fill frames (← Pool.new 0 frames.length slotLen) empty
  return {
    plant := {
      camera := ()
      frames := ← Mailbox.bounded 1
      pool
      ticks := if keepOpen then ticks else ticks.dropSender
      sink
      clock := 0
      epoch := 0
      logs := #[] }
    worker := { stage := .new settings, since := 0, stop := stopped }
    stopWith
    stopAt }

/-- Asks the stage to stop when it is time to. -/
def heed (t : PersistenceTrial) : PersistenceTrial :=
  if t.stopWith.any (· ≤ t.plant.sink.given) || t.stopAt.any (· ≤ t.plant.clock) then
    { t with worker := t.worker.raiseStop }
  else t

def stepTime : Clock := 10000

def turn? (t : PersistenceTrial) : Option PersistenceTrial :=
  match t.worker.stepPersistence? t.plant with
  | some (plant, worker) => some (heed { t with plant := plant.pass stepTime, worker })
  | none =>
    t.worker.persistenceWake?.bind fun wake =>
      if t.plant.clock < wake then
        some (heed { t with plant := t.plant.pass (wake - t.plant.clock) })
      else none

def run : Nat → PersistenceTrial → PersistenceTrial
  | 0, t => t
  | n + 1, t =>
    match t.turn? with
    | none => t
    | some t => run n t

/-- Runs the stage to its end. A frame takes a bounded number of turns; the rest is for waits that
end without a frame, until the stage is asked to stop. -/
def finish (t : PersistenceTrial) : PersistenceTrial :=
  t.run (100 * (t.plant.ticks.queue.length + 2) + t.stopAt.getD 0 / stepTime)

end PersistenceTrial
end TickCapture
