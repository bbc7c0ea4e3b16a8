import TickCapture.Mailbox.Basic
import TickCapture.Pool.Basic
import TickCapture.Stage.Basic
import TickCapture.Store.Image

/-! # The persistence stage

Each round receives a converted frame and stores it, numbered from one; frames that are not selected
are skipped, unless all are to be stored. The stage ends once it has stored as many as were asked
for. -/

namespace TickCapture

structure PersistenceReport where
  framesWritten : Nat
  bytesWritten : Nat
  skipped : Nat
  target : Nat
  deriving DecidableEq, Repr

def PersistenceReport.reachedTarget (r : PersistenceReport) : Bool := r.target ≤ r.framesWritten

structure PersistenceSettings where
  width : UInt32
  height : UInt32
  target : Nat
  saveAll : Bool
  receiveTimeout : Clock
  deriving Repr

inductive PersistencePhase where
  | checking
  | receiving
  | skipping (frame : PooledBuffer)
  /-- The frame gets its time. -/
  | timing (frame : PooledBuffer)
  | storing (frame : PooledBuffer) (record : ImageRecord)
  /-- The frame is stored in so many bytes, and its slot goes back. -/
  | releasing (frame : PooledBuffer) (bytes : Nat)
  | dropping (frame : PooledBuffer) (ending : Ending PersistenceReport)
  | leaving (ending : Ending PersistenceReport)
  | ended (ending : Ending PersistenceReport)

structure PersistenceStage where
  settings : PersistenceSettings
  phase : PersistencePhase
  report : PersistenceReport

inductive PersistenceRequest where
  | readStop
  | receive (timeout : Clock)
  | readWallTime
  | store (record : ImageRecord)
  | release (frame : PooledBuffer)
  | drop (frame : PooledBuffer) (unwinding : Bool)
  | leave
  | none

inductive PersistenceAnswer where
  | stop (raised : Bool)
  | received (outcome : Received PooledBuffer)
  /-- The time of day, unless the clock shows a moment before the epoch. -/
  | wallTime (time : Option WallTime)
  | stored (bytes : Nat)
  | notStored (error : SinkError)
  | poolRefused (error : PoolError)
  | done
  | fault (fault : Fault)

namespace PersistenceStage

def enter (s : PersistenceStage) (phase : PersistencePhase) : PersistenceStage := { s with phase }

/-- The start of a round: once enough images are stored, the stage leaves without another look at
its stop flag. -/
def nextRound (s : PersistenceStage) : PersistenceStage :=
  if s.report.reachedTarget then s.enter (.leaving (.finished s.report)) else s.enter .checking

def new (settings : PersistenceSettings) : PersistenceStage :=
  nextRound ⟨settings, .checking, ⟨0, 0, 0, settings.target⟩⟩

def request (s : PersistenceStage) : PersistenceRequest :=
  match s.phase with
  | .checking => .readStop
  | .receiving => .receive s.settings.receiveTimeout
  | .timing _ => .readWallTime
  | .storing _ record => .store record
  | .skipping frame | .releasing frame _ => .release frame
  | .dropping frame ending => .drop frame ending.unwinding
  | .leaving _ => .leave
  | .ended _ => .none

def record (s : PersistenceStage) (frame : PooledBuffer) (time : WallTime) : ImageRecord :=
  ⟨s.report.framesWritten + 1, time, s.settings.width, s.settings.height, frame.bytes⟩

def finish (s : PersistenceStage) : PersistenceStage := s.enter (.leaving (.finished s.report))

/-- Counts an image of so many bytes; the number of all bytes has to fit a 64-bit word. -/
def count (s : PersistenceStage) (bytes : Nat) : PersistenceStage :=
  let s := { s with report.framesWritten := s.report.framesWritten + 1 }
  let total := s.report.bytesWritten + bytes
  if total < UInt64.size then nextRound { s with report.bytesWritten := total }
  else s.enter (.leaving (.faulted .overflow))

def resume (s : PersistenceStage) (answer : PersistenceAnswer) : PersistenceStage :=
  match s.phase, answer with
  | .checking, .stop raised => if raised then s.finish else s.enter .receiving
  | .receiving, .received (.got frame) =>
    if frame.selected || s.settings.saveAll then s.enter (.timing frame)
    else { s with report.skipped := s.report.skipped + 1, phase := .skipping frame }
  | .receiving, .received .nothing => s.nextRound
  | .receiving, .received .closed => s.finish
  | .skipping _, .done => s.nextRound
  | .skipping _, .poolRefused e => s.enter (.leaving (.failed (.of (.pool e))))
  | .timing frame, .wallTime (some time) => s.enter (.storing frame (s.record frame time))
  | .timing frame, .wallTime none => s.enter (.dropping frame (.failed (.of .beforeEpoch)))
  | .storing frame _, .stored bytes => s.enter (.releasing frame bytes)
  | .storing frame record, .notStored e =>
    s.enter (.dropping frame (.failed ⟨[.persisting record.sequence], .sink e⟩))
  | .storing frame _, .fault fault => s.enter (.dropping frame (.faulted fault))
  | .releasing _ bytes, .done => s.count bytes
  | .releasing _ _, .poolRefused e => s.enter (.leaving (.failed (.of (.pool e))))
  | .dropping _ ending, .done => s.enter (.leaving ending)
  | .dropping _ ending, .fault fault => s.enter (.leaving (ending.afterFault fault))
  | .leaving ending, .done => s.enter (.ended ending)
  | .leaving ending, .fault fault => s.enter (.ended (ending.afterFault fault))
  | _, _ => s

def ending? (s : PersistenceStage) : Option (Ending PersistenceReport) :=
  match s.phase with
  | .ended ending => some ending
  | _ => none

end PersistenceStage
end TickCapture
