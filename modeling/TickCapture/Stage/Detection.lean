import TickCapture.Detect.Conversion
import TickCapture.Detect.TickDetector
import TickCapture.Mailbox.Basic
import TickCapture.Stage.Basic

/-! # The detection stage

Each round receives a captured frame, converts it into a slot of the pool, gives its camera buffer
back, and offers the converted frame to the detector. Of the frames the detector displaces only the
selected ones are sent on, or all of them if so set; the others go back to the pool. A frame for
which the pool has no slot is dropped.

Every captured frame has to have as many bytes as the first one. -/

namespace TickCapture

/-- A converted frame takes six words: two for its storage, and one each for its pool, its slot, its
length, and whether it is selected. -/
instance : MessageSize PooledBuffer := ⟨48⟩

structure DetectionReport where
  received : Nat
  converted : Nat
  /-- Frames dropped because the pool had no slot. -/
  poolExhausted : Nat
  ticks : Nat
  forwarded : Nat
  /-- Frames released because a stop came while they waited to be sent. -/
  discarded : Nat
  deriving DecidableEq, Repr

structure DetectionSettings where
  receiveTimeout : Clock
  /-- Whether every displaced frame is sent on. -/
  forwardAll : Bool
  deriving Repr

inductive DetectionPhase where
  | checking
  | receiving
  | acquiring (frame : Captured)
  | exhausted (frame : Captured)
  /-- The frame is converted, and its camera buffer goes back. -/
  | returning (frame : Captured) (converted : PooledBuffer)
  | sending (displaced : PooledBuffer)
  /-- A send found no space in time. -/
  | blocked (displaced : PooledBuffer)
  /-- A displaced frame goes back to the pool; `last` if the round is the last one. -/
  | releasing (displaced : PooledBuffer) (last : Bool)
  /-- The stage is about to end, with these frames in its hands. -/
  | dropping (converted : PooledBuffer) (frame : Option Captured) (ending : Ending DetectionReport)
  | discarding (frame : Captured) (ending : Ending DetectionReport)
  | closingInbox (ending : Ending DetectionReport)
  | closingOutbox (ending : Ending DetectionReport)
  /-- The frame that the detector holds goes back to the pool. -/
  | forgetting (ending : Ending DetectionReport)
  | ended (ending : Ending DetectionReport)

structure DetectionStage where
  settings : DetectionSettings
  phase : DetectionPhase
  detector : TickDetector Float
  /-- Bytes of a captured frame, fixed by the first one. -/
  expectedLen : Option Nat
  report : DetectionReport

inductive DetectionRequest where
  | readStop
  | receive (timeout : Clock)
  | acquire
  | discard (frame : Captured) (records : List LogRecord)
  | giveBack (frame : Captured)
  | send (displaced : PooledBuffer) (timeout : Clock)
  | release (buffer : PooledBuffer)
  | drop (buffer : PooledBuffer) (unwinding : Bool)
  /-- Gives the receiving end up, with all frames that wait there. -/
  | closeInbox
  | closeOutbox
  | none

inductive DetectionAnswer where
  | stop (raised : Bool)
  | received (outcome : Received Captured)
  | acquired (buffer : Option PooledBuffer)
  | refused (error : IoError)
  | poolRefused (error : PoolError)
  | sent (outcome : Sent PooledBuffer)
  | done
  | fault (fault : Fault)

namespace DetectionStage

def new (settings : DetectionSettings) (detector : TickDetector Float) : DetectionStage :=
  ⟨settings, .checking, detector, none, ⟨0, 0, 0, 0, 0, 0⟩⟩

def enter (s : DetectionStage) (phase : DetectionPhase) : DetectionStage := { s with phase }

def exhaustedRecord (frame : Captured) : LogRecord :=
  .warn s!"DetectionStage: pool exhausted, dropping frame {frame.sequence}"

def request (s : DetectionStage) : DetectionRequest :=
  match s.phase with
  | .checking | .blocked _ => .readStop
  | .receiving => .receive s.settings.receiveTimeout
  | .acquiring _ => .acquire
  | .exhausted frame => .discard frame [exhaustedRecord frame]
  | .returning frame _ => .giveBack frame
  | .sending displaced => .send displaced sendPoll
  | .releasing displaced _ => .release displaced
  | .dropping converted _ ending => .drop converted ending.unwinding
  | .discarding frame _ => .discard frame []
  | .closingInbox _ => .closeInbox
  | .closingOutbox _ => .closeOutbox
  | .forgetting ending =>
    match s.detector.previous with
    | some held => .drop held ending.unwinding
    | none => .none
  | .ended _ => .none

/-- The stage on its way out, without frames in its hands. -/
def leave (s : DetectionStage) (ending : Ending DetectionReport) : DetectionStage :=
  s.enter (.closingInbox ending)

def finish (s : DetectionStage) : DetectionStage := s.leave (.finished s.report)

/-- Takes a received frame in hand, if it has the size of the first one. -/
def takeIn (s : DetectionStage) (frame : Captured) : DetectionStage :=
  let s := { s with report.received := s.report.received + 1 }
  let expected := s.expectedLen.getD frame.used
  if frame.used ≠ expected then
    s.enter (.discarding frame (.failed
      ⟨[.capturing frame.sequence], .detect (.frameSizeMismatch expected frame.used)⟩))
  else { s with expectedLen := some expected, phase := .acquiring frame }

/-- Converts the frame in hand into a slot. -/
def convert (s : DetectionStage) (frame : Captured) (slot : PooledBuffer) : DetectionStage :=
  match toRgb frame.bytes frame.format slot.whole with
  | .error (.error e) =>
    s.enter (.dropping slot (some frame) (.failed ⟨[.converting frame.sequence], .detect e⟩))
  | .error (.fault fault) => s.enter (.dropping slot (some frame) (.faulted fault))
  | .ok (rgb, written) =>
    match (slot.withData rgb).setLen written with
    | .error fault => s.enter (.dropping slot (some frame) (.faulted fault))
    | .ok converted => s.enter (.returning frame converted)

/-- What becomes of a frame that the detector displaced. -/
def afterDisplaced (s : DetectionStage) (displaced : PooledBuffer) : DetectionStage :=
  let s := if displaced.selected then { s with report.ticks := s.report.ticks + 1 } else s
  if displaced.selected || s.settings.forwardAll then s.enter (.sending displaced)
  else s.enter (.releasing displaced false)

/-- Offers a converted frame to the detector. -/
def detect (s : DetectionStage) (converted : PooledBuffer) : DetectionStage :=
  let s := { s with report.converted := s.report.converted + 1 }
  let (detector, outcome) := s.detector.process converted
  let s := { s with detector }
  match outcome with
  | .seeded => s.enter .checking
  | .displaced displaced => s.afterDisplaced displaced
  | .rejected e frame => s.enter (.dropping frame none (.failed (.of (.detect e))))

/-- The last thing on the way out: the frame that the detector holds, if it holds one. -/
def forget (s : DetectionStage) (ending : Ending DetectionReport) : DetectionStage :=
  s.enter (if s.detector.previous.isSome then .forgetting ending else .ended ending)

/-- After the converted frame is dropped on the way out. -/
def afterDrop (s : DetectionStage) (frame : Option Captured) (ending : Ending DetectionReport) :
    DetectionStage :=
  match frame with
  | some frame => s.enter (.discarding frame ending)
  | none => s.leave ending

def resume (s : DetectionStage) (answer : DetectionAnswer) : DetectionStage :=
  match s.phase, answer with
  | .checking, .stop raised => if raised then s.finish else s.enter .receiving
  | .receiving, .received (.got frame) => s.takeIn frame
  | .receiving, .received .nothing => s.enter .checking
  | .receiving, .received .closed => s.finish
  | .acquiring frame, .acquired (some slot) => s.convert frame slot
  | .acquiring frame, .acquired none =>
    { s with report.poolExhausted := s.report.poolExhausted + 1, phase := .exhausted frame }
  | .acquiring frame, .fault fault => s.enter (.discarding frame (.faulted fault))
  | .exhausted _, .done => s.enter .checking
  | .returning _ converted, .done => s.detect converted
  | .returning _ converted, .refused e =>
    s.enter (.dropping converted none (.failed ⟨[.returningBuffer], .io e⟩))
  | .sending _, .sent .accepted =>
    { s with report.forwarded := s.report.forwarded + 1, phase := .checking }
  | .sending _, .sent (.full displaced) => s.enter (.blocked displaced)
  | .sending _, .sent (.closed displaced) => s.enter (.releasing displaced true)
  | .blocked displaced, .stop raised =>
    if raised then
      { s with report.discarded := s.report.discarded + 1, phase := .releasing displaced false }
    else s.enter (.sending displaced)
  | .releasing _ last, .done => if last then s.finish else s.enter .checking
  | .releasing _ _, .poolRefused e => s.leave (.failed (.of (.pool e)))
  | .dropping _ frame ending, .done => s.afterDrop frame ending
  | .dropping _ frame ending, .fault fault => s.afterDrop frame (ending.afterFault fault)
  | .discarding _ ending, .done => s.leave ending
  | .closingInbox ending, .done => s.enter (.closingOutbox ending)
  | .closingOutbox ending, .done => s.forget ending
  | .forgetting ending, .done => { s with detector.previous := none, phase := .ended ending }
  | .forgetting ending, .fault fault =>
    { s with detector.previous := none, phase := .ended (ending.afterFault fault) }
  | _, _ => s

def ending? (s : DetectionStage) : Option (Ending DetectionReport) :=
  match s.phase with
  | .ended ending => some ending
  | _ => none

end DetectionStage
end TickCapture
