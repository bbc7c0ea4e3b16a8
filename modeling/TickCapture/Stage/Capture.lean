import TickCapture.Mailbox.Basic
import TickCapture.Stage.Basic

/-! # The capture stage

Each round waits for the camera, takes a frame and sends it on; a frame that could not be sent goes
back to the camera before the next one is taken. Empty and transient failures only start the next
round.

With an interval set, each frame that was taken moves the next deadline on by the interval, and the
round ends with a sleep until then. The clock is read again after the sleep, and a deadline that has
passed by then is moved to the present: what a sleep overshoots by delays all frames after it. -/

namespace TickCapture

/-- A captured frame takes fifteen words: six for its buffer, three for its format, two for its time,
two for the way back, and one each for its length and its number. -/
instance : MessageSize Captured := ⟨120⟩

structure CaptureReport where
  captured : Nat
  forwarded : Nat
  /-- Frames given back because there was no space for them. -/
  dropped : Nat
  readyTimeouts : Nat
  transientErrors : Nat
  camera : CameraStats
  deriving DecidableEq, Repr

structure CaptureSettings where
  device : String
  readyTimeout : Clock
  /-- The least time from one frame to the next. -/
  interval : Option Clock
  policy : Backpressure
  deriving Repr

inductive CapturePhase where
  | starting
  | checking
  | waiting
  | dequeuing
  | sending (frame : Captured)
  /-- A blocking send found no space in time. -/
  | blocked (frame : Captured)
  | rejecting (frame : Captured)
  /-- The receiver is gone; the frame is the last one. -/
  | closing (frame : Captured)
  | pacing
  | paced
  | counting
  | leaving (ending : Ending CaptureReport)
  | ended (ending : Ending CaptureReport)

structure CaptureStage where
  settings : CaptureSettings
  phase : CapturePhase
  /-- When the next round may start. -/
  nextDue : Clock
  report : CaptureReport

inductive CaptureRequest where
  | readClock
  | readStop
  | wait (timeout : Clock)
  | dequeue
  /-- Sends a frame; without a time limit only one attempt is made. -/
  | send (frame : Captured) (timeout : Option Clock)
  /-- Writes records and gives a frame back. -/
  | discard (frame : Captured) (records : List LogRecord)
  /-- Sleeps until a deadline or a stop request. -/
  | sleep (deadline : Clock)
  | readStats
  | leave
  /-- There is nothing more to ask. -/
  | none

inductive CaptureAnswer where
  | clock (now : Clock)
  | stop (raised : Bool)
  | waited (ready : Bool)
  | waitFailed (error : CameraError)
  | frame (frame : Captured)
  | noFrame (error : DequeueError)
  | sent (outcome : Sent Captured)
  | stats (stats : CameraStats)
  | done
  | fault (fault : Fault)

namespace CaptureStage

def new (settings : CaptureSettings) : CaptureStage :=
  ⟨settings, .starting, 0, ⟨0, 0, 0, 0, 0, ⟨0, 0, 0⟩⟩⟩

def enter (s : CaptureStage) (phase : CapturePhase) : CaptureStage := { s with phase }

def fullRecord (frame : Captured) : LogRecord :=
  .warn s!"CaptureStage: capture channel full, returning frame {frame.sequence} to driver"

def request (s : CaptureStage) : CaptureRequest :=
  match s.phase with
  | .starting | .paced => .readClock
  | .checking | .blocked _ => .readStop
  | .waiting => .wait s.settings.readyTimeout
  | .dequeuing => .dequeue
  | .sending frame =>
    .send frame (match s.settings.policy with
      | .block => some sendPoll
      | .drop => Option.none)
  | .rejecting frame => .discard frame [fullRecord frame]
  | .closing frame => .discard frame []
  | .pacing => .sleep s.nextDue
  | .counting => .readStats
  | .leaving _ => .leave
  | .ended _ => .none

/-- After a frame is disposed of: the sleep, if one is set, and the next round. -/
def afterFrame (s : CaptureStage) : CaptureStage :=
  match s.settings.interval with
  | none => s.enter .checking
  | some interval => { s with nextDue := s.nextDue + interval, phase := .pacing }

def fail (s : CaptureStage) (failure : Failure) : CaptureStage := s.enter (.leaving (.failed failure))

/-- What an attempt to send a frame leads to. -/
def afterSend (s : CaptureStage) : Sent Captured → CaptureStage
  | .accepted => { s with report.forwarded := s.report.forwarded + 1 }.afterFrame
  | .closed frame => s.enter (.closing frame)
  | .full frame =>
    match s.settings.policy with
    | .block => s.enter (.blocked frame)
    | .drop => s.enter (.rejecting frame)

def resume (s : CaptureStage) (answer : CaptureAnswer) : CaptureStage :=
  match s.phase, answer with
  | .starting, .clock now => { s with nextDue := now, phase := .checking }
  | .checking, .stop raised => s.enter (if raised then .counting else .waiting)
  | .waiting, .waited true => s.enter .dequeuing
  | .waiting, .waited false =>
    { s with report.readyTimeouts := s.report.readyTimeouts + 1, phase := .checking }
  | .waiting, .waitFailed e => s.fail ⟨[.waitingFor s.settings.device], .camera e⟩
  | .dequeuing, .frame frame =>
    { s with report.captured := s.report.captured + 1, phase := .sending frame }
  | .dequeuing, .noFrame .empty => s.enter .checking
  | .dequeuing, .noFrame (.transient _) =>
    { s with report.transientErrors := s.report.transientErrors + 1, phase := .checking }
  | .dequeuing, .noFrame (.fatal e) =>
    s.fail ⟨[.dequeuingFrom s.settings.device], .dequeue (.fatal e)⟩
  | .sending _, .sent outcome => s.afterSend outcome
  | .blocked frame, .stop raised => s.enter (if raised then .rejecting frame else .sending frame)
  | .rejecting _, .done => { s with report.dropped := s.report.dropped + 1 }.afterFrame
  | .closing _, .done => s.enter .counting
  | .pacing, .done => s.enter .paced
  | .paced, .clock now => { s with nextDue := max s.nextDue now, phase := .checking }
  | .counting, .stats stats =>
    let report := { s.report with camera := stats }
    { s with report, phase := .leaving (.finished report) }
  | .leaving ending, .done => s.enter (.ended ending)
  | .waiting, .fault fault | .dequeuing, .fault fault => s.enter (.leaving (.faulted fault))
  | _, _ => s

def ending? (s : CaptureStage) : Option (Ending CaptureReport) :=
  match s.phase with
  | .ended ending => some ending
  | _ => none

end CaptureStage
end TickCapture
