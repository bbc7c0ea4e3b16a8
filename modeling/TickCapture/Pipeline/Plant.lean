import TickCapture.Stage.Capture
import TickCapture.Stage.Detection
import TickCapture.Stage.Persistence

/-! # What the stages share, and how it answers them

The plant is everything that more than one stage touches: the camera with its buffers, the mailbox of
captured frames, the pool, the mailbox of displaced frames, the image store, the clock and the log.

`answerCapture?`, `answerDetection?` and `answerPersistence?` answer one request of a stage, at once
and as one step. There is no answer while the stage has to go on waiting; a wait with a time limit is
answered when the limit has passed. -/

namespace TickCapture

structure Plant (κ σ : Type) where
  camera : κ
  frames : Mailbox Captured
  pool : Pool
  ticks : Mailbox PooledBuffer
  sink : σ
  clock : Clock
  /-- The moment at which the clock stood at zero. -/
  epoch : Moment
  logs : Array LogRecord

structure Worker (α : Type) where
  stage : α
  /-- When the stage made its present request. -/
  since : Clock
  /-- Whether the stage has been asked to stop. -/
  stop : Bool

namespace Plant

variable {κ σ : Type}

def now (p : Plant κ σ) : Moment := p.epoch + p.clock

def log (p : Plant κ σ) (records : List LogRecord) : Plant κ σ :=
  { p with logs := p.logs ++ records }

def pass (p : Plant κ σ) (nanos : Nat) : Plant κ σ := { p with clock := p.clock + nanos }

/-- Gives the buffer of a frame back; a refusal goes to the log. -/
def discard [DriverQueue κ] (p : Plant κ σ) (frame : Captured) : Plant κ σ :=
  let (camera, records) := TickCapture.discard p.camera frame
  { p with camera }.log records

/-- Drops a buffer into the pool: the fault, if that is one. -/
def drop (p : Plant κ σ) (unwinding : Bool) (buffer : PooledBuffer) : Plant κ σ × Option Fault :=
  let (pool, records, fault) := p.pool.drop unwinding buffer
  ({ p with pool }.log records, fault)

/-- Gives the receiving end of captured frames up. The frames that wait there go back. -/
def closeFrames [DriverQueue κ] (p : Plant κ σ) : Plant κ σ :=
  let (frames, lost) := p.frames.dropReceiver
  lost.foldl discard { p with frames }

/-- Gives the receiving end of displaced frames up. The frames that wait there go back. -/
def closeTicks (p : Plant κ σ) (unwinding : Bool) : Plant κ σ × Option Fault :=
  let (ticks, lost) := p.ticks.dropReceiver
  lost.foldl (fun (p, fault) buffer =>
    let (p, other) := p.drop unwinding buffer
    (p, fault <|> other)) ({ p with ticks }, none)

def expired (p : Plant κ σ) (since timeout : Clock) : Bool := since + timeout ≤ p.clock

/-- An attempt to send that goes on until its time limit, if it has one. -/
def sendTo? {α : Type} (p : Plant κ σ) (since : Clock) (timeout : Option Clock) (m : Mailbox α)
    (message : α) (priority : Priority) : Option (Mailbox α × Sent α) :=
  match m.attempt message priority with
  | (m, .full message) =>
    if timeout.all (p.expired since) then some (m, .full message) else none
  | outcome => some outcome

/-- An attempt to receive that goes on until its time limit. -/
def receiveFrom? {α : Type} (p : Plant κ σ) (since timeout : Clock) (m : Mailbox α) :
    Option (Mailbox α × Received α) :=
  match m.receive with
  | (m, .nothing) => if p.expired since timeout then some (m, .nothing) else none
  | outcome => some outcome

def settled {α : Type} (done : α) (fault : Fault → α) (outcome : Plant κ σ × Option Fault) :
    Plant κ σ × α :=
  (outcome.1, (outcome.2.map fault).getD done)

def release {α : Type} (p : Plant κ σ) (done : α) (refused : PoolError → α) (buffer : PooledBuffer) :
    Plant κ σ × α :=
  match p.pool.takeBack buffer with
  | (pool, .ok ()) => ({ p with pool }, done)
  | (pool, .error e) => ({ p with pool }, refused e)

def answerCapture? [Camera κ] (p : Plant κ σ) (w : Worker CaptureStage) :
    Option (Plant κ σ × CaptureAnswer) :=
  match w.stage.request with
  | .readClock => some (p, .clock p.clock)
  | .readStop => some (p, .stop w.stop)
  | .wait timeout =>
    match Camera.poll p.camera p.clock (w.since + timeout) with
    | (camera, .answered ready) => some ({ p with camera }, .waited ready)
    | (camera, .failed e) => some ({ p with camera }, .waitFailed e)
    | (_, .waiting _) => none
  | .dequeue =>
    match Camera.dequeue p.camera p.now with
    | (camera, .frame frame) => some ({ p with camera }, .frame frame)
    | (camera, .failed e) => some ({ p with camera }, .noFrame e)
    | (camera, .faulted fault) => some ({ p with camera }, .fault fault)
    | (_, .never) => none
  | .send frame timeout =>
    (p.sendTo? w.since timeout p.frames frame .capture).map fun (frames, outcome) =>
      ({ p with frames }, .sent outcome)
  | .discard frame records => some ((p.log records).discard frame, .done)
  | .sleep deadline => if deadline ≤ p.clock || w.stop then some (p, .done) else none
  | .readStats => some (p, .stats (Camera.stats p.camera))
  | .leave => some ({ p with frames := p.frames.dropSender }, .done)
  | .none => none

def answerDetection? [DriverQueue κ] (p : Plant κ σ) (w : Worker DetectionStage) :
    Option (Plant κ σ × DetectionAnswer) :=
  match w.stage.request with
  | .readStop => some (p, .stop w.stop)
  | .receive timeout =>
    (p.receiveFrom? w.since timeout p.frames).map fun (frames, outcome) =>
      ({ p with frames }, .received outcome)
  | .acquire =>
    match p.pool.acquire with
    | (pool, .ok buffer) => some ({ p with pool }, .acquired buffer)
    | (pool, .error fault) => some ({ p with pool }, .fault fault)
  | .discard frame records => some ((p.log records).discard frame, .done)
  | .giveBack frame =>
    match TickCapture.giveBack p.camera frame with
    | (camera, none) => some ({ p with camera }, .done)
    | (camera, some e) => some ({ p with camera }, .refused e)
  | .send displaced timeout =>
    (p.sendTo? w.since (some timeout) p.ticks displaced .tick).map fun (ticks, outcome) =>
      ({ p with ticks }, .sent outcome)
  | .release buffer => some (p.release .done .poolRefused buffer)
  | .drop buffer unwinding => some (settled .done .fault (p.drop unwinding buffer))
  | .closeInbox => some (p.closeFrames, .done)
  | .closeOutbox => some ({ p with ticks := p.ticks.dropSender }, .done)
  | .none => none

def answerPersistence? [ImageSink σ] (p : Plant κ σ) (w : Worker PersistenceStage) :
    Option (Plant κ σ × PersistenceAnswer) :=
  match w.stage.request with
  | .readStop => some (p, .stop w.stop)
  | .receive timeout =>
    (p.receiveFrom? w.since timeout p.ticks).map fun (ticks, outcome) =>
      ({ p with ticks }, .received outcome)
  | .readWallTime => some (p, .wallTime (WallTime.ofMoment? p.now))
  | .store record =>
    match ImageSink.store p.sink record with
    | (sink, .ok bytes) => some ({ p with sink }, .stored bytes)
    | (sink, .error (.error e)) => some ({ p with sink }, .notStored e)
    | (sink, .error (.fault fault)) => some ({ p with sink }, .fault fault)
  | .release frame => some (p.release .done .poolRefused frame)
  | .drop frame unwinding => some (settled .done .fault (p.drop unwinding frame))
  | .leave =>
    let unwinding := match w.stage.phase with
      | .leaving ending => ending.unwinding
      | _ => false
    some (settled .done .fault (p.closeTicks unwinding))
  | .none => none

end Plant

namespace Worker

def start {α : Type} (stage : α) (now : Clock) : Worker α := ⟨stage, now, false⟩

def raiseStop {α : Type} (w : Worker α) : Worker α := { w with stop := true }

variable {κ σ : Type}

/-- One step of the capture stage; none while it waits. -/
def stepCapture? [Camera κ] (p : Plant κ σ) (w : Worker CaptureStage) :
    Option (Plant κ σ × Worker CaptureStage) :=
  (p.answerCapture? w).map fun (p, answer) =>
    (p, { w with stage := w.stage.resume answer, since := p.clock })

/-- One step of the detection stage; none while it waits. -/
def stepDetection? [DriverQueue κ] (p : Plant κ σ) (w : Worker DetectionStage) :
    Option (Plant κ σ × Worker DetectionStage) :=
  (p.answerDetection? w).map fun (p, answer) =>
    (p, { w with stage := w.stage.resume answer, since := p.clock })

/-- One step of the persistence stage; none while it waits. -/
def stepPersistence? [ImageSink σ] (p : Plant κ σ) (w : Worker PersistenceStage) :
    Option (Plant κ σ × Worker PersistenceStage) :=
  (p.answerPersistence? w).map fun (p, answer) =>
    (p, { w with stage := w.stage.resume answer, since := p.clock })

end Worker
end TickCapture
