import TickCapture.Camera.Error
import TickCapture.Detect.Error
import TickCapture.Detect.Hysteresis
import TickCapture.Fault
import TickCapture.Frame.Format
import TickCapture.Store.Error

/-! # Failures of a run

A failure is what went wrong underneath, and what was being done each time it was passed on. Its
text is a chain: the outermost context first, the cause last. Some causes have a cause of their own
and add two links.

The chain is for people. What went wrong underneath stays a value that a program can tell apart. -/

namespace TickCapture

inductive SettingsError where
  | noTarget
  | zeroCapacity
  | poolTooSmall (capacity : Nat)
  | thresholds (error : ThresholdError Float)
  | zeroTimeout
  | cpuOutOfRange (stage : String) (cpu limit : Nat)
  deriving Repr

def SettingsError.message : SettingsError → String
  | noTarget => "target frame count must be positive"
  | zeroCapacity => "channel capacities must be greater than zero"
  | poolTooSmall capacity =>
    s!"pool capacity {capacity} is too small: detection holds two frames"
  | thresholds error => error.message
  | zeroTimeout => "stage timeouts must be non-zero"
  | cpuOutOfRange stage cpu limit =>
    s!"{stage} cpu {cpu} is out of range (must be below {limit})"

inductive FormatRefusal where
  | notYuyv (device : String) (encoding : Encoding)
  | oddWidth (device : String) (width : UInt32)
  deriving DecidableEq, Repr

def FormatRefusal.message : FormatRefusal → String
  | notYuyv device encoding => s!"{device} delivers {encoding.text}, only YUYV is supported"
  | oddWidth device width => s!"{device} delivers width {width}, YUYV needs an even width"

inductive Cause where
  | format (error : FormatError)
  | formatRefused (error : FormatRefusal)
  | settings (error : SettingsError)
  | detect (error : DetectError)
  | pool (error : PoolError)
  | camera (error : CameraError)
  | dequeue (error : DequeueError)
  | sink (error : SinkError)
  | io (error : IoError)
  /-- A service was to be pinned to a processor that no affinity set can hold. -/
  | cpuOutOfRange (service : String) (cpu limit : Nat)
  /-- A service ended with a fault. -/
  | panicked (service : String) (fault : Fault)
  /-- A run ended before its target, though nothing went wrong. -/
  | stoppedEarly (written target : Nat)
  /-- The clock shows a moment before the epoch. -/
  | beforeEpoch
  /-- A failure raised on purpose, with its text. -/
  | raised (text : String)
  deriving Repr

namespace Cause

def links : Cause → List String
  | format e => [e.message]
  | formatRefused e => [e.message]
  | settings e => [e.message]
  | detect e => [e.message]
  | pool e => [e.message]
  | camera e => [e.message]
  | dequeue e => e.message :: (e.cause?.map IoError.message).toList
  | sink e => e.message :: (e.cause?.map IoError.message).toList
  | io e => [e.message]
  | cpuOutOfRange service cpu limit =>
    [s!"cpu {cpu} for {service} is out of range (affinity sets hold {limit})"]
  | panicked service fault => [s!"service {service} panicked: {fault.message}"]
  | stoppedEarly written target => [s!"pipeline stopped after {written} of {target} frames"]
  | beforeEpoch => ["second time provided was later than self"]
  | raised text => [text]

def isSystem : Cause → Bool
  | dequeue e => e.cause?.any IoError.isSystem
  | sink e => e.cause?.any IoError.isSystem
  | io e => e.isSystem
  | _ => false

end Cause

inductive Context where
  | waitingFor (device : String)
  | dequeuingFrom (device : String)
  | capturing (frame : Nat)
  | converting (frame : Nat)
  | returningBuffer
  | persisting (frame : Nat)
  | startStreaming (device : String)
  | makeDirectory (path : String)
  | startService (service : String)
  | pinning (service : String) (cpu : Nat)
  | scheduling (service : String) (priority : Int)
  | serviceFailed (service : String)
  | poolAccounting
  | step (text : String)
  deriving DecidableEq, Repr

def Context.message : Context → String
  | waitingFor device => s!"wait for {device}"
  | dequeuingFrom device => s!"dequeue from {device}"
  | capturing frame => s!"capture frame {frame}"
  | converting frame => s!"convert frame {frame}"
  | returningBuffer => "return capture buffer to driver"
  | persisting frame => s!"persist frame {frame}"
  | startStreaming device => s!"start streaming {device}"
  | makeDirectory path => s!"create output directory {path}"
  | startService service => s!"start service {service}"
  | pinning service cpu => s!"pin {service} to cpu {cpu}"
  | scheduling service priority => s!"set SCHED_FIFO priority {priority} for {service}"
  | serviceFailed service => s!"service {service} failed"
  | poolAccounting => "buffer pool accounting after shutdown"
  | step text => text

/-- Something that went wrong, with what was being done, the outermost context first. -/
structure Failure where
  contexts : List Context
  cause : Cause
  deriving Repr

namespace Failure

def of (cause : Cause) : Failure := ⟨[], cause⟩

def within (f : Failure) (context : Context) : Failure := { f with contexts := context :: f.contexts }

def links (f : Failure) : List String := f.contexts.map Context.message ++ f.cause.links

def message (f : Failure) : String := ": ".intercalate f.links

def summary (f : Failure) : String := f.links.headD ""

end Failure
end TickCapture
