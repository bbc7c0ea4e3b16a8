import TickCapture.Camera.Basic
import TickCapture.Failure
import TickCapture.Text.Blank
import TickCapture.Text.Quoted

/-! # What the stages of a run have in common

A stage is a loop in a thread of its own. It is written as a machine: in each phase it asks one thing
of its surroundings (`request`), and the answer takes it to the next phase (`resume`). An answer to
something else than what was asked changes nothing. So a stage can be run against any surroundings,
and interleaved with others step by step.

A stage looks at its stop flag once in every round, and it never waits without a time limit. -/

namespace TickCapture

/-- How long a blocked send waits before it looks at the stop flag again. -/
def sendPoll : Clock := 100 * nanosPerMilli

inductive Ending (ρ : Type) where
  | finished (report : ρ)
  | failed (failure : Failure)
  | faulted (fault : Fault)

namespace Ending

variable {ρ : Type}

def unwinding : Ending ρ → Bool
  | faulted _ => true
  | _ => false

/-- What a fault makes of an ending: the first fault stands. -/
def afterFault (fault : Fault) : Ending ρ → Ending ρ
  | faulted first => faulted first
  | _ => faulted fault

end Ending

/-- What the capture stage does with a frame for which the mailbox has no space. -/
inductive Backpressure where
  /-- It waits for space. -/
  | block
  /-- It gives the buffer back and goes on. -/
  | drop
  deriving DecidableEq, Repr

namespace Backpressure

def text : Backpressure → String
  | block => "block"
  | drop => "drop"

/-- A word that is no policy. -/
structure Unknown where
  word : String
  deriving DecidableEq, Repr

def Unknown.message (e : Unknown) : String :=
  s!"unknown backpressure policy {quoted e.word} (expected block or drop)"

def ofText (s : String) : Except Unknown Backpressure :=
  let word := keyword s
  if word = "block" then .ok block else if word = "drop" then .ok drop else .error ⟨word⟩

end Backpressure
end TickCapture
