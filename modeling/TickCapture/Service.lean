import TickCapture.Stage.Basic

/-! # Services

A service is a thread with a name, a scheduling class and, if wanted, a processor to which it is
pinned. The host decides whether it can have these; if not, the service has not started, and its
work is never run.

However its work ends, the one who joins a service gets a value or a failure that names it. -/

namespace TickCapture

structure ServiceSpec where
  name : String
  priority : Int
  /-- Whether the thread runs in the class of fixed priorities. -/
  realtime : Bool
  cpu : Option Nat
  deriving DecidableEq, Repr

structure Host where
  /-- Processors are numbered from zero up to here. -/
  cpus : Nat
  /-- Whether threads may run in the class of fixed priorities. -/
  realtimeAllowed : Bool
  deriving DecidableEq, Repr

/-- How many processors an affinity set can hold. -/
def affinityLimit : Nat := 1024

/-- The lowest and the highest fixed priority. -/
def fixedPriorityRange : Int × Int := (1, 99)

namespace Host

def refusePinning (h : Host) (service : String) (cpu : Nat) : Option Failure :=
  if affinityLimit ≤ cpu then some (.of (.cpuOutOfRange service cpu affinityLimit))
  else if h.cpus ≤ cpu then some ⟨[.pinning service cpu], .io (.system .invalidArgument)⟩
  else none

def refuseScheduling (h : Host) (s : ServiceSpec) : Option Failure :=
  (s.cpu.bind (h.refusePinning s.name)).or <|
    if s.realtime && !h.realtimeAllowed then
      some ⟨[.scheduling s.name s.priority], .io (.system .notPermitted)⟩
    else none

def refuse (h : Host) (s : ServiceSpec) : Option Failure :=
  (h.refuseScheduling s).map (·.within (.startService s.name))

end Host

def Ending.join {ρ : Type} (service : String) : Ending ρ → Except Failure ρ
  | .finished report => .ok report
  | .failed failure => .error (failure.within (.serviceFailed service))
  | .faulted fault => .error (.of (.panicked service fault))

/-- Work whose ending is known beforehand. -/
inductive Work where
  | value (n : Nat)
  | failing (failure : Failure)
  | faulting (fault : Fault)
  /-- It goes on until it is asked to stop. -/
  | untilStopped (n : Nat)
  deriving Repr

def Work.ending? (stop : Bool) : Work → Option (Ending Nat)
  | value n => some (.finished n)
  | failing failure => some (.failed failure)
  | faulting fault => some (.faulted fault)
  | untilStopped n => if stop then some (.finished n) else none

end TickCapture
