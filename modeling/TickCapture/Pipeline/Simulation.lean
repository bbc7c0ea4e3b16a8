import TickCapture.Pipeline.Run

/-! # One particular interleaving

A simulation runs a pipeline on a clock of its own. The stage that is furthest from the camera and can
go on goes on; the camera comes last, and each of its steps takes a little time. When everybody waits,
the clock is set to the time at which the first wait ends.

Every turn is a move of `Run.move?`, so what holds for all interleavings holds for this one. -/

namespace TickCapture.Run

variable {κ σ : Type} [Camera κ] [ImageSink σ]

/-- What a step of the capture stage takes. -/
def captureStepTime : Clock := 40000

/-- When the first of all waits ends. -/
def nextWake? (r : Run κ σ) : Option Clock :=
  let conductor := match r.phase with
    | .watching since => [since + exitPoll]
    | _ => []
  (conductor ++ r.line.wakes).min?

/-- A turn of a stage that is not held back. -/
def stageTurn? (hold : Run κ σ → StageName → Bool) (r : Run κ σ) (name : StageName) :
    Option (Run κ σ) :=
  if hold r name then none else r.move? (.stage name)

/-- The next turn; none when the run has ended, or waits for ever. -/
def turn? (hold : Run κ σ → StageName → Bool) (r : Run κ σ) : Option (Run κ σ) :=
  if r.phase = .ended then none
  else
    r.stageTurn? hold .persistence <|> r.stageTurn? hold .detection <|> r.move? .conductor <|>
      ((r.stageTurn? hold .capture).bind fun r => r.move? (.pass captureStepTime)) <|>
      match r.nextWake? with
      | some wake => if r.clock < wake then r.move? (.pass (wake - r.clock)) else none
      | none => none

/-- Takes turns, at most `turns` of them; at the time given the run is interrupted. -/
def simulate (hold : Run κ σ → StageName → Bool) (interruptAt : Option Clock) :
    (turns : Nat) → Run κ σ → Run κ σ
  | 0, r => r
  | turns + 1, r =>
    let r := if interruptAt.any (· ≤ r.clock) then r.moves [.interrupt] else r
    match r.turn? hold with
    | none => r
    | some r => simulate hold interruptAt turns r

end TickCapture.Run
