import TickCapture.Decimal.Number

/-! # Two-threshold detection of a settling scene

A scene is still or moving. It starts to move when a difference exceeds the upper threshold and is
still again when one falls below the lower; the second is a tick. Differences between the two
thresholds change nothing.

Differences are measured on a `Scale`: doubles when the program runs, exact fractions where rounding
is to be left out of account. -/

namespace TickCapture

/-- Numbers on which differences are measured and compared. -/
class Scale (α : Type) where
  lt : α → α → Bool
  zero : α
  isFinite : α → Bool
  /-- The fraction `part / whole`. -/
  ratio : Nat → Nat → α

instance : Scale Float where
  lt a b := a < b
  zero := 0
  isFinite := Float.isFinite
  ratio part whole := part.toFloat / whole.toFloat

instance : Scale Rat where
  lt a b := a < b
  zero := 0
  isFinite _ := true
  ratio part whole := part / whole

inductive Mode where
  | still
  | moving
  deriving DecidableEq, Repr

def Mode.text : Mode → String
  | still => "still"
  | moving => "moving"

structure Hysteresis (α : Type) where
  still : α
  moving : α
  mode : Mode
  deriving Repr

inductive ThresholdError (α : Type) where
  | notFinite
  | outOfOrder (still moving : α)
  deriving Repr

def ThresholdError.message : ThresholdError Float → String
  | notFinite => "thresholds must be finite"
  | outOfOrder still moving =>
    s!"thresholds must satisfy 0 <= still < moving (still {numberText still}, moving {numberText moving})"

namespace Hysteresis

variable {α : Type} [Scale α]

/-- Thresholds have to be finite, the lower one not negative and below the upper. The scene starts
still. -/
def make (still moving : α) : Except (ThresholdError α) (Hysteresis α) :=
  if !Scale.isFinite still || !Scale.isFinite moving then .error .notFinite
  else if Scale.lt still Scale.zero || !Scale.lt still moving then .error (.outOfOrder still moving)
  else .ok ⟨still, moving, .still⟩

/-- Takes one difference: the new state, and whether this is a tick. -/
def step (h : Hysteresis α) (difference : α) : Hysteresis α × Bool :=
  match h.mode with
  | .still => if Scale.lt h.moving difference then ({ h with mode := .moving }, false) else (h, false)
  | .moving => if Scale.lt difference h.still then ({ h with mode := .still }, true) else (h, false)

/-- The threshold below which a moving scene is still, unless another is set. -/
def defaultStill : Float := 0.0022

/-- The threshold above which a still scene moves, unless another is set. -/
def defaultMoving : Float := 0.0023

def standard : Hysteresis Float := ⟨defaultStill, defaultMoving, .still⟩

end Hysteresis
end TickCapture
