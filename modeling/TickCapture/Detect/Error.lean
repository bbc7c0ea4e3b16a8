/-! # Detection failures -/

namespace TickCapture

inductive DetectError where
  | frameSizeMismatch (expected actual : Nat)
  | outputTooSmall (needed available : Nat)
  /-- A frame of no bytes has nothing to be compared with. -/
  | emptyFrame
  deriving DecidableEq, Repr

def DetectError.message : DetectError → String
  | frameSizeMismatch expected actual =>
    s!"expected image size and actual image size don't match ({expected} != {actual})"
  | outputTooSmall needed available =>
    s!"conversion buffer too small: need {needed} bytes, have {available}"
  | emptyFrame => "empty frame"

end TickCapture
