import TickCapture.Frame.Captured

/-! # Failures of image stores -/

namespace TickCapture

inductive SinkError where
  | io (cause : IoError)
  /-- The file that was written does not have the size of what was written to it. -/
  | shortWrite (expected written : Nat)
  /-- The pixel bytes do not fit the stated size of the image. -/
  | invalidImage (expected actual : Nat)
  deriving DecidableEq, Repr

namespace SinkError

def message : SinkError → String
  | io cause => s!"image write failed: {cause.message}"
  | shortWrite expected written => s!"short image write: {written} of {expected} bytes"
  | invalidImage expected actual => s!"pixel data is {actual} bytes, dimensions need {expected}"

def cause? : SinkError → Option IoError
  | io cause => some cause
  | _ => none

end SinkError
end TickCapture
