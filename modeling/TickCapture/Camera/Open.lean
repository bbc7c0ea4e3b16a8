import TickCapture.Camera.Synthetic

/-! # Opening a camera -/

namespace TickCapture

structure CameraSettings where
  /-- The path of a device, or `stub://` and a name. -/
  device : String
  /-- Whether the usual size is to be negotiated; a stub always has it. -/
  forceFormat : Bool
  buffers : UInt32
  deriving DecidableEq, Repr

namespace CameraSettings

def standard : CameraSettings := ⟨"/dev/video0", false, 6⟩

def stubScheme : String := "stub://"

/-- The stub for a device: the usual size, and about thirty frames in a second. -/
def stub (s : CameraSettings) : SyntheticSettings :=
  { SyntheticSettings.standard with
    device := s.device
    width := 640
    height := 480
    buffers := s.buffers.toNat
    frameInterval := some (33 * nanosPerMilli) }

/-- Opens the camera. Only stubs can be opened; real devices need a driver. -/
def openCamera (s : CameraSettings) : Except CameraError SyntheticCamera :=
  if s.buffers < 2 then .error (.tooFewBuffers s.buffers.toNat)
  else if s.device.startsWith stubScheme then .ok (.new s.stub)
  else .error (.noDriver s.device)

end CameraSettings
end TickCapture
