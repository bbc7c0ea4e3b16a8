import TickCapture.Pipeline.Simulation
import TickCapture.Rehearsal.ScriptedCamera
import TickCapture.Rehearsal.ScriptedSink

/-! # Trials of whole runs

A run with a scripted camera and a scripted store. One cycle of the camera and one image can be made
to wait for each other, so that a failure of both is certain. -/

namespace TickCapture
namespace PipelineTrial

/-- Whether the camera is about to begin the cycle of the meeting. -/
def cameraArrived (r : Run ScriptedCamera ScriptedSink) : Bool :=
  match r.line.capture, r.line.plant.camera.cycles with
  | some ⟨⟨_, .waiting, _, _⟩, _, _⟩, cycle :: _ => cycle.meet
  | _, _ => false

/-- Whether the camera has begun the cycle of the meeting, or never will. -/
def cameraPassed (r : Run ScriptedCamera ScriptedSink) : Bool :=
  !r.line.plant.camera.cycles.any (·.meet)

/-- Whether the image of the meeting is about to be stored. -/
def sinkArrived (image : Nat) (r : Run ScriptedCamera ScriptedSink) : Bool :=
  match r.line.persistence with
  | some ⟨⟨_, .storing _ _, _⟩, _, _⟩ => r.line.plant.sink.given + 1 == image
  | _ => false

/-- Whether a stage waits for the meeting at the image with this number. -/
def holds (meetAt : Option Nat) (r : Run ScriptedCamera ScriptedSink) (stage : StageName) : Bool :=
  match meetAt, stage with
  | some image, .capture =>
    cameraArrived r && !sinkArrived image r && r.line.plant.sink.given < image
  | some image, .persistence => sinkArrived image r && !cameraArrived r && !cameraPassed r
  | _, _ => false

end PipelineTrial
end TickCapture
