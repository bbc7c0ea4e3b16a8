import TickCapture.Camera.Session
import TickCapture.Mailbox.Ends
import TickCapture.Main
import TickCapture.Pool.Registry
import TickCapture.Rehearsal.CaptureTrial
import TickCapture.Rehearsal.DetectionTrial
import TickCapture.Rehearsal.DetectorTrial
import TickCapture.Rehearsal.Handles
import TickCapture.Rehearsal.MailboxTrial
import TickCapture.Rehearsal.PersistenceTrial
import TickCapture.Rehearsal.PipelineTrial
import TickCapture.Proofs.Mailbox.Accounting
import TickCapture.Proofs.Mailbox.Wakeups
import TickCapture.Proofs.Pool.Ownership
import TickCapture.Proofs.Pool.Returns
import TickCapture.Proofs.Line.Exhaustion
import TickCapture.Proofs.Line.Conservation
import TickCapture.Proofs.Line.ScheduleIndependence
import TickCapture.Proofs.Run.Conservation
import TickCapture.Proofs.Run.Verdict
import TickCapture.Proofs.Store.ImageFile
import TickCapture.Proofs.Detect.AdmittedFormats
import TickCapture.Proofs.Detect.Offering
import TickCapture.Proofs.Detect.Pixels
import TickCapture.Proofs.Run.Cancellation
import TickCapture.Proofs.Detect.ScriptedTicks
import TickCapture.Proofs.Config.SettingsPath
import TickCapture.Proofs.Detect.EffectiveThresholds
import TickCapture.Proofs.Detect.Widening
import TickCapture.Proofs.Run.Forwarding
import TickCapture.Proofs.Stage.CaptureCourse
import TickCapture.Proofs.Stage.PersistenceCourse
import TickCapture.Proofs.Camera.Custody
import TickCapture.Proofs.Camera.Playing
import TickCapture.Proofs.Store.Agreement
import TickCapture.Proofs.Pool.Contents
import TickCapture.Proofs.Frame.Sanitized
import TickCapture.Proofs.Stage.Pacing
import TickCapture.Proofs.Config.Origins
import TickCapture.Proofs.Run.Acceptance
import TickCapture.Proofs.Camera.LongRuns
import TickCapture.Proofs.Store.Separation
