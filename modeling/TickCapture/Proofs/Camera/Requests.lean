import TickCapture.Camera.Session

/-! # What comes of a request

An attempt to take a frame from a synthetic camera ends in one of five ways
(`SyntheticCamera.Attempt`). The camera is idle, the attempt is one that fails on purpose, no buffer is
queued, a buffer is queued whose storage is out, or a buffer is taken out of the bank and lent
(`SyntheticCamera.Loan`): then the scene never shows another frame, the frame cannot be drawn, or it
is lent out. A wait leaves the camera as it was but for the time at which the next frame is due, and a
frame that is given back changes the bank only.

So it is said once what a request can do to a session (`CameraSession.Served`), and what holds at
every moment of a session is proved by cases on that. -/

namespace TickCapture
namespace SyntheticCamera

variable {c : SyntheticCamera} {slot : DriverSlot} {moment : Moment}

/-- The camera is streaming, and the next attempt is not one that fails on purpose. -/
structure Tries (c : SyntheticCamera) : Prop where
  streaming : c.streaming = true
  passes : c.failsAttempt (c.attempts + 1) = false

/-- The camera when the next attempt has taken buffer `i` out of the bank and left `rest` queued. -/
def lending (c : SyntheticCamera) (i : Nat) (rest : List Nat) : SyntheticCamera :=
  { c with attempts := c.attempts + 1, bank := ⟨c.bank.slots.setIfInBounds i none, rest⟩ }

/-- What can come of a buffer that was taken out of the bank. -/
inductive Loan (c : SyntheticCamera) (slot : DriverSlot) (moment : Moment) :
    SyntheticCamera × Dequeued → Prop
  | never : c.advance? = none → Loan c slot moment (c, .never)
  | faulted {next : SyntheticCamera} {fault : Fault} : c.advance? = some next →
    render next.format next.phase next.settings.noise next.noise slot.memory = .error fault →
    Loan c slot moment (next, .faulted fault)
  | frame {next : SyntheticCamera} {memory : Bytes} {used : Nat} : c.advance? = some next →
    render next.format next.phase next.settings.noise next.noise slot.memory = .ok (memory, used) →
    Loan c slot moment ({ next with sequence := next.sequence + 1 },
      .frame (.lend { slot with memory } used next.format next.sequence moment))

/-- What can come of an attempt. -/
inductive Attempt (c : SyntheticCamera) (moment : Moment) : SyntheticCamera × Dequeued → Prop
  | idle : c.streaming = false →
    Attempt c moment (c, .failed (.fatal (.text "dequeue while not streaming")))
  /-- The attempt is one that fails on purpose. -/
  | transient : c.streaming = true → c.failsAttempt (c.attempts + 1) = true →
    Attempt c moment
      ({ c with attempts := c.attempts + 1, transientErrors := c.transientErrors + 1 },
        .failed (.transient (.text "simulated transient I/O error")))
  | empty : c.Tries → c.bank.queued = [] →
    Attempt c moment ({ c with attempts := c.attempts + 1 }, .failed .empty)
  /-- A buffer is queued that is on loan. -/
  | astray {i : Nat} {rest : List Nat} : c.Tries → c.bank.queued = i :: rest →
    c.bank.slots[i]?.join = none →
    Attempt c moment
      ({ c with attempts := c.attempts + 1, bank := { c.bank with queued := rest } },
        .failed (.fatal (.text s!"queued buffer {i} is on loan")))
  | lends {i : Nat} {rest : List Nat} {memory : Bytes} {result : SyntheticCamera × Dequeued} :
    c.Tries → c.bank.queued = i :: rest → c.bank.slots[i]? = some (some memory) →
    Loan (c.lending i rest) ⟨i, memory⟩ moment result → Attempt c moment result

theorem loan (c : SyntheticCamera) (slot : DriverSlot) (moment : Moment) :
    Loan c slot moment (c.lendFrame slot moment) := by
  unfold lendFrame
  split
  · next hadvance => exact .never hadvance
  · next hadvance =>
    split
    · next hrender => exact .faulted hadvance hrender
    · next hrender => exact .frame hadvance hrender

/-- A loan goes on with the scene, and leaves the rest of the camera as it was. -/
theorem Loan.camera_eq {c' : SyntheticCamera} {d : Dequeued} (h : Loan c slot moment (c', d)) :
    ∃ scene phase sequence, c' = { c with scene, phase, sequence } := by
  have hnext {next : SyntheticCamera} (hadvance : c.advance? = some next) :
      ∃ scene phase, next = { c with scene, phase } := by
    obtain ⟨⟨scene, moved⟩, -, rfl⟩ := Option.map_eq_some_iff.mp hadvance
    exact ⟨_, _, rfl⟩
  cases h with
  | never _ => exact ⟨_, _, _, rfl⟩
  | faulted hadvance _ =>
    obtain ⟨scene, phase, rfl⟩ := hnext hadvance
    exact ⟨_, _, _, rfl⟩
  | frame hadvance _ =>
    obtain ⟨scene, phase, rfl⟩ := hnext hadvance
    exact ⟨_, _, _, rfl⟩

theorem attempt (c : SyntheticCamera) (moment : Moment) :
    Attempt c moment (c.dequeue moment) := by
  unfold dequeue
  split
  · next hidle => exact .idle (by simpa using hidle)
  · next hstreaming =>
    have hstreaming : c.streaming = true := by simpa using hstreaming
    dsimp only
    split
    · next hfails => exact .transient hstreaming hfails
    · next hpasses =>
      have htries : c.Tries := ⟨hstreaming, Bool.eq_false_iff.mpr hpasses⟩
      cases hqueued : c.bank.queued with
      | nil =>
        have htake : c.bank.take = (c.bank, .error .empty) := by rw [SlotBank.take, hqueued]
        rw [htake]
        exact .empty htries hqueued
      | cons i rest =>
        cases hslot : c.bank.slots[i]?.join with
        | none =>
          have htake : c.bank.take = ({ c.bank with queued := rest },
              .error (.fatal (.text s!"queued buffer {i} is on loan"))) := by
            simp only [SlotBank.take, hqueued, hslot]
          rw [htake]
          exact .astray htries hqueued hslot
        | some memory =>
          have htake : c.bank.take =
              (⟨c.bank.slots.setIfInBounds i none, rest⟩, .ok ⟨i, memory⟩) := by
            simp only [SlotBank.take, hqueued, hslot]
          rw [htake]
          exact .lends htries hqueued (Option.join_eq_some_iff.mp hslot) (loan _ _ moment)

/-! ### Waits -/

theorem poll_eq (c : SyntheticCamera) (now deadline : Clock) :
    ∃ due, (c.poll now deadline).1 = { c with nextFrameAt := due } := by
  unfold poll
  split
  · exact ⟨_, rfl⟩
  · split
    · exact ⟨_, rfl⟩
    · split
      · exact ⟨_, rfl⟩
      · dsimp only
        split <;> exact ⟨_, rfl⟩

theorem waitAlone_eq (c : SyntheticCamera) (now timeout : Clock) :
    ∃ due, (waitAlone c now timeout).1 = { c with nextFrameAt := due } := by
  obtain ⟨due, hdue⟩ := c.poll_eq now (now + timeout)
  unfold waitAlone
  dsimp only
  split
  · next camera wake hpoll =>
    have hpoll : c.poll now (now + timeout) = _ := hpoll
    obtain ⟨later, hlater⟩ := camera.poll_eq (min (now + timeout) (wake.getD (now + timeout)))
      (now + timeout)
    rw [hpoll] at hdue
    obtain rfl : camera = { c with nextFrameAt := due } := hdue
    exact ⟨later, hlater⟩
  · next hpoll =>
    have hpoll : c.poll now (now + timeout) = _ := hpoll
    rw [hpoll] at hdue
    exact ⟨due, hdue⟩

/-! ### Returns -/

/-- A buffer that comes back is a matter of the bank. -/
theorem giveBack_eq (c : SyntheticCamera) (frame : Captured) :
    giveBack c frame = ({ c with bank := (giveBack c.bank frame).1 }, (giveBack c.bank frame).2) := by
  unfold giveBack
  cases frame.slot <;> rfl

end SyntheticCamera

/-! ### Requests -/

/-- The handle that a request gives back. -/
def CameraRequest.returned? : CameraRequest → Option Nat
  | .release handle | .drop handle => some handle
  | _ => none

/-- A request about frames that are held, and not to the camera. -/
def CameraRequest.namesHandle : CameraRequest → Bool
  | .release _ | .drop _ | .copy .. => true
  | _ => false

theorem CameraRequest.namesHandle_of_returned? {request : CameraRequest} {handle : Nat}
    (h : request.returned? = some handle) : request.namesHandle = true := by
  cases request with
  | start | stop | wait | dequeue | copy => cases h
  | release | drop => rfl

namespace CameraSession

/-- The session when a frame that it held has been given back. -/
def returning (session : CameraSession) (handle : Nat) (frame : Captured) : CameraSession :=
  { session.set handle none with
    camera := { session.camera with bank := (giveBack session.camera.bank frame).1 } }

/-- What a request does to a session, and what is replied. -/
inductive Served (session : CameraSession) : CameraRequest → CameraSession → CameraReply → Prop
  | start : Served session .start { session with camera := session.camera.start } .done
  | stop : Served session .stop { session with camera := session.camera.stop } .done
  | waited {timeout clock : Clock} {due : Option Clock} {readiness : Readiness} :
    Served session (.wait timeout)
      { session with camera := { session.camera with nextFrameAt := due }, clock }
      (.waited readiness)
  | attempted : Served session .dequeue session.dequeue.1 session.dequeue.2
  | returned {request : CameraRequest} {handle : Nat} {frame : Captured} :
    request.returned? = some handle → session.frame? handle = some frame →
    Served session request (session.returning handle frame) .done
  /-- The frame is out of the session, but its buffer is not in the bank. -/
  | refused {handle : Nat} {frame : Captured} {e : IoError} : session.frame? handle = some frame →
    (giveBack session.camera.bank frame).2 = some e →
    Served session (.release handle) (session.returning handle frame) (.refused e)
  | copied {handle leak : Nat} {frame : Captured} : session.frame? handle = some frame →
    Served session (.copy handle leak)
      { session.set leak none with frames := (session.set leak none).frames.push (some frame) }
      (.copied (session.set leak none).frames.size)
  /-- No frame is held under a handle that the request names. -/
  | unknown {request : CameraRequest} : request.namesHandle = true →
    request.returned?.bind session.frame? = none → Served session request session .noSuchHandle

theorem served (session : CameraSession) (request : CameraRequest) :
    Served session request (session.step request).1 (session.step request).2.2 := by
  cases request with
  | start => exact .start
  | stop => exact .stop
  | wait timeout =>
    obtain ⟨due, hdue⟩ := session.camera.waitAlone_eq session.clock timeout
    simp only [step, hdue]
    exact .waited
  | dequeue => exact .attempted
  | release handle =>
    simp only [step]
    cases hframe : session.frame? handle with
    | none => exact .unknown rfl hframe
    | some frame =>
      simp only [session.camera.giveBack_eq frame]
      cases hrefusal : (giveBack session.camera.bank frame).2 with
      | none => exact .returned rfl hframe
      | some e => exact .refused hframe hrefusal
  | drop handle =>
    simp only [step]
    cases hframe : session.frame? handle with
    | none => exact .unknown rfl hframe
    | some frame =>
      simp only [discard, session.camera.giveBack_eq frame]
      exact .returned rfl hframe
  | copy handle leak =>
    simp only [step]
    split
    · next hframe _ => exact .copied hframe
    · exact .unknown rfl rfl

end CameraSession
end TickCapture
