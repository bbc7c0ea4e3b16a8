import TickCapture.Proofs.Camera.Requests

/-! # Attempts that fail on purpose

A camera counts how often it is asked for a frame while it is streaming, and nothing else moves the
count: not what came of the other attempts, nor a stop and another start. Of those attempts every so
many fails on purpose, so their number is a quotient (`SyntheticCamera.Tallies`). -/

namespace TickCapture

namespace CameraRequest

/-- Whether the camera is streaming after the request. -/
def streams (streaming : Bool) : CameraRequest → Bool
  | .start => true
  | .stop => false
  | _ => streaming

/-- A frame is asked for while streaming. -/
def attempts (streaming : Bool) : CameraRequest → Bool
  | .dequeue => streaming
  | _ => false

/-- How often a frame is asked for while streaming. -/
def countAttempts (streaming : Bool) : List CameraRequest → Nat
  | [] => 0
  | request :: rest =>
    countAttempts (request.streams streaming) rest + if request.attempts streaming then 1 else 0

/-- A request about frames that are held is not about streaming. -/
theorem attempts_of_namesHandle {request : CameraRequest} (h : request.namesHandle = true)
    (streaming : Bool) :
    request.attempts streaming = false ∧ request.streams streaming = streaming := by
  cases request with
  | start | stop | wait | dequeue => cases h
  | release | drop | copy => exact ⟨rfl, rfl⟩

end CameraRequest

namespace SyntheticCamera

variable {c c' : SyntheticCamera} {a : Nat} {moment : Moment}

theorem failsAttempt_iff {every : Nat} (h : c.settings.transientEvery = some every)
    (hpos : 0 < every) (attempt : Nat) : c.failsAttempt attempt = true ↔ every ∣ attempt := by
  simp [failsAttempt, h, hpos, Nat.dvd_iff_mod_eq_zero]

/-- A camera that has been asked for a frame `a` times while streaming, and has failed on purpose as
often as it was to. -/
structure Tallies (a : Nat) (c : SyntheticCamera) : Prop where
  attempts_eq : c.attempts = a
  errors_eq : ∀ every, c.settings.transientEvery = some every → 0 < every →
    c.transientErrors = a / every

namespace Tallies

theorem new (s : SyntheticSettings) : Tallies 0 (.new s) :=
  ⟨rfl, fun every _ _ => (Nat.zero_div every).symm⟩

theorem congr (H : Tallies a c) (hattempts : c'.attempts = c.attempts)
    (herrors : c'.transientErrors = c.transientErrors) (hsettings : c'.settings = c.settings) :
    Tallies a c' where
  attempts_eq := hattempts.trans H.attempts_eq
  errors_eq := by
    rw [herrors, hsettings]
    exact H.errors_eq

/-- An attempt that does not fail on purpose counts as one. -/
theorem tries (H : Tallies a c) (h : c.Tries) (hattempts : c'.attempts = c.attempts + 1)
    (herrors : c'.transientErrors = c.transientErrors) (hsettings : c'.settings = c.settings) :
    Tallies (a + 1) c' where
  attempts_eq := by rw [hattempts, H.attempts_eq]
  errors_eq every hevery hpos := by
    rw [hsettings] at hevery
    have hpasses : ¬every ∣ a + 1 := by
      rw [← failsAttempt_iff hevery hpos, ← H.attempts_eq, h.passes]
      nofun
    rw [herrors, H.errors_eq every hevery hpos, Nat.succ_div_of_not_dvd hpasses]

theorem transient (H : Tallies a c) (h : c.failsAttempt (c.attempts + 1) = true) :
    Tallies (a + 1)
      { c with attempts := c.attempts + 1, transientErrors := c.transientErrors + 1 } where
  attempts_eq := congrArg (· + 1) H.attempts_eq
  errors_eq every hevery hpos := by
    have hfails : every ∣ a + 1 := by
      rwa [← failsAttempt_iff hevery hpos, ← H.attempts_eq]
    rw [Nat.succ_div_of_dvd hfails, ← H.errors_eq every hevery hpos]

theorem dequeue (H : Tallies a c) (moment : Moment) :
    Tallies (a + if c.streaming then 1 else 0) (c.dequeue moment).1 ∧
      (c.dequeue moment).1.streaming = c.streaming := by
  have hattempt := c.attempt moment
  generalize c.dequeue moment = result at hattempt ⊢
  cases hattempt with
  | idle hidle =>
    rw [if_neg (Bool.eq_false_iff.mp hidle)]
    exact ⟨H, rfl⟩
  | transient hstreaming hfails =>
    rw [if_pos hstreaming]
    exact ⟨H.transient hfails, rfl⟩
  | empty htries _ | astray htries _ _ =>
    rw [if_pos htries.streaming]
    exact ⟨H.tries htries rfl rfl rfl, rfl⟩
  | lends htries _ _ hloan =>
    obtain ⟨_, _, _, hcamera⟩ := hloan.camera_eq
    rw [if_pos htries.streaming, hcamera]
    exact ⟨H.tries htries rfl rfl rfl, rfl⟩

end Tallies
end SyntheticCamera

namespace CameraSession

/-- The session when requests have been carried out one after another. -/
def after (session : CameraSession) : List CameraRequest → CameraSession
  | [] => session
  | request :: rest => (session.step request).1.after rest

variable {session : CameraSession} {a : Nat}

theorem camera_dequeue (session : CameraSession) :
    session.dequeue.1.camera = (session.camera.dequeue session.clock).1 := by
  unfold dequeue
  generalize session.camera.dequeue session.clock = result
  obtain ⟨camera, d⟩ := result
  cases d <;> rfl

theorem tallies_step (H : session.camera.Tallies a) (request : CameraRequest) :
    (session.step request).1.camera.Tallies
        (a + if request.attempts session.camera.streaming then 1 else 0) ∧
      (session.step request).1.camera.streaming = request.streams session.camera.streaming := by
  have hserved := session.served request
  generalize (session.step request).1 = next at hserved ⊢
  generalize (session.step request).2.2 = reply at hserved
  cases hserved with
  | start | stop | waited | refused _ _ => exact ⟨H.congr rfl rfl rfl, rfl⟩
  | attempted =>
    rw [camera_dequeue]
    exact H.dequeue session.clock
  | returned hrequest _ =>
    have hnames := CameraRequest.namesHandle_of_returned? hrequest
    obtain ⟨hnone, hsame⟩ := CameraRequest.attempts_of_namesHandle hnames session.camera.streaming
    rw [hnone, hsame]
    exact ⟨H.congr rfl rfl rfl, rfl⟩
  | copied _ => exact ⟨H, rfl⟩
  | unknown hnames _ =>
    obtain ⟨hnone, hsame⟩ := CameraRequest.attempts_of_namesHandle hnames session.camera.streaming
    rw [hnone, hsame]
    exact ⟨H, rfl⟩

theorem tallies_after (H : session.camera.Tallies a) (requests : List CameraRequest) :
    (session.after requests).camera.Tallies
      (a + CameraRequest.countAttempts session.camera.streaming requests) := by
  induction requests generalizing session a with
  | nil => exact H
  | cons request rest ih =>
    obtain ⟨hcamera, hstreaming⟩ := tallies_step H request
    have hrest := ih hcamera
    rwa [hstreaming, Nat.add_assoc, Nat.add_comm (ite _ _ _)] at hrest

end CameraSession
end TickCapture
