import TickCapture.Camera.Session
import TickCapture.Proofs.Camera.Lending
import TickCapture.Proofs.Camera.Pattern
import TickCapture.Proofs.Camera.Script

/-! # Frames taken from a synthetic camera

A camera that adds no noise and whose script plays on lends out the frames of its script, one after
another, whatever else its caller asks of it. Which frame comes next is a matter of the frames lent
so far (`SyntheticCamera.Lent`): waits, refused buffers, attempts that fail and a stop between two
starts leave it as it was. So the frames that a caller takes are those of the script, and as long as
their phases fit a word taking one ends without a fault. -/

namespace TickCapture

variable {s : SyntheticSettings} {size k n : Nat}

/-! ### Settings -/

namespace SyntheticSettings

/-- Whether the picture moves in frame `k`. -/
def movesAt (s : SyntheticSettings) (k : Nat) : Bool := Scene.movesAt s.script s.repeated k

/-- The phase after `k` frames. -/
def phaseAt (s : SyntheticSettings) : Nat → UInt32
  | 0 => 0
  | k + 1 => if s.movesAt k then s.phaseAt k + SyntheticCamera.motionStep else s.phaseAt k

theorem toNat_bytesPerLine (s : SyntheticSettings) :
    s.format.bytesPerLine.toNat = min (s.width.toNat * 2) (UInt32.size - 1) := by
  have hline : s.format.bytesPerLine = saturatingMul s.width 2 := ite_self _
  rw [hline, toNat_saturatingMul]
  rfl

theorem toNat_sizeImage (s : SyntheticSettings) :
    s.format.sizeImage.toNat =
      min (s.format.bytesPerLine.toNat * s.height.toNat) (UInt32.size - 1) := by
  have hline : s.format.bytesPerLine = saturatingMul s.width 2 := ite_self _
  have himage : s.format.sizeImage = saturatingMul s.format.bytesPerLine s.height := by
    show max (saturatingMul (saturatingMul s.width 2) s.height)
      (saturatingMul s.format.bytesPerLine s.height) = _
    rw [hline]
    exact ite_self _
  rw [himage, toNat_saturatingMul]

/-- The script alone determines the frames: pixels in pairs, at least one pair of them and no more
than can be converted, no noise, and always one more frame. -/
structure Scripted (s : SyntheticSettings) : Prop where
  even : s.width.toNat % 2 = 0
  width_ge : 2 ≤ s.width.toNat
  height_ge : 1 ≤ s.height.toNat
  fits : s.width.toNat * s.height.toNat * 3 < UInt32.size
  noise_eq : s.noise = 0
  plays : s.repeated = false ∨ ∃ segment ∈ s.script, segment.length ≠ 0

namespace Scripted

theorem packed (H : s.Scripted) : s.format.Packed := by
  have hfits := H.fits
  have hline : s.width.toNat * 1 ≤ s.width.toNat * s.height.toNat := Nat.mul_le_mul_left _ H.height_ge
  have hstride : SyntheticCamera.stride s.format = s.width.toNat * 2 := by
    rw [SyntheticCamera.stride, s.toNat_bytesPerLine]
    omega
  have himage : s.format.sizeImage.toNat = SyntheticCamera.stride s.format * s.height.toNat := by
    rw [s.toNat_sizeImage]
    show min (SyntheticCamera.stride s.format * s.height.toNat) _ = _
    rw [hstride, Nat.mul_right_comm]
    omega
  have heven : s.width % 2 = 0 := by
    rw [← UInt32.toNat_inj, UInt32.toNat_mod]
    exact H.even
  exact {
    admitted := ⟨rfl, heven, hfits⟩
    width_pos := Nat.lt_of_lt_of_le Nat.zero_lt_two H.width_ge
    height_pos := H.height_ge
    stride_eq := hstride
    sizeImage_eq := himage }

theorem scene_plays (H : s.Scripted) : (Scene.opening s.script s.repeated).Plays :=
  H.plays.imp_right fun ⟨_, hsegment, hne⟩ => Scene.flags_ne_nil hsegment hne

end Scripted
end SyntheticSettings

/-! ### Sizes of buffers -/

/-- All storage in the bank is of one size. -/
def SlotBank.Sized (size : Nat) (b : SlotBank) : Prop := b.Stores (·.size = size)

/-- The buffer of a frame is of that size, if it still has one. -/
def Captured.Sized (size : Nat) (frame : Captured) : Prop := frame.Holds (·.size = size)

/-! ### One camera -/

/-- Frame `k` of the script, in a buffer of the camera. -/
structure Captured.ShowsAt (s : SyntheticSettings) (k : Nat) (frame : Captured) : Prop where
  bytes_eq : frame.bytes = rawFrame s.format (s.phaseAt (k + 1))
  format_eq : frame.format = s.format
  sized : frame.Sized s.format.sizeImage.toNat

namespace SyntheticCamera

/-- A camera that has lent out `k` frames. -/
structure Lent (s : SyntheticSettings) (k : Nat) (c : SyntheticCamera) : Prop where
  settings_eq : c.settings = s
  placed : c.scene.Placed
  plays : c.scene.Plays
  upcoming_eq : ∀ i, c.scene.upcoming i = s.movesAt (k + i)
  phase_eq : c.phase = s.phaseAt k
  sized : c.bank.Sized s.format.sizeImage.toNat

namespace Lent

variable {c c' : SyntheticCamera} {slot : DriverSlot} {moment : Moment}

theorem new (hs : s.Scripted) : Lent s 0 (SyntheticCamera.new s) where
  settings_eq := rfl
  placed := Scene.placed_opening _ _
  plays := hs.scene_plays
  upcoming_eq i := by rw [Nat.zero_add]; exact Scene.upcoming_opening _ _ i
  phase_eq := rfl
  sized := SlotBank.Stores.new _ Array.size_replicate

/-- The bank may change, while its storage stays of one size. -/
theorem congr (H : Lent s k c) (hsettings : c'.settings = c.settings) (hscene : c'.scene = c.scene)
    (hphase : c'.phase = c.phase) (hsized : c'.bank.Sized s.format.sizeImage.toNat) :
    Lent s k c' where
  settings_eq := hsettings.trans H.settings_eq
  placed := hscene ▸ H.placed
  plays := hscene ▸ H.plays
  upcoming_eq := hscene ▸ H.upcoming_eq
  phase_eq := hphase.trans H.phase_eq
  sized := hsized

/-- The next frame of the scene is the next one of the script. -/
theorem advance (H : Lent s k c) : ∃ c', c.advance? = some c' ∧ Lent s (k + 1) c' := by
  obtain ⟨scene, hadvance, hshows⟩ := Scene.advance?_shows H.placed H.plays
  have hmoved : c.scene.upcoming 0 = s.movesAt k := H.upcoming_eq 0
  refine ⟨_, by rw [SyntheticCamera.advance?, hadvance]; rfl, ?_⟩
  exact {
    settings_eq := H.settings_eq
    placed := hshows.placed
    plays := hshows.plays H.plays
    upcoming_eq i := by
      rw [hshows.upcoming_eq, H.upcoming_eq, Nat.add_assoc, Nat.add_comm 1]
    phase_eq := by
      rw [SyntheticSettings.phaseAt, ← H.phase_eq, ← hmoved]
    sized := H.sized }

/-- A buffer that was taken is lent out with the next frame of the script. -/
theorem of_loan (H : Lent s k c) (hs : s.Scripted) (hfits : s.format.Fits (s.phaseAt (k + 1)))
    (hslot : slot.memory.size = s.format.sizeImage.toNat) {result : SyntheticCamera × Dequeued}
    (hloan : Loan c slot moment result) :
    ∃ c' frame, result = (c', .frame frame) ∧ frame.ShowsAt s k ∧ Lent s (k + 1) c' := by
  obtain ⟨next, hadvance, hnext⟩ := H.advance
  have hrender : render next.format next.phase next.settings.noise next.noise slot.memory =
      .ok (rawFrame s.format (s.phaseAt (k + 1)), s.format.sizeImage.toNat) := by
    rw [SyntheticCamera.format, hnext.settings_eq, hnext.phase_eq, hs.noise_eq]
    exact hs.packed.render_eq hfits hslot
  cases hloan with
  | never hnone =>
    rw [hadvance] at hnone
    cases hnone
  | faulted hadvance' hfault =>
    cases hadvance.symm.trans hadvance'
    rw [hrender] at hfault
    cases hfault
  | frame hadvance' hframe =>
    cases hadvance.symm.trans hadvance'
    rw [hrender] at hframe
    cases hframe
    have hsize : (rawFrame s.format (s.phaseAt (k + 1))).size = s.format.sizeImage.toNat :=
      Array.size_ofFn
    refine ⟨_, _, rfl, ?_, hnext.congr rfl rfl rfl hnext.sized⟩
    exact {
      bytes_eq := by
        simp only [Captured.lend, Captured.bytes, hsize, Nat.min_self]
        rw [← hsize]
        exact Array.extract_size
      format_eq := by rw [← hnext.settings_eq]; rfl
      sized := by rintro _ ⟨⟩; exact hsize }

/-- An attempt to take a frame fails and changes nothing, or takes the next frame of the script. -/
theorem dequeue (H : Lent s k c) (hs : s.Scripted) (hfits : s.format.Fits (s.phaseAt (k + 1)))
    (moment : Moment) :
    (∃ c' e, c.dequeue moment = (c', .failed e) ∧ Lent s k c') ∨
      ∃ c' frame, c.dequeue moment = (c', .frame frame) ∧ frame.ShowsAt s k ∧
        Lent s (k + 1) c' := by
  have hattempt := c.attempt moment
  generalize c.dequeue moment = result at hattempt ⊢
  cases hattempt with
  | idle _ | transient _ _ | empty _ _ | astray _ _ _ =>
    exact .inl ⟨_, _, rfl, H.congr rfl rfl rfl H.sized⟩
  | @lends i rest _ _ _ _ hslot hloan =>
    have hready : Lent s k (c.lending i rest) :=
      H.congr rfl rfl rfl (SlotBank.Stores.take H.sized rfl)
    exact .inr (hready.of_loan hs hfits (SlotBank.Stores.of_slots H.sized hslot) hloan)

end Lent
end SyntheticCamera

/-! ### A session -/

/-- The frame that a reply hands out. -/
def CameraReply.frame? : CameraReply → Option Captured
  | .frame _ taken => some taken
  | _ => none

/-- The camera did not come to an answer. -/
def CameraReply.breaks : CameraReply → Bool
  | .faulted _ | .never => true
  | _ => false

namespace CameraSession

/-- The replies to requests that are carried out one after another. -/
def replies (session : CameraSession) : List CameraRequest → List CameraReply
  | [] => []
  | request :: rest =>
    let (session, _, reply) := session.step request
    reply :: session.replies rest

/-- The frames taken meanwhile, in that order. -/
def taken (session : CameraSession) (requests : List CameraRequest) : List Captured :=
  (session.replies requests).filterMap CameraReply.frame?

theorem taken_cons (session : CameraSession) (request : CameraRequest) (rest : List CameraRequest) :
    session.taken (request :: rest) =
      (session.step request).2.2.frame?.toList ++ (session.step request).1.taken rest := by
  rw [taken, replies, List.filterMap_cons]
  cases (session.step request).2.2.frame? <;> rfl

/-- A session in which `k` frames have been taken. -/
structure Lent (s : SyntheticSettings) (k : Nat) (session : CameraSession) : Prop where
  camera : session.camera.Lent s k
  held : ∀ frame, some frame ∈ session.frames → frame.Sized s.format.sizeImage.toNat

/-- What a request comes to: the next frame of the script, or no frame but an answer. -/
inductive Next (s : SyntheticSettings) (k : Nat) : CameraSession → CameraReply → Prop
  | frame {session : CameraSession} {handle : Nat} {frame : Captured} :
    frame.ShowsAt s k → Lent s (k + 1) session → Next s k session (.frame handle frame)
  | other {session : CameraSession} {reply : CameraReply} :
    reply.frame? = none → reply.breaks = false → Lent s k session → Next s k session reply

namespace Lent

variable {session : CameraSession} {requests : List CameraRequest} {reply : CameraReply}
  {frame : Captured} {camera : SyntheticCamera} {handle i : Nat}

theorem new (hs : s.Scripted) : Lent s 0 (CameraSession.new s) := ⟨.new hs, by rintro _ ⟨⟨⟩⟩⟩

theorem sized (H : Lent s k session) (h : session.frame? handle = some frame) :
    frame.Sized s.format.sizeImage.toNat :=
  H.held frame (Array.mem_of_getElem? (Option.join_eq_some_iff.mp h))

/-- A frame is let go of. -/
theorem set_none (H : Lent s k session) (hcamera : camera.Lent s k) :
    Lent s k { session.set handle none with camera } where
  camera := hcamera
  held frame hframe :=
    H.held frame ((Array.mem_or_eq_of_mem_setIfInBounds hframe).resolve_right nofun)

theorem push (H : Lent s n session) (hcamera : camera.Lent s k)
    (hframe : frame.Sized s.format.sizeImage.toNat) :
    Lent s k { session with camera, frames := session.frames.push (some frame) } where
  camera := hcamera
  held other hother := by
    obtain hold | hnew := Array.mem_push.mp hother
    · exact H.held other hold
    · cases hnew
      exact hframe

theorem dequeue (H : Lent s k session) (hs : s.Scripted)
    (hfits : s.format.Fits (s.phaseAt (k + 1))) :
    Next s k session.dequeue.1 session.dequeue.2 := by
  unfold CameraSession.dequeue
  obtain ⟨camera, e, hfailed, hcamera⟩ | ⟨camera, frame, htaken, hshows, hcamera⟩ :=
    H.camera.dequeue hs hfits session.clock
  · rw [hfailed]
    exact .other rfl rfl ⟨hcamera, H.held⟩
  · rw [htaken]
    exact .frame hshows (H.push hcamera hshows.sized)

theorem returning (H : Lent s k session) (h : session.frame? handle = some frame) :
    Lent s k (session.returning handle frame) :=
  H.set_none (H.camera.congr rfl rfl rfl (SlotBank.Stores.giveBack H.camera.sized (H.sized h)))

theorem step (H : Lent s k session) (hs : s.Scripted) (hfits : s.format.Fits (s.phaseAt (k + 1)))
    (request : CameraRequest) :
    Next s k (session.step request).1 (session.step request).2.2 := by
  have hserved := session.served request
  generalize (session.step request).1 = next at hserved ⊢
  generalize (session.step request).2.2 = reply at hserved ⊢
  cases hserved with
  | start | stop | waited =>
    exact .other rfl rfl ⟨H.camera.congr rfl rfl rfl H.camera.sized, H.held⟩
  | attempted => exact H.dequeue hs hfits
  | returned _ hframe | refused hframe _ => exact .other rfl rfl (H.returning hframe)
  | copied hframe => exact .other rfl rfl ((H.set_none H.camera).push H.camera (H.sized hframe))
  | unknown _ _ => exact .other rfl rfl H

/-- The frames taken are those of the script. -/
theorem shows_of_taken (H : Lent s k session) (hs : s.Scripted)
    (hfits : ∀ j < n, s.format.Fits (s.phaseAt (j + 1)))
    (hframe : (session.taken requests)[i]? = some frame) (hlt : k + i < n) :
    frame.ShowsAt s (k + i) := by
  -- a request takes frame `k` or leaves it to the requests behind it
  induction requests generalizing session k i with
  | nil => cases hframe
  | cons request rest ih =>
    have hnext := H.step hs (hfits k (Nat.lt_of_le_of_lt (Nat.le_add_right k i) hlt)) request
    rw [taken_cons] at hframe
    generalize (session.step request).1 = after at hnext hframe
    generalize (session.step request).2.2 = reply at hnext hframe
    cases hnext with
    | other hnone hanswered hlent =>
      rw [hnone] at hframe
      exact ih hlent hframe hlt
    | frame hshows hlent =>
      cases i with
      | zero =>
        cases hframe
        exact hshows
      | succ i =>
        rw [← Nat.succ_add_eq_add_succ] at hlt ⊢
        exact ih hlent hframe hlt

/-- A request is answered unless the phase of the next frame does not fit. -/
theorem le_taken_of_breaks (H : Lent s k session) (hs : s.Scripted)
    (hfits : ∀ j < n, s.format.Fits (s.phaseAt (j + 1)))
    (hreply : (session.replies requests)[i]? = some reply) (hbreaks : reply.breaks = true) :
    n ≤ k + (session.taken (requests.take i)).length := by
  refine Nat.le_of_not_lt fun hlt => ?_
  induction requests generalizing session k i with
  | nil => cases hreply
  | cons request rest ih =>
    have hnext := H.step hs (hfits k (Nat.lt_of_le_of_lt (Nat.le_add_right k _) hlt)) request
    cases i with
    | zero =>
      have hfirst : (session.step request).2.2 = reply := Option.some.inj hreply
      rw [hfirst] at hnext
      cases hnext with
      | other hnone hanswered hlent => exact absurd hbreaks (by rw [hanswered]; nofun)
      | frame hshows hlent => cases hbreaks
    | succ i =>
      rw [List.take_succ_cons, taken_cons] at hlt
      have hreply : ((session.step request).1.replies rest)[i]? = some reply := hreply
      generalize (session.step request).1 = after at hnext hreply hlt
      generalize (session.step request).2.2 = first at hnext hlt
      cases hnext with
      | other hnone hanswered hlent =>
        rw [hnone] at hlt
        exact ih hlent hreply hlt
      | frame hshows hlent =>
        refine ih hlent hreply ?_
        rw [Nat.succ_add_eq_add_succ]
        exact hlt

/-- The first frames that are taken from a new camera. -/
theorem shows_of_first (hs : s.Scripted) (hfits : ∀ j < n, s.format.Fits (s.phaseAt (j + 1)))
    (hframe : (((CameraSession.new s).taken requests).take n)[i]? = some frame) :
    frame.ShowsAt s i := by
  rw [List.getElem?_take] at hframe
  split at hframe
  · next hlt =>
    have hshows := (new hs).shows_of_taken hs hfits hframe (by rwa [Nat.zero_add])
    rwa [Nat.zero_add] at hshows
  · cases hframe

end Lent
end CameraSession
end TickCapture
