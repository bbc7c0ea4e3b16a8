import TickCapture.Proofs.Camera.Attempts
import TickCapture.Proofs.Camera.Drawing

/-! # What a camera films does not depend on its buffers

Which frames there are is a matter of the scene: it goes on by one with every loan that comes to a
frame or cannot be drawn, and with nothing else (`Films`). So the frames taken from a camera are the
footage of its scene, up to some frame and without those that cannot be drawn, and two cameras with
the same scene take the same ones. -/

namespace TickCapture

variable {memory : Bytes}

theorem Captured.bytes_lend (slot : DriverSlot) (used sequence : Nat) (f : Format) (moment : Moment) :
    (Captured.lend slot used f sequence moment).bytes = slot.memory.extract 0 used := by
  refine Array.ext (by simp [Captured.lend, Captured.bytes]) fun i hi hi' => ?_
  simp [Captured.lend, Captured.bytes]

/-! ### One camera -/

namespace SyntheticSettings

variable {s s' : SyntheticSettings} {t : Nat}

/-- The bytes of frame `t` of the scene, drawn on a new buffer. Some cannot be drawn. -/
def shot? (s : SyntheticSettings) (t : Nat) : Option Bytes :=
  match SyntheticCamera.render s.format (s.phaseAt (t + 1)) 0 .silent
      (.zeros s.format.sizeImage.toNat) with
  | .ok (memory, used) => some (memory.extract 0 used)
  | .error _ => none

/-- What is filmed while `n` frames of the scene are shown, from frame `t` on. -/
def footage (s : SyntheticSettings) (t n : Nat) : List Bytes := (List.range' t n).filterMap s.shot?

theorem footage_succ (s : SyntheticSettings) (t n : Nat) :
    s.footage t (n + 1) = (s.shot? t).toList ++ s.footage (t + 1) n := by
  rw [footage, List.range'_succ, List.filterMap_cons]
  cases s.shot? t <;> rfl

theorem footage_add (s : SyntheticSettings) (t m n : Nat) :
    s.footage t (m + n) = s.footage t m ++ s.footage (t + m) n := by
  rw [footage, ← List.range'_append_1, List.filterMap_append]
  rfl

/-- However long the camera films, its frames begin alike. -/
theorem getElem?_footage {j m n : Nat} {bytes : Bytes} (h : (s.footage t m)[j]? = some bytes)
    (hle : m ≤ n) : (s.footage t n)[j]? = some bytes := by
  obtain ⟨d, rfl⟩ := Nat.exists_eq_add_of_le hle
  obtain ⟨hlt, -⟩ := List.getElem?_eq_some_iff.mp h
  rw [footage_add, List.getElem?_append_left hlt, h]

/-- Size, script and repetition are all that the frames depend on. -/
theorem footage_congr (hwidth : s.width = s'.width) (hheight : s.height = s'.height)
    (hscript : s.script = s'.script) (hrepeated : s.repeated = s'.repeated) (t n : Nat) :
    s.footage t n = s'.footage t n := by
  have hformat : s.format = s'.format := by rw [format, format, hwidth, hheight]
  have hphase (k : Nat) : s.phaseAt k = s'.phaseAt k := by
    induction k with
    | zero => rfl
    | succ k ih => rw [phaseAt, phaseAt, ih, movesAt, movesAt, hscript, hrepeated]
  have hshot : s.shot? = s'.shot? := by
    funext k
    rw [shot?, shot?, hformat, hphase]
  rw [footage, footage, hshot]

end SyntheticSettings

variable {s : SyntheticSettings} {t n : Nat}

namespace SyntheticCamera

/-- A camera that has shown `t` frames of its scene and taken `n` of them. -/
structure Films (s : SyntheticSettings) (t n : Nat) (c : SyntheticCamera) : Prop where
  settings_eq : c.settings = s
  placed : c.scene.Placed
  script_eq : c.scene.script = s.script
  repeated_eq : c.scene.repeated = s.repeated
  upcoming_eq : ∀ i, c.scene.upcoming i = s.movesAt (t + i)
  phase_eq : c.phase = s.phaseAt t
  sequence_eq : c.sequence = n
  stored : c.bank.Stores s.format.CleanMargins

/-- What an attempt comes to when `t` frames have been shown and `n` of them taken. -/
inductive Shoots (s : SyntheticSettings) (t n : Nat) : SyntheticCamera × Dequeued → Prop
  | failed {c : SyntheticCamera} {e : DequeueError} : Films s t n c → Shoots s t n (c, .failed e)
  | never {c : SyntheticCamera} : Films s t n c → Shoots s t n (c, .never)
  | faulted {c : SyntheticCamera} {fault : Fault} : Films s (t + 1) n c →
    (s.noise = 0 → s.shot? t = none) → Shoots s t n (c, .faulted fault)
  | frame {c : SyntheticCamera} {taken : Captured} : Films s (t + 1) (n + 1) c →
    taken.sequence = n → taken.Holds s.format.CleanMargins →
    (s.noise = 0 → s.shot? t = some taken.bytes) → Shoots s t n (c, .frame taken)

namespace Films

variable {c c' : SyntheticCamera} {slot : DriverSlot} {moment : Moment}

theorem new (s : SyntheticSettings) : Films s 0 0 (.new s) where
  settings_eq := rfl
  placed := Scene.placed_opening _ _
  script_eq := rfl
  repeated_eq := rfl
  upcoming_eq i := by
    rw [Nat.zero_add]
    exact Scene.upcoming_opening _ _ i
  phase_eq := rfl
  sequence_eq := rfl
  stored := .new _ (.zeros _)

/-- The bank may change, while its storage has clean margins. -/
theorem congr (H : Films s t n c) (hsettings : c'.settings = c.settings)
    (hscene : c'.scene = c.scene) (hphase : c'.phase = c.phase)
    (hsequence : c'.sequence = c.sequence) (hstored : c'.bank.Stores s.format.CleanMargins) :
    Films s t n c' where
  settings_eq := hsettings.trans H.settings_eq
  placed := hscene ▸ H.placed
  script_eq := hscene ▸ H.script_eq
  repeated_eq := hscene ▸ H.repeated_eq
  upcoming_eq := hscene ▸ H.upcoming_eq
  phase_eq := hphase.trans H.phase_eq
  sequence_eq := hsequence.trans H.sequence_eq
  stored := hstored

theorem advance (H : Films s t n c) (h : c.advance? = some c') : Films s (t + 1) n c' := by
  obtain ⟨⟨scene, moved⟩, hadvance, rfl⟩ := Option.map_eq_some_iff.mp h
  have hshows := Scene.shows_of_advanceWithin H.placed hadvance
  have hmoved : moved = s.movesAt t := hshows.moved_eq.trans (H.upcoming_eq 0)
  exact {
    settings_eq := H.settings_eq
    placed := hshows.placed
    script_eq := hshows.script_eq.trans H.script_eq
    repeated_eq := hshows.repeated_eq.trans H.repeated_eq
    upcoming_eq i := by
      rw [hshows.upcoming_eq, H.upcoming_eq, Nat.add_assoc, Nat.add_comm 1]
    phase_eq := by
      rw [SyntheticSettings.phaseAt, ← H.phase_eq, ← hmoved]
    sequence_eq := H.sequence_eq
    stored := H.stored }

/-- Drawn on any buffer of the camera, a frame without noise is the one of the footage. -/
theorem render_eq (H : Films s (t + 1) n c) (hnoise : s.noise = 0)
    (hmemory : s.format.CleanMargins memory) :
    render c.format c.phase c.settings.noise c.noise memory =
      render s.format (s.phaseAt (t + 1)) 0 .silent (.zeros s.format.sizeImage.toNat) := by
  rw [SyntheticCamera.format, H.settings_eq, H.phase_eq, hnoise]
  exact hmemory.render_eq

theorem shoots_of_loan (H : Films s t n c) (hslot : s.format.CleanMargins slot.memory)
    {result : SyntheticCamera × Dequeued} (h : Loan c slot moment result) : Shoots s t n result := by
  cases h with
  | never _ => exact .never H
  | faulted hadvance hrender =>
    have hnext := H.advance hadvance
    refine .faulted hnext fun hnoise => ?_
    rw [hnext.render_eq hnoise hslot] at hrender
    rw [SyntheticSettings.shot?, hrender]
  | @frame next memory used hadvance hrender =>
    have hnext := H.advance hadvance
    have hdrawn : s.format.CleanMargins memory := by
      rw [SyntheticCamera.format, hnext.settings_eq] at hrender
      exact hslot.of_render hrender
    refine .frame { hnext with sequence_eq := congrArg (· + 1) hnext.sequence_eq }
      hnext.sequence_eq ?_ fun hnoise => ?_
    · rintro _ ⟨⟩
      exact hdrawn
    · rw [hnext.render_eq hnoise hslot] at hrender
      rw [SyntheticSettings.shot?, hrender, Captured.bytes_lend]

theorem lending (H : Films s t n c) (i : Nat) (rest : List Nat) : Films s t n (c.lending i rest) :=
  H.congr rfl rfl rfl rfl (H.stored.take rfl)

theorem shoots (H : Films s t n c) (moment : Moment) : Shoots s t n (c.dequeue moment) := by
  have hattempt := c.attempt moment
  generalize c.dequeue moment = result at hattempt ⊢
  cases hattempt with
  | idle _ | transient _ _ | empty _ _ | astray _ _ _ =>
    exact .failed (H.congr rfl rfl rfl rfl H.stored)
  | @lends i rest memory _ _ _ hslot hloan =>
    have hmemory : s.format.CleanMargins memory := H.stored.of_slots hslot
    exact (H.lending i rest).shoots_of_loan hmemory hloan

end Films
end SyntheticCamera

/-! ### A session -/

/-- Another frame of the scene has been shown. -/
def CameraReply.shows : CameraReply → Bool
  | .frame .. | .faulted _ => true
  | _ => false

namespace CameraSession

/-- How many frames of the scene are shown meanwhile. -/
def shown (session : CameraSession) (requests : List CameraRequest) : Nat :=
  (session.replies requests).countP CameraReply.shows

variable {session : CameraSession} {request : CameraRequest} {requests rest : List CameraRequest}
  {reply : CameraReply}

theorem shown_cons (session : CameraSession) (request : CameraRequest) (rest : List CameraRequest) :
    session.shown (request :: rest) =
      (session.step request).1.shown rest + if (session.step request).2.2.shows then 1 else 0 := by
  rw [shown, replies, List.countP_cons]
  rfl

/-- A session in which `t` frames of the scene have been shown and `n` of them taken. -/
structure Films (s : SyntheticSettings) (t n : Nat) (session : CameraSession) : Prop where
  camera : session.camera.Films s t n
  held : ∀ frame, some frame ∈ session.frames → frame.Holds s.format.CleanMargins

/-- What a request comes to when `t` frames have been shown and `n` of them taken. -/
inductive Rolls (s : SyntheticSettings) (t n : Nat) : CameraSession → CameraReply → Prop
  | taken {session : CameraSession} {handle : Nat} {frame : Captured} :
    Films s (t + 1) (n + 1) session → frame.sequence = n →
    (s.noise = 0 → s.shot? t = some frame.bytes) → Rolls s t n session (.frame handle frame)
  | spoiled {session : CameraSession} {fault : Fault} : Films s (t + 1) n session →
    (s.noise = 0 → s.shot? t = none) → Rolls s t n session (.faulted fault)
  | other {session : CameraSession} {reply : CameraReply} : reply.frame? = none →
    reply.shows = false → Films s t n session → Rolls s t n session reply

namespace Films

variable {frame : Captured} {camera : SyntheticCamera} {handle : Nat}

theorem new (s : SyntheticSettings) : Films s 0 0 (.new s) := ⟨.new s, nofun⟩

theorem holds (H : Films s t n session) (h : session.frame? handle = some frame) :
    frame.Holds s.format.CleanMargins :=
  H.held frame (Array.mem_of_getElem? (Option.join_eq_some_iff.mp h))

/-- A frame is let go of. -/
theorem set_none (H : Films s t n session) (hcamera : camera.Films s t n) :
    Films s t n { session.set handle none with camera } where
  camera := hcamera
  held frame hframe :=
    H.held frame ((Array.mem_or_eq_of_mem_setIfInBounds hframe).resolve_right nofun)

theorem push {t' n' : Nat} (H : Films s t n session) (hcamera : camera.Films s t' n')
    (hframe : frame.Holds s.format.CleanMargins) :
    Films s t' n' { session with camera, frames := session.frames.push (some frame) } where
  camera := hcamera
  held other hother := by
    obtain hold | hnew := Array.mem_push.mp hother
    · exact H.held other hold
    · cases hnew
      exact hframe

theorem dequeue (H : Films s t n session) : Rolls s t n session.dequeue.1 session.dequeue.2 := by
  have hshoots := H.camera.shoots session.clock
  unfold CameraSession.dequeue
  generalize session.camera.dequeue session.clock = result at hshoots
  cases hshoots with
  | failed hcamera | never hcamera => exact .other rfl rfl ⟨hcamera, H.held⟩
  | faulted hcamera hshot => exact .spoiled ⟨hcamera, H.held⟩ hshot
  | frame hcamera hsequence hholds hshot => exact .taken (H.push hcamera hholds) hsequence hshot

theorem returning (H : Films s t n session) (h : session.frame? handle = some frame) :
    Films s t n (session.returning handle frame) :=
  H.set_none (H.camera.congr rfl rfl rfl rfl (H.camera.stored.giveBack (H.holds h)))

theorem step (H : Films s t n session) (request : CameraRequest) :
    Rolls s t n (session.step request).1 (session.step request).2.2 := by
  have hserved := session.served request
  generalize (session.step request).1 = next at hserved ⊢
  generalize (session.step request).2.2 = reply at hserved ⊢
  cases hserved with
  | start | stop | waited =>
    exact .other rfl rfl ⟨H.camera.congr rfl rfl rfl rfl H.camera.stored, H.held⟩
  | attempted => exact H.dequeue
  | returned _ hframe | refused hframe _ => exact .other rfl rfl (H.returning hframe)
  | copied hframe => exact .other rfl rfl ((H.set_none H.camera).push H.camera (H.holds hframe))
  | unknown _ _ => exact .other rfl rfl H

/-- A run of requests takes what the scene shows meanwhile, and numbers it. -/
theorem run (H : Films s t n session) (requests : List CameraRequest) :
    Films s (t + session.shown requests) (n + (session.taken requests).length)
        (session.after requests) ∧
      (session.taken requests).map (·.sequence) =
        List.range' n (session.taken requests).length ∧
      (s.noise = 0 →
        (session.taken requests).map (·.bytes) = s.footage t (session.shown requests)) := by
  induction requests generalizing session t n with
  | nil => exact ⟨H, rfl, fun _ => rfl⟩
  | cons request rest ih =>
    have hrolls := H.step request
    rw [taken_cons, shown_cons, after]
    generalize (session.step request).1 = next at hrolls ⊢
    generalize (session.step request).2.2 = reply at hrolls ⊢
    cases hrolls with
    | other hframe hshows hnext =>
      rw [hframe, hshows]
      exact ih hnext
    | spoiled hnext hshot =>
      obtain ⟨hfilms, hsequence, hbytes⟩ := ih hnext
      rw [Nat.add_right_comm] at hfilms
      refine ⟨hfilms, hsequence, fun hnoise => ?_⟩
      show (next.taken rest).map (·.bytes) = s.footage t (next.shown rest + 1)
      rw [SyntheticSettings.footage_succ, hshot hnoise, hbytes hnoise]
      rfl
    | @taken _ frame hnext hnumber hshot =>
      obtain ⟨hfilms, hsequence, hbytes⟩ := ih hnext
      rw [Nat.add_right_comm t, Nat.add_right_comm n] at hfilms
      refine ⟨hfilms, ?_, fun hnoise => ?_⟩
      · show frame.sequence :: (next.taken rest).map (·.sequence) =
          List.range' n ((next.taken rest).length + 1)
        rw [hnumber, hsequence, List.range'_succ]
      · show frame.bytes :: (next.taken rest).map (·.bytes) = s.footage t (next.shown rest + 1)
        rw [SyntheticSettings.footage_succ, hshot hnoise, hbytes hnoise]
        rfl

end Films

/-! ### Two sessions -/

theorem sequence_of_taken {j : Nat} {frame : Captured}
    (h : ((CameraSession.new s).taken requests)[j]? = some frame) : frame.sequence = j := by
  obtain ⟨-, hsequence, -⟩ := (Films.new s).run requests
  obtain ⟨hlt, -⟩ := List.getElem?_eq_some_iff.mp h
  have hj := congrArg (·[j]?) hsequence
  simp only [List.getElem?_map, h, Option.map_some, List.getElem?_range' hlt] at hj
  simpa using hj

theorem bytes_of_taken {j : Nat} {frame : Captured} (hnoise : s.noise = 0)
    (h : ((CameraSession.new s).taken requests)[j]? = some frame) :
    (s.footage 0 ((CameraSession.new s).shown requests))[j]? = some frame.bytes := by
  obtain ⟨-, -, hbytes⟩ := (Films.new s).run requests
  rw [← hbytes hnoise, List.getElem?_map, h]
  rfl

/-- Whatever is asked of a camera, the frames taken from it are numbered from zero and are the footage
of its scene, each as it would be drawn on a new buffer. So two cameras with the same scene take the
same frames one by one. And every so many attempts made while streaming one fails on purpose. -/
theorem taken_same_footage {s₁ s₂ : SyntheticSettings} (hwidth : s₁.width = s₂.width)
    (hheight : s₁.height = s₂.height) (hscript : s₁.script = s₂.script)
    (hrepeated : s₁.repeated = s₂.repeated) (hnoise₁ : s₁.noise = 0) (hnoise₂ : s₂.noise = 0)
    (requests₁ requests₂ : List CameraRequest) :
    (∀ (j : Nat) (frame₁ frame₂ : Captured),
      ((CameraSession.new s₁).taken requests₁)[j]? = some frame₁ →
      ((CameraSession.new s₂).taken requests₂)[j]? = some frame₂ →
      frame₁.sequence = j ∧ frame₂.sequence = j ∧ frame₁.bytes = frame₂.bytes) ∧
    ((CameraSession.new s₁).taken requests₁).map (·.bytes) =
      s₁.footage 0 ((CameraSession.new s₁).shown requests₁) ∧
    ∀ every, s₁.transientEvery = some every → 0 < every →
      ((CameraSession.new s₁).after requests₁).camera.stats.transientErrors =
        CameraRequest.countAttempts false requests₁ / every := by
  refine ⟨fun j frame₁ frame₂ h₁ h₂ => ⟨sequence_of_taken h₁, sequence_of_taken h₂, ?_⟩, ?_, ?_⟩
  · -- the longer of the two footages has both frames
    have hlong₁ := SyntheticSettings.getElem?_footage (bytes_of_taken hnoise₁ h₁)
      (Nat.le_max_left _ ((CameraSession.new s₂).shown requests₂))
    have hlong₂ := SyntheticSettings.getElem?_footage (bytes_of_taken hnoise₂ h₂)
      (Nat.le_max_right ((CameraSession.new s₁).shown requests₁) _)
    rw [SyntheticSettings.footage_congr hwidth hheight hscript hrepeated, hlong₂] at hlong₁
    exact (Option.some.inj hlong₁).symm
  · exact ((Films.new s₁).run requests₁).2.2 hnoise₁
  · intro every hevery hpos
    have hfilms := ((Films.new s₁).run requests₁).1
    have hnew : (CameraSession.new s₁).camera.Tallies 0 := .new s₁
    have htallies := tallies_after hnew requests₁
    rw [← hfilms.camera.settings_eq] at hevery
    rw [SyntheticCamera.stats, htallies.errors_eq every hevery hpos, Nat.zero_add]
    rfl

/-- Lines of a pixel pair and a pixel, from a camera of which every second attempt fails. -/
def faltering : SyntheticSettings :=
  { SyntheticSettings.standard with
    width := 3, height := 2, buffers := 3, script := [.still 1, .moving 2]
    transientEvery := some 2 }

/-- The same scene, from a camera with a single buffer. -/
def scarce : SyntheticSettings := { faltering with buffers := 1, transientEvery := none }

/-- The second frame comes after a failure and a restart in one case, in a buffer that has been used
before in the other, and it is the same. -/
theorem taken_after_failure :
    (((CameraSession.new faltering).taken
      [.start, .dequeue, .dequeue, .stop, .start, .dequeue])[1]?.map (·.index)) = some 1 ∧
    (((CameraSession.new scarce).taken [.start, .dequeue, .release 0, .dequeue])[1]?.map
      (·.index)) = some 0 ∧
    (((CameraSession.new faltering).taken
      [.start, .dequeue, .dequeue, .stop, .start, .dequeue])[1]?.map (·.bytes)) =
      (((CameraSession.new scarce).taken [.start, .dequeue, .release 0, .dequeue])[1]?.map
        (·.bytes)) ∧
    ((CameraSession.new faltering).after
      [.start, .dequeue, .dequeue, .stop, .start, .dequeue]).camera.stats.transientErrors = 1 := by
  obtain ⟨hframes, -, herrors⟩ := @taken_same_footage faltering scarce rfl rfl rfl rfl rfl rfl
    [.start, .dequeue, .dequeue, .stop, .start, .dequeue] [.start, .dequeue, .release 0, .dequeue]
  obtain ⟨-, -, hbytes⟩ := hframes 1 _ _ rfl rfl
  exact ⟨rfl, rfl, congrArg some hbytes, herrors 2 rfl (Nat.succ_pos 1)⟩

end CameraSession
end TickCapture
