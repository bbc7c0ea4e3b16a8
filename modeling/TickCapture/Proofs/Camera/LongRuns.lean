import TickCapture.Proofs.Camera.Custody
import TickCapture.Proofs.Camera.Playing

/-! # How long a camera can run

The ramp of a synthetic camera is shifted by one step with every frame that moves, and the shift
wraps around. The sums from which a frame is drawn do not: a column, a line and the shift are added
as they are, so a frame whose shift is near the end of a word cannot be drawn
(`CameraSession.dequeue_faulted_iff`). No frame of the first hundred million comes to that, unless
it is very large. But a camera whose picture moves gets there if it runs long enough: a caller who
takes frames one at a time and gives each back takes all that can be drawn
(`CameraSession.Turning.run`), and then the camera faults. -/

namespace TickCapture

/-! ### Frames that overflow -/

namespace SyntheticCamera

variable {f : Format} {phase : UInt32} {limit : UInt8} {noise : Noise} {memory : Bytes}
  {fault : Fault}

/-- With room for the frame, nothing but a sum is in the way of drawing it. -/
theorem render_eq_error (hroom : stride f * f.height.toNat ≤ memory.size) (hpos : stride f ≠ 0)
    (hwide : f.height ≠ 0 → f.width.toNat * 2 ≤ stride f) :
    render f phase limit noise memory = .error fault ↔
      fault = .overflow ∧ ∃ sum, largestSum? f phase = some sum ∧ UInt32.size ≤ sum := by
  have hshort : ¬(f.height ≠ 0 ∧ stride f < f.width.toNat * 2) :=
    fun ⟨hne, hlt⟩ => Nat.not_le_of_lt hlt (hwide hne)
  unfold render
  dsimp only
  rw [if_neg (Nat.not_lt_of_le hroom), if_neg hpos, if_neg hshort]
  cases largestSum? f phase with
  | none => simp
  | some sum =>
    by_cases hlarge : UInt32.size ≤ sum
    · simp [hlarge, eq_comm]
    · simp [hlarge]

theorem streaming_dequeue (c : SyntheticCamera) (moment : Moment) :
    (c.dequeue moment).1.streaming = c.streaming := by
  have hattempt := c.attempt moment
  generalize c.dequeue moment = result at hattempt ⊢
  cases hattempt with
  | idle | transient | empty | astray => rfl
  | @lends _ _ _ result _ _ _ hloan =>
    obtain ⟨camera, d⟩ := result
    obtain ⟨_, _, _, rfl⟩ := hloan.camera_eq
    rfl

end SyntheticCamera

namespace SyntheticSettings

variable {s : SyntheticSettings} {t : Nat}

/-- How many of the first `k` frames of the scene move. -/
def moving (s : SyntheticSettings) (k : Nat) : Nat := ((List.range k).map s.movesAt).count true

theorem moving_le (s : SyntheticSettings) (k : Nat) : s.moving k ≤ k := by
  have hle := List.count_le_length (a := true) (l := (List.range k).map s.movesAt)
  rwa [List.length_map, List.length_range] at hle

/-- The largest sum of frame `t` of the scene exceeds a word. -/
def Overflows (s : SyntheticSettings) (t : Nat) : Prop :=
  2 ≤ s.width.toNat ∧ s.height ≠ 0 ∧
    UInt32.size ≤
      s.width.toNat / 2 * 2 - 1 + (s.height.toNat - 1) + 37 * s.moving (t + 1) % UInt32.size

theorem overflows_iff : s.Overflows t ↔
    ∃ sum, SyntheticCamera.largestSum? s.format (s.phaseAt (t + 1)) = some sum ∧
      UInt32.size ≤ sum := by
  have hcount : ((List.range (t + 1)).map s.movesAt).count true = s.moving (t + 1) := rfl
  have hwidth : s.format.width = s.width := rfl
  have hheight : s.format.height = s.height := rfl
  unfold Overflows SyntheticCamera.largestSum?
  rw [s.toNat_phaseAt, hcount, hwidth, hheight]
  by_cases hnarrow : s.width.toNat < 2 ∨ s.height = 0
  · rw [if_pos hnarrow]
    refine iff_of_false (fun ⟨hwide, htall, _⟩ => ?_) nofun
    exact hnarrow.elim (Nat.not_lt_of_le hwide) htall
  · rw [if_neg hnarrow]
    obtain ⟨hwide, htall⟩ := not_or.mp hnarrow
    simp only [Option.some.injEq, exists_eq_left']
    exact ⟨fun h => h.2.2, fun hsum => ⟨Nat.le_of_not_lt hwide, htall, hsum⟩⟩

/-- No frame overflows while a word can hold all steps that the ramp can have made and the frame. -/
theorem not_overflows (h : 37 * (t + 1) + s.width.toNat + s.height.toNat < UInt32.size + 2) :
    ¬s.Overflows t := by
  rintro ⟨hwidth, hheight, hsum⟩
  have hmoving := s.moving_le (t + 1)
  have hmod := Nat.mod_le (37 * s.moving (t + 1)) UInt32.size
  have hheight : s.height.toNat ≠ 0 := fun h => hheight (UInt32.toNat_inj.mp h)
  omega

/-- A frame that fits the buffers and does not overflow can be drawn. -/
theorem drawable_of_not_overflows (hwidth : s.width ≠ 0)
    (hfits : s.width.toNat * 2 * s.height.toNat < UInt32.size)
    (hplays : ¬Scene.Barren s.script s.repeated) (h : ¬s.Overflows t) : s.Drawable t where
  width_ne := hwidth
  fits := hfits
  plays hrepeated hscript hflags :=
    hplays ⟨hrepeated, hscript, Scene.flags_eq_nil_iff.mp hflags⟩
  sums sum hsum := Nat.lt_of_not_le fun hle => h (overflows_iff.mpr ⟨sum, hsum, hle⟩)

end SyntheticSettings

/-! ### Attempts that fault -/

namespace SyntheticCamera.Films

variable {s : SyntheticSettings} {t n : Nat} {c next : SyntheticCamera} {slot : DriverSlot}
  {moment : Moment} {fault : Fault} {result : SyntheticCamera × Dequeued}

theorem advance?_eq_none_iff (H : Films s t n c) :
    c.advance? = none ↔ Scene.Barren s.script s.repeated := by
  rw [← H.script_eq, ← H.repeated_eq, ← Scene.advance?_eq_none_iff_barren H.placed]
  exact Option.map_eq_none_iff

/-- On a buffer of the camera the next frame is drawn unless it overflows. -/
theorem render_eq_error_iff (H : Films s t n c) (hwidth : s.width ≠ 0)
    (hfits : s.width.toNat * 2 * s.height.toNat < UInt32.size)
    (hslot : s.format.CleanMargins slot.memory) (hadvance : c.advance? = some next) :
    render next.format next.phase next.settings.noise next.noise slot.memory = .error fault ↔
      fault = .overflow ∧ s.Overflows t := by
  have hnext := H.advance hadvance
  obtain ⟨hroom, hpos, hwide⟩ := (room_iff s).mpr ⟨hwidth, hfits⟩
  rw [SyntheticSettings.overflows_iff, SyntheticCamera.format, hnext.settings_eq, hnext.phase_eq]
  exact render_eq_error (hslot.size_eq ▸ hroom) hpos hwide

/-- A buffer that was taken is lost to a fault if the next frame overflows. -/
theorem faulted_iff (H : Films s t n c) (hwidth : s.width ≠ 0)
    (hfits : s.width.toNat * 2 * s.height.toNat < UInt32.size)
    (hslot : s.format.CleanMargins slot.memory) (hloan : Loan c slot moment result) :
    result.2 = .faulted fault ↔
      fault = .overflow ∧ s.Overflows t ∧ ¬Scene.Barren s.script s.repeated := by
  have hplays {next : SyntheticCamera} (hadvance : c.advance? = some next) :
      ¬Scene.Barren s.script s.repeated := fun hbarren => by
    cases hadvance.symm.trans (H.advance?_eq_none_iff.mpr hbarren)
  cases hloan with
  | never hnone =>
    exact iff_of_false nofun fun ⟨_, _, h⟩ => h (H.advance?_eq_none_iff.mp hnone)
  | faulted hadvance hrender =>
    obtain ⟨rfl, hover⟩ := (H.render_eq_error_iff hwidth hfits hslot hadvance).mp hrender
    constructor
    · rintro ⟨⟩
      exact ⟨rfl, hover, hplays hadvance⟩
    · rintro ⟨rfl, -⟩
      rfl
  | frame hadvance hrender =>
    refine iff_of_false nofun fun ⟨hfault, hover, _⟩ => ?_
    have herror := (H.render_eq_error_iff hwidth hfits hslot hadvance).mpr ⟨hfault, hover⟩
    cases hrender.symm.trans herror

end SyntheticCamera.Films

namespace CameraSession

variable {s : SyntheticSettings} {session : CameraSession} {fault : Fault} {t n k i : Nat}
  {rest : List Nat} {memory : Bytes}

/-- An attempt that takes a buffer comes to what comes of the buffer. -/
theorem loan_of_tries (htries : session.camera.Tries)
    (hqueued : session.camera.bank.queued = i :: rest)
    (hslot : session.camera.bank.slots[i]? = some (some memory)) :
    (session.camera.lending i rest).Loan ⟨i, memory⟩ session.clock
      (session.camera.dequeue session.clock) := by
  have hattempt := session.camera.attempt session.clock
  generalize session.camera.dequeue session.clock = result at hattempt ⊢
  cases hattempt with
  | idle hidle => cases htries.streaming.symm.trans hidle
  | transient _ hfails => cases htries.passes.symm.trans hfails
  | empty _ hnone => cases hqueued.symm.trans hnone
  | astray _ hqueued' hnone =>
    cases hqueued.symm.trans hqueued'
    rw [hslot] at hnone
    cases hnone
  | lends _ hqueued' hslot' hloan =>
    cases hqueued.symm.trans hqueued'
    cases hslot.symm.trans hslot'
    exact hloan

theorem faulted_iff_camera (session : CameraSession) (fault : Fault) :
    session.dequeue.2 = .faulted fault ↔
      (session.camera.dequeue session.clock).2 = .faulted fault := by
  unfold dequeue
  generalize session.camera.dequeue session.clock = result
  obtain ⟨camera, d⟩ := result
  cases d <;> simp

/-- A camera whose frames have some width and fit its buffers faults if it takes a buffer and the
next frame overflows, and in no other way. -/
theorem dequeue_faulted_iff (hwidth : s.width ≠ 0)
    (hfits : s.width.toNat * 2 * s.height.toNat < UInt32.size) (H : session.Films s t n) :
    session.dequeue.2 = .faulted fault ↔
      fault = .overflow ∧ s.Overflows t ∧ ¬Scene.Barren s.script s.repeated ∧
        session.camera.Tries ∧ ∃ i rest memory, session.camera.bank.queued = i :: rest ∧
          session.camera.bank.slots[i]? = some (some memory) := by
  rw [faulted_iff_camera]
  constructor
  · intro hfaulted
    have hattempt := session.camera.attempt session.clock
    generalize session.camera.dequeue session.clock = result at hattempt hfaulted
    cases hattempt with
    | idle | transient | empty | astray => cases hfaulted
    | @lends i rest memory _ htries hqueued hslot hloan =>
      have hmemory : s.format.CleanMargins memory := H.camera.stored.of_slots hslot
      obtain ⟨hfault, hover, hplays⟩ :=
        ((H.camera.lending i rest).faulted_iff hwidth hfits hmemory hloan).mp hfaulted
      exact ⟨hfault, hover, hplays, htries, i, rest, memory, hqueued, hslot⟩
  · rintro ⟨hfault, hover, hplays, htries, i, rest, memory, hqueued, hslot⟩
    have hmemory : s.format.CleanMargins memory := H.camera.stored.of_slots hslot
    have hloan := loan_of_tries htries hqueued hslot
    exact ((H.camera.lending i rest).faulted_iff hwidth hfits hmemory hloan).mpr
      ⟨hfault, hover, hplays⟩

/-! ### Frames taken one at a time -/

theorem frames_of_taken {handle : Nat} {frame : Captured}
    (h : session.dequeue.2 = .frame handle frame) :
    session.dequeue.1.frames = session.frames.push (some frame) := by
  unfold dequeue at h ⊢
  generalize session.camera.dequeue session.clock = result at h ⊢
  obtain ⟨camera, d⟩ := result
  cases d <;> cases h
  rfl

theorem step_release {handle : Nat} {frame : Captured} (h : session.frame? handle = some frame) :
    (session.step (.release handle)).1 = session.returning handle frame := by
  simp only [step, h, session.camera.giveBack_eq frame]
  cases (giveBack session.camera.bank frame).2 <;> rfl

/-- Takes `n` frames one after another and gives each back; the first has the handle `k`. -/
def turning (k : Nat) : Nat → List CameraRequest
  | 0 => []
  | n + 1 => .dequeue :: .release k :: turning (k + 1) n

/-- A caller who has taken `k` frames and given all of them back, without a failure. -/
structure Turning (s : SyntheticSettings) (k : Nat) (session : CameraSession) : Prop where
  films : session.Films s k k
  keeps : ∃ arrivals, Keeps s arrivals 0 session
  streaming : session.camera.streaming = true
  frames_eq : session.frames = Array.replicate k none

namespace Turning

theorem start (s : SyntheticSettings) : Turning s 0 ((CameraSession.new s).after [.start]) where
  films := ((Films.new s).run [.start]).1
  keeps := by
    have hsafe : CameraRequest.start.keepsOwners = true := rfl
    exact ⟨_, (Keeps.new s).step hsafe⟩
  streaming := rfl
  frames_eq := rfl

theorem held_eq (H : Turning s k session) : session.held = [] := by
  rw [held, H.frames_eq, Array.toList_replicate]
  simp

/-- All buffers are in the bank, so there is one to take. -/
theorem exists_queued (H : Turning s k session) (hbuffers : s.buffers ≠ 0) :
    ∃ i rest memory, session.camera.bank.queued = i :: rest ∧
      session.camera.bank.slots[i]? = some (some memory) := by
  obtain ⟨arrivals, hkeeps⟩ := H.keeps
  have hqueues := hkeeps.queues
  rw [H.streaming] at hqueues
  cases hqueued : session.camera.bank.queued with
  | nil =>
    have hpresent := hqueues.queued_eq_nil_iff.mp hqueued
    have hall := session.camera.bank.present_length_add_onLoan
    rw [hkeeps.onLoan_eq, hkeeps.size_eq, hpresent, H.held_eq] at hall
    exact absurd hall.symm hbuffers
  | cons i rest =>
    obtain ⟨memory, hslot⟩ :=
      SlotBank.mem_present.mp (hqueues.stored i (hqueued ▸ List.mem_cons_self))
    exact ⟨i, rest, memory, rfl, hslot⟩

theorem tries (H : Turning s k session) (hsteady : s.transientEvery = none) :
    session.camera.Tries where
  streaming := H.streaming
  passes := by rw [SyntheticCamera.failsAttempt, H.films.camera.settings_eq, hsteady]

/-- If the next frame can be drawn, it is taken and given back. -/
theorem round (H : Turning s k session) (hbuffers : s.buffers ≠ 0)
    (hsteady : s.transientEvery = none) (hdrawable : s.Drawable k) :
    Turning s (k + 1) (session.after [.dequeue, .release k]) := by
  obtain ⟨i, rest, memory, hqueued, hslot⟩ := H.exists_queued hbuffers
  have hloan := loan_of_tries (H.tries hsteady) hqueued hslot
  obtain ⟨handle, frame, hreply, -⟩ := (dequeue_of_loan H.films hslot hloan).2.1 hdrawable
  obtain ⟨arrivals, hkeeps⟩ := H.keeps
  have hkeeps := hkeeps.dequeue
  have hfilms := H.films.dequeue
  rw [hreply] at hkeeps hfilms
  cases hfilms with
  | other hnone => cases hnone
  | taken hfilms =>
    have hframes : session.dequeue.1.frames = (Array.replicate k none).push (some frame) := by
      rw [frames_of_taken hreply, H.frames_eq]
    have hframe : session.dequeue.1.frame? k = some frame := by
      rw [frame?, hframes, Array.getElem?_push, if_pos Array.size_replicate.symm]
      rfl
    have hafter : session.after [.dequeue, .release k] = session.dequeue.1.returning k frame :=
      step_release hframe
    rw [hafter]
    exact {
      films := hfilms.returning hframe
      keeps := ⟨_, hkeeps.returning hframe⟩
      streaming := by
        show session.dequeue.1.camera.streaming = true
        rw [camera_dequeue, SyntheticCamera.streaming_dequeue, H.streaming]
      frames_eq := by
        show session.dequeue.1.frames.setIfInBounds k none = _
        rw [hframes]
        refine Array.ext_getElem? fun i => ?_
        grind }

/-- As long as the frames can be drawn, they are taken. -/
theorem run (H : Turning s k session) (hbuffers : s.buffers ≠ 0) (hsteady : s.transientEvery = none)
    (hdrawable : ∀ t, k ≤ t → t < k + n → s.Drawable t) :
    Turning s (k + n) (session.after (turning k n)) := by
  induction n generalizing session k with
  | zero => exact H
  | succ n ih =>
    have hround := H.round hbuffers hsteady (hdrawable k (Nat.le_refl k) (by omega))
    have hrest := ih hround fun t hle hlt => hdrawable t (by omega) (by omega)
    rwa [Nat.succ_add_eq_add_succ] at hrest

end Turning

/-- A caller who takes frames one at a time takes them until one overflows. -/
theorem turning_until_overflow (hwidth : s.width ≠ 0)
    (hfits : s.width.toNat * 2 * s.height.toNat < UInt32.size) (hbuffers : s.buffers ≠ 0)
    (hsteady : s.transientEvery = none) (hplays : ¬Scene.Barren s.script s.repeated)
    (hfine : ∀ t < n, ¬s.Overflows t) :
    let session := (CameraSession.new s).after (.start :: turning 0 n)
    session.camera.stats.framesDequeued = n ∧
      (session.dequeue.2 = .faulted .overflow ↔ s.Overflows n) := by
  have hdrawable (t : Nat) (_ : 0 ≤ t) (hlt : t < 0 + n) : s.Drawable t := by
    rw [Nat.zero_add] at hlt
    exact SyntheticSettings.drawable_of_not_overflows hwidth hfits hplays (hfine t hlt)
  have H := (Turning.start s).run hbuffers hsteady hdrawable
  rw [Nat.zero_add] at H
  refine ⟨H.films.camera.sequence_eq, ?_⟩
  refine (dequeue_faulted_iff hwidth hfits H.films).trans ⟨fun h => h.2.1, fun hover => ?_⟩
  exact ⟨rfl, hover, hplays, H.tries hsteady, H.exists_queued hbuffers⟩

/-- Whatever has been asked of a camera, the next attempt faults if and only if it takes a buffer and
the next frame overflows. It does not while a word can hold all steps that the ramp can have made and
the frame. But a caller who takes frames one at a time takes them only until one overflows. -/
theorem faults_iff_ramp_overflows (s : SyntheticSettings) (hwidth : s.width ≠ 0)
    (hfits : s.width.toNat * 2 * s.height.toNat < UInt32.size) :
    (∀ requests,
      let session := (CameraSession.new s).after requests
      let shown := (CameraSession.new s).shown requests
      (∀ fault, session.dequeue.2 = .faulted fault ↔
        fault = .overflow ∧ s.Overflows shown ∧ ¬Scene.Barren s.script s.repeated ∧
          session.camera.Tries ∧ ∃ i rest memory, session.camera.bank.queued = i :: rest ∧
            session.camera.bank.slots[i]? = some (some memory)) ∧
      (37 * (shown + 1) + s.width.toNat + s.height.toNat < UInt32.size + 2 →
        ∀ fault, session.dequeue.2 ≠ .faulted fault)) ∧
    (s.buffers ≠ 0 → s.transientEvery = none → ¬Scene.Barren s.script s.repeated →
      ∀ n, (∀ t < n, ¬s.Overflows t) →
        let session := (CameraSession.new s).after (.start :: turning 0 n)
        session.camera.stats.framesDequeued = n ∧
          (session.dequeue.2 = .faulted .overflow ↔ s.Overflows n)) := by
  refine ⟨fun requests => ?_, fun hbuffers hsteady hplays n =>
    turning_until_overflow hwidth hfits hbuffers hsteady hplays⟩
  intro session shown
  have hfilms : session.Films s shown ((CameraSession.new s).taken requests).length := by
    have hrun := ((Films.new s).run requests).1
    rwa [Nat.zero_add, Nat.zero_add] at hrun
  refine ⟨fun fault => dequeue_faulted_iff hwidth hfits hfilms, fun hearly fault hfaulted => ?_⟩
  obtain ⟨-, hover, -⟩ := (dequeue_faulted_iff hwidth hfits hfilms).mp hfaulted
  exact SyntheticSettings.not_overflows hearly hover

/-! ### A picture that moves all the time -/

/-- Four pixel pairs that move in every frame, in a single buffer. -/
def sliding : SyntheticSettings :=
  { SyntheticSettings.standard with
    width := 8, height := 1, buffers := 1, script := [.moving 1], repeated := true }

theorem sliding_not_barren : ¬Scene.Barren sliding.script sliding.repeated := fun ⟨_, _, hzero⟩ =>
  absurd (hzero (.moving 1) List.mem_cons_self) (by decide)

theorem moving_sliding (k : Nat) : sliding.moving k = k := by
  have hmoves (t : Nat) : sliding.movesAt t = true := by
    show (([true] : List Bool)[t % 1]?).getD false = true
    rw [Nat.mod_one]
    rfl
  have hall : (List.range k).map sliding.movesAt = List.replicate k true := by
    refine List.eq_replicate_iff.mpr ⟨by simp, fun moved hmoved => ?_⟩
    obtain ⟨t, -, rfl⟩ := List.mem_map.mp hmoved
    exact hmoves t
  rw [SyntheticSettings.moving, hall, List.count_replicate_self]

theorem sliding_overflows_iff {t : Nat} :
    sliding.Overflows t ↔ 4294967289 ≤ 37 * (t + 1) % 4294967296 := by
  have hwidth : sliding.width.toNat = 8 := rfl
  have hheight : sliding.height.toNat = 1 := rfl
  have hsize : UInt32.size = 4294967296 := rfl
  rw [SyntheticSettings.Overflows, moving_sliding, hwidth, hheight, hsize]
  constructor
  · rintro ⟨-, -, hsum⟩
    omega
  · intro hsum
    exact ⟨by omega, by decide, by omega⟩

/-- When it has been shifted more than a hundred million times, the ramp overflows. -/
theorem sliding_overflows :
    let session := (CameraSession.new sliding).after (.start :: turning 0 116080196)
    session.camera.stats.framesDequeued = 116080196 ∧
      session.dequeue.2 = .faulted .overflow := by
  have hfine (t : Nat) (hlt : t < 116080196) : ¬sliding.Overflows t := by
    have hsmall : 37 * (t + 1) < 4294967296 := by omega
    rw [sliding_overflows_iff, Nat.mod_eq_of_lt hsmall]
    omega
  have hwidth : sliding.width ≠ 0 := by decide
  have hfits : sliding.width.toNat * 2 * sliding.height.toNat < UInt32.size := by decide
  have hbuffers : sliding.buffers ≠ 0 := by decide
  obtain ⟨hdequeued, hfaulted⟩ :=
    turning_until_overflow hwidth hfits hbuffers rfl sliding_not_barren hfine
  exact ⟨hdequeued, hfaulted.mpr (sliding_overflows_iff.mpr (by decide))⟩

/-- The first frames can be drawn. -/
theorem sliding_begins :
    sliding.width ≠ 0 ∧ sliding.width.toNat * 2 * sliding.height.toNat < UInt32.size ∧
      ∀ fault, ((CameraSession.new sliding).after [.start, .dequeue, .release 0]).dequeue.2 ≠
        .faulted fault := by
  have hwidth : sliding.width ≠ 0 := by decide
  have hfits : sliding.width.toNat * 2 * sliding.height.toNat < UInt32.size := by decide
  obtain ⟨hfaults, -⟩ := faults_iff_ramp_overflows sliding hwidth hfits
  obtain ⟨-, hearly⟩ := hfaults [.start, .dequeue, .release 0]
  exact ⟨hwidth, hfits, hearly (by decide)⟩

end CameraSession
end TickCapture
