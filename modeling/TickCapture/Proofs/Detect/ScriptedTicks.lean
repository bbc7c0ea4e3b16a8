import Mathlib.Algebra.Order.Field.Basic
import Mathlib.Data.Rat.Cast.Order
import TickCapture.Proofs.Camera.Shooting

/-! # Ticks of a script

The frames of a script are converted and offered to a detector in their order. A moving frame
differs from the one before it by more than any upper threshold below `40 / 255`, and a still frame by
nothing, so from the second frame on the detector is as the script says: moving after a moving frame,
still after a still one. A tick is a still frame after a moving one, and selects the moving one. -/

namespace TickCapture

variable {s : SyntheticSettings} {still moving difference : Rat} {k n : Nat}

/-! ### Differences on the scale of fractions -/

theorem ratio_zero (whole : Nat) : (Scale.ratio 0 whole : Rat) = 0 := by
  show ((0 : Nat) : Rat) / (whole : Rat) = 0
  rw [Nat.cast_zero, zero_div]

/-- Bytes that are apart by forty or more make up forty parts in 255 of the greatest difference. -/
theorem le_ratio {part len : Nat} (hlen : 0 < len) (h : len * 40 ≤ part) :
    (40 / 255 : Rat) ≤ Scale.ratio part (len * 255) := by
  have hne : (len : Rat) ≠ 0 := Nat.cast_ne_zero.mpr (Nat.ne_of_gt hlen)
  have hpart : (len * 40 : Rat) ≤ part := by exact_mod_cast h
  have hwhole : (0 : Rat) ≤ len * 255 := by exact_mod_cast Nat.zero_le (len * 255)
  calc (40 / 255 : Rat) = len * 40 / (len * 255) := (mul_div_mul_left 40 255 hne).symm
    _ ≤ part / (len * 255) := div_le_div_of_nonneg_right hpart hwhole
    _ = Scale.ratio part (len * 255) := by
      show _ = (part : Rat) / ((len * 255 : Nat) : Rat)
      rw [Nat.cast_mul]
      rfl

namespace Hysteresis

variable {h : Hysteresis Rat}

theorem step_of_gt (hle : h.still ≤ h.moving) (hgt : h.moving < difference) :
    h.step difference = ({ h with mode := .moving }, false) := by
  obtain ⟨still, moving, mode⟩ := h
  cases mode with
  | still => exact if_pos (decide_eq_true hgt)
  | moving => exact if_neg (by simpa [Scale.lt] using hle.trans hgt.le)

theorem step_of_lt (hle : h.still ≤ h.moving) (hlt : difference < h.still) :
    h.step difference = ({ h with mode := .still }, decide (h.mode = .moving)) := by
  obtain ⟨still, moving, mode⟩ := h
  cases mode with
  | still => exact if_neg (by simpa [Scale.lt] using hlt.le.trans hle)
  | moving => exact if_pos (decide_eq_true hlt)

theorem make_eq (hstill : 0 < still) (hmoving : still < moving) :
    make still moving = .ok ⟨still, moving, .still⟩ := by
  have hnonneg : Scale.lt still (Scale.zero : Rat) = false := decide_eq_false hstill.not_gt
  have horder : Scale.lt still moving = true := decide_eq_true hmoving
  simp only [make, hnonneg, horder, Scale.isFinite]
  rfl

/-- Thresholds in their order, and lower than the difference that a moving frame makes. -/
structure Sensitive (still moving : Rat) : Prop where
  still_pos : 0 < still
  still_lt : still < moving
  moving_lt : moving < 40 / 255

end Hysteresis

/-! ### One frame -/

namespace SyntheticSettings

/-- Frame `k` is still, and the one before it moves and has one before it to differ from. -/
def ticksAt (s : SyntheticSettings) (k : Nat) : Bool :=
  decide (2 ≤ k ∧ s.movesAt k = false ∧ s.movesAt (k - 1) = true)

/-- The mode that frame `k` leaves a detector in. The first frame is not compared with any. -/
def modeAfter (s : SyntheticSettings) : Nat → Mode
  | 0 => .still
  | k + 1 => if s.movesAt (k + 1) then .moving else .still

theorem ticksAt_of_moves (h : s.movesAt (k + 1) = true) : s.ticksAt (k + 1) = false := by
  simp [ticksAt, h]

theorem ticksAt_of_still (h : s.movesAt (k + 1) = false) :
    s.ticksAt (k + 1) = decide (s.modeAfter k = .moving) := by
  cases k with
  | zero => simp [ticksAt, modeAfter]
  | succ k => cases hmoved : s.movesAt (k + 1) <;> simp [ticksAt, modeAfter, h, hmoved]

end SyntheticSettings

/-- A frame that moves makes a large difference, and a still one none. -/
theorem Hysteresis.Sensitive.step (H : Sensitive still moving)
    (hgt : s.movesAt (k + 1) = true → moving < difference)
    (hzero : s.movesAt (k + 1) = false → difference = 0) :
    Hysteresis.step ⟨still, moving, s.modeAfter k⟩ difference =
      (⟨still, moving, s.modeAfter (k + 1)⟩, s.ticksAt (k + 1)) := by
  cases hmoved : s.movesAt (k + 1) with
  | true =>
    rw [step_of_gt H.still_lt.le (hgt hmoved), SyntheticSettings.modeAfter, hmoved, if_pos rfl,
      SyntheticSettings.ticksAt_of_moves hmoved]
  | false =>
    rw [hzero hmoved, step_of_lt H.still_lt.le H.still_pos, SyntheticSettings.modeAfter, hmoved,
      if_neg Bool.false_ne_true, SyntheticSettings.ticksAt_of_still hmoved]

/-- A slot that holds frame `k` after its conversion, and is not selected. -/
structure PooledBuffer.Holds (s : SyntheticSettings) (k : Nat) (b : PooledBuffer) : Prop where
  bytes_eq : b.bytes = greyPixels s.format (s.phaseAt (k + 1))
  len_eq : b.len = s.format.rgbBytes
  unselected : b.selected = false

theorem SyntheticSettings.Scripted.rgbBytes_pos (hs : s.Scripted) : 0 < s.format.rgbBytes :=
  Nat.mul_pos (Nat.mul_pos hs.packed.width_pos (by decide)) hs.packed.height_pos

/-- Any slot that is large enough takes a frame. -/
theorem convertInto_holds (hs : s.Scripted) {slot : PooledBuffer}
    (hselected : slot.selected = false) (hroom : s.format.rgbBytes ≤ slot.capacity) (k : Nat) :
    ∃ converted, convertInto slot s.format (rawFrame s.format (s.phaseAt (k + 1))) = .ok converted ∧
      converted.Holds s k := by
  cases hdata : slot.data with
  | none =>
    rw [PooledBuffer.capacity, hdata] at hroom
    exact absurd hs.rgbBytes_pos (Nat.not_lt_of_le hroom)
  | some data =>
    rw [PooledBuffer.capacity, hdata] at hroom
    obtain ⟨bytes, hconverted, hbytes⟩ := hs.packed.convertInto_rawFrame hdata hroom
    exact ⟨_, hconverted, hbytes, rfl, hselected⟩

namespace TickDetector

/-- A detector that took frame `k` last, and holds it. -/
structure Follows (s : SyntheticSettings) (still moving : Rat) (k : Nat) (held : PooledBuffer)
    (d : TickDetector Rat) : Prop where
  hysteresis_eq : d.hysteresis = ⟨still, moving, s.modeAfter k⟩
  previous_eq : d.previous = some held
  holds : held.Holds s k
  expectedLen_eq : d.expectedLen = s.format.rgbBytes
  maxDiff_eq : d.maxDiff = s.format.rgbBytes * 255

variable {d : TickDetector Rat} {current held slot : PooledBuffer}

theorem process_first (hs : s.Scripted) (h : current.Holds s 0) :
    ∃ d, (new ⟨still, moving, .still⟩).process current = (d, .seeded) ∧
      d.Follows s still moving 0 current := by
  have hnonempty : current.len ≠ 0 := by
    rw [h.len_eq]
    exact Nat.ne_of_gt hs.rgbBytes_pos
  refine ⟨_, if_neg hnonempty, ?_⟩
  exact {
    hysteresis_eq := rfl
    previous_eq := rfl
    holds := h
    expectedLen_eq := h.len_eq
    maxDiff_eq := congrArg (· * 255) h.len_eq }

namespace Follows

theorem difference_eq (H : d.Follows s still moving k held) (h : current.Holds s (k + 1)) :
    d.difference current held =
      Scale.ratio (diffSum (greyPixels s.format (s.phaseAt (k + 2)))
        (greyPixels s.format (s.phaseAt (k + 1)))) (s.format.rgbBytes * 255) := by
  rw [difference, h.bytes_eq, H.holds.bytes_eq, H.maxDiff_eq]

theorem lt_difference (H : d.Follows s still moving k held) (hs : s.Scripted)
    (ht : Hysteresis.Sensitive still moving) (h : current.Holds s (k + 1))
    (hmoved : s.movesAt (k + 1) = true) : moving < d.difference current held := by
  rw [H.difference_eq h, SyntheticSettings.phaseAt, if_pos hmoved]
  exact ht.moving_lt.trans_le (le_ratio hs.rgbBytes_pos (le_diffSum_moving _ _))

theorem difference_eq_zero (H : d.Follows s still moving k held) (h : current.Holds s (k + 1))
    (hmoved : s.movesAt (k + 1) = false) : d.difference current held = 0 := by
  rw [H.difference_eq h, SyntheticSettings.phaseAt, hmoved, if_neg Bool.false_ne_true,
    diffSum_self, ratio_zero]

/-- The next frame displaces the one held, and selects it when it is a tick. -/
theorem process (H : d.Follows s still moving k held) (hs : s.Scripted)
    (ht : Hysteresis.Sensitive still moving) (h : current.Holds s (k + 1)) :
    ∃ d', d.process current =
        (d', .displaced { held with selected := s.ticksAt (k + 1) }) ∧
      d'.Follows s still moving (k + 1) current := by
  have hlen : ¬current.len ≠ d.expectedLen := by
    rw [h.len_eq, H.expectedLen_eq]
    exact not_not_intro rfl
  have hstep := ht.step (H.lt_difference hs ht h) (H.difference_eq_zero h)
  have hselected : (if s.ticksAt (k + 1) = true then { held with selected := true } else held) =
      { held with selected := s.ticksAt (k + 1) } := by
    -- the slot came in unselected
    cases s.ticksAt (k + 1) with
    | true => rfl
    | false => rw [if_neg Bool.false_ne_true, ← H.holds.unselected]
  rw [TickDetector.process, H.previous_eq]
  simp only [if_neg hlen, H.hysteresis_eq, hstep, hselected]
  refine ⟨_, rfl, ?_⟩
  exact {
    hysteresis_eq := rfl
    previous_eq := rfl
    holds := h
    expectedLen_eq := H.expectedLen_eq
    maxDiff_eq := H.maxDiff_eq }

theorem feed (H : d.Follows s still moving k held) (hs : s.Scripted)
    (ht : Hysteresis.Sensitive still moving) (hselected : slot.selected = false)
    (hroom : s.format.rgbBytes ≤ slot.capacity) :
    ∃ d' converted,
      d.feed s.format slot (rawFrame s.format (s.phaseAt (k + 2))) =
        .ok (d', some { held with selected := s.ticksAt (k + 1) }) ∧
      convertInto slot s.format (rawFrame s.format (s.phaseAt (k + 2))) = .ok converted ∧
      d'.Follows s still moving (k + 1) converted := by
  obtain ⟨converted, hconverted, hholds⟩ := convertInto_holds hs hselected hroom (k + 1)
  obtain ⟨d', hprocess, hfollows⟩ := H.process hs ht hholds
  refine ⟨d', converted, ?_, hconverted, hfollows⟩
  simp only [TickDetector.feed, hconverted, hprocess, bind, Except.bind, pure, Except.pure]

end Follows

/-! ### All frames -/

/-- Frames of the script from frame `k` on, each with a slot that takes it. -/
def Feeds (s : SyntheticSettings) (k : Nat) (inputs : List (PooledBuffer × Bytes)) : Prop :=
  ∀ i slot src, inputs[i]? = some (slot, src) →
    slot.selected = false ∧ s.format.rgbBytes ≤ slot.capacity ∧
      src = rawFrame s.format (s.phaseAt (k + i + 1))

/-- What frames displace one after another, while `held` is held and frame `k` was the last: each
the one before it, and ticks select. -/
inductive Displaces (s : SyntheticSettings) :
    Nat → PooledBuffer → List (PooledBuffer × Bytes) → List (Option PooledBuffer) → Prop
  | nil {k : Nat} {held : PooledBuffer} : Displaces s k held [] []
  | cons {k : Nat} {held slot converted : PooledBuffer} {src : Bytes}
    {rest : List (PooledBuffer × Bytes)} {outs : List (Option PooledBuffer)} :
    convertInto slot s.format src = .ok converted → Displaces s (k + 1) converted rest outs →
    Displaces s k held ((slot, src) :: rest)
      (some { held with selected := s.ticksAt (k + 1) } :: outs)

variable {src : Bytes} {inputs rest : List (PooledBuffer × Bytes)}
  {outs : List (Option PooledBuffer)} {out : Option PooledBuffer} {i : Nat}

theorem Feeds.tail (H : Feeds s k ((slot, src) :: rest)) : Feeds s (k + 1) rest := by
  intro i slot src h
  rw [Nat.add_right_comm k 1 i]
  exact H (i + 1) slot src h

theorem Displaces.length_eq (H : Displaces s k held inputs outs) : outs.length = inputs.length := by
  induction H with
  | nil => rfl
  | cons _ _ ih => exact congrArg (· + 1) ih

/-- A displaced frame is the one just before. -/
theorem Displaces.eq_converted (H : Displaces s k held inputs outs)
    (hfirst : convertInto slot s.format src = .ok held) (h : outs[i]? = some out) :
    ∃ slot' src' converted, ((slot, src) :: inputs)[i]? = some (slot', src') ∧
      convertInto slot' s.format src' = .ok converted ∧
      out = some { converted with selected := s.ticksAt (k + 1 + i) } := by
  induction H generalizing slot src i with
  | nil => cases h
  | @cons k _ _ _ _ _ _ hconverted _ ih =>
    cases i with
    | zero => cases h; exact ⟨_, _, _, rfl, hfirst, rfl⟩
    | succ i =>
      have hplace : k + 1 + 1 + i = k + 1 + (i + 1) := Nat.succ_add_eq_add_succ (k + 1) i
      rw [← hplace]
      exact ih hconverted h

theorem Follows.feedAll (H : d.Follows s still moving k held) (hs : s.Scripted)
    (ht : Hysteresis.Sensitive still moving) (hinputs : Feeds s (k + 1) inputs) :
    ∃ d' outs, d.feedAll s.format inputs = .ok (d', outs) ∧ Displaces s k held inputs outs := by
  -- each frame leaves a detector that follows the script one frame further on
  induction inputs generalizing d k held with
  | nil => exact ⟨d, [], rfl, .nil⟩
  | cons input rest ih =>
    obtain ⟨slot, src⟩ := input
    obtain ⟨hselected, hroom, rfl⟩ := hinputs 0 slot src rfl
    obtain ⟨next, converted, hfeed, hconverted, hfollows⟩ := H.feed hs ht hselected hroom
    obtain ⟨last, outs, hrest, hdisplaces⟩ := ih hfollows hinputs.tail
    refine ⟨last, _, ?_, .cons hconverted hdisplaces⟩
    have hfeed : d.feed s.format slot (rawFrame s.format (s.phaseAt (k + 1 + 0 + 1))) = _ := hfeed
    simp only [TickDetector.feedAll, hfeed, hrest, bind, Except.bind, pure, Except.pure]

/-- Of the frames of a script none fails, and each but the first displaces the one before it. -/
theorem feedAll_script (hs : s.Scripted) (ht : Hysteresis.Sensitive still moving)
    (hinputs : Feeds s 0 inputs) :
    ∃ d outs, (new ⟨still, moving, .still⟩).feedAll s.format inputs = .ok (d, outs) ∧
      outs.length = inputs.length ∧ (∀ out, outs[0]? = some out → out = none) ∧
      ∀ i out, outs[i + 1]? = some out → ∃ slot src converted, inputs[i]? = some (slot, src) ∧
        convertInto slot s.format src = .ok converted ∧
        out = some { converted with selected := s.ticksAt (i + 1) } := by
  cases inputs with
  | nil => exact ⟨_, [], rfl, rfl, nofun, nofun⟩
  | cons input rest =>
    obtain ⟨slot, src⟩ := input
    obtain ⟨hselected, hroom, rfl⟩ := hinputs 0 slot src rfl
    obtain ⟨held, hconverted, hholds⟩ := convertInto_holds hs hselected hroom 0
    obtain ⟨first, hprocess, hfollows⟩ : ∃ d, (new ⟨still, moving, .still⟩).process held =
        (d, .seeded) ∧ d.Follows s still moving 0 held := process_first hs hholds
    obtain ⟨last, outs, hrest, hdisplaces⟩ := hfollows.feedAll hs ht hinputs.tail
    refine ⟨last, none :: outs, ?_, congrArg (· + 1) hdisplaces.length_eq, ?_, ?_⟩
    · simp only [feedAll, feed, hconverted, hprocess, hrest, bind, Except.bind, pure, Except.pure]
    · rintro out ⟨⟩
      rfl
    · intro i out hout
      rw [Nat.add_comm i 1]
      exact hdisplaces.eq_converted hconverted hout

/-- The first frames that are taken from a new camera, each with a slot, are those of the script. -/
theorem feeds_taken (hs : s.Scripted) (hfits : ∀ k < n, s.format.Fits (s.phaseAt (k + 1)))
    (requests : List CameraRequest) {slots : List PooledBuffer}
    (hslots : ∀ slot ∈ slots, slot.selected = false ∧ s.format.rgbBytes ≤ slot.capacity) :
    Feeds s 0 (slots.zip ((((CameraSession.new s).taken requests).take n).map (·.bytes))) := by
  intro i slot src h
  obtain ⟨hslot, hsrc⟩ := List.getElem?_zip_eq_some.mp h
  rw [List.getElem?_map] at hsrc
  obtain ⟨frame, hframe, rfl⟩ := Option.map_eq_some_iff.mp hsrc
  obtain ⟨hselected, hroom⟩ := hslots slot (List.mem_of_getElem? hslot)
  have hbytes := (CameraSession.Lent.shows_of_first hs hfits hframe).bytes_eq
  rw [Nat.zero_add]
  exact ⟨hselected, hroom, hbytes⟩

/-- Ticks follow the script. The first `n` frames that a caller takes from the camera, whatever else
it asks for meanwhile, are converted and offered to one detector, and nothing fails: not the
thresholds, no request before as many frames are taken, and no frame on its way into the detector. Of
these frames those displace a selected one that are still while the one before them moves, from the
third on; what a frame displaces is always the one before it. -/
theorem ticks_follow_script (hs : s.Scripted) (hfits : ∀ k < n, s.format.Fits (s.phaseAt (k + 1)))
    (hstill : 0 < still) (hmoving : still < moving) (hlow : moving < 40 / 255)
    (requests : List CameraRequest) {frames : List Captured}
    (hframes : frames = ((CameraSession.new s).taken requests).take n) {slots : List PooledBuffer}
    (hslots : ∀ slot ∈ slots, slot.selected = false ∧ s.format.rgbBytes ≤ slot.capacity)
    (hlength : frames.length ≤ slots.length) :
    Hysteresis.make still moving = .ok ⟨still, moving, .still⟩ ∧
    (∀ i reply, ((CameraSession.new s).replies requests)[i]? = some reply → reply.breaks = true →
      n ≤ ((CameraSession.new s).taken (requests.take i)).length) ∧
    (∀ frame ∈ frames, frame.format = s.format) ∧
    ∃ d outs, (new ⟨still, moving, .still⟩).feedAll s.format (slots.zip (frames.map (·.bytes))) =
        .ok (d, outs) ∧ outs.length = frames.length ∧
      (∀ k < frames.length, (∃ b, outs[k]? = some (some b) ∧ b.selected = true) ↔
        2 ≤ k ∧ s.movesAt k = false ∧ s.movesAt (k - 1) = true) ∧
      ∀ k b, outs[k]? = some (some b) → ∃ j slot frame converted, k = j + 1 ∧
        slots[j]? = some slot ∧ frames[j]? = some frame ∧
        convertInto slot s.format frame.bytes = .ok converted ∧
        b = { converted with selected := b.selected } := by
  subst hframes
  refine ⟨Hysteresis.make_eq hstill hmoving, fun i reply hreply hbreaks => ?_,
    fun frame hframe => ?_, ?_⟩
  · have hle := CameraSession.Lent.le_taken_of_breaks (.new hs) hs hfits hreply hbreaks
    rwa [Nat.zero_add] at hle
  · obtain ⟨i, hframe⟩ := List.mem_iff_getElem?.mp hframe
    exact (CameraSession.Lent.shows_of_first hs hfits hframe).format_eq
  · obtain ⟨d, outs, hfed, houts, hfirst, hlater⟩ :=
      feedAll_script hs ⟨hstill, hmoving, hlow⟩ (feeds_taken hs hfits requests hslots)
    rw [List.length_zip, List.length_map, Nat.min_eq_right hlength] at houts
    refine ⟨d, outs, hfed, houts, fun k hk => ?_, fun k b hb => ?_⟩
    · cases k with
      | zero =>
        refine ⟨fun ⟨b, hb, _⟩ => ?_, fun ⟨hle, _⟩ => absurd hle (by decide)⟩
        cases hfirst _ hb
      | succ j =>
        obtain ⟨out, hout⟩ : ∃ out, outs[j + 1]? = some out :=
          ⟨_, List.getElem?_eq_getElem (houts ▸ hk)⟩
        obtain ⟨slot, src, converted, -, -, rfl⟩ := hlater j out hout
        rw [hout]
        simp [SyntheticSettings.ticksAt]
    · cases k with
      | zero => cases hfirst _ hb
      | succ j =>
        obtain ⟨slot, src, converted, hinput, hconverted, hb⟩ := hlater j _ hb
        obtain ⟨hslot, hsrc⟩ := List.getElem?_zip_eq_some.mp hinput
        rw [List.getElem?_map] at hsrc
        obtain ⟨frame, hframe, rfl⟩ := Option.map_eq_some_iff.mp hsrc
        cases hb
        exact ⟨j, slot, frame, converted, rfl, hslot, hframe, hconverted, rfl⟩

end TickDetector

/-- Two pixels that move in every second frame; every third attempt to take one fails. -/
def SyntheticSettings.alternating : SyntheticSettings :=
  { SyntheticSettings.standard with
    width := 2, height := 1, script := [.still 1, .moving 1], transientEvery := some 3 }

open SyntheticSettings TickDetector in
/-- The third frame taken is still, and displaces a moving one. -/
theorem TickDetector.ticks_follow_alternating : ∃ frames : List Captured,
    frames = ((CameraSession.new alternating).taken
      [.start, .dequeue, .dequeue, .drop 0, .dequeue, .dequeue]).take 3 ∧ frames.length = 3 ∧
    ∃ d outs, (new ⟨1 / 400, 3 / 400, .still⟩ : TickDetector Rat).feedAll alternating.format
        ((List.replicate 3 ⟨0, 0, some (Bytes.zeros 6), 0, false⟩).zip (frames.map (·.bytes))) =
      .ok (d, outs) ∧ ∃ b, outs[2]? = some (some b) ∧ b.selected = true := by
  have hs : alternating.Scripted :=
    ⟨rfl, by decide, by decide, by decide, rfl, .inr ⟨.still 1, by decide, by decide⟩⟩
  have hfits : ∀ k < 3, alternating.format.Fits (alternating.phaseAt (k + 1)) := by decide
  have hstill : (0 : Rat) < 1 / 400 := by decide +kernel
  have hmoving : (1 / 400 : Rat) < 3 / 400 := by decide +kernel
  have hlow : (3 / 400 : Rat) < 40 / 255 := by decide +kernel
  have htaken : (((CameraSession.new alternating).taken
      [.start, .dequeue, .dequeue, .drop 0, .dequeue, .dequeue]).take 3).length = 3 := by decide
  have hslots : ∀ slot ∈ List.replicate 3 (⟨0, 0, some (Bytes.zeros 6), 0, false⟩ : PooledBuffer),
      slot.selected = false ∧ alternating.format.rgbBytes ≤ slot.capacity := by decide
  obtain ⟨-, -, -, d, outs, hfed, -, hticks, -⟩ :=
    ticks_follow_script hs hfits hstill hmoving hlow _ rfl hslots (Nat.le_of_eq htaken)
  exact ⟨_, rfl, htaken, d, outs, hfed, (hticks 2 (by omega)).mpr (by decide)⟩

end TickCapture
