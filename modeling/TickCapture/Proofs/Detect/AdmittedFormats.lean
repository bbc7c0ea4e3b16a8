import TickCapture.Pipeline.Run
import TickCapture.Proofs.Detect.Differences
import TickCapture.Proofs.Detect.Feeding
import TickCapture.Proofs.Frame.Sanitized

/-! # Formats that a run is made with

All sizes that a conversion computes for such a format fit a 64-bit word, whatever stride the camera
states, and no line reaches over the end of the source. What remains is the frame of no width: its
lines have no bytes, and a conversion that comes as far as stepping through them faults. -/

namespace TickCapture

variable {f : Format} {device : String} {len : Nat} {src : Bytes}

/-- The geometry of a format that a run is made with. -/
structure Format.Admitted (f : Format) : Prop where
  yuyv : f.encoding = .yuyv
  even : f.width % 2 = 0
  fits : f.width.toNat * f.height.toNat * 3 < UInt32.size

/-- The number of bytes of a converted frame, if it fits a 32-bit word. -/
theorem rgbFrameBytes_eq (f : Format) :
    f.rgbFrameBytes =
      if f.width.toNat * f.height.toNat * 3 < UInt32.size then .ok f.rgbBytes
      else .error .overflow := by
  have hbytes : f.rgbBytes = f.width.toNat * f.height.toNat * 3 := Nat.mul_right_comm _ _ _
  rw [hbytes]
  exact f.frameBytes_eq (by decide)

theorem checkFormat_eq_ok :
    Run.checkFormat device f = .ok len ↔ f.Admitted ∧ len = f.rgbBytes := by
  unfold Run.checkFormat
  rw [rgbFrameBytes_eq]
  constructor
  · intro h
    split at h
    · cases h
    · next hyuyv =>
      split at h
      · cases h
      · next heven =>
        by_cases hfits : f.width.toNat * f.height.toNat * 3 < UInt32.size
        · rw [if_pos hfits] at h
          cases h
          exact ⟨⟨not_not.mp hyuyv, not_not.mp heven, hfits⟩, rfl⟩
        · rw [if_neg hfits] at h
          cases h
  · rintro ⟨h, rfl⟩
    rw [if_neg (not_not_intro h.yuyv), if_neg (not_not_intro h.even), if_pos h.fits]

/-! ### Sizes -/

namespace Format

theorem rgbLineBytes_eq_zero : f.rgbLineBytes = 0 ↔ f.width = 0 := by
  rw [rgbLineBytes, ← UInt32.toNat_inj, UInt32.toNat_zero]
  omega

namespace Admitted

theorem rgbBytes_lt (h : f.Admitted) : f.rgbBytes < UInt32.size := by
  have := h.fits
  rwa [rgbBytes, rgbLineBytes, Nat.mul_right_comm]

/-- However long the lines are stated to be, the end of the last one fits a word. -/
theorem sourceBytes_lt (h : f.Admitted) : f.sourceBytes < UInt64.size := by
  have hsize32 : UInt32.size = 2 ^ 32 := rfl
  have hsize64 : UInt64.size = 2 ^ 64 := rfl
  have hfits := h.fits
  have hheight := f.height.toNat_lt
  have hline : f.lineBytes < 2 ^ 33 := by
    have := f.width.toNat_lt
    rw [lineBytes]
    omega
  rw [sourceBytes]
  split
  · omega
  · obtain hstride | hstride := Nat.le_total f.bytesPerLine.toNat f.lineBytes
    -- the lines follow one another without a gap
    · have hlines : f.lineBytes * (f.height.toNat - 1) + f.lineBytes ≤
          f.lineBytes * f.height.toNat + f.lineBytes :=
        Nat.add_le_add_right (Nat.mul_le_mul_left _ (Nat.sub_le _ _)) _
      have hpixels : f.lineBytes * f.height.toNat = f.width.toNat * f.height.toNat * 2 :=
        Nat.mul_right_comm _ _ _
      rw [stride, Nat.max_eq_right hstride]
      omega
    -- the stride is a stated one
    · have hrows : f.bytesPerLine.toNat * (f.height.toNat - 1) ≤ (2 ^ 32 - 1) * (2 ^ 32 - 2) :=
        Nat.mul_le_mul (Nat.le_sub_one_of_lt f.bytesPerLine.toNat_lt) (by omega)
      rw [stride, Nat.max_eq_left hstride]
      omega

/-- The differences between two converted frames add up within a word. -/
theorem rgbBytes_mul_lt (h : f.Admitted) : f.rgbBytes * 255 < UInt64.size := by
  have hsize32 : UInt32.size = 2 ^ 32 := rfl
  have hsize64 : UInt64.size = 2 ^ 64 := rfl
  have := h.rgbBytes_lt
  omega

/-! ### Conversions -/

/-- A source that is too short is refused; of the others only those of no width fault. -/
theorem conversionLen_eq (h : f.Admitted) {size : Nat} (hsize : f.rgbBytes ≤ size) (src : Bytes) :
    conversionLen src f size =
      if src.size < f.sourceBytes then
        .error (.error (.frameSizeMismatch f.sourceBytes src.size))
      else if f.width = 0 then .error (.fault .zeroChunk)
      else .ok f.rgbBytes := by
  have hmade : f.rgbBytes < UInt64.size := Nat.lt_trans h.rgbBytes_lt (by decide)
  unfold conversionLen word64
  rw [if_pos h.sourceBytes_lt, if_pos hmade]
  simp only [bind, Except.bind, pure, Except.pure, throw, throwThe, MonadExceptOf.throw,
    Nat.not_lt_of_le hsize, if_false, rgbLineBytes_eq_zero]
  by_cases hshort : src.size < f.sourceBytes
  · rw [if_pos hshort, if_pos hshort]
  · have hwithin : f.linesWithin src.size = true := linesWithin_of_le (Nat.le_of_not_lt hshort)
    rw [if_neg hshort, if_neg hshort, hwithin]
    split <;> rfl

/-- Only the frame of no width faults on its way into a slot. -/
theorem convertInto_faults (h : f.Admitted) {slot : PooledBuffer} {data : Bytes}
    (hdata : slot.data = some data) (hsize : data.size = f.rgbBytes) (src : Bytes) :
    (∃ fault, convertInto slot f src = .error (.fault fault)) ↔
      f.width = 0 ∧ f.sourceBytes ≤ src.size := by
  rw [convertInto_eq hdata, h.conversionLen_eq (Nat.le_of_eq hsize.symm)]
  by_cases hshort : src.size < f.sourceBytes
  · simp [if_pos hshort, Except.map, Nat.not_le_of_lt hshort]
  · by_cases hwidth : f.width = 0
    · simp [if_neg hshort, hwidth, Except.map, Nat.le_of_not_lt hshort]
    · simp [if_neg hshort, hwidth, Except.map]

end Admitted
end Format

/-! ### Detectors -/

namespace TickDetector

variable {α : Type} [Scale α] {d d' : TickDetector α} {slot : PooledBuffer} {data : Bytes}
  {displaced : Option PooledBuffer}

/-- Frames and ticks are counted one at a time. -/
theorem process_counts (d : TickDetector α) (current : PooledBuffer) :
    (d.process current).1.frames ≤ d.frames + 1 ∧ (d.process current).1.ticks ≤ d.ticks + 1 := by
  unfold process
  split
  · split
    · exact ⟨Nat.le_succ _, Nat.le_succ _⟩
    · exact ⟨Nat.le_add_left _ _, Nat.le_succ _⟩
  · split
    · exact ⟨Nat.le_succ _, Nat.le_succ _⟩
    · refine ⟨Nat.le_refl _, ?_⟩
      dsimp only
      split
      · exact Nat.le_refl _
      · exact Nat.le_succ _

/-- The detector itself has no faults: whatever it does not accept it refuses with an error. -/
theorem feed_faults (d : TickDetector α) (f : Format) (slot : PooledBuffer) (src : Bytes) :
    (∃ fault, d.feed f slot src = .error (.fault fault)) ↔
      ∃ fault, convertInto slot f src = .error (.fault fault) := by
  unfold feed
  cases convertInto slot f src with
  | error trouble => simp only [bind, Except.bind, Except.error.injEq]
  | ok converted =>
    simp only [bind, Except.bind, reduceCtorEq, exists_false, iff_false]
    rintro ⟨fault, hfault⟩
    split at hfault <;> cases hfault

/-- What a conversion into a slot leaves there cannot differ from another frame by more than this. -/
theorem diffSum_convertInto_le {converted : PooledBuffer} (hdata : slot.data = some data)
    (h : convertInto slot f src = .ok converted) (held : Bytes) :
    diffSum converted.bytes held ≤ data.size * 255 := by
  rw [convertInto_eq hdata] at h
  cases hlen : conversionLen src f data.size with
  | error trouble => rw [hlen] at h; cases h
  | ok written =>
    rw [hlen] at h
    cases h
    refine Nat.le_trans (diffSum_le _ _) (Nat.mul_le_mul_right _ ?_)
    simp only [PooledBuffer.bytes, Array.size_extract, size_convertedBytes]
    omega

/-- Every admitted format of some width is safe to process, whatever stride it states and whatever the
camera delivered: converting into a slot and offering the result ends with a value or an error. A
format of no width faults as soon as the source is as long as it asks for. All sizes computed on
the way fit a 64-bit word, no line that is read ends behind the end of the source, and the detector
counts one at a time. -/
theorem feed_faults_iff_no_width (h : Run.checkFormat device f = .ok len)
    (hdata : slot.data = some data) (hsize : data.size = len) (d : TickDetector α) (src : Bytes) :
    ((∃ fault, d.feed f slot src = .error (.fault fault)) ↔
      f.width = 0 ∧ f.sourceBytes ≤ src.size) ∧
    (f.sourceBytes < UInt64.size ∧ f.rgbBytes = len ∧ len * 255 < UInt64.size) ∧
    (∀ row < f.height.toNat, row * f.stride + f.lineBytes ≤ f.sourceBytes) ∧
    ∀ converted, convertInto slot f src = .ok converted →
      (∀ held, diffSum converted.bytes held ≤ len * 255) ∧
      (d.process converted).1.frames ≤ d.frames + 1 ∧
      (d.process converted).1.ticks ≤ d.ticks + 1 := by
  obtain ⟨hadmitted, rfl⟩ := checkFormat_eq_ok.mp h
  refine ⟨?_, ⟨hadmitted.sourceBytes_lt, rfl, hadmitted.rgbBytes_mul_lt⟩, ?_, ?_⟩
  · rw [feed_faults, hadmitted.convertInto_faults hdata hsize]
  · intro row hrow
    exact Format.lineEnd_le hrow
  · intro converted hconverted
    refine ⟨fun held => ?_, process_counts d converted⟩
    rw [← hsize]
    exact diffSum_convertInto_le hdata hconverted held

/-- Two pixels in a line whose stated stride is the largest there is. -/
theorem feed_two_pixels :
    Run.checkFormat "camera" ⟨2, 1, .yuyv, 0xFFFFFFFF, 4⟩ = .ok 6 ∧
    ¬∃ fault, (new ⟨1 / 400, 3 / 400, .still⟩ : TickDetector Rat).feed
      ⟨2, 1, .yuyv, 0xFFFFFFFF, 4⟩ ⟨0, 0, some (Bytes.zeros 6), 0, false⟩ #[16, 128, 235, 128] =
        .error (.fault fault) := by
  have hformat : Run.checkFormat "camera" ⟨2, 1, .yuyv, 0xFFFFFFFF, 4⟩ = .ok 6 := rfl
  have hdata : (⟨0, 0, some (Bytes.zeros 6), 0, false⟩ : PooledBuffer).data = some (Bytes.zeros 6) :=
    rfl
  obtain ⟨hfaults, -⟩ := feed_faults_iff_no_width hformat hdata (by decide)
    (new ⟨1 / 400, 3 / 400, .still⟩ : TickDetector Rat) #[16, 128, 235, 128]
  exact ⟨hformat, fun hfault => absurd (hfaults.mp hfault).1 (by decide)⟩

/-- Two lines of no width are admitted, and nothing at all is a source that is long enough. -/
theorem feed_no_width :
    Run.checkFormat "camera" ⟨0, 2, .yuyv, 0, 0⟩ = .ok 0 ∧
    (new ⟨1 / 400, 3 / 400, .still⟩ : TickDetector Rat).feed
      ⟨0, 2, .yuyv, 0, 0⟩ ⟨0, 0, some #[], 0, false⟩ #[] = .error (.fault .zeroChunk) :=
  ⟨rfl, rfl⟩

end TickDetector
end TickCapture
