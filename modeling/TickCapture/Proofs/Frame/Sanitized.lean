import TickCapture.Camera.Synthetic
import TickCapture.Detect.Conversion

/-! # Sanitized formats

A format is `Ample` if its lines and images are stated to be as large as its geometry needs, as far as
a 32-bit word can say so. Sanitizing makes a format ample and changes no ample one; and where the sizes
do fit a word, those who read and write whole images find them large enough. -/

namespace TickCapture

/-! ### Words -/

theorem toNat_mul_of_lt {a b : UInt32} (h : a.toNat * b.toNat < UInt32.size) :
    (a * b).toNat = a.toNat * b.toNat := by
  rw [UInt32.toNat_mul, Nat.mod_eq_of_lt h]

theorem toNat_saturatingMul (a b : UInt32) :
    (saturatingMul a b).toNat = min (a.toNat * b.toNat) (UInt32.size - 1) := by
  unfold saturatingMul
  split
  · next hlt =>
    rw [toNat_mul_of_lt hlt]
    omega
  · next hge =>
    have hmax : (0xFFFFFFFF : UInt32).toNat = UInt32.size - 1 := rfl
    rw [hmax]
    omega

theorem toNat_saturatingMul_of_lt {a b : UInt32} (h : a.toNat * b.toNat < UInt32.size) :
    (saturatingMul a b).toNat = a.toNat * b.toNat := by
  rw [toNat_saturatingMul]
  omega

theorem toNat_max (a b : UInt32) : (max a b).toNat = max a.toNat b.toNat := by
  show (if a ≤ b then b else a).toNat = _
  split
  · next hle =>
    rw [UInt32.le_iff_toNat_le] at hle
    omega
  · next hlt =>
    rw [UInt32.le_iff_toNat_le] at hlt
    omega

namespace Format

variable {f : Format} {n : Nat} {src dst : Bytes}

/-! ### Ample formats -/

/-- Lines and images are stated to be no smaller than the geometry needs, as far as a word goes. -/
structure Ample (f : Format) : Prop where
  line : (saturatingMul f.width 2).toNat ≤ f.bytesPerLine.toNat
  image : (saturatingMul f.bytesPerLine f.height).toNat ≤ f.sizeImage.toNat

theorem toNat_bytesPerLine_sanitized (f : Format) :
    f.sanitized.bytesPerLine.toNat =
      max f.bytesPerLine.toNat (saturatingMul f.width 2).toNat :=
  toNat_max _ _

theorem toNat_sizeImage_sanitized (f : Format) :
    f.sanitized.sizeImage.toNat =
      max f.sizeImage.toNat (saturatingMul f.sanitized.bytesPerLine f.height).toNat :=
  toNat_max _ _

theorem ample_sanitized (f : Format) : f.sanitized.Ample where
  line := f.toNat_bytesPerLine_sanitized ▸ Nat.le_max_right _ _
  image := f.toNat_sizeImage_sanitized ▸ Nat.le_max_right _ _

/-- What is ample already is left as it is. -/
theorem Ample.sanitized_eq (H : f.Ample) : f.sanitized = f := by
  have hline : f.sanitized.bytesPerLine = f.bytesPerLine := by
    rw [← UInt32.toNat_inj, toNat_bytesPerLine_sanitized, Nat.max_eq_left H.line]
  have himage : f.sanitized.sizeImage = f.sizeImage := by
    rw [← UInt32.toNat_inj, toNat_sizeImage_sanitized, hline, Nat.max_eq_left H.image]
  calc f.sanitized
      = { f with bytesPerLine := f.sanitized.bytesPerLine, sizeImage := f.sanitized.sizeImage } := rfl
    _ = f := by rw [hline, himage]

theorem sanitized_sanitized (f : Format) : f.sanitized.sanitized = f.sanitized :=
  f.ample_sanitized.sanitized_eq

theorem sanitized_packed (width height : UInt32) (encoding : Encoding) :
    (packed width height encoding).sanitized = packed width height encoding :=
  sanitized_sanitized _

/-! ### Consumers -/

/-- The number of bytes of a frame without gaps, if it fits a word. -/
theorem frameBytes_eq (f : Format) {bpp : UInt32} (hbpp : 0 < bpp.toNat) :
    f.frameBytes bpp =
      if f.width.toNat * f.height.toNat * bpp.toNat < UInt32.size then
        .ok (f.width.toNat * f.height.toNat * bpp.toNat)
      else .error .overflow := by
  have hpixels : f.width.toNat * f.height.toNat ≤ f.width.toNat * f.height.toNat * bpp.toNat :=
    Nat.le_mul_of_pos_right _ hbpp
  unfold frameBytes checkedMul?
  by_cases harea : f.width.toNat * f.height.toNat < UInt32.size
  · have hprod := toNat_mul_of_lt harea
    by_cases hsize : f.width.toNat * f.height.toNat * bpp.toNat < UInt32.size
    · have hlt : (f.width * f.height).toNat * bpp.toNat < UInt32.size := by rwa [hprod]
      simp only [if_pos harea, Option.bind_some, if_pos hlt, if_pos hsize]
      rw [toNat_mul_of_lt hlt, hprod]
    · have hlt : ¬(f.width * f.height).toNat * bpp.toNat < UInt32.size := by rwa [hprod]
      simp only [if_pos harea, Option.bind_some, if_neg hlt, if_neg hsize]
  · have hsize : ¬f.width.toNat * f.height.toNat * bpp.toNat < UInt32.size := by omega
    simp only [if_neg harea, Option.bind_none, if_neg hsize]

/-- Lines are only converted after the sizes have been checked. -/
theorem convertLines_eq_error {rows row : Nat} {trouble : Trouble DetectError}
    (h : (f.convertLines src rows row dst).2 = .error trouble) :
    trouble = .fault .outOfBounds := by
  induction rows generalizing row dst with
  | zero => cases h
  | succ rows ih =>
    rw [convertLines] at h
    split at h
    · exact ih h
    · cases h
      rfl

/-- Enough bytes of source pass the check, whatever else it finds. -/
theorem checkSizes_ne_mismatch {source : Nat} (h : f.sourceBytes ≤ source)
    (destination needed actual : Nat) :
    f.checkSizes source destination ≠ .error (.error (.frameSizeMismatch needed actual)) := by
  intro hmismatch
  unfold checkSizes word64 at hmismatch
  by_cases hsource : f.sourceBytes < UInt64.size
  · simp only [bind, Except.bind, pure, Except.pure, throw, throwThe, MonadExceptOf.throw,
      if_pos hsource, if_neg (Nat.not_lt.mpr h)] at hmismatch
    by_cases hrgb : f.rgbBytes < UInt64.size
    · simp only [if_pos hrgb] at hmismatch
      split at hmismatch
      · cases hmismatch
      · split at hmismatch <;> cases hmismatch
    · simp only [if_neg hrgb] at hmismatch
      cases hmismatch
  · simp only [bind, Except.bind, if_neg hsource] at hmismatch
    cases hmismatch

theorem convertOver_ne_mismatch (h : f.sourceBytes ≤ src.size) (dst : Bytes)
    (needed actual : Nat) :
    (convertOver src f dst).2 ≠ .error (.error (.frameSizeMismatch needed actual)) := by
  intro hmismatch
  unfold convertOver at hmismatch
  split at hmismatch
  · next trouble hcheck =>
    cases hmismatch
    exact checkSizes_ne_mismatch h _ _ _ hcheck
  · cases hlines : (f.convertLines src f.height.toNat 0 dst).2 with
    | ok u =>
      simp only [hlines] at hmismatch
      cases hmismatch
    | error trouble =>
      obtain rfl := convertLines_eq_error hlines
      simp only [hlines] at hmismatch
      cases hmismatch

/-! ### Sizes that fit a word -/

/-- Every line holds its pixels, and the image all of its lines. -/
structure Roomy (f : Format) : Prop where
  line : f.lineBytes ≤ f.bytesPerLine.toNat
  image : f.bytesPerLine.toNat * f.height.toNat ≤ f.sizeImage.toNat

theorem Ample.roomy (H : f.Ample) (hline : 2 * f.width.toNat < UInt32.size)
    (himage : f.bytesPerLine.toNat * f.height.toNat < UInt32.size) : f.Roomy where
  line := by
    have htwo : (2 : UInt32).toNat = 2 := rfl
    have hle := H.line
    rwa [toNat_saturatingMul_of_lt (by rw [htwo]; omega), htwo] at hle
  image := by
    have hle := H.image
    rwa [toNat_saturatingMul_of_lt himage] at hle

namespace Roomy

theorem stride_eq (H : f.Roomy) : f.stride = f.bytesPerLine.toNat := Nat.max_eq_left H.line

/-- The last line has its pixels only, and they are no more than a stride. -/
theorem sourceBytes_le (H : f.Roomy) : f.sourceBytes ≤ f.sizeImage.toNat := by
  have hzero : f.height = 0 ↔ f.height.toNat = 0 := by rw [← UInt32.toNat_inj, UInt32.toNat_zero]
  rw [sourceBytes]
  split
  · exact Nat.zero_le _
  · next hheight =>
    -- with a full stride for the last line too, these are all lines of the image
    have hlines : f.height.toNat - 1 + 1 = f.height.toNat := by
      rw [hzero] at hheight
      omega
    calc f.stride * (f.height.toNat - 1) + f.lineBytes
        ≤ f.stride * (f.height.toNat - 1) + f.stride :=
          Nat.add_le_add_left (Nat.le_max_right _ _) _
      _ = f.stride * (f.height.toNat - 1 + 1) := (Nat.mul_succ _ _).symm
      _ = f.bytesPerLine.toNat * f.height.toNat := by rw [hlines, H.stride_eq]
      _ ≤ f.sizeImage.toNat := H.image

theorem yuyvFrameBytes_le (H : f.Roomy) (h : f.yuyvFrameBytes = .ok n) :
    n ≤ f.sizeImage.toNat := by
  rw [yuyvFrameBytes, frameBytes_eq f (by decide)] at h
  split at h
  · cases h
    calc f.width.toNat * f.height.toNat * 2
        = f.lineBytes * f.height.toNat := Nat.mul_right_comm _ _ _
      _ ≤ f.bytesPerLine.toNat * f.height.toNat := Nat.mul_le_mul_right _ H.line
      _ ≤ f.sizeImage.toNat := H.image
  · cases h

end Roomy

/-- Sanitizing is done once: it raises the line and image sizes and nothing else, and formats without
gaps have them raised already. What it makes, as far as its lines and its images fit a word, is large
enough for all who go by the size of an image: a conversion of that many bytes does not miss any, a
synthetic camera draws no more of them, and neither are there more in a frame without gaps. -/
theorem sanitized_serves_consumers (f : Format) :
    (f.sanitized.sanitized = f.sanitized ∧
      f.sanitized.width = f.width ∧ f.sanitized.height = f.height ∧
      f.sanitized.encoding = f.encoding ∧
      f.bytesPerLine ≤ f.sanitized.bytesPerLine ∧ f.sizeImage ≤ f.sanitized.sizeImage) ∧
    (∀ width height encoding,
      (packed width height encoding).sanitized = packed width height encoding) ∧
    (2 * f.sanitized.width.toNat < UInt32.size →
      f.sanitized.bytesPerLine.toNat * f.sanitized.height.toNat < UInt32.size →
      f.sanitized.sourceBytes ≤ f.sanitized.sizeImage.toNat ∧
      (∀ src dst : Bytes, src.size = f.sanitized.sizeImage.toNat → ∀ needed actual,
        (convertOver src f.sanitized dst).2 ≠
          .error (.error (.frameSizeMismatch needed actual))) ∧
      SyntheticCamera.stride f.sanitized * f.sanitized.height.toNat ≤
        f.sanitized.sizeImage.toNat ∧
      ∀ n, f.sanitized.yuyvFrameBytes = .ok n → n ≤ f.sanitized.sizeImage.toNat) := by
  refine ⟨⟨f.sanitized_sanitized, rfl, rfl, rfl, ?_, ?_⟩, sanitized_packed, ?_⟩
  · rw [UInt32.le_iff_toNat_le, toNat_bytesPerLine_sanitized]
    exact Nat.le_max_left _ _
  · rw [UInt32.le_iff_toNat_le, toNat_sizeImage_sanitized]
    exact Nat.le_max_left _ _
  · intro hline himage
    have H := f.ample_sanitized.roomy hline himage
    refine ⟨H.sourceBytes_le, ?_, H.image, fun n => H.yuyvFrameBytes_le⟩
    intro src dst hsize
    exact convertOver_ne_mismatch (hsize ▸ H.sourceBytes_le) dst

/-- Lines of eight bytes that hold six, of an image whose size is not stated: room is made for both
lines, and a conversion leaves the last two bytes of it alone. -/
theorem sanitized_serves_consumers_of_stride :
    let f := sanitized ⟨3, 2, .yuyv, 8, 0⟩
    f = ⟨3, 2, .yuyv, 8, 16⟩ ∧ f.sourceBytes = 14 ∧ f.yuyvFrameBytes = .ok 12 ∧
    f.sourceBytes ≤ 16 ∧ SyntheticCamera.stride f * f.height.toNat ≤ 16 ∧
    ∀ n, f.yuyvFrameBytes = .ok n → n ≤ 16 := by
  obtain ⟨hsource, -, himage, hyuyv⟩ :=
    (sanitized_serves_consumers ⟨3, 2, .yuyv, 8, 0⟩).2.2 (by decide) (by decide)
  exact ⟨by decide, by decide, rfl, hsource, himage, hyuyv⟩

end Format
end TickCapture
