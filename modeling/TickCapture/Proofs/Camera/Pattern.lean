import TickCapture.Camera.Synthetic
import TickCapture.Proofs.Detect.AdmittedFormats

/-! # The pattern of a synthetic camera

A frame without noise depends on the format and the phase only: on every second byte it has the luma
of a diagonal ramp, and between them neutral chroma. So it is converted to grey pixels. A moving
frame shifts the ramp, by which every pixel gets lighter or darker by forty or more. -/

namespace TickCapture

variable {f : Format} {phase base : UInt32} {i row x : Nat}

/-! ### Luma and grey -/

/-- A pixel of neutral chroma is as light in each channel. -/
def shade (y : UInt8) : UInt8 := channelOf y 128 128 .red

theorem channelOf_neutral (y : UInt8) (channel : Channel) :
    channelOf y 128 128 channel = shade y := by
  cases channel <;> simp [shade, channelOf]

/-- How far up the ramp is, counted from its lowest luma. -/
def rampHeight (base : UInt32) : Nat := base.toNat * 5 % UInt32.size % 220

theorem rampHeight_lt (base : UInt32) : rampHeight base < 220 := Nat.mod_lt _ (by decide)

theorem toNat_luma (base : UInt32) : (SyntheticCamera.luma base).toNat = 16 + rampHeight base := by
  have hramp : (base * 5 % 220).toNat = rampHeight base := by
    rw [UInt32.toNat_mod, UInt32.toNat_mul]
    rfl
  have hlt := rampHeight_lt base
  rw [SyntheticCamera.luma, UInt8.toNat_add, UInt32.toNat_toUInt8, hramp]
  have hsixteen : (16 : UInt8).toNat = 16 := rfl
  rw [hsixteen]
  omega

theorem toNat_clampByte {n : Nat} (h : n ≤ 255) : (clampByte n).toNat = n := by
  have hclamp : (min 255 (max 0 (n : Int))).toNat = n := by omega
  rw [clampByte, hclamp, Nat.toUInt8_eq, UInt8.toNat_ofNat']
  omega

theorem toNat_shade_luma (base : UInt32) :
    (shade (SyntheticCamera.luma base)).toNat = (298 * rampHeight base + 128) / 256 := by
  have hlt := rampHeight_lt base
  have hchroma : ((128 : UInt8).toNat : Int) - 128 = 0 := rfl
  have hneutral : (298 * ((16 + rampHeight base : Nat) - 16 : Int) + 409 * 0 + 128) / 256 =
      ((298 * rampHeight base + 128) / 256 : Nat) := by
    omega
  simp only [shade, channelOf, toNat_luma, hchroma, hneutral]
  exact toNat_clampByte (by omega)

/-- A step of the ramp leads far up or far down: five times the step is 185, and `2 ^ 32`, by which
the sum may wrap around, is 136 modulo 220. -/
theorem rampHeight_step (base : UInt32) :
    rampHeight base + 35 ≤ rampHeight (base + SyntheticCamera.motionStep) ∨
      rampHeight (base + SyntheticCamera.motionStep) + 35 ≤ rampHeight base := by
  have hsize : UInt32.size = 4294967296 := rfl
  have hbase : (base + SyntheticCamera.motionStep).toNat = (base.toNat + 37) % UInt32.size := by
    rw [UInt32.toNat_add]
    rfl
  unfold rampHeight
  rw [hbase]
  have hstep : (base.toNat + 37) % UInt32.size * 5 % UInt32.size =
      (base.toNat * 5 % UInt32.size + 185) % UInt32.size := by
    rw [Nat.mod_mul_mod, Nat.add_mul, Nat.mod_add_mod]
  rw [hstep]
  have hlt : base.toNat * 5 % UInt32.size < UInt32.size := Nat.mod_lt _ (by decide)
  generalize base.toNat * 5 % UInt32.size = value at hlt ⊢
  rw [hsize] at hlt ⊢
  obtain hsmall | hlarge := Nat.lt_or_ge (value + 185) 4294967296
  · rw [Nat.mod_eq_of_lt hsmall]
    omega
  · have hwraps : (value + 185) % 4294967296 = value + 185 - 4294967296 := by omega
    rw [hwraps]
    omega

theorem byteDiff_shade_step (base : UInt32) :
    40 ≤ byteDiff (shade (SyntheticCamera.luma (base + SyntheticCamera.motionStep)))
      (shade (SyntheticCamera.luma base)) := by
  refine le_byteDiff ?_
  rw [toNat_shade_luma, toNat_shade_luma]
  have := rampHeight_step base
  omega

/-! ### Frames as the camera makes them -/

/-- Lines of whole pixel pairs that follow one another without a gap, and at least one of them. -/
structure Format.Packed (f : Format) : Prop where
  admitted : f.Admitted
  width_pos : 0 < f.width.toNat
  height_pos : 0 < f.height.toNat
  stride_eq : SyntheticCamera.stride f = f.width.toNat * 2
  sizeImage_eq : f.sizeImage.toNat = SyntheticCamera.stride f * f.height.toNat

/-- The largest sum `phase + column + row` of a frame fits a word. Columns are rendered in pairs. -/
def Format.Fits (f : Format) (phase : UInt32) : Prop :=
  phase.toNat + (f.width.toNat - 2) + (f.height.toNat - 1) + 1 < UInt32.size

instance (f : Format) (phase : UInt32) : Decidable (f.Fits phase) :=
  inferInstanceAs (Decidable (_ < _))

/-- The luma at a pixel. -/
def rampAt (phase : UInt32) (row x : Nat) : UInt8 :=
  SyntheticCamera.luma (x.toUInt32 + row.toUInt32 + phase)

def rawByte (f : Format) (phase : UInt32) (i : Nat) : UInt8 :=
  if i % SyntheticCamera.stride f % 2 = 1 then 128
  else rampAt phase (i / SyntheticCamera.stride f) (i % SyntheticCamera.stride f / 2)

/-- A frame of the given phase, as it is lent out. -/
def rawFrame (f : Format) (phase : UInt32) : Bytes :=
  Array.ofFn fun i : Fin f.sizeImage.toNat => rawByte f phase i

namespace Format.Packed

variable {memory : Bytes} {noise : Noise} {old : UInt8}

theorem even (H : f.Packed) : f.width.toNat % 2 = 0 := by
  simpa using congrArg UInt32.toNat H.admitted.even

theorem width_ne (H : f.Packed) : f.width ≠ 0 := by
  intro hzero
  simpa [hzero] using H.width_pos

theorem height_ne (H : f.Packed) : f.height ≠ 0 := by
  intro hzero
  simpa [hzero] using H.height_pos

theorem stride_pos (H : f.Packed) : 0 < SyntheticCamera.stride f := by
  have := H.width_pos
  rw [H.stride_eq]
  omega

/-- Every byte of a frame is written. -/
theorem frameByte_eq (H : f.Packed) (hi : i < SyntheticCamera.stride f * f.height.toNat) :
    SyntheticCamera.frameByte f phase 0 noise i old = rawByte f phase i := by
  have hpair : i % SyntheticCamera.stride f < SyntheticCamera.pairBytes f := by
    have hlt := Nat.mod_lt i H.stride_pos
    have heven := H.even
    rw [SyntheticCamera.pairBytes]
    rw [H.stride_eq] at hlt ⊢
    omega
  simp only [SyntheticCamera.frameByte, rawByte, rampAt, hi, hpair, and_self, if_true]

theorem render_eq (H : f.Packed) (hfits : f.Fits phase) (hsize : memory.size = f.sizeImage.toNat) :
    SyntheticCamera.render f phase 0 noise memory = .ok (rawFrame f phase, f.sizeImage.toNat) := by
  have hwidth := H.width_pos
  have hheight := H.height_pos
  have heven := H.even
  have hlargest : SyntheticCamera.largestSum? f phase =
      some (f.width.toNat / 2 * 2 - 1 + (f.height.toNat - 1) + phase.toNat) := by
    rw [SyntheticCamera.largestSum?, if_neg]
    rintro (hnarrow | hflat)
    · omega
    · exact H.height_ne hflat
  have hsum : ¬UInt32.size ≤ f.width.toNat / 2 * 2 - 1 + (f.height.toNat - 1) + phase.toNat := by
    unfold Format.Fits at hfits
    omega
  have hframe : (Array.ofFn fun i : Fin memory.size =>
      SyntheticCamera.frameByte f phase 0 noise i (memory.getD i 0)) = rawFrame f phase := by
    refine Array.ext (by simp [rawFrame, hsize]) fun i hi hi' => ?_
    rw [Array.size_ofFn, hsize, H.sizeImage_eq] at hi
    simp only [rawFrame, Array.getElem_ofFn]
    exact H.frameByte_eq hi
  unfold SyntheticCamera.render
  rw [← H.sizeImage_eq, if_neg (Nat.not_lt_of_le (Nat.le_of_eq hsize.symm)),
    if_neg (Nat.ne_of_gt H.stride_pos), if_neg (by rw [H.stride_eq]; omega), hlargest, if_neg,
    hframe]
  simpa using hsum

/-! ### Frames as they are converted -/

theorem byteAt_rawFrame (H : f.Packed) {offset : Nat} (hrow : row < f.height.toNat)
    (hoffset : offset < SyntheticCamera.stride f) :
    byteAt (rawFrame f phase) (row * SyntheticCamera.stride f + offset) =
      if offset % 2 = 1 then 128 else rampAt phase row (offset / 2) := by
  have hlt : row * SyntheticCamera.stride f + offset < f.sizeImage.toNat := by
    rw [H.sizeImage_eq]
    calc row * SyntheticCamera.stride f + offset
        < row * SyntheticCamera.stride f + SyntheticCamera.stride f := Nat.add_lt_add_left hoffset _
      _ = SyntheticCamera.stride f * (row + 1) := by rw [Nat.mul_comm, Nat.mul_succ]
      _ ≤ SyntheticCamera.stride f * f.height.toNat := Nat.mul_le_mul_left _ hrow
  have hdiv : (row * SyntheticCamera.stride f + offset) / SyntheticCamera.stride f = row := by
    rw [Nat.mul_comm, Nat.mul_add_div H.stride_pos, Nat.div_eq_of_lt hoffset, Nat.add_zero]
  have hmod : (row * SyntheticCamera.stride f + offset) % SyntheticCamera.stride f = offset := by
    rw [Nat.mul_comm, Nat.mul_add_mod, Nat.mod_eq_of_lt hoffset]
  have hbyte : byteAt (rawFrame f phase) (row * SyntheticCamera.stride f + offset) =
      rawByte f phase (row * SyntheticCamera.stride f + offset) := by
    simp [byteAt, rawFrame, hlt]
  rw [hbyte, rawByte, hdiv, hmod]

/-- All channels of a pixel are as light as the ramp. -/
theorem pixelChannel_rawFrame (H : f.Packed) (hrow : row < f.height.toNat) (hx : x < f.width.toNat)
    (channel : Channel) :
    pixelChannel (rawFrame f phase) (row * SyntheticCamera.stride f) x channel =
      shade (rampAt phase row x) := by
  have heven := H.even
  have hluma : byteAt (rawFrame f phase)
      (row * SyntheticCamera.stride f + 4 * (x / 2) + 2 * (x % 2)) = rampAt phase row x := by
    have hplace : row * SyntheticCamera.stride f + 4 * (x / 2) + 2 * (x % 2) =
        row * SyntheticCamera.stride f + 2 * x := by omega
    rw [hplace, H.byteAt_rawFrame hrow (by rw [H.stride_eq]; omega), if_neg (by omega),
      Nat.mul_div_cancel_left x (by decide)]
  have hchroma (odd : Nat) (hodd : odd % 2 = 1) (hle : odd ≤ 3) :
      byteAt (rawFrame f phase) (row * SyntheticCamera.stride f + 4 * (x / 2) + odd) = 128 := by
    rw [Nat.add_assoc, H.byteAt_rawFrame hrow (by rw [H.stride_eq]; omega), if_pos (by omega)]
  simp only [pixelChannel, hluma, hchroma 1 rfl (by decide), hchroma 3 rfl (by decide)]
  exact channelOf_neutral _ channel

theorem lineStride_eq (H : f.Packed) : f.stride = SyntheticCamera.stride f := by
  have hbytes : f.lineBytes = SyntheticCamera.stride f := H.stride_eq.symm
  rw [Format.stride, hbytes]
  exact Nat.max_self _

/-- The source that a conversion asks for is a whole frame. -/
theorem sourceBytes_eq (H : f.Packed) : f.sourceBytes = f.sizeImage.toNat := by
  have hbytes : f.lineBytes = SyntheticCamera.stride f := H.stride_eq.symm
  rw [Format.sourceBytes, if_neg H.height_ne, H.lineStride_eq, hbytes, H.sizeImage_eq,
    ← Nat.mul_succ, Nat.succ_eq_add_one, Nat.sub_add_cancel H.height_pos]

theorem rgbByte_rawFrame (H : f.Packed) (hi : i < f.rgbBytes) (old : UInt8) :
    f.rgbByte (rawFrame f phase) i old =
      shade (rampAt phase (i / f.rgbLineBytes) (i % f.rgbLineBytes / 3)) := by
  have hwidth := H.width_pos
  have heven := H.even
  have hrow : i / f.rgbLineBytes < f.height.toNat := Nat.div_lt_of_lt_mul hi
  have hx : i % f.rgbLineBytes / 3 < f.width.toNat := by
    have hmod : i % f.rgbLineBytes < f.width.toNat * 3 :=
      Nat.mod_lt i (Nat.mul_pos hwidth (by decide))
    omega
  have hpaired : i % f.rgbLineBytes / 3 < f.width.toNat / 2 * 2 := by omega
  simp only [Format.rgbByte, hi, hpaired, and_self, if_true, H.lineStride_eq]
  exact H.pixelChannel_rawFrame hrow hx _

end Format.Packed

/-- The pixels of a frame of the given phase. -/
def greyPixels (f : Format) (phase : UInt32) : Bytes :=
  Array.ofFn fun i : Fin f.rgbBytes =>
    shade (rampAt phase (i / f.rgbLineBytes) (i % f.rgbLineBytes / 3))

@[simp] theorem size_greyPixels (f : Format) (phase : UInt32) :
    (greyPixels f phase).size = f.rgbBytes := by
  simp [greyPixels]

/-- A frame is converted into any slot that is large enough. -/
theorem Format.Packed.convertInto_rawFrame (H : f.Packed) {slot : PooledBuffer} {data : Bytes}
    (hdata : slot.data = some data) (hsize : f.rgbBytes ≤ data.size) :
    ∃ bytes, convertInto slot f (rawFrame f phase) =
        .ok { slot with data := some bytes, len := f.rgbBytes } ∧
      bytes.extract 0 f.rgbBytes = greyPixels f phase := by
  have hsource : ¬(rawFrame f phase).size < f.sourceBytes := by
    rw [H.sourceBytes_eq, rawFrame, Array.size_ofFn]
    exact Nat.lt_irrefl _
  refine ⟨convertedBytes (rawFrame f phase) f data, ?_, ?_⟩
  · rw [convertInto_eq hdata, H.admitted.conversionLen_eq hsize, if_neg hsource,
      if_neg H.width_ne]
    rfl
  · refine Array.ext (by simp [hsize]) fun i hi hi' => ?_
    rw [size_greyPixels] at hi'
    simp only [Array.getElem_extract, convertedBytes, greyPixels, Array.getElem_ofFn, Nat.zero_add]
    exact H.rgbByte_rawFrame hi' _

/-! ### Differences -/

/-- All bytes of a moving frame are far from those of the frame before it. -/
theorem le_diffSum_moving (f : Format) (phase : UInt32) :
    f.rgbBytes * 40 ≤
      diffSum (greyPixels f (phase + SyntheticCamera.motionStep)) (greyPixels f phase) := by
  have hle := le_diffSum (a := greyPixels f (phase + SyntheticCamera.motionStep))
    (b := greyPixels f phase) (c := 40) (by simp) fun i ha hb => ?_
  · rwa [size_greyPixels] at hle
  · simp only [greyPixels, Array.getElem_ofFn, rampAt, ← UInt32.add_assoc]
    exact byteDiff_shade_step _

end TickCapture
