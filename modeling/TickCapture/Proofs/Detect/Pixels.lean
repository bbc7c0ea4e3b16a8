import TickCapture.Proofs.Detect.Conversion

/-! # Where each pixel of a converted frame comes from

`Format.Overlays` describes a converted frame without its loops: by the row and the column of a pixel,
the luma it has for itself and the chroma it shares with its neighbour. Everything that is no byte of
such a pixel is what the destination held, and only the pixels of the source have any influence. -/

namespace TickCapture

variable {f : Format} {src src' dst rgb rgb' : Bytes} {row x c i : Nat}

/-! ### Places of pixels -/

namespace Format

/-- Every byte of a converted frame is in some row, in some column, and of some channel. -/
theorem place_eq (f : Format) (i : Nat) :
    i = 3 * (i / f.rgbLineBytes * f.width.toNat + i % f.rgbLineBytes / 3) + i % 3 := by
  have hline : f.rgbLineBytes = f.width.toNat * 3 := rfl
  have hdvd : i % f.rgbLineBytes % 3 = i % 3 := Nat.mod_mod_of_dvd i ⟨f.width.toNat, by omega⟩
  calc i = f.rgbLineBytes * (i / f.rgbLineBytes) + i % f.rgbLineBytes := (Nat.div_add_mod _ _).symm
    _ = 3 * (i / f.rgbLineBytes * f.width.toNat) + i % f.rgbLineBytes := by
      rw [hline, Nat.mul_comm, ← Nat.mul_assoc, Nat.mul_comm _ 3]
    _ = 3 * (i / f.rgbLineBytes * f.width.toNat + i % f.rgbLineBytes / 3) + i % 3 := by omega

theorem place_lt (hrow : row < f.height.toNat) (hx : x < f.width.toNat) (hc : c < 3) :
    3 * (row * f.width.toNat + x) + c < f.rgbBytes := by
  have hlines : (row + 1) * f.width.toNat ≤ f.height.toNat * f.width.toNat :=
    Nat.mul_le_mul_right _ hrow
  have hbytes : f.rgbBytes = 3 * (f.height.toNat * f.width.toNat) := by
    rw [rgbBytes, rgbLineBytes, Nat.mul_right_comm, Nat.mul_comm, Nat.mul_comm f.height.toNat]
  rw [Nat.succ_mul] at hlines
  omega

theorem place_div_mod (f : Format) (row : Nat) (hx : x < f.width.toNat) (hc : c < 3) :
    (3 * (row * f.width.toNat + x) + c) / f.rgbLineBytes = row ∧
      (3 * (row * f.width.toNat + x) + c) % f.rgbLineBytes / 3 = x ∧
      (3 * (row * f.width.toNat + x) + c) % 3 = c := by
  have hplace : 3 * (row * f.width.toNat + x) + c = f.rgbLineBytes * row + (3 * x + c) := by
    rw [rgbLineBytes, Nat.mul_add, Nat.mul_comm row, Nat.mul_comm f.width.toNat 3, Nat.mul_assoc,
      Nat.add_assoc]
  have hlt : 3 * x + c < f.rgbLineBytes := by
    rw [rgbLineBytes]
    omega
  refine ⟨?_, ?_, by omega⟩
  · rw [hplace, Nat.mul_add_div (Nat.zero_lt_of_lt hlt), Nat.div_eq_of_lt hlt, Nat.add_zero]
  · rw [hplace, Nat.mul_add_mod, Nat.mod_eq_of_lt hlt]
    omega

/-! ### A frame over a destination -/

/-- `rgb` is `dst` with a frame written over it. -/
structure Overlays (f : Format) (src dst rgb : Bytes) : Prop where
  size_eq : rgb.size = dst.size
  /-- A pixel has the luma at its own place, and the chroma of the group of four bytes it lies in. -/
  pixel : ∀ row < f.height.toNat, ∀ x < 2 * (f.width.toNat / 2), ∃ y u v,
    src[row * f.stride + 2 * x]? = some y ∧
    src[row * f.stride + 4 * (x / 2) + 1]? = some u ∧
    src[row * f.stride + 4 * (x / 2) + 3]? = some v ∧
    ∀ c < 3, rgb[3 * (row * f.width.toNat + x) + c]? = (colourOf y u v)[c]?
  /-- A last pixel without a partner is left as it was, and so is everything behind the frame. -/
  kept : ∀ i, (∀ row < f.height.toNat, ∀ x < 2 * (f.width.toNat / 2), ∀ c < 3,
    i ≠ 3 * (row * f.width.toNat + x) + c) → rgb[i]? = dst[i]?

/-- Two sources with the same pixels, whatever lies between their lines and behind the last one. -/
def SamePixels (f : Format) (src src' : Bytes) : Prop :=
  ∀ row < f.height.toNat, ∀ j < 2 * f.width.toNat,
    src'[row * f.stride + j]? = src[row * f.stride + j]?

namespace Overlays

theorem congr (H : f.Overlays src dst rgb) (hsame : f.SamePixels src src') :
    f.Overlays src' dst rgb where
  size_eq := H.size_eq
  pixel := by
    intro row hrow x hx
    obtain ⟨y, u, v, hy, hu, hv, hrgb⟩ := H.pixel row hrow x hx
    refine ⟨y, u, v, ?_, ?_, ?_, hrgb⟩
    · rw [hsame row hrow _ (by omega)]
      exact hy
    · rw [Nat.add_assoc] at hu ⊢
      rw [hsame row hrow _ (by omega)]
      exact hu
    · rw [Nat.add_assoc] at hv ⊢
      rw [hsame row hrow _ (by omega)]
      exact hv
  kept := H.kept

/-- Pixels and what is kept make up everything. -/
theorem unique (H : f.Overlays src dst rgb) (H' : f.Overlays src dst rgb') : rgb = rgb' := by
  apply Array.ext_getElem?
  intro i
  by_cases hplace : ∃ row < f.height.toNat, ∃ x < 2 * (f.width.toNat / 2), ∃ c < 3,
      i = 3 * (row * f.width.toNat + x) + c
  · obtain ⟨row, hrow, x, hx, c, hc, rfl⟩ := hplace
    obtain ⟨y, u, v, hy, hu, hv, hrgb⟩ := H.pixel row hrow x hx
    obtain ⟨y', u', v', hy', hu', hv', hrgb'⟩ := H'.pixel row hrow x hx
    obtain rfl : y = y' := Option.some.inj (hy.symm.trans hy')
    obtain rfl : u = u' := Option.some.inj (hu.symm.trans hu')
    obtain rfl : v = v' := Option.some.inj (hv.symm.trans hv')
    rw [hrgb c hc, hrgb' c hc]
  · have hnone : ∀ row < f.height.toNat, ∀ x < 2 * (f.width.toNat / 2), ∀ c < 3,
        i ≠ 3 * (row * f.width.toNat + x) + c := by
      intro row hrow x hx c hc h
      apply hplace
      exact ⟨row, hrow, x, hx, c, hc, h⟩
    rw [H.kept i hnone, H'.kept i hnone]

end Overlays

/-! ### What a conversion leaves -/

theorem getElem?_colourOf (hc : c < 3) (y u v : UInt8) :
    (colourOf y u v)[c]? = some (channelOf y u v (.ofOffset c)) := by
  match c, hc with
  | 0, _ | 1, _ | 2, _ => rfl

theorem getElem?_eq_byteAt (h : i < src.size) : src[i]? = some (byteAt src i) := by
  simp [byteAt, h]

theorem getElem?_convertedBytes (hi : i < dst.size) :
    (convertedBytes src f dst)[i]? = some (f.rgbByte src i (byteAt dst i)) := by
  rw [convertedBytes, Array.getElem?_ofFn, dif_pos hi]

theorem convertedBytes_overlays (hsource : f.sourceBytes ≤ src.size) (hroom : f.rgbBytes ≤ dst.size) :
    f.Overlays src dst (convertedBytes src f dst) where
  size_eq := size_convertedBytes src f dst
  pixel := by
    intro row hrow x hx
    have hline := lineEnd_le hrow
    have hbytes : f.lineBytes = f.width.toNat * 2 := rfl
    refine ⟨_, _, _, getElem?_eq_byteAt (by omega), getElem?_eq_byteAt (by omega),
      getElem?_eq_byteAt (by omega), fun c hc => ?_⟩
    have hcolumn : x < f.width.toNat := by omega
    have hplace := place_lt hrow hcolumn hc
    obtain ⟨hdiv, hmod, hchannel⟩ := f.place_div_mod row hcolumn hc
    have hluma : row * f.stride + 4 * (x / 2) + 2 * (x % 2) = row * f.stride + 2 * x := by omega
    rw [getElem?_convertedBytes (Nat.lt_of_lt_of_le hplace hroom), rgbByte, hdiv, hmod, hchannel,
      if_pos ⟨hplace, by omega⟩, pixelChannel, hluma, getElem?_colourOf hc]
  kept := by
    intro i hnone
    by_cases hi : i < dst.size
    · have hkept : ¬(i < f.rgbBytes ∧ i % f.rgbLineBytes / 3 < f.width.toNat / 2 * 2) := by
        rintro ⟨hlt, hx⟩
        exact hnone _ (Nat.div_lt_of_lt_mul hlt) _ (by omega) _ (Nat.mod_lt i (by decide))
          (f.place_eq i)
      rw [getElem?_convertedBytes hi, rgbByte, if_neg hkept, getElem?_eq_byteAt hi]
    · rw [Array.getElem?_eq_none (Nat.le_of_not_lt hi),
        Array.getElem?_eq_none (by rw [size_convertedBytes]; exact Nat.le_of_not_lt hi)]

/-! ### What a conversion comes to -/

/-- Sizes that fit a word are compared with what there is, the source first. -/
theorem checkSizes_eq (hwidth : 0 < f.width.toNat) (hsource : f.sourceBytes < UInt64.size)
    (hrgb : f.rgbBytes < UInt64.size) (source destination : Nat) :
    f.checkSizes source destination =
      if source < f.sourceBytes then .error (.error (.frameSizeMismatch f.sourceBytes source))
      else if destination < f.rgbBytes then
        .error (.error (.outputTooSmall f.rgbBytes destination))
      else .ok f.rgbBytes := by
  have hline : f.rgbLineBytes ≠ 0 := Nat.ne_of_gt (Nat.mul_pos hwidth (by decide))
  rw [checkSizes, word64, word64, if_pos hsource, if_pos hrgb]
  by_cases hshort : source < f.sourceBytes
  · simp only [bind, Except.bind, throw, throwThe, MonadExceptOf.throw, if_pos hshort]
  · by_cases hsmall : destination < f.rgbBytes
    · simp only [bind, Except.bind, pure, Except.pure, throw, throwThe, MonadExceptOf.throw,
        if_neg hshort, if_pos hsmall]
    · simp only [bind, Except.bind, pure, Except.pure, throw, throwThe, MonadExceptOf.throw,
        if_neg hshort, if_neg hsmall, if_neg hline]

/-- A frame without lines needs no source. -/
theorem lt_sourceBytes_iff {size : Nat} : size < f.sourceBytes ↔
    0 < f.height.toNat ∧ size < f.stride * (f.height.toNat - 1) + f.lineBytes := by
  have hzero : f.height = 0 ↔ f.height.toNat = 0 := by rw [← UInt32.toNat_inj, UInt32.toNat_zero]
  rw [sourceBytes]
  split
  · next h => simp [hzero.mp h]
  · next h =>
    have hpos : 0 < f.height.toNat := Nat.pos_of_ne_zero fun h' => h (hzero.mpr h')
    simp [hpos]

/-- A source with the same pixels is long enough, too. -/
theorem SamePixels.sourceBytes_le (H : f.SamePixels src src') (hwidth : 0 < f.width.toNat)
    (hsource : f.sourceBytes ≤ src.size) : f.sourceBytes ≤ src'.size := by
  apply Nat.le_of_not_lt
  intro hshort
  obtain ⟨hheight, hshort⟩ := lt_sourceBytes_iff.mp hshort
  have hbytes : f.lineBytes = 2 * f.width.toNat := Nat.mul_comm _ _
  have hcomm : f.stride * (f.height.toNat - 1) = (f.height.toNat - 1) * f.stride := Nat.mul_comm _ _
  have hlastRow : f.height.toNat - 1 < f.height.toNat := by omega
  have hend := lineEnd_le hlastRow
  -- the last byte that is read
  have hlast := H (f.height.toNat - 1) (by omega) (2 * f.width.toNat - 1) (by omega)
  rw [Array.getElem?_eq_none (by omega), getElem?_eq_byteAt (by omega)] at hlast
  cases hlast

/-- A conversion of a frame of some width, whose sizes fit a word, either has too short a source, or
too small a destination, and leaves it as it is; or else it writes the frame over it, and from the
source nothing but its pixels matters. -/
theorem convertOver_writes_pixels (hwidth : 1 ≤ f.width.toNat) {needed made : Nat}
    (hneeded : needed = max f.bytesPerLine.toNat (2 * f.width.toNat) * (f.height.toNat - 1) +
      2 * f.width.toNat) (hmade : made = 3 * f.width.toNat * f.height.toNat)
    (hsource : needed < UInt64.size) (hrgb : made < UInt64.size) (src dst : Bytes) :
    (0 < f.height.toNat ∧ src.size < needed → convertOver src f dst =
      (dst, .error (.error (.frameSizeMismatch needed src.size)))) ∧
    (¬(0 < f.height.toNat ∧ src.size < needed) → dst.size < made → convertOver src f dst =
      (dst, .error (.error (.outputTooSmall made dst.size)))) ∧
    (¬(0 < f.height.toNat ∧ src.size < needed) → made ≤ dst.size →
      ∃ rgb, convertOver src f dst = (rgb, .ok made) ∧ f.Overlays src dst rgb ∧
        ∀ src', f.SamePixels src src' → convertOver src' f dst = (rgb, .ok made)) := by
  have hneeded : needed = f.stride * (f.height.toNat - 1) + f.lineBytes := by
    rw [hneeded, stride, lineBytes, Nat.mul_comm 2]
  obtain rfl : made = f.rgbBytes := by
    rw [hmade, rgbBytes, rgbLineBytes, Nat.mul_comm 3]
  have hle : f.sourceBytes ≤ needed := by
    rw [sourceBytes]
    split
    · exact Nat.zero_le _
    · exact Nat.le_of_eq hneeded.symm
  have hshort {size : Nat} :
      size < f.sourceBytes ↔ 0 < f.height.toNat ∧ size < needed := hneeded ▸ lt_sourceBytes_iff
  have hsizes (source : Nat) := checkSizes_eq hwidth (by omega) (by omega) source dst.size
  refine ⟨fun h => ?_, fun h hsmall => ?_, fun h hroom => ?_⟩
  · have hexact : f.sourceBytes = needed := by
      rw [sourceBytes, if_neg fun hzero => Nat.ne_of_gt h.1 (by rw [hzero]; rfl), hneeded]
    rw [convertOver_eq, hsizes, if_pos (hshort.mpr h), hexact]
  · rw [convertOver_eq, hsizes, if_neg (mt hshort.mp h), if_pos hsmall]
  · have hlong : f.sourceBytes ≤ src.size := Nat.le_of_not_lt (mt hshort.mp h)
    refine ⟨convertedBytes src f dst, ?_, convertedBytes_overlays hlong hroom, fun src' H => ?_⟩
    · rw [convertOver_eq, hsizes, if_neg (mt hshort.mp h), if_neg (Nat.not_lt_of_le hroom)]
    · have hlong' := H.sourceBytes_le hwidth hlong
      have hoverlays := (convertedBytes_overlays hlong hroom).congr H
      rw [convertOver_eq, hsizes, if_neg (Nat.not_lt_of_le hlong'),
        if_neg (Nat.not_lt_of_le hroom)]
      dsimp only
      rw [(convertedBytes_overlays hlong' hroom).unique hoverlays]

/-- Two lines of three pixels, with two bytes of padding between them: the third pixel of each line
keeps what was there, whatever the padding holds. -/
theorem convertOver_three_by_two : ∃ rgb,
    convertOver #[235, 128, 235, 128, 16, 128, 9, 9, 16, 128, 16, 128, 16, 128]
      ⟨3, 2, .yuyv, 8, 16⟩ (Array.replicate 20 7) = (rgb, .ok 18) ∧
    rgb[3]? = some 255 ∧ rgb[6]? = some 7 ∧ rgb[18]? = some 7 ∧
    convertOver #[235, 128, 235, 128, 16, 128, 5, 1, 16, 128, 16, 128, 16, 128, 3]
      ⟨3, 2, .yuyv, 8, 16⟩ (Array.replicate 20 7) = (rgb, .ok 18) := by
  let f : Format := ⟨3, 2, .yuyv, 8, 16⟩
  have hwidth : 1 ≤ f.width.toNat := by decide
  obtain ⟨-, -, hconverted⟩ := convertOver_writes_pixels hwidth rfl rfl (by decide) (by decide)
    #[235, 128, 235, 128, 16, 128, 9, 9, 16, 128, 16, 128, 16, 128] (Array.replicate 20 7)
  obtain ⟨rgb, hrgb, hoverlays, hsame⟩ := hconverted (by decide) (by decide)
  obtain ⟨y, u, v, hy, hu, hv, hpixel⟩ := hoverlays.pixel 0 (by decide) 1 (by decide)
  cases hy
  cases hu
  cases hv
  have hwhite : rgb[3]? = some 255 := (hpixel 0 (by decide)).trans (by decide)
  refine ⟨rgb, hrgb, hwhite, hoverlays.kept 6 (by decide), hoverlays.kept 18 (by decide),
    hsame _ ?_⟩
  unfold SamePixels
  decide

end Format
end TickCapture
