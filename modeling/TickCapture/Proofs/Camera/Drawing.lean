import TickCapture.Proofs.Camera.Shooting

/-! # How a frame is drawn

A frame without noise is drawn on the pixel pairs of a buffer. Behind the pairs a buffer is zero from
the start, and nobody writes there, so a frame is the same in every buffer, whatever was in it
(`Format.CleanMargins.render_eq`). It can be drawn if its lines have some width, the buffer has room
for all of them, and no sum on the way to a sample of luma leaves a word
(`SyntheticSettings.Drawable`). -/

namespace TickCapture

variable {f : Format} {phase : UInt32} {limit : UInt8} {noise noise' : Noise} {i used : Nat}
  {old old' : UInt8} {memory memory' : Bytes}

/-! ### Drawing -/

/-- Position `i` of a frame is in a pixel pair. -/
def Format.Drawn (f : Format) (i : Nat) : Prop :=
  i < SyntheticCamera.stride f * f.height.toNat ∧
    i % SyntheticCamera.stride f < SyntheticCamera.pairBytes f

/-- A buffer for frames of a format that is zero wherever no pixel pair is. -/
structure Format.CleanMargins (f : Format) (memory : Bytes) : Prop where
  size_eq : memory.size = f.sizeImage.toNat
  zero : ∀ i, ¬f.Drawn i → memory.getD i 0 = 0

namespace SyntheticCamera

/-- Without noise the pixel pairs do not depend on anything but the phase. -/
theorem frameByte_of_drawn (h : f.Drawn i) :
    frameByte f phase 0 noise i old = frameByte f phase 0 noise' i old' := by
  unfold Format.Drawn at h
  simp only [frameByte, h, and_self, if_true]

theorem frameByte_of_not_drawn (h : ¬f.Drawn i) : frameByte f phase limit noise i old = old :=
  if_neg h

/-- A frame that is drawn is as large as the buffer. -/
theorem of_render_ok (h : render f phase limit noise memory = .ok (memory', used)) :
    memory' = Array.ofFn fun i : Fin memory.size =>
      frameByte f phase limit noise i (memory.getD i 0) := by
  unfold render at h
  dsimp only at h
  split at h
  · cases h
  · split at h
    · cases h
    · split at h
      · cases h
      · split at h
        · cases h
        · cases h
          rfl

end SyntheticCamera

namespace Format.CleanMargins

theorem zeros (f : Format) : f.CleanMargins (.zeros f.sizeImage.toNat) where
  size_eq := Array.size_replicate
  zero i _ := by
    rw [Bytes.zeros, Array.getD_eq_getD_getElem?, Array.getElem?_replicate]
    split <;> rfl

/-- A frame without noise is the same as in a new buffer. -/
theorem render_eq (H : f.CleanMargins memory) :
    SyntheticCamera.render f phase 0 noise memory =
      SyntheticCamera.render f phase 0 noise' (.zeros f.sizeImage.toNat) := by
  have hzeros := CleanMargins.zeros f
  have hframe : (Array.ofFn fun i : Fin memory.size =>
        SyntheticCamera.frameByte f phase 0 noise i (memory.getD i 0)) =
      Array.ofFn fun i : Fin (Bytes.zeros f.sizeImage.toNat).size =>
        SyntheticCamera.frameByte f phase 0 noise' i ((Bytes.zeros f.sizeImage.toNat).getD i 0) := by
    refine Array.ext (by simp [H.size_eq, hzeros.size_eq]) fun i hi hi' => ?_
    rw [Array.getElem_ofFn, Array.getElem_ofFn]
    by_cases hdrawn : f.Drawn i
    · exact SyntheticCamera.frameByte_of_drawn hdrawn
    · rw [SyntheticCamera.frameByte_of_not_drawn hdrawn,
        SyntheticCamera.frameByte_of_not_drawn hdrawn, H.zero i hdrawn, hzeros.zero i hdrawn]
  simp only [SyntheticCamera.render, hframe, H.size_eq, hzeros.size_eq]

theorem of_render (H : f.CleanMargins memory)
    (h : SyntheticCamera.render f phase limit noise memory = .ok (memory', used)) :
    f.CleanMargins memory' := by
  obtain rfl := SyntheticCamera.of_render_ok h
  refine ⟨Array.size_ofFn.trans H.size_eq, fun i hdrawn => ?_⟩
  obtain hlt | hge := Nat.lt_or_ge i memory.size
  · rw [Array.getD_eq_getD_getElem?, Array.getElem?_ofFn, dif_pos hlt, Option.getD_some,
      SyntheticCamera.frameByte_of_not_drawn hdrawn]
    exact H.zero i hdrawn
  · rw [Array.getD_eq_getD_getElem?, Array.getElem?_ofFn, dif_neg (Nat.not_lt_of_le hge)]
    rfl

end Format.CleanMargins

/-! ### Frames that can be drawn -/

/-- The camera comes to a frame when it has taken a buffer for frame `t` of its scene. -/
structure SyntheticSettings.Drawable (s : SyntheticSettings) (t : Nat) : Prop where
  width_ne : s.width ≠ 0
  fits : s.width.toNat * 2 * s.height.toNat < UInt32.size
  plays : s.repeated = true → s.script ≠ [] → Scene.flags s.script ≠ []
  sums : ∀ sum, SyntheticCamera.largestSum? s.format (s.phaseAt (t + 1)) = some sum →
    sum < UInt32.size

namespace SyntheticCamera

theorem render_ok_iff :
    (∃ out, render f phase limit noise memory = .ok out) ↔
      stride f * f.height.toNat ≤ memory.size ∧ stride f ≠ 0 ∧
        (f.height ≠ 0 → f.width.toNat * 2 ≤ stride f) ∧
        ∀ sum, largestSum? f phase = some sum → sum < UInt32.size := by
  have hnone {fault : Fault} : ¬∃ out : Bytes × Nat, Except.error fault = Except.ok out := nofun
  unfold render
  dsimp only
  split
  · next hsmall => exact iff_of_false hnone fun h => Nat.not_le_of_lt hsmall h.1
  · next hroom =>
    split
    · next hzero => exact iff_of_false hnone fun h => h.2.1 hzero
    · next hpos =>
      split
      · next hshort =>
        exact iff_of_false hnone fun h => Nat.not_le_of_lt hshort.2 (h.2.2.1 hshort.1)
      · next hwide =>
        split
        · next hsum =>
          refine iff_of_false hnone fun h => ?_
          cases hlargest : largestSum? f phase with
          | none =>
            rw [hlargest] at hsum
            cases hsum
          | some sum =>
            rw [hlargest] at hsum
            have hlarge : UInt32.size ≤ sum := by simpa using hsum
            exact Nat.not_le_of_lt (h.2.2.2 sum hlargest) hlarge
        · next hsum =>
          refine iff_of_true ⟨_, rfl⟩
            ⟨Nat.le_of_not_lt hroom, hpos, fun hne => ?_, fun sum hlargest => ?_⟩
          · exact Nat.le_of_not_lt fun hlt => hwide ⟨hne, hlt⟩
          · refine Nat.lt_of_not_le fun hle => hsum ?_
            rw [hlargest]
            simpa using hle

/-- The lines of a camera and their number are such that a buffer is large enough for a frame. -/
theorem room_iff (s : SyntheticSettings) :
    (stride s.format * s.height.toNat ≤ s.format.sizeImage.toNat ∧ stride s.format ≠ 0 ∧
      (s.height ≠ 0 → s.width.toNat * 2 ≤ stride s.format)) ↔
      s.width ≠ 0 ∧ s.width.toNat * 2 * s.height.toNat < UInt32.size := by
  have hsize : UInt32.size = 4294967296 := rfl
  have hstride : stride s.format = min (s.width.toNat * 2) (UInt32.size - 1) := s.toNat_bytesPerLine
  have himage : s.format.sizeImage.toNat =
      min (stride s.format * s.height.toNat) (UInt32.size - 1) := s.toNat_sizeImage
  have hwidth : s.width ≠ 0 ↔ s.width.toNat ≠ 0 := by rw [Ne, Ne, ← UInt32.toNat_inj]; rfl
  have hheight : s.height ≠ 0 ↔ s.height.toNat ≠ 0 := by rw [Ne, Ne, ← UInt32.toNat_inj]; rfl
  rw [hwidth, hheight]
  constructor
  · rintro ⟨hroom, hpos, hwide⟩
    refine ⟨by omega, ?_⟩
    by_cases hflat : s.height.toNat = 0
    · rw [hflat]
      omega
    · have hline : stride s.format = s.width.toNat * 2 := by
        have := hwide hflat
        omega
      rw [← hline]
      omega
  · rintro ⟨hpos, hfits⟩
    by_cases hflat : s.height.toNat = 0
    · rw [hflat]
      exact ⟨Nat.zero_le _, by omega, fun hne => absurd rfl hne⟩
    · have hle : s.width.toNat * 2 * 1 ≤ s.width.toNat * 2 * s.height.toNat :=
        Nat.mul_le_mul_left _ (Nat.pos_of_ne_zero hflat)
      have hline : stride s.format = s.width.toNat * 2 := by omega
      rw [hline] at himage ⊢
      exact ⟨by omega, by omega, fun _ => Nat.le_refl _⟩

end SyntheticCamera
end TickCapture
