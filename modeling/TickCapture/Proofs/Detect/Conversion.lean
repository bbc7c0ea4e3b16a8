import TickCapture.Proofs.Detect.Lines

/-! # What a conversion depends on

Whether a frame can be converted, and to how many bytes, depends on the size of the destination only.
When all lines are of even width every one of these bytes is written, so they do not depend on what
the destination held before. -/

namespace TickCapture

/-- Every line lies within `size` bytes of source. -/
def Format.linesWithin (f : Format) (size : Nat) : Bool :=
  (List.range f.height.toNat).all fun row => row * f.stride + f.lineBytes ≤ size

/-- How many bytes of RGB a conversion into `size` bytes makes. -/
def conversionLen (src : Bytes) (f : Format) (size : Nat) : Except (Trouble DetectError) Nat := do
  let needed ← word64 f.sourceBytes
  if src.size < needed then throw (.error (.frameSizeMismatch needed src.size))
  let made ← word64 f.rgbBytes
  if size < made then throw (.error (.outputTooSmall made size))
  if f.rgbLineBytes = 0 then throw (.fault .zeroChunk)
  if !f.linesWithin src.size then throw (.fault .outOfBounds)
  return made

theorem word64_eq_ok {ε : Type} {n m : Nat} (h : word64 (ε := ε) n = .ok m) : m = n := by
  unfold word64 at h
  split at h <;> cases h
  rfl

theorem Format.linesWithin_of_le {f : Format} {size : Nat} (h : f.sourceBytes ≤ size) :
    f.linesWithin size = true := by
  rw [linesWithin, List.all_eq_true]
  intro row hrow
  exact decide_eq_true (Nat.le_trans (lineEnd_le (List.mem_range.mp hrow)) h)

/-- After the sizes are checked, no line can end behind the source. -/
theorem conversionLen_eq_checkSizes (src : Bytes) (f : Format) (size : Nat) :
    conversionLen src f size = f.checkSizes src.size size := by
  unfold conversionLen Format.checkSizes
  simp only [bind, Except.bind, pure, Except.pure, throw, throwThe, MonadExceptOf.throw]
  split
  · rfl
  · next needed hneeded =>
    split
    · rfl
    · next hshort =>
      rw [Format.linesWithin_of_le (word64_eq_ok hneeded ▸ Nat.le_of_not_lt hshort)]
      rfl

/-- What the checks let through has lines of some bytes, and fits on either side. -/
theorem checkSizes_eq_ok {f : Format} {source destination made : Nat}
    (h : f.checkSizes source destination = .ok made) :
    made = f.rgbBytes ∧ made ≤ destination ∧ f.sourceBytes ≤ source ∧ 0 < f.width.toNat := by
  unfold Format.checkSizes at h
  simp only [bind, Except.bind, pure, Except.pure, throw, throwThe, MonadExceptOf.throw] at h
  repeat' split at h
  any_goals cases h
  next hneeded hshort _ hwidth hmade hsmall =>
    obtain rfl := word64_eq_ok hneeded
    have hwidth : ¬f.width.toNat * 3 = 0 := hwidth
    exact ⟨word64_eq_ok hmade, Nat.le_of_not_lt hsmall, Nat.le_of_not_lt hshort, by omega⟩

/-- Only a conversion whose sizes are right changes the destination. -/
theorem convertOver_eq (src : Bytes) (f : Format) (dst : Bytes) :
    convertOver src f dst =
      match f.checkSizes src.size dst.size with
      | .error trouble => (dst, .error trouble)
      | .ok made => (convertedBytes src f dst, .ok made) := by
  unfold convertOver
  cases hsizes : f.checkSizes src.size dst.size with
  | error trouble => rfl
  | ok made =>
    obtain ⟨-, -, hsource, hwidth⟩ := checkSizes_eq_ok hsizes
    simp only [convertLines_eq hwidth hsource]
    rfl

theorem toRgb_eq (src : Bytes) (f : Format) (dst : Bytes) :
    toRgb src f dst =
      (conversionLen src f dst.size).map fun made => (convertedBytes src f dst, made) := by
  rw [conversionLen_eq_checkSizes, toRgb, convertOver_eq]
  cases f.checkSizes src.size dst.size <;> rfl

theorem toRgb_eq_ok {src dst rgb : Bytes} {f : Format} {written : Nat}
    (h : toRgb src f dst = .ok (rgb, written)) :
    rgb = convertedBytes src f dst ∧ conversionLen src f dst.size = .ok written := by
  rw [toRgb_eq] at h
  cases hlen : conversionLen src f dst.size with
  | error e => rw [hlen] at h; cases h
  | ok n => rw [hlen] at h; cases h; exact ⟨rfl, rfl⟩

/-- What is made fits the destination, and is as large as the frame. -/
theorem conversionLen_eq_ok {src : Bytes} {f : Format} {size written : Nat}
    (h : conversionLen src f size = .ok written) : written = f.rgbBytes ∧ written ≤ size := by
  rw [conversionLen_eq_checkSizes] at h
  obtain ⟨hwritten, hsize, -⟩ := checkSizes_eq_ok h
  exact ⟨hwritten, hsize⟩

/-! ### Lines of even width -/

/-- Every byte of a frame of even width is written. -/
theorem Format.rgbByte_eq {f : Format} {i : Nat} (hw : f.width % 2 = 0) (hi : i < f.rgbBytes)
    (src : Bytes) (old old' : UInt8) : f.rgbByte src i old = f.rgbByte src i old' := by
  have heven : f.width.toNat % 2 = 0 := by simpa using congrArg UInt32.toNat hw
  have hpos : 0 < f.width.toNat * 3 :=
    Nat.pos_of_mul_pos_right (Nat.lt_of_le_of_lt (Nat.zero_le i) hi)
  have hx : i % f.rgbLineBytes / 3 < f.width.toNat / 2 * 2 := by
    have := Nat.mod_lt i hpos
    rw [Format.rgbLineBytes]
    omega
  unfold Format.rgbByte
  simp only [hi, hx, and_self, if_true]

/-- What a frame of even width is converted to depends on the size of the destination only. -/
theorem extract_convertedBytes {f : Format} (hw : f.width % 2 = 0) (src : Bytes) {dst dst' : Bytes}
    (hsize : dst.size = dst'.size) :
    (convertedBytes src f dst).extract 0 f.rgbBytes =
      (convertedBytes src f dst').extract 0 f.rgbBytes := by
  refine Array.ext (by simp [hsize]) fun i hi hi' => ?_
  have hlt : i < f.rgbBytes := by
    simp only [Array.size_extract] at hi
    omega
  simp only [Array.getElem_extract, convertedBytes, Array.getElem_ofFn, Nat.zero_add]
  exact f.rgbByte_eq hw hlt src _ _

end TickCapture
