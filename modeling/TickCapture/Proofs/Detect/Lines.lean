import TickCapture.Detect.Conversion

/-! # What the lines of a frame are converted to

A frame is converted line by line and a line group by group. `getElem?_convertLine` and
`Format.getElem?_convertLines` say what these loops leave at each position: the pixel whose place it
is, and where there is none what was there before. `Format.rgbByte` says the same of a whole frame. -/

namespace TickCapture

variable {f : Format} {src : Bytes} {row n k : Nat}

def pixelChannel (src : Bytes) (start x : Nat) (channel : Channel) : UInt8 :=
  let group := start + 4 * (x / 2)
  channelOf (byteAt src (group + 2 * (x % 2))) (byteAt src (group + 1)) (byteAt src (group + 3))
    channel

/-! ### One line -/

@[simp] theorem length_groupPixels (src : Bytes) (group : Nat) :
    (groupPixels src group).length = 6 := rfl

theorem getElem?_groupPixels (hk : k < 6) (src : Bytes) (group : Nat) :
    (groupPixels src group)[k]? =
      some (pixelChannel src group (k / 3) (.ofOffset (k % 3))) := by
  match k, hk with
  | 0, _ | 1, _ | 2, _ | 3, _ | 4, _ | 5, _ => rfl

theorem pixelChannel_add_two (src : Bytes) (start x : Nat) (channel : Channel) :
    pixelChannel src start (x + 2) channel = pixelChannel src (start + 4) x channel := by
  have hgroup : start + 4 * ((x + 2) / 2) = start + 4 + 4 * (x / 2) := by omega
  have hodd : (x + 2) % 2 = x % 2 := Nat.add_mod_right x 2
  simp only [pixelChannel, hgroup, hodd]

@[simp] theorem size_convertLine (src : Bytes) (groups start out : Nat) (dst : Bytes) :
    (convertLine src groups start out dst).size = dst.size := by
  induction groups generalizing start out dst with
  | zero => rfl
  | succ n ih => rw [convertLine, ih, Bytes.size_put]

/-- Each group writes six bytes, and nothing else is written. -/
theorem getElem?_convertLine (src : Bytes) (groups start out : Nat) (dst : Bytes) (i : Nat) :
    (convertLine src groups start out dst)[i]? =
      if out ≤ i ∧ i < out + 6 * groups ∧ i < dst.size then
        some (pixelChannel src start ((i - out) / 3) (.ofOffset ((i - out) % 3)))
      else dst[i]? := by
  induction groups generalizing start out dst with
  | zero => rw [convertLine, if_neg (by omega)]
  | succ n ih =>
    rw [convertLine, ih, Bytes.size_put, Bytes.getElem?_put, length_groupPixels]
    by_cases hlater : out + 6 ≤ i
    -- a later group
    · have hx : (i - out) / 3 = (i - (out + 6)) / 3 + 2 := by omega
      have hchannel : (i - out) % 3 = (i - (out + 6)) % 3 := by omega
      rw [if_neg (c := out ≤ i ∧ i < out + 6 ∧ i < dst.size) (by omega), hx, hchannel,
        pixelChannel_add_two]
      congr 1
      exact propext (by omega)
    · rw [if_neg (by omega)]
      by_cases hhere : out ≤ i ∧ i < dst.size
      -- the first group
      · rw [if_pos (by omega), if_pos (by omega), getElem?_groupPixels (by omega)]
      · rw [if_neg (by omega), if_neg (by omega)]

/-! ### All lines -/

namespace Format

/-- The byte at position `i` of a converted frame that is written over `dst`. -/
def rgbByte (f : Format) (src : Bytes) (i : Nat) (old : UInt8) : UInt8 :=
  let row := i / f.rgbLineBytes
  let x := i % f.rgbLineBytes / 3
  if i < f.rgbBytes ∧ x < f.width.toNat / 2 * 2 then
    pixelChannel src (row * f.stride) x (Channel.ofOffset (i % 3))
  else old

theorem lineGroups_eq (f : Format) : f.lineGroups = f.width.toNat / 2 := by
  rw [lineGroups, lineBytes, rgbLineBytes]
  omega

/-- The end of each line comes before the end of the source. -/
theorem lineEnd_le {row : Nat} (h : row < f.height.toNat) :
    row * f.stride + f.lineBytes ≤ f.sourceBytes := by
  have hpos : f.height ≠ 0 := by
    rintro hzero
    rw [hzero] at h
    exact Nat.not_lt_zero _ h
  have hrow : row * f.stride ≤ f.stride * (f.height.toNat - 1) := by
    rw [Nat.mul_comm]
    exact Nat.mul_le_mul_left _ (Nat.le_sub_one_of_lt h)
  rw [sourceBytes, if_neg hpos]
  exact Nat.add_le_add_right hrow _

/-- No line of a source that is long enough ends behind its end. -/
theorem convertLines_ok (hsource : f.sourceBytes ≤ src.size) (hrows : row + n ≤ f.height.toNat)
    (dst : Bytes) : (f.convertLines src n row dst).2 = .ok () := by
  induction n generalizing row dst with
  | zero => rfl
  | succ n ih =>
    rw [convertLines, if_pos (Nat.le_trans (lineEnd_le (by omega)) hsource)]
    exact ih (by omega) _

/-- What `n` lines from line `row` on write. -/
theorem getElem?_convertLines (hwidth : 0 < f.width.toNat) (hsource : f.sourceBytes ≤ src.size)
    (hrows : row + n ≤ f.height.toNat) (dst : Bytes) (i : Nat) :
    (f.convertLines src n row dst).1[i]? =
      if row * f.rgbLineBytes ≤ i ∧ i < (row + n) * f.rgbLineBytes ∧ i < dst.size ∧
          i % f.rgbLineBytes / 3 < f.width.toNat / 2 * 2 then
        some (pixelChannel src (i / f.rgbLineBytes * f.stride) (i % f.rgbLineBytes / 3)
          (.ofOffset (i % 3)))
      else dst[i]? := by
  have hpos : 0 < f.rgbLineBytes := Nat.mul_pos hwidth (by decide)
  induction n generalizing row dst with
  | zero => rw [convertLines, if_neg (by rw [Nat.add_zero]; omega)]
  | succ n ih =>
    have hend : (row + 1 + n) * f.rgbLineBytes = (row + (n + 1)) * f.rgbLineBytes := by
      rw [Nat.add_right_comm, Nat.add_assoc]
    have hnext : (row + 1) * f.rgbLineBytes = row * f.rgbLineBytes + f.rgbLineBytes :=
      Nat.succ_mul row _
    have hle : (row + 1) * f.rgbLineBytes ≤ (row + (n + 1)) * f.rgbLineBytes :=
      Nat.mul_le_mul_right _ (by omega)
    rw [convertLines, if_pos (Nat.le_trans (lineEnd_le (by omega)) hsource), ih (by omega),
      size_convertLine, hend, getElem?_convertLine, lineGroups_eq]
    by_cases hlater : (row + 1) * f.rgbLineBytes ≤ i
    -- a later line
    · have hwritten : f.rgbLineBytes = f.width.toNat * 3 := rfl
      rw [if_neg (c := row * f.rgbLineBytes ≤ i ∧ _) (by omega)]
      congr 1
      exact propext (by omega)
    · rw [if_neg (by omega)]
      by_cases hhere : row * f.rgbLineBytes ≤ i
      -- this line
      · have hdiv : i / f.rgbLineBytes = row :=
          Nat.div_eq_of_lt_le hhere (Nat.lt_of_not_le hlater)
        have hmod : i % f.rgbLineBytes = i - row * f.rgbLineBytes := by
          rw [← hdiv, Nat.mul_comm, Nat.mod_eq_sub_mul_div]
        have hchannel : (i - row * f.rgbLineBytes) % 3 = i % 3 := by
          have hthree : row * f.rgbLineBytes = 3 * (row * f.width.toNat) := by
            rw [rgbLineBytes, ← Nat.mul_assoc, Nat.mul_comm]
          omega
        rw [hdiv, hmod, hchannel]
        congr 1
        exact propext (by omega)
      · rw [if_neg (by omega), if_neg (by omega)]

end Format

/-- All bytes of a destination with a frame converted over it. -/
def convertedBytes (src : Bytes) (f : Format) (dst : Bytes) : Bytes :=
  Array.ofFn fun i : Fin dst.size => f.rgbByte src i (byteAt dst i)

@[simp] theorem size_convertedBytes (src : Bytes) (f : Format) (dst : Bytes) :
    (convertedBytes src f dst).size = dst.size := by
  simp [convertedBytes]

theorem convertLines_eq (hwidth : 0 < f.width.toNat) (hsource : f.sourceBytes ≤ src.size)
    (dst : Bytes) :
    f.convertLines src f.height.toNat 0 dst = (convertedBytes src f dst, .ok ()) := by
  have hrows : 0 + f.height.toNat ≤ f.height.toNat := Nat.le_of_eq (Nat.zero_add _)
  have hwhole : (0 + f.height.toNat) * f.rgbLineBytes = f.rgbBytes := by
    rw [Nat.zero_add, Nat.mul_comm]
    rfl
  apply Prod.ext
  · apply Array.ext_getElem?
    intro i
    rw [Format.getElem?_convertLines hwidth hsource hrows, hwhole, Nat.zero_mul]
    by_cases hi : i < dst.size
    · rw [convertedBytes, Array.getElem?_ofFn, dif_pos hi, Format.rgbByte]
      by_cases hpixel : i < f.rgbBytes ∧ i % f.rgbLineBytes / 3 < f.width.toNat / 2 * 2
      · rw [if_pos ⟨Nat.zero_le i, hpixel.1, hi, hpixel.2⟩, if_pos hpixel]
      · rw [if_neg fun h => hpixel ⟨h.2.1, h.2.2.2⟩, if_neg hpixel]
        simp [byteAt, hi]
    · rw [if_neg fun h => hi h.2.2.1, Array.getElem?_eq_none (Nat.le_of_not_lt hi),
        Array.getElem?_eq_none (by rw [size_convertedBytes]; exact Nat.le_of_not_lt hi)]
  · exact Format.convertLines_ok hsource hrows dst

end TickCapture
