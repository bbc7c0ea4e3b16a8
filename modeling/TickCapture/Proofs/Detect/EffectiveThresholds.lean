import Mathlib.Algebra.Order.Field.Basic
import Mathlib.Data.Rat.Cast.Order
import TickCapture.Proofs.Detect.Differences
import TickCapture.Proofs.Detect.Episodes

/-! # Thresholds that have an effect

Not all thresholds that are accepted can make a tick. Differences lie between zero and one: none is
below a lower threshold of zero, and none above an upper threshold of one or more. All other thresholds
are effective. Whatever the size of the frames, two of them can differ in everything, which sets the
scene moving, and two can be equal, which settles it. -/

namespace TickCapture

variable {still moving x : Rat} {h : Hysteresis Rat} {frames bufs : List PooledBuffer}
  {b first : PooledBuffer} {part whole len : Nat}

/-! ### Differences lie between zero and one -/

theorem ratio_nonneg (part whole : Nat) : (0 : Rat) ≤ Scale.ratio part whole :=
  div_nonneg (Nat.cast_nonneg part) (Nat.cast_nonneg whole)

theorem ratio_le_one (h : part ≤ whole) : (Scale.ratio part whole : Rat) ≤ 1 :=
  div_le_one_of_le₀ (Nat.cast_le.mpr h) (Nat.cast_nonneg whole)

theorem ratio_self (h : 0 < whole) : (Scale.ratio whole whole : Rat) = 1 :=
  div_self (Nat.cast_ne_zero.mpr (Nat.ne_of_gt h))

theorem PooledBuffer.size_bytes_le (b : PooledBuffer) : b.bytes.size ≤ b.len := by
  unfold bytes
  split
  · rw [Array.size_extract]
    omega
  · exact Nat.zero_le _

/-- All accepted frames have the size of the first one. -/
theorem len_of_mem_acceptedOf (hfirst : (acceptedOf bufs).head? = some first)
    (hb : b ∈ acceptedOf bufs) : b.len = first.len := by
  unfold acceptedOf at hfirst hb
  split at hfirst
  · cases hfirst
  · next f later hrest =>
    cases hfirst
    rw [hrest] at hb
    rcases List.mem_cons.mp hb with rfl | hb
    · rfl
    · exact of_decide_eq_true (List.mem_filter.mp hb).2

theorem mem_differencesOf (hx : x ∈ (differencesOf (acceptedOf bufs) : List Rat)) :
    0 ≤ x ∧ x ≤ 1 := by
  cases haccepted : acceptedOf bufs with
  | nil =>
    rw [haccepted] at hx
    cases hx
  | cons first later =>
    rw [haccepted] at hx
    obtain ⟨i, hi⟩ := List.mem_iff_getElem?.mp hx
    obtain ⟨b, held, hb, -, rfl⟩ := List.getElem?_zipWith_eq_some.mp hi
    have hmem : b ∈ acceptedOf bufs := by
      rw [haccepted]
      exact List.mem_cons_of_mem _ (List.mem_of_getElem? hb)
    have hlen : b.len = first.len := len_of_mem_acceptedOf (by rw [haccepted]; rfl) hmem
    refine ⟨ratio_nonneg _ _, ratio_le_one ?_⟩
    calc diffSum b.bytes held.bytes ≤ b.bytes.size * 255 := diffSum_le _ _
      _ ≤ b.len * 255 := Nat.mul_le_mul_right _ b.size_bytes_le
      _ = 255 * first.len := by rw [hlen, Nat.mul_comm]

/-! ### Thresholds without effect -/

namespace Hysteresis

/-- Differences between zero and one make no tick at such thresholds. -/
theorem true_notMem_ticks (horder : h.still < h.moving) (hmode : h.mode = .still)
    (hnone : h.still = 0 ∨ 1 ≤ h.moving) {xs : List Rat} (hxs : ∀ x ∈ xs, 0 ≤ x ∧ x ≤ 1) :
    true ∉ h.ticks xs := by
  intro htick
  obtain ⟨i, hi⟩ := List.mem_iff_getElem?.mp htick
  rw [getElem?_ticks_eq_true_iff (decide_eq_true horder) hmode] at hi
  obtain ⟨⟨x, hx, hfalls⟩, j, -, ⟨y, hy, hrises⟩, -⟩ := hi
  rcases hnone with hzero | hone
  · have hlt : x < h.still := of_decide_eq_true hfalls
    rw [hzero] at hlt
    exact absurd (hxs x (List.mem_of_getElem? hx)).1 (not_le_of_gt hlt)
  · have hlt : h.moving < y := of_decide_eq_true hrises
    exact absurd (hxs y (List.mem_of_getElem? hy)).2 (not_le_of_gt (hone.trans_lt hlt))

end Hysteresis

/-- A detector with such thresholds selects nothing. -/
theorem TickDetector.offerAll_ineffective (horder : still < moving) (hnone : still = 0 ∨ 1 ≤ moving)
    (huntagged : ∀ b ∈ frames, b.selected = false) :
    ((new ⟨still, moving, .still⟩).offerAll frames).1.ticks = 0 ∧
      ∀ b ∈ displacedFrom ⟨still, moving, .still⟩ frames, b.selected = false := by
  have hticks : (Hysteresis.ticks ⟨still, moving, .still⟩
      (differencesOf (acceptedOf frames))).count true = 0 :=
    List.count_eq_zero.mpr (Hysteresis.true_notMem_ticks horder rfl hnone fun x => mem_differencesOf)
  obtain ⟨hdetector, hdisplaced⟩ := offerAll_new ⟨still, moving, .still⟩ huntagged
  refine ⟨by rw [hdetector]; exact hticks, fun b hb => ?_⟩
  rw [displacedFrom, hdisplaced] at hb
  rw [← countP_displacedOf, List.countP_eq_zero] at hticks
  exact eq_false_of_ne_true (hticks b hb)

/-! ### Effective thresholds -/

/-- A frame of so many bytes, all of one value, in the slot of a number. -/
def flatFrame (slot len : Nat) (value : UInt8) : PooledBuffer :=
  ⟨0, slot, some (Array.replicate len value), len, false⟩

theorem bytes_flatFrame (slot len : Nat) (value : UInt8) :
    (flatFrame slot len value).bytes = Array.replicate len value := by
  simp [flatFrame, PooledBuffer.bytes]

/-- Black and white are as far apart as frames can be. -/
theorem diffSum_black_white (len : Nat) :
    diffSum (Array.replicate len 255) (Array.replicate len 0) = 255 * len := by
  apply Nat.le_antisymm
  · calc diffSum (Array.replicate len 255) (Array.replicate len 0)
        ≤ (Array.replicate len (255 : UInt8)).size * 255 := diffSum_le _ _
      _ = 255 * len := by rw [Array.size_replicate, Nat.mul_comm]
  · calc 255 * len = (Array.replicate len (255 : UInt8)).size * 255 := by
          rw [Array.size_replicate, Nat.mul_comm]
      _ ≤ diffSum (Array.replicate len 255) (Array.replicate len 0) := by
        refine le_diffSum (by rw [Array.size_replicate, Array.size_replicate]) fun i ha hb => ?_
        rw [Array.getElem_replicate, Array.getElem_replicate]
        decide

/-- A frame that turns white, and stays so. -/
def flashing (len : Nat) : List PooledBuffer :=
  [flatFrame 0 len 0, flatFrame 1 len 255, flatFrame 2 len 255]

theorem acceptedOf_flashing (hlen : 0 < len) : acceptedOf (flashing len) = flashing len := by
  have hne : len ≠ 0 := Nat.ne_of_gt hlen
  simp [acceptedOf, flashing, flatFrame, hne]

theorem differencesOf_flashing (hlen : 0 < len) : differencesOf (flashing len) = [(1 : Rat), 0] := by
  have hwhole : 0 < 255 * len := Nat.mul_pos (by decide) hlen
  have hzero : (Scale.ratio 0 (255 * len) : Rat) = 0 := by
    show ((0 : Nat) : Rat) / ((255 * len : Nat) : Rat) = 0
    rw [Nat.cast_zero, zero_div]
  simp only [differencesOf, flashing, List.zipWith_cons_cons, List.zipWith_nil_left,
    bytes_flatFrame, diffSum_black_white, diffSum_self]
  rw [show (flatFrame 0 len 0).len = len from rfl, ratio_self hwhole, hzero]

/-- The whole difference sets the scene moving, and no difference settles it. -/
theorem ticks_flashing (hstill : 0 < still) (hmoving : moving < 1) :
    (Hysteresis.ticks ⟨still, moving, .still⟩ [(1 : Rat), 0]) = [false, true] := by
  have hrises : Scale.lt moving (1 : Rat) = true := decide_eq_true hmoving
  have hfalls : Scale.lt (0 : Rat) still = true := decide_eq_true hstill
  simp [Hysteresis.ticks, Hysteresis.step, hrises, hfalls]

theorem mem_flashing (hb : b ∈ flashing len) :
    b.len = len ∧ b.bytes.size = len ∧ b.selected = false := by
  simp only [flashing, List.mem_cons, List.not_mem_nil, or_false] at hb
  rcases hb with rfl | rfl | rfl <;>
    exact ⟨rfl, by rw [bytes_flatFrame, Array.size_replicate], rfl⟩

theorem displacedFrom_flashing (hlen : 0 < len) (hstill : 0 < still) (hmoving : moving < 1) :
    TickDetector.displacedFrom ⟨still, moving, .still⟩ (flashing len) =
      [flatFrame 0 len 0, { flatFrame 1 len 255 with selected := true }] := by
  rw [TickDetector.displacedFrom, (TickDetector.offerAll_new _ fun b hb => (mem_flashing hb).2.2).2,
    acceptedOf_flashing hlen, displacedOf, differencesOf_flashing hlen,
    ticks_flashing hstill hmoving]
  rfl

namespace TickDetector

/-- Thresholds that are accepted can make a tick if the lower one is above zero and the upper one below
one, whatever the size of the frames; all others never do, whatever the frames. -/
theorem selects_iff_effective (hmake : Hysteresis.make still moving = .ok h) (hlen : 0 < len) :
    ((∃ frames, (∀ b ∈ frames, b.len = len ∧ b.bytes.size = len ∧ b.selected = false) ∧
        ∃ b ∈ displacedFrom h frames, b.selected = true) ↔ 0 < still ∧ moving < 1) ∧
      (¬(0 < still ∧ moving < 1) → ∀ frames : List PooledBuffer, (∀ b ∈ frames, b.selected = false) →
        ((new h).offerAll frames).1.ticks = 0 ∧
          ∀ b ∈ displacedFrom h frames, b.selected = false) := by
  obtain ⟨rfl, -, -, hnonneg, horder⟩ := Hysteresis.make_eq_ok_iff.mp hmake
  have hstill : 0 ≤ still := le_of_not_gt (of_decide_eq_false hnonneg)
  have hnever (hineffective : ¬(0 < still ∧ moving < 1)) (frames : List PooledBuffer)
      (huntagged : ∀ b ∈ frames, b.selected = false) :
      ((new ⟨still, moving, .still⟩).offerAll frames).1.ticks = 0 ∧
        ∀ b ∈ displacedFrom ⟨still, moving, .still⟩ frames, b.selected = false := by
    apply offerAll_ineffective (of_decide_eq_true horder) _ huntagged
    rcases hstill.eq_or_lt with hzero | hpos
    · exact .inl hzero.symm
    · exact .inr (le_of_not_gt fun hlt => hineffective ⟨hpos, hlt⟩)
  refine ⟨⟨?_, ?_⟩, hnever⟩
  · rintro ⟨frames, hframes, b, hb, hselected⟩
    by_contra hineffective
    have hunselected := (hnever hineffective frames fun b hb => (hframes b hb).2.2).2 b hb
    rw [hselected] at hunselected
    cases hunselected
  · rintro ⟨hpos, hlt⟩
    refine ⟨flashing len, fun b => mem_flashing, { flatFrame 1 len 255 with selected := true }, ?_,
      rfl⟩
    rw [displacedFrom_flashing hlen hpos hlt]
    exact List.mem_cons_of_mem _ List.mem_cons_self

/-- Thresholds of a tenth and a half are effective for frames of one byte; with zero for the tenth they
are not. -/
theorem selects_with_a_tenth :
    (Hysteresis.make (1 / 10 : Rat) (1 / 2) = .ok ⟨1 / 10, 1 / 2, .still⟩ ∧
      ∃ frames, (∀ b ∈ frames, b.len = 1 ∧ b.bytes.size = 1 ∧ b.selected = false) ∧
        ∃ b ∈ displacedFrom (⟨1 / 10, 1 / 2, .still⟩ : Hysteresis Rat) frames, b.selected = true) ∧
    Hysteresis.make (0 : Rat) (1 / 2) = .ok ⟨0, 1 / 2, .still⟩ ∧
      ¬∃ frames, (∀ b ∈ frames, b.len = 1 ∧ b.bytes.size = 1 ∧ b.selected = false) ∧
        ∃ b ∈ displacedFrom (⟨0, 1 / 2, .still⟩ : Hysteresis Rat) frames, b.selected = true := by
  have htenth : Hysteresis.make (1 / 10 : Rat) (1 / 2) = .ok ⟨1 / 10, 1 / 2, .still⟩ :=
    Hysteresis.make_eq_ok_iff.mpr ⟨rfl, rfl, rfl, by decide +kernel, by decide +kernel⟩
  have hzero : Hysteresis.make (0 : Rat) (1 / 2) = .ok ⟨0, 1 / 2, .still⟩ :=
    Hysteresis.make_eq_ok_iff.mpr ⟨rfl, rfl, rfl, by decide +kernel, by decide +kernel⟩
  refine ⟨⟨htenth, ?_⟩, hzero, ?_⟩
  · exact (selects_iff_effective htenth (by decide)).1.mpr (by decide +kernel)
  · rw [(selects_iff_effective hzero (by decide)).1]
    exact fun heffective => absurd heffective.1 (lt_irrefl 0)

end TickDetector
end TickCapture
