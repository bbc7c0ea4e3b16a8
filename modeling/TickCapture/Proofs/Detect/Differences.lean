import Mathlib.Algebra.GroupWithZero.Nat
import Mathlib.Algebra.Order.BigOperators.Group.List
import Mathlib.Algebra.Order.Group.Nat
import TickCapture.Detect.TickDetector

/-! # Sums of differences

Two frames differ by at most 255 for each byte that both have, and by nothing where they are equal. -/

namespace TickCapture

variable {a b : Bytes} {c : Nat}

/-- How far two bytes are apart. -/
def byteDiff (x y : UInt8) : Nat := if x ≤ y then y.toNat - x.toNat else x.toNat - y.toNat

theorem byteDiff_self (x : UInt8) : byteDiff x x = 0 := by
  simp [byteDiff]

theorem byteDiff_le (x y : UInt8) : byteDiff x y ≤ 255 := by
  have hx := x.toNat_lt
  have hy := y.toNat_lt
  unfold byteDiff
  split <;> omega

/-- Numbers apart by `c` are so in either direction. -/
theorem le_byteDiff {x y : UInt8} (h : x.toNat + c ≤ y.toNat ∨ y.toNat + c ≤ x.toNat) :
    c ≤ byteDiff x y := by
  unfold byteDiff
  split
  · next hle =>
    have : x.toNat ≤ y.toNat := hle
    omega
  · next hle =>
    have : ¬x.toNat ≤ y.toNat := hle
    omega

theorem diffSum_eq (a b : Bytes) :
    diffSum a b = (List.zipWith byteDiff a.toList b.toList).sum := by
  rw [List.sum_eq_foldl_nat, ← Array.toList_zipWith, Array.foldl_toList]
  rfl

theorem diffSum_self (a : Bytes) : diffSum a a = 0 := by
  rw [diffSum_eq]
  induction a.toList with
  | nil => rfl
  | cons x xs ih => rw [List.zipWith_cons_cons, List.sum_cons, byteDiff_self, ih]

theorem diffSum_le (a b : Bytes) : diffSum a b ≤ a.size * 255 := by
  have hdiffs : ∀ d ∈ List.zipWith byteDiff a.toList b.toList, d ≤ 255 := by
    intro d hd
    obtain ⟨i, hi, rfl⟩ := List.getElem_of_mem hd
    rw [List.getElem_zipWith]
    exact byteDiff_le _ _
  have hlength : (List.zipWith byteDiff a.toList b.toList).length ≤ a.size := by
    rw [List.length_zipWith, Array.length_toList]
    exact Nat.min_le_left _ _
  calc diffSum a b = (List.zipWith byteDiff a.toList b.toList).sum := diffSum_eq a b
    _ ≤ (List.zipWith byteDiff a.toList b.toList).length * 255 := List.sum_le_card_nsmul _ _ hdiffs
    _ ≤ a.size * 255 := Nat.mul_le_mul_right _ hlength

/-- Where all bytes are apart by `c` or more, the sum is as many times `c`. -/
theorem le_diffSum (hsize : a.size = b.size)
    (h : ∀ i (ha : i < a.size) (hb : i < b.size), c ≤ byteDiff a[i] b[i]) :
    a.size * c ≤ diffSum a b := by
  have hdiffs : ∀ d ∈ List.zipWith byteDiff a.toList b.toList, c ≤ d := by
    intro d hd
    obtain ⟨i, hi, rfl⟩ := List.getElem_of_mem hd
    rw [List.length_zipWith, Array.length_toList, Array.length_toList] at hi
    rw [List.getElem_zipWith]
    exact h i (Nat.lt_of_lt_of_le hi (Nat.min_le_left _ _))
      (Nat.lt_of_lt_of_le hi (Nat.min_le_right _ _))
  have hlength : (List.zipWith byteDiff a.toList b.toList).length = a.size := by
    rw [List.length_zipWith, Array.length_toList, Array.length_toList, ← hsize, Nat.min_self]
  calc a.size * c = (List.zipWith byteDiff a.toList b.toList).length * c := by rw [hlength]
    _ ≤ (List.zipWith byteDiff a.toList b.toList).sum := List.card_nsmul_le_sum _ _ hdiffs
    _ = diffSum a b := (diffSum_eq a b).symm

end TickCapture
