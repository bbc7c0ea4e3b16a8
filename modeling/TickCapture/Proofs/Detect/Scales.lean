import Mathlib.Algebra.Order.Ring.Rat
import Mathlib.Data.Prod.Lex
import TickCapture.Detect.Hysteresis

/-! # The order of a scale

The values of an `OrderedScale` are compared as numbers are, except that some of them need not be
numbers; those are neither below nor above any other. Doubles are such a scale, and so are fractions.

A double that is a number has a rank, made of its sign, its exponent and its mantissa (`rank?`). Of two
doubles the lower one is that of the lower rank. -/

namespace TickCapture

/-- A scale whose values are compared as numbers, as far as they are numbers. The finite ones are. -/
class OrderedScale (α : Type) [Scale α] : Prop where
  lt_irrefl (x : α) : Scale.lt x x = false
  lt_trans {x y z : α} : Scale.lt x y = true → Scale.lt y z = true → Scale.lt x z = true
  /-- A finite value is above the lower or below the upper one of two values. -/
  lt_or_lt {x y z : α} : Scale.isFinite y = true → Scale.lt x z = true →
    Scale.lt x y = true ∨ Scale.lt y z = true

namespace OrderedScale

variable {α : Type} [Scale α] [OrderedScale α] {x y z : α}

theorem not_lt_of_lt (hxy : Scale.lt x y = true) : Scale.lt y x = false := by
  by_contra hyx
  rw [Bool.not_eq_false] at hyx
  have hxx : Scale.lt x x = true := OrderedScale.lt_trans hxy hyx
  rw [OrderedScale.lt_irrefl] at hxx
  cases hxx

/-- What is below `y` is below any finite value that `y` is not above. -/
theorem lt_of_lt_of_not_lt (hz : Scale.isFinite z = true) (hxy : Scale.lt x y = true)
    (hzy : Scale.lt z y = false) : Scale.lt x z = true := by
  rcases OrderedScale.lt_or_lt hz hxy with hxz | hlt
  · exact hxz
  · rw [hzy] at hlt
    cases hlt

/-- What is above `y` is above any finite value that is not above `y`. -/
theorem lt_of_not_lt_of_lt (hx : Scale.isFinite x = true) (hyx : Scale.lt y x = false)
    (hyz : Scale.lt y z = true) : Scale.lt x z = true := by
  rcases OrderedScale.lt_or_lt hx hyz with hlt | hxz
  · rw [hyx] at hlt
    cases hlt
  · exact hxz

end OrderedScale

instance : OrderedScale Rat where
  lt_irrefl x := decide_eq_false (lt_irrefl x)
  lt_trans := by
    intro x y z hxy hyz
    exact decide_eq_true ((of_decide_eq_true hxy).trans (of_decide_eq_true hyz))
  lt_or_lt := by
    intro x y z _ hxz
    rcases lt_or_ge x y with hxy | hyx
    · exact .inl (decide_eq_true hxy)
    · exact .inr (decide_eq_true (hyx.trans_lt (of_decide_eq_true hxz)))

/-! ### Doubles -/

open Float.Model

/-- Where a double stands among those that are numbers. -/
def rank? : UnpackedFloat → Option (Int ×ₗ Int ×ₗ Int)
  | .notANumber => none
  | .infinity .negative => some (toLex (-2, toLex (0, 0)))
  | .finite .negative m e _ => some (toLex (-1, toLex (-e, -m)))
  | .zero _ => some (toLex (0, toLex (0, 0)))
  | .finite .positive m e _ => some (toLex (1, toLex (e, m)))
  | .infinity .positive => some (toLex (2, toLex (0, 0)))

section Magnitudes

variable (e₁ e₂ : Int) (m₁ m₂ : Nat)

theorem magnitude_lt_iff : (compare e₁ e₂).then (compare m₁ m₂) = .lt ↔
    toLex (e₁, (m₁ : Int)) < toLex (e₂, (m₂ : Int)) := by
  simp [Ordering.then_eq_lt, compare_lt_iff_lt, Prod.Lex.toLex_lt_toLex]

/-- Of negative numbers the larger magnitude is the lower one. -/
theorem magnitude_gt_iff : (compare e₁ e₂).then (compare m₁ m₂) = .gt ↔
    toLex (-e₁, -(m₁ : Int)) < toLex (-e₂, -(m₂ : Int)) := by
  simp [Ordering.then_eq_gt, compare_gt_iff_gt, Prod.Lex.toLex_lt_toLex]

end Magnitudes

theorem lt_iff_rank_lt (a b : UnpackedFloat) :
    a.lt b = true ↔ ∃ r s, rank? a = some r ∧ rank? b = some s ∧ r < s := by
  rcases a with ⟨_ | _⟩ | _ | _ | ⟨_ | _, m₁, e₁, _⟩ <;>
    rcases b with ⟨_ | _⟩ | _ | _ | ⟨_ | _, m₂, e₂, _⟩ <;>
      dsimp only [rank?, UnpackedFloat.lt, UnpackedFloat.compare] <;>
        simp [Prod.Lex.toLex_lt_toLex, magnitude_lt_iff, magnitude_gt_iff]
  -- the signs of two infinities are compared by themselves
  rfl

theorem rank?_of_isFinite {a : UnpackedFloat} (h : a.isFinite = true) : ∃ r, rank? a = some r := by
  rcases a with _ | _ | _ | ⟨_ | _, m, e, _⟩
  · cases h
  · cases h
  · exact ⟨_, rfl⟩
  · exact ⟨_, rfl⟩
  · exact ⟨_, rfl⟩

theorem scale_lt_iff (x y : Float) : Scale.lt x y = true ↔
    ∃ r s, rank? x.toModel.unpack = some r ∧ rank? y.toModel.unpack = some s ∧ r < s := by
  rw [← lt_iff_rank_lt]
  show decide (x < y) = true ↔ _
  rw [decide_eq_true_iff]
  show decide (x.toModel < y.toModel) = true ↔ _
  rw [decide_eq_true_iff]
  rfl

instance : OrderedScale Float where
  lt_irrefl x := by
    by_contra hxx
    rw [Bool.not_eq_false, scale_lt_iff] at hxx
    obtain ⟨r, s, hr, hs, hlt⟩ := hxx
    cases hr.symm.trans hs
    exact lt_irrefl r hlt
  lt_trans := by
    intro x y z hxy hyz
    rw [scale_lt_iff] at hxy hyz ⊢
    obtain ⟨r, s, hr, hs, hrs⟩ := hxy
    obtain ⟨s', t, hs', ht, hst⟩ := hyz
    cases hs.symm.trans hs'
    exact ⟨r, t, hr, ht, hrs.trans hst⟩
  lt_or_lt := by
    intro x y z hy hxz
    rw [scale_lt_iff] at hxz
    rw [scale_lt_iff, scale_lt_iff]
    obtain ⟨r, t, hr, ht, hrt⟩ := hxz
    obtain ⟨s, hs⟩ : ∃ s, rank? y.toModel.unpack = some s := rank?_of_isFinite hy
    rcases lt_or_ge r s with hrs | hsr
    · exact .inl ⟨r, s, hr, hs, hrs⟩
    · exact .inr ⟨s, t, hs, ht, hsr.trans_lt hrt⟩

end TickCapture
