import TickCapture.Proofs.Detect.Episodes

/-! # Thresholds further apart

Two detectors look at the same differences, and one has its thresholds further apart. It may tick later
than the other, and at other differences, but not more often: when it moves while the other is still,
the other has ticked for this motion already. So its ticks, and one more while only it moves, are never
more than those of the other. -/

namespace TickCapture

variable {α : Type} [Scale α]

namespace Hysteresis

variable {wide narrow : Hysteresis α}

/-- What is beyond the thresholds of `wide` is beyond those of `narrow`. -/
structure Wider (wide narrow : Hysteresis α) : Prop where
  below (x : α) : Scale.lt x wide.still = true → Scale.lt x narrow.still = true
  above (x : α) : Scale.lt wide.moving x = true → Scale.lt narrow.moving x = true

/-- One tick is to come while `wide` moves alone. -/
def owed (wide narrow : Hysteresis α) : Nat :=
  if wide.mode = .moving ∧ narrow.mode = .still then 1 else 0

namespace Wider

theorem step (H : wide.Wider narrow) (x : α) : (wide.step x).1.Wider (narrow.step x).1 where
  below := by simpa using H.below
  above := by simpa using H.above

/-- What `wide` has ticked or owes after a difference the other has ticked, or was owed before. -/
theorem step_balance (H : wide.Wider narrow) (x : α) :
    (if (wide.step x).2 then 1 else 0) + owed (wide.step x).1 (narrow.step x).1 ≤
      (if (narrow.step x).2 then 1 else 0) + owed wide narrow := by
  have hbelow := H.below x
  have habove := H.above x
  obtain ⟨still, moving, mode⟩ := narrow
  obtain ⟨still', moving', mode'⟩ := wide
  cases mode' with
  | still =>
    cases mode with
    | still =>
      -- what sets `wide` moving sets both moving
      cases hx' : Scale.lt moving' x <;> cases hx : Scale.lt moving x <;>
        simp_all [Hysteresis.step, owed]
    | moving =>
      cases hx' : Scale.lt moving' x <;> cases hx : Scale.lt x still <;>
        simp_all [Hysteresis.step, owed]
  | moving =>
    cases mode with
    | still =>
      cases hx' : Scale.lt x still' <;> cases hx : Scale.lt moving x <;>
        simp_all [Hysteresis.step, owed]
    | moving =>
      -- what settles `wide` settles both
      cases hx' : Scale.lt x still' <;> cases hx : Scale.lt x still <;>
        simp_all [Hysteresis.step, owed]

theorem count_ticks_le (H : wide.Wider narrow) (xs : List α) :
    (wide.ticks xs).count true + owed (wide.after xs) (narrow.after xs) ≤
      (narrow.ticks xs).count true + owed wide narrow := by
  induction xs generalizing wide narrow with
  | nil => exact Nat.le_refl _
  | cons x xs ih =>
    have hstep := H.step_balance x
    have hrest := ih (H.step x)
    have hwide : wide.after (x :: xs) = (wide.step x).1.after xs := rfl
    have hnarrow : narrow.after (x :: xs) = (narrow.step x).1.after xs := rfl
    rw [ticks, ticks, hwide, hnarrow, List.count_cons, List.count_cons, beq_true, beq_true]
    omega

end Wider

theorem take_ticks (h : Hysteresis α) (xs : List α) (n : Nat) :
    (h.ticks xs).take n = h.ticks (xs.take n) := by
  induction xs generalizing h n with
  | nil => rw [ticks, List.take_nil, List.take_nil, ticks]
  | cons x xs ih =>
    cases n with
    | zero => rfl
    | succ n => rw [ticks, List.take_succ_cons, List.take_succ_cons, ticks, ih]

/-- At no moment do thresholds further apart have made more ticks, if the differences were the same. -/
theorem widening_adds_no_ticks [OrderedScale α] {still moving still' moving' : α}
    (hstill : Scale.isFinite still = true) (hmoving : Scale.isFinite moving = true)
    (hstill' : Scale.isFinite still' = true) (hmoving' : Scale.isFinite moving' = true)
    (hnonneg : Scale.lt still' Scale.zero = false) (hlower : Scale.lt still still' = false)
    (hgap : Scale.lt still moving = true) (hupper : Scale.lt moving' moving = false) :
    ∃ narrow wide, make still moving = .ok narrow ∧ make still' moving' = .ok wide ∧
      ∀ xs n, ((wide.ticks xs).take n).count true ≤ ((narrow.ticks xs).take n).count true := by
  have hzero : Scale.lt still Scale.zero = false := by
    by_contra hlt
    rcases OrderedScale.lt_or_lt hstill' ((Bool.not_eq_false _).mp hlt) with hlt | hlt
    · rw [hlower] at hlt
      cases hlt
    · rw [hnonneg] at hlt
      cases hlt
  have hgap' : Scale.lt still' moving' = true :=
    OrderedScale.lt_of_lt_of_not_lt hmoving'
      (OrderedScale.lt_of_not_lt_of_lt hstill' hlower hgap) hupper
  have hwider : Wider ⟨still', moving', .still⟩ ⟨still, moving, .still⟩ := {
    below := fun x hx => OrderedScale.lt_of_lt_of_not_lt hstill hx hlower
    above := fun x hx => OrderedScale.lt_of_not_lt_of_lt hmoving hupper hx }
  refine ⟨_, _, make_eq_ok_iff.mpr ⟨rfl, hstill, hmoving, hzero, hgap⟩,
    make_eq_ok_iff.mpr ⟨rfl, hstill', hmoving', hnonneg, hgap'⟩, fun xs n => ?_⟩
  rw [take_ticks, take_ticks]
  exact Nat.le_of_add_right_le (hwider.count_ticks_le (xs.take n))

/-- The wider thresholds take for one motion what the narrower ones take for two. -/
theorem widening_of_two_motions : ∃ narrow wide : Hysteresis Float, make 0.2 0.3 = .ok narrow ∧
    make 0.1 0.4 = .ok wide ∧ (narrow.ticks [0.5, 0.15, 0.35, 0.05]).count true = 2 ∧
    (wide.ticks [0.5, 0.15, 0.35, 0.05]).count true = 1 ∧
    ∀ n, ((wide.ticks [0.5, 0.15, 0.35, 0.05]).take n).count true ≤
      ((narrow.ticks [0.5, 0.15, 0.35, 0.05]).take n).count true := by
  obtain ⟨narrow, wide, hnarrow, hwide, hle⟩ : ∃ narrow wide : Hysteresis Float,
      make 0.2 0.3 = .ok narrow ∧ make 0.1 0.4 = .ok wide ∧ ∀ xs n,
        ((wide.ticks xs).take n).count true ≤ ((narrow.ticks xs).take n).count true :=
    widening_adds_no_ticks (by decide +kernel) (by decide +kernel) (by decide +kernel)
      (by decide +kernel) (by decide +kernel) (by decide +kernel) (by decide +kernel)
      (by decide +kernel)
  obtain ⟨rfl, -⟩ := make_eq_ok_iff.mp hnarrow
  obtain ⟨rfl, -⟩ := make_eq_ok_iff.mp hwide
  exact ⟨_, _, hnarrow, hwide, by decide +kernel, by decide +kernel, hle _⟩

end Hysteresis
end TickCapture
