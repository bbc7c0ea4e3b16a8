import TickCapture.Proofs.Detect.Offering
import TickCapture.Proofs.Detect.Scales

/-! # Ticks and episodes of motion

A difference above the upper threshold begins an episode of motion, unless one lasts already; the next
difference below the lower threshold ends it. A scene that is still at first moves during the episodes
and at no other time, and a tick is what ends an episode. So there are as many ticks as episodes, or
one less while the last episode lasts. Differences between the thresholds change nothing. -/

namespace TickCapture

variable {α : Type} [Scale α] {h : Hysteresis α} {still moving : α} {xs : List α} {x : α} {i : Nat}

namespace Hysteresis

/-! ### One difference -/

/-- Thresholds are accepted if they are finite and in order. The scene is still at first. -/
theorem make_eq_ok_iff : make still moving = .ok h ↔
    h = ⟨still, moving, .still⟩ ∧ Scale.isFinite still = true ∧ Scale.isFinite moving = true ∧
      Scale.lt still Scale.zero = false ∧ Scale.lt still moving = true := by
  constructor
  · intro hmake
    unfold make at hmake
    split at hmake
    · cases hmake
    · next hfinite =>
      split at hmake
      · cases hmake
      · next horder =>
        cases hmake
        simp only [Bool.or_eq_true, Bool.not_eq_true', not_or, Bool.not_eq_false] at hfinite horder
        exact ⟨rfl, hfinite.1, hfinite.2, eq_false_of_ne_true horder.1, horder.2⟩
  · rintro ⟨rfl, hstill, hmoving, hnonneg, horder⟩
    simp only [make, hstill, hmoving, hnonneg, horder]
    rfl

@[simp] theorem step_still_eq (h : Hysteresis α) (x : α) : (h.step x).1.still = h.still := by
  unfold step
  split <;> split <;> rfl

@[simp] theorem step_moving_eq (h : Hysteresis α) (x : α) : (h.step x).1.moving = h.moving := by
  unfold step
  split <;> split <;> rfl

theorem step_tick_iff (h : Hysteresis α) (x : α) :
    (h.step x).2 = true ↔ h.mode = .moving ∧ Scale.lt x h.still = true := by
  obtain ⟨still, moving, mode⟩ := h
  cases mode with
  | still => cases hx : Scale.lt moving x <;> simp [step, hx]
  | moving => cases hx : Scale.lt x still <;> simp [step, hx]

theorem step_mode_iff (h : Hysteresis α) (x : α) :
    (h.step x).1.mode = .moving ↔
      h.mode = .still ∧ Scale.lt h.moving x = true ∨
        h.mode = .moving ∧ Scale.lt x h.still = false := by
  obtain ⟨still, moving, mode⟩ := h
  cases mode with
  | still => cases hx : Scale.lt moving x <;> simp [step, hx]
  | moving => cases hx : Scale.lt x still <;> simp [step, hx]

/-- A difference between the thresholds changes nothing. -/
theorem step_of_between (hstill : Scale.lt x h.still = false) (hmoving : Scale.lt h.moving x = false) :
    h.step x = (h, false) := by
  obtain ⟨still, moving, mode⟩ := h
  cases mode with
  | still => exact if_neg (ne_true_of_eq_false hmoving)
  | moving => exact if_neg (ne_true_of_eq_false hstill)

/-! ### Differences one after another -/

@[simp] theorem after_still_eq (h : Hysteresis α) (xs : List α) : (h.after xs).still = h.still := by
  induction xs using List.reverseRecOn with
  | nil => rfl
  | append_singleton xs x ih => rw [after_concat, step_still_eq, ih]

@[simp] theorem after_moving_eq (h : Hysteresis α) (xs : List α) :
    (h.after xs).moving = h.moving := by
  induction xs using List.reverseRecOn with
  | nil => rfl
  | append_singleton xs x ih => rw [after_concat, step_moving_eq, ih]

theorem after_take_succ (h : Hysteresis α) (hx : xs[i]? = some x) :
    h.after (xs.take (i + 1)) = ((h.after (xs.take i)).step x).1 := by
  rw [List.take_add_one, hx, Option.toList_some, after_concat]

/-- Whether a difference is a tick is a matter of the state that those before it lead to. -/
theorem getElem?_ticks (h : Hysteresis α) (xs : List α) (i : Nat) :
    (h.ticks xs)[i]? = xs[i]?.map fun x => ((h.after (xs.take i)).step x).2 := by
  induction xs generalizing h i with
  | nil => rfl
  | cons x xs ih =>
    cases i with
    | zero => rfl
    | succ i =>
      rw [ticks, List.getElem?_cons_succ, List.getElem?_cons_succ, ih]
      rfl

/-- For each of the differences, whether the scene begins to move at it. -/
def onsets (h : Hysteresis α) : List α → List Bool
  | [] => []
  | x :: xs =>
    (decide (h.mode = .still) && decide ((h.step x).1.mode = .moving)) :: onsets (h.step x).1 xs

/-- What a difference adds to the ticks it takes from the motion that lasts, or from a beginning. -/
theorem step_balance (h : Hysteresis α) (x : α) :
    (if (h.step x).2 then 1 else 0) + (if (h.step x).1.mode = .moving then 1 else 0) =
      (if decide (h.mode = .still) && decide ((h.step x).1.mode = .moving) then 1 else 0) +
        if h.mode = .moving then 1 else 0 := by
  obtain ⟨still, moving, mode⟩ := h
  cases mode with
  | still => cases hx : Scale.lt moving x <;> simp [step, hx]
  | moving => cases hx : Scale.lt x still <;> simp [step, hx]

/-- A scene that begins to move settles later, or is moving in the end. -/
theorem count_ticks_add (h : Hysteresis α) (xs : List α) :
    (h.ticks xs).count true + (if (h.after xs).mode = .moving then 1 else 0) =
      (h.onsets xs).count true + (if h.mode = .moving then 1 else 0) := by
  induction xs generalizing h with
  | nil => rfl
  | cons x xs ih =>
    have hstep := h.step_balance x
    have hrest := ih (h.step x).1
    have hafter : h.after (x :: xs) = (h.step x).1.after xs := rfl
    rw [ticks, onsets, hafter, List.count_cons, List.count_cons, beq_true, beq_true]
    omega

/-! ### Episodes -/

/-- The difference at place `i` is above the upper threshold. -/
def RisesAt (h : Hysteresis α) (xs : List α) (i : Nat) : Prop :=
  ∃ x, xs[i]? = some x ∧ Scale.lt h.moving x = true

/-- The difference at place `i` is below the lower threshold. -/
def FallsAt (h : Hysteresis α) (xs : List α) (i : Nat) : Prop :=
  ∃ x, xs[i]? = some x ∧ Scale.lt x h.still = true

/-- Before place `i` a difference was above the upper threshold, and none after it has been below the
lower one. -/
def Stirred (h : Hysteresis α) (xs : List α) (i : Nat) : Prop :=
  ∃ j < i, h.RisesAt xs j ∧ ∀ k, j < k → k < i → ¬h.FallsAt xs k

theorem not_stirred_zero : ¬h.Stirred xs 0 := by
  rintro ⟨j, hj, -⟩
  exact Nat.not_lt_zero j hj

theorem stirred_succ_iff :
    h.Stirred xs (i + 1) ↔ h.RisesAt xs i ∨ h.Stirred xs i ∧ ¬h.FallsAt xs i := by
  constructor
  · rintro ⟨j, hj, hrises, hsince⟩
    rcases Nat.lt_succ_iff_lt_or_eq.mp hj with hj | rfl
    · refine .inr ⟨⟨j, hj, hrises, fun k hjk hki => ?_⟩, hsince i hj (Nat.lt_succ_self i)⟩
      exact hsince k hjk (Nat.lt_succ_of_lt hki)
    · exact .inl hrises
  · rintro (hrises | ⟨⟨j, hj, hrises, hsince⟩, hfalls⟩)
    · refine ⟨i, Nat.lt_succ_self i, hrises, fun k hik hki => ?_⟩
      exact absurd hik (Nat.not_lt_of_le (Nat.le_of_lt_succ hki))
    · refine ⟨j, Nat.lt_succ_of_lt hj, hrises, fun k hjk hki => ?_⟩
      rcases Nat.lt_succ_iff_lt_or_eq.mp hki with hki | rfl
      · exact hsince k hjk hki
      · exact hfalls

variable [OrderedScale α]

/-- A difference above the upper threshold sets the scene moving, or leaves it so: it is not below the
lower one. -/
theorem step_moves_iff (horder : Scale.lt h.still h.moving = true) (x : α) :
    (h.step x).1.mode = .moving ↔
      Scale.lt h.moving x = true ∨ h.mode = .moving ∧ ¬Scale.lt x h.still = true := by
  rw [step_mode_iff, Bool.not_eq_true]
  have hapart : Scale.lt h.moving x = true → Scale.lt x h.still = false := by
    intro hrises
    exact OrderedScale.not_lt_of_lt (OrderedScale.lt_trans horder hrises)
  cases hmode : h.mode with
  | still => simp
  | moving => simpa using hapart

/-- The scene moves during the episodes. -/
theorem after_take_moving_iff (horder : Scale.lt h.still h.moving = true) (hmode : h.mode = .still)
    (xs : List α) (hi : i ≤ xs.length) :
    (h.after (xs.take i)).mode = .moving ↔ h.Stirred xs i := by
  induction i with
  | zero =>
    rw [List.take_zero]
    refine iff_of_false ?_ not_stirred_zero
    show ¬h.mode = .moving
    rw [hmode]
    nofun
  | succ i ih =>
    obtain ⟨x, hx⟩ : ∃ x, xs[i]? = some x := ⟨_, List.getElem?_eq_getElem hi⟩
    have hrises : h.RisesAt xs i ↔ Scale.lt h.moving x = true := by simp [RisesAt, hx]
    have hfalls : h.FallsAt xs i ↔ Scale.lt x h.still = true := by simp [FallsAt, hx]
    rw [after_take_succ h hx, step_moves_iff (by simpa using horder), after_moving_eq,
      after_still_eq, ih (Nat.le_of_succ_le hi), stirred_succ_iff, hrises, hfalls]

/-- A tick is the first difference below the lower threshold after one above the upper. -/
theorem getElem?_ticks_eq_true_iff (horder : Scale.lt h.still h.moving = true)
    (hmode : h.mode = .still) (xs : List α) (i : Nat) :
    (h.ticks xs)[i]? = some true ↔ h.FallsAt xs i ∧ h.Stirred xs i := by
  cases hx : xs[i]? with
  | none => simp [getElem?_ticks, FallsAt, hx]
  | some x =>
    obtain ⟨hi, -⟩ := List.getElem?_eq_some_iff.mp hx
    have hfalls : h.FallsAt xs i ↔ Scale.lt x h.still = true := by simp [FallsAt, hx]
    rw [getElem?_ticks, hx, Option.map_some, Option.some_inj, step_tick_iff, after_still_eq,
      after_take_moving_iff horder hmode xs (Nat.le_of_lt hi), hfalls, and_comm]

/-- Ticks end the episodes of motion, of which the differences between the thresholds are no part. -/
theorem ticks_end_episodes (hmake : make still moving = .ok h) (xs : List α) :
    h = ⟨still, moving, .still⟩ ∧ (h.ticks xs).length = xs.length ∧
    (∀ i, (h.ticks xs)[i]? = some true ↔ h.FallsAt xs i ∧ h.Stirred xs i) ∧
    (∀ i < xs.length, (h.after (xs.take (i + 1))).mode = .moving ↔ h.Stirred xs (i + 1)) ∧
    (h.ticks xs).count true + (if (h.after xs).mode = .moving then 1 else 0) =
      (h.onsets xs).count true ∧
    ∀ i x, xs[i]? = some x → Scale.lt x still = false → Scale.lt moving x = false →
      h.after (xs.take (i + 1)) = h.after (xs.take i) ∧ (h.ticks xs)[i]? = some false := by
  obtain ⟨rfl, -, -, -, horder⟩ := make_eq_ok_iff.mp hmake
  refine ⟨rfl, length_ticks _ xs, getElem?_ticks_eq_true_iff horder rfl xs, fun i hi => ?_,
    count_ticks_add _ xs, fun i x hx hstill hmoving => ?_⟩
  · exact after_take_moving_iff horder rfl xs hi
  · generalize hstate : after ⟨still, moving, .still⟩ (xs.take i) = state
    have hbetween : state.step x = (state, false) := by
      apply step_of_between
      · rw [← hstate, after_still_eq]
        exact hstill
      · rw [← hstate, after_moving_eq]
        exact hmoving
    rw [after_take_succ _ hx, getElem?_ticks, hx, hstate, Option.map_some, hbetween]
    exact ⟨rfl, rfl⟩

/-- Differences of which the second is no number, and the third lies between the thresholds. -/
def unsteady : List Float := [0.1, 0 / 0, 0.00225, 0, 0.5]

/-- The first episode lasts until the fourth difference, and the second one lasts in the end. -/
theorem ticks_of_unsteady : make defaultStill defaultMoving = .ok standard ∧
    (standard.ticks unsteady)[3]? = some true ∧ (standard.after unsteady).mode = .moving ∧
    (standard.ticks unsteady).count true + 1 = (standard.onsets unsteady).count true := by
  have hfinite : Scale.isFinite defaultStill = true ∧ Scale.isFinite defaultMoving = true := by
    decide +kernel
  have horder : Scale.lt defaultStill Scale.zero = false ∧
      Scale.lt defaultStill defaultMoving = true := by decide +kernel
  have hmake : make defaultStill defaultMoving = .ok standard :=
    make_eq_ok_iff.mpr ⟨rfl, hfinite.1, hfinite.2, horder.1, horder.2⟩
  have hrises : ∀ x ∈ [(0.1 : Float), 0.5], Scale.lt standard.moving x = true := by decide +kernel
  have hsettles : Scale.lt (0 : Float) standard.still = true := by decide +kernel
  have hnot : ∀ x ∈ [(0 / 0 : Float), 0.00225], Scale.lt x standard.still = false := by
    decide +kernel
  obtain ⟨-, -, hticks, hmode, hcount, -⟩ := ticks_end_episodes hmake unsteady
  have hmoving : (standard.after unsteady).mode = .moving := by
    refine (hmode 4 (by decide)).mpr ⟨4, by decide, ⟨_, rfl, hrises _ (by simp)⟩, fun k hk hk' => ?_⟩
    omega
  refine ⟨hmake, (hticks 3).mpr ⟨⟨_, rfl, hsettles⟩, 0, by decide, ⟨_, rfl, hrises _ (by simp)⟩,
    fun k hk hk' => ?_⟩, hmoving, ?_⟩
  · rintro ⟨x, hx, hfalls⟩
    obtain rfl | rfl : k = 1 ∨ k = 2 := by omega
    · cases hx
      rw [hnot _ (by simp)] at hfalls
      cases hfalls
    · cases hx
      rw [hnot _ (by simp)] at hfalls
      cases hfalls
  · rwa [if_pos hmoving] at hcount

end Hysteresis
end TickCapture
