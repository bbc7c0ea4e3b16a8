import Mathlib.Data.List.ReduceOption
import TickCapture.Pipeline.Plant

/-! # A stage in changing surroundings

A stage takes turns: at each of them one of its requests is answered. A `Course` is what it has come
through. Between two turns the surroundings may become others, as far as `meanwhile` allows, and the
stage may be asked to stop at any moment.

What a stage counts at each of its turns it has counted in all (`Course.count_eq`), and if it passes on
at each of them what it was given before, it passes all on, in that order, but for what it has in hand
(`Course.flow_eq`). -/

namespace TickCapture

variable {ε α β : Type}

theorem filterMap_concat (f? : α → Option β) (xs : List α) (x : α) :
    (xs ++ [x]).filterMap f? = xs.filterMap f? ++ (f? x).toList := by
  rw [List.filterMap_append, List.filterMap_eq_flatMap_toList _ [x], List.flatMap_singleton]

/-- A turn of a stage: what was around it, and how far it was, when its request was answered. -/
structure Turn (ε α : Type) where
  around : ε
  worker : Worker α

/-- The turns by which a stage may have come from `w₀` amid `e₀` to where it is. -/
inductive Course (step : ε → Worker α → ε → Worker α → Prop) (meanwhile : ε → Worker α → ε → Prop)
    (e₀ : ε) (w₀ : Worker α) : List (Turn ε α) → ε → Worker α → Prop
  | start : Course step meanwhile e₀ w₀ [] e₀ w₀
  | meanwhile {ts : List (Turn ε α)} {e e' : ε} {w : Worker α} :
    Course step meanwhile e₀ w₀ ts e w → meanwhile e w e' → Course step meanwhile e₀ w₀ ts e' w
  | raiseStop {ts : List (Turn ε α)} {e : ε} {w : Worker α} :
    Course step meanwhile e₀ w₀ ts e w → Course step meanwhile e₀ w₀ ts e w.raiseStop
  | turn {ts : List (Turn ε α)} {e e' : ε} {w w' : Worker α} :
    Course step meanwhile e₀ w₀ ts e w → step e w e' w' →
    Course step meanwhile e₀ w₀ (ts ++ [⟨e, w⟩]) e' w'

namespace Course

variable {step : ε → Worker α → ε → Worker α → Prop} {meanwhile : ε → Worker α → ε → Prop}
  {e₀ e : ε} {w₀ w : Worker α} {ts ts' : List (Turn ε α)} {t : Turn ε α}

/-- The course up to one of its turns. -/
theorem before (H : Course step meanwhile e₀ w₀ (ts ++ t :: ts') e w) :
    Course step meanwhile e₀ w₀ ts t.around t.worker := by
  generalize hall : ts ++ t :: ts' = all at H
  induction H generalizing ts' with
  | start => simp at hall
  | meanwhile _ _ ih => exact ih hall
  | raiseStop _ ih => exact ih hall
  | turn H _ ih =>
    rcases List.eq_nil_or_concat ts' with rfl | ⟨rest, last, rfl⟩
    · obtain ⟨rfl, ht⟩ := List.append_inj' hall rfl
      obtain rfl := List.singleton_inj.mp ht
      exact H
    · rw [List.concat_eq_append, ← List.cons_append, ← List.append_assoc] at hall
      exact ih (List.append_inj' hall rfl).1

theorem of_mem (H : Course step meanwhile e₀ w₀ ts e w) (ht : t ∈ ts) :
    ∃ before, Course step meanwhile e₀ w₀ before t.around t.worker := by
  obtain ⟨before, after, rfl⟩ := List.append_of_mem ht
  exact ⟨before, H.before⟩

/-- What does not depend on the stop flag and holds after every turn. -/
theorem stage_invariant {P : α → Prop} (H : Course step meanwhile e₀ w₀ ts e w)
    (hstart : P w₀.stage)
    (hstep : ∀ {e w e' w'}, step e w e' w' → P w.stage → P w'.stage) : P w.stage := by
  induction H with
  | start => exact hstart
  | meanwhile _ _ ih => exact ih
  | raiseStop _ ih => exact ih
  | turn _ h ih => exact hstep h ih

/-- What is counted at some of the turns. -/
theorem count_eq (total : α → Nat) (counted : Turn ε α → Bool)
    (H : Course step meanwhile e₀ w₀ ts e w)
    (hstep : ∀ t ∈ ts, ∀ {e' w'}, step t.around t.worker e' w' →
      total w'.stage = total t.worker.stage + (counted t).toNat) :
    total w.stage = total w₀.stage + ts.countP counted := by
  induction H with
  | start => rfl
  | meanwhile _ _ ih => exact ih hstep
  | raiseStop _ ih => exact ih hstep
  | @turn ts e _ w _ _ h ih =>
    have hlast := hstep ⟨e, w⟩ (List.mem_append_right _ (List.mem_singleton_self _)) h
    rw [hlast, ih fun t ht => hstep t (List.mem_append_left _ ht), List.countP_append,
      List.countP_singleton, Nat.add_assoc]
    cases counted ⟨e, w⟩ <;> rfl

/-- What is passed on at the turns, and what is in hand then, is what was given, in that order. -/
theorem flow_eq (hand : α → List β) (given passed : Turn ε α → Option β)
    (H : Course step meanwhile e₀ w₀ ts e w)
    (hstep : ∀ t ∈ ts, ∀ {e' w'}, step t.around t.worker e' w' →
      hand t.worker.stage ++ (given t).toList = (passed t).toList ++ hand w'.stage) :
    hand w₀.stage ++ ts.filterMap given = ts.filterMap passed ++ hand w.stage := by
  induction H with
  | start => exact List.append_nil _
  | meanwhile _ _ ih => exact ih hstep
  | raiseStop _ ih => exact ih hstep
  | @turn ts e e' w w' _ h ih =>
    have hlast := hstep ⟨e, w⟩ (List.mem_append_right _ (List.mem_singleton_self _)) h
    rw [filterMap_concat, filterMap_concat, ← List.append_assoc,
      ih fun t ht => hstep t (List.mem_append_left _ ht), List.append_assoc, hlast,
      List.append_assoc]

/-- At most so many turns of a stage that is left alone, and where it comes to. -/
def alone (step? : ε → Worker α → Option (ε × Worker α)) :
    Nat → ε → Worker α → List (Turn ε α) × ε × Worker α
  | 0, e, w => ([], e, w)
  | n + 1, e, w =>
    match step? e w with
    | none => ([], e, w)
    | some (e', w') => (⟨e, w⟩ :: (alone step? n e' w').1, (alone step? n e' w').2)

theorem then_alone {step? : ε → Worker α → Option (ε × Worker α)}
    (H : Course (fun e w e' w' => step? e w = some (e', w')) meanwhile e₀ w₀ ts e w) (n : Nat) :
    Course (fun e w e' w' => step? e w = some (e', w')) meanwhile e₀ w₀
      (ts ++ (alone step? n e w).1) (alone step? n e w).2.1 (alone step? n e w).2.2 := by
  induction n generalizing ts e w with
  | zero => rwa [alone, List.append_nil]
  | succ n ih =>
    unfold alone
    split
    · rwa [List.append_nil]
    · next hstep =>
      have hlater := ih (H.turn hstep)
      rwa [List.append_assoc] at hlater

end Course
end TickCapture
