import Mathlib.Data.List.Nodup
import TickCapture.Proofs.Camera.Lending

/-! # The queue of a slot bank

Every start queues the buffers in the bank in the order of their numbers, and every buffer that comes
back is queued behind them. Written down one after another, the arrivals are a history, and the
buffers in the queue are in the order of their last places in it (`SlotBank.Queues`). While the camera
is streaming every buffer in the bank is in the queue, so the first one has been queued longest of all
that are there. -/

namespace TickCapture

/-! ### Arrivals -/

section Arrivals

variable {arrivals later l : List Nat} {i j : Nat}

/-- When `arrivals` have been queued one after another, `i` was queued last before `j` was. -/
def QueuedBefore (arrivals : List Nat) (i j : Nat) : Prop :=
  ∃ earlier later, arrivals = earlier ++ i :: later ∧ i ∉ later ∧ j ∈ later

theorem QueuedBefore.ne (h : QueuedBefore arrivals i j) : i ≠ j := by
  obtain ⟨_, _, -, hi, hj⟩ := h
  exact fun heq => hi (heq ▸ hj)

/-- Other arrivals change nothing about that. -/
theorem QueuedBefore.append (h : QueuedBefore arrivals i j) (hi : i ∉ later) :
    QueuedBefore (arrivals ++ later) i j := by
  obtain ⟨before, after, rfl, hafter, hj⟩ := h
  refine ⟨before, after ++ later, by simp, ?_, List.mem_append_left _ hj⟩
  exact fun hmem => (List.mem_append.mp hmem).elim hafter hi

/-- What arrives now is queued behind everything that arrived before. -/
theorem queuedBefore_concat (hi : i ∈ arrivals) (hne : i ≠ j) :
    QueuedBefore (arrivals ++ [j]) i j := by
  obtain ⟨after, before, hsplit, hlast⟩ := List.eq_append_cons_of_mem (List.mem_reverse.mpr hi)
  have hsplit : arrivals = before.reverse ++ i :: after.reverse := by
    rw [← List.reverse_reverse arrivals, hsplit]
    simp
  refine ⟨before.reverse, after.reverse ++ [j], by simp [hsplit], ?_, by simp⟩
  simp [hlast, hne]

/-- Nothing is queued behind what arrived last. -/
theorem not_queuedBefore_of_last : ¬QueuedBefore (arrivals ++ [i]) i j := by
  rintro ⟨earlier, later, hsplit, hi, hj⟩
  obtain rfl | ⟨later, k, rfl⟩ := List.eq_nil_or_concat later
  · cases hj
  · have hlast := congrArg List.getLast? hsplit
    rw [List.concat_eq_append, ← List.cons_append, ← List.append_assoc, List.getLast?_concat,
      List.getLast?_concat] at hlast
    cases hlast
    exact hi (by simp)

/-- Buffers that arrive together are queued in the order of their arrival. -/
theorem pairwise_queuedBefore (h : l.Nodup) : l.Pairwise (QueuedBefore (arrivals ++ l)) := by
  induction l generalizing arrivals with
  | nil => exact .nil
  | cons i l ih =>
    obtain ⟨hi, hl⟩ := List.nodup_cons.mp h
    refine .cons (fun j hj => ⟨arrivals, l, rfl, hi, hj⟩) ?_
    rw [List.append_cons]
    exact ih hl

end Arrivals

/-! ### The queue of a bank -/

namespace SlotBank

/-- The queue of a bank in which `arrivals` have been queued one after another. -/
structure Queues (arrivals : List Nat) (streaming : Bool) (b : SlotBank) : Prop where
  stored : ∀ i ∈ b.queued, i ∈ b.present
  arrived : ∀ i ∈ b.queued, i ∈ arrivals
  ordered : b.queued.Pairwise (QueuedBefore arrivals)
  /-- While streaming, everything in the bank is queued. -/
  complete : streaming = true → ∀ i ∈ b.present, i ∈ b.queued

namespace Queues

variable {b : SlotBank} {arrivals rest : List Nat} {streaming : Bool} {i : Nat} {memory : Bytes}
  {slot : DriverSlot} {lent : List DriverSlot}

theorem new (count size : Nat) : Queues [] false (.new count size) :=
  ⟨nofun, nofun, .nil, nofun⟩

theorem nodup (H : Queues arrivals streaming b) : b.queued.Nodup := H.ordered.imp QueuedBefore.ne

theorem fill (b : SlotBank) (arrivals : List Nat) :
    Queues (arrivals ++ b.present) true b.fill where
  stored _ hi := hi
  arrived _ hi := List.mem_append_right _ hi
  ordered := pairwise_queuedBefore b.nodup_present
  complete _ _ hi := hi

theorem clear (b : SlotBank) (arrivals : List Nat) : Queues arrivals false b.clear :=
  ⟨nofun, nofun, .nil, nofun⟩

/-- The first buffer of the queue has been queued longest. -/
theorem queuedBefore_of_head (H : Queues arrivals true b) (hqueued : b.queued = i :: rest) :
    i ∈ b.present ∧ ∀ j ∈ b.present, j ≠ i → QueuedBefore arrivals i j := by
  have hordered := H.ordered
  rw [hqueued] at hordered
  refine ⟨H.stored i (hqueued ▸ List.mem_cons_self), fun j hj hne => ?_⟩
  have hj := H.complete rfl j hj
  rw [hqueued] at hj
  exact List.rel_of_pairwise_cons hordered ((List.mem_cons.mp hj).resolve_left hne)

/-- The queue is empty only when everything is on loan. -/
theorem queued_eq_nil_iff (H : Queues arrivals true b) : b.queued = [] ↔ b.present = [] := by
  rw [List.eq_nil_iff_forall_not_mem, List.eq_nil_iff_forall_not_mem]
  exact ⟨fun h i hi => h i (H.complete rfl i hi), fun h i hi => h i (H.stored i hi)⟩

theorem take (H : Queues arrivals streaming b) (hqueued : b.queued = i :: rest)
    (hslot : b.slots[i]? = some (some memory)) :
    Queues arrivals streaming ⟨b.slots.setIfInBounds i none, rest⟩ := by
  have hpresent := present_of_set_none hslot
    (rfl : (⟨b.slots.setIfInBounds i none, rest⟩ : SlotBank).slots = _)
  have habsent := (List.nodup_cons.mp (hpresent.nodup_iff.mp b.nodup_present)).1
  have hnodup := H.nodup
  have hordered := H.ordered
  rw [hqueued] at hnodup hordered
  obtain ⟨hi, -⟩ := List.nodup_cons.mp hnodup
  refine ⟨fun j hj => ?_, fun j hj => ?_, hordered.of_cons, fun hstreaming j hj => ?_⟩
  · have hmem := hpresent.mem_iff.mp (H.stored j (hqueued ▸ List.mem_cons_of_mem i hj))
    exact (List.mem_cons.mp hmem).resolve_left fun heq => hi (heq ▸ hj)
  · exact H.arrived j (hqueued ▸ List.mem_cons_of_mem i hj)
  · have hmem := H.complete hstreaming j (hpresent.mem_iff.mpr (List.mem_cons_of_mem i hj))
    rw [hqueued] at hmem
    exact (List.mem_cons.mp hmem).resolve_left fun heq => habsent (heq ▸ hj)

/-- A buffer that comes back is queued behind all others. -/
theorem requeue (H : Queues arrivals streaming b) (hlends : b.Lends (slot :: lent)) :
    Queues (arrivals ++ [slot.index]) streaming (b.requeue slot).1 := by
  have habsent := hlends.not_mem_present
  rw [hlends.requeue_eq]
  have hpresent := present_of_set_some hlends.slots_eq
    (rfl : (⟨b.slots.setIfInBounds slot.index (some slot.memory),
      b.queued ++ [slot.index]⟩ : SlotBank).slots = _)
  have hother {j : Nat} (hj : j ∈ b.queued) : j ≠ slot.index :=
    fun heq => habsent (heq ▸ H.stored j hj)
  refine ⟨fun j hj => ?_, fun j hj => ?_, ?_, fun hstreaming j hj => ?_⟩
  · obtain hold | hnew := List.mem_append.mp hj
    · exact hpresent.mem_iff.mpr (List.mem_cons_of_mem _ (H.stored j hold))
    · exact hpresent.mem_iff.mpr (List.mem_cons.mpr (.inl (List.mem_singleton.mp hnew)))
  · exact (List.mem_append.mp hj).elim (fun hold => List.mem_append_left _ (H.arrived j hold))
      (List.mem_append_right _)
  · refine List.pairwise_append.mpr ⟨?_, List.pairwise_singleton _ _, fun j hj k hk => ?_⟩
    · refine H.ordered.imp_of_mem fun hj _ hbefore => hbefore.append ?_
      exact fun hmem => hother hj (List.mem_singleton.mp hmem)
    · obtain rfl := List.mem_singleton.mp hk
      exact queuedBefore_concat (H.arrived j hj) (hother hj)
  · obtain rfl | hold := List.mem_cons.mp (hpresent.mem_iff.mp hj)
    · exact List.mem_append_right _ (List.mem_singleton_self _)
    · exact List.mem_append_left _ (H.complete hstreaming j hold)

end Queues

end SlotBank

end TickCapture
