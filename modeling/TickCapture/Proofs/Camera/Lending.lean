import TickCapture.Proofs.Camera.Requests
import TickCapture.Rehearsal.ScriptedCamera

/-! # A slot bank and the buffers lent out of it

`SlotBank.Lends b lent` says that `lent` are the buffers of `b` on loan: every buffer is in the bank or
on loan, once. Taking a frame lends a buffer, and a buffer on loan is never refused when it comes
back.

A `BankedCamera` is a kind of camera some of which keep their buffers in such a bank. Synthetic
cameras do, and so do scripted cameras with a synthetic camera inside, which fail when the script says
so. -/

namespace TickCapture

/-- The buffer of a frame is of some kind, if it still has one. -/
def Captured.Holds (P : Bytes → Prop) (frame : Captured) : Prop :=
  ∀ slot, frame.slot = some slot → P slot.memory

namespace SlotBank

/-- `lent` are the buffers on loan. -/
def Lends (b : SlotBank) (lent : List DriverSlot) : Prop :=
  (b.present ++ lent.map (·.index)).Perm (List.range b.slots.size)

variable {b b' : SlotBank} {lent lent' : List DriverSlot} {slot : DriverSlot} {i : Nat}

theorem mem_present : i ∈ b.present ↔ ∃ memory, b.slots[i]? = some (some memory) := by
  simp only [present, List.mem_filter, List.mem_range, Option.isSome_iff_exists,
    Option.join_eq_some_iff]
  refine ⟨And.right, fun ⟨memory, h⟩ => ⟨?_, memory, h⟩⟩
  exact (Array.getElem?_eq_some_iff.mp h).1

theorem nodup_present (b : SlotBank) : b.present.Nodup := List.nodup_range.filter _

theorem present_congr (h : b'.slots = b.slots) : b'.present = b.present := by
  simp only [present, h]

theorem present_new (count size : Nat) : (SlotBank.new count size).present = List.range count := by
  simp only [present, new, Array.size_replicate]
  refine List.filter_eq_self.mpr fun i hi => ?_
  simp [List.mem_range.mp hi]

/-- Storage that leaves the bank is the only one that does. -/
theorem present_of_set_none {memory : Bytes} (h : b.slots[i]? = some (some memory))
    (h' : b'.slots = b.slots.setIfInBounds i none) : b.present.Perm (i :: b'.present) := by
  obtain ⟨hlt, -⟩ := Array.getElem?_eq_some_iff.mp h
  have hi : i ∉ b'.present := by
    simp [mem_present, h', Array.getElem?_setIfInBounds_self_of_lt hlt]
  refine (List.perm_ext_iff_of_nodup b.nodup_present
    (List.nodup_cons.mpr ⟨hi, b'.nodup_present⟩)).mpr fun j => ?_
  rw [List.mem_cons, mem_present, mem_present, h']
  by_cases hj : j = i
  · subst hj
    exact ⟨fun _ => .inl rfl, fun _ => ⟨memory, h⟩⟩
  · rw [Array.getElem?_setIfInBounds_ne (Ne.symm hj)]
    exact ⟨.inr, fun h => h.resolve_left hj⟩

/-- Storage that comes back to the bank is the only one that does. -/
theorem present_of_set_some {memory : Bytes} (h : b.slots[i]? = some none)
    (h' : b'.slots = b.slots.setIfInBounds i (some memory)) : b'.present.Perm (i :: b.present) := by
  obtain ⟨hlt, -⟩ := Array.getElem?_eq_some_iff.mp h
  refine present_of_set_none (?_ : b'.slots[i]? = some (some memory)) ?_
  · rw [h', Array.getElem?_setIfInBounds_self_of_lt hlt]
  · refine Array.ext_getElem? fun j => ?_
    by_cases hj : j = i
    · subst hj
      simpa [h', Array.getElem?_setIfInBounds_self_of_lt, hlt] using h
    · simp [h', Array.getElem?_setIfInBounds_ne (Ne.symm hj)]

namespace Lends

theorem new (count size : Nat) : (SlotBank.new count size).Lends [] := by
  rw [Lends, present_new]
  simp [SlotBank.new]

theorem perm (H : b.Lends lent) (h : lent.Perm lent') : b.Lends lent' :=
  ((h.map _).append_left _).symm.trans H

theorem congr (H : b.Lends lent) (h : b'.slots = b.slots) : b'.Lends lent := by
  rw [Lends, present_congr h, h]
  exact H

/-- When nothing is on loan every buffer is in the bank. -/
theorem present_eq (H : b.Lends []) : b.present = List.range b.slots.size := by
  have hlength := H.length_eq
  rw [List.map_nil, List.append_nil] at hlength
  exact List.filter_sublist.eq_of_length hlength

theorem take {memory : Bytes} (H : b.Lends lent) (h : b.slots[slot.index]? = some (some memory))
    (h' : b'.slots = b.slots.setIfInBounds slot.index none) : b'.Lends (slot :: lent) := by
  have hsize : b'.slots.size = b.slots.size := by simp [h']
  rw [Lends, hsize]
  refine .trans ?_ H
  exact List.perm_middle.trans ((present_of_set_none h h').symm.append_right _)

theorem not_mem_present (H : b.Lends (slot :: lent)) : slot.index ∉ b.present := by
  have hslots : (slot.index :: (b.present ++ lent.map (·.index))).Perm (List.range b.slots.size) :=
    List.perm_middle.symm.trans H
  have hnodup := List.nodup_cons.mp (hslots.nodup_iff.mpr List.nodup_range)
  exact fun hpresent => hnodup.1 (List.mem_append_left _ hpresent)

theorem slots_eq (H : b.Lends (slot :: lent)) : b.slots[slot.index]? = some none := by
  have hlt : slot.index < b.slots.size :=
    List.mem_range.mp (H.mem_iff.mp (List.mem_append_right _ List.mem_cons_self))
  cases hs : b.slots[slot.index]? with
  | none => exact absurd (Array.getElem?_eq_none_iff.mp hs) (Nat.not_le_of_lt hlt)
  | some o =>
    cases o with
    | none => rfl
    | some memory => exact absurd (mem_present.mpr ⟨memory, hs⟩) H.not_mem_present

/-- A buffer on loan is taken back, and queued behind the others. -/
theorem requeue_eq (H : b.Lends (slot :: lent)) :
    b.requeue slot = (⟨b.slots.setIfInBounds slot.index (some slot.memory),
      b.queued ++ [slot.index]⟩, none) := by
  rw [SlotBank.requeue, H.slots_eq]

theorem requeue (H : b.Lends (slot :: lent)) :
    (b.requeue slot).2 = none ∧ (b.requeue slot).1.Lends lent ∧
      (b.requeue slot).1.slots.size = b.slots.size := by
  rw [H.requeue_eq]
  refine ⟨rfl, ?_, by simp⟩
  rw [Lends, Array.size_setIfInBounds]
  exact (((present_of_set_some H.slots_eq rfl).append_right _).trans List.perm_middle.symm).trans H

end Lends

/-! ### Storage -/

/-- All storage in the bank is of one kind. -/
def Stores (P : Bytes → Prop) (b : SlotBank) : Prop := ∀ memory, some memory ∈ b.slots → P memory

namespace Stores

variable {P : Bytes → Prop}

theorem new {size : Nat} (count : Nat) (h : P (.zeros size)) : (SlotBank.new count size).Stores P := by
  intro memory hmemory
  obtain ⟨-, hzeros⟩ := Array.mem_replicate.mp hmemory
  cases hzeros
  exact h

theorem of_slots {memory : Bytes} (H : b.Stores P) (h : b.slots[i]? = some (some memory)) : P memory :=
  H memory (Array.mem_of_getElem? h)

theorem take (H : b.Stores P) (h : b'.slots = b.slots.setIfInBounds i none) : b'.Stores P := by
  intro memory hmemory
  rw [h] at hmemory
  exact H memory ((Array.mem_or_eq_of_mem_setIfInBounds hmemory).resolve_right nofun)

theorem requeue (H : b.Stores P) (h : P slot.memory) : (b.requeue slot).1.Stores P := by
  unfold SlotBank.requeue
  split
  · exact H
  · exact H
  · intro memory hmemory
    obtain hold | hnew := Array.mem_or_eq_of_mem_setIfInBounds hmemory
    · exact H memory hold
    · cases hnew
      exact h

theorem giveBack {frame : Captured} (H : b.Stores P) (h : frame.Holds P) :
    (TickCapture.giveBack b frame).1.Stores P := by
  unfold TickCapture.giveBack
  split
  · next hslot => exact H.requeue (h _ hslot)
  · exact H

end Stores
end SlotBank

/-- Cameras whose buffers may lie in a slot bank. -/
class BankedCamera (κ : Type) extends Camera κ where
  bank? : κ → Option SlotBank
  bank_requeue : ∀ {c : κ} {b : SlotBank} (slot : DriverSlot), bank? c = some b →
    bank? (DriverQueue.requeue c slot).1 = some (b.requeue slot).1 ∧
      (DriverQueue.requeue c slot).2 = (b.requeue slot).2
  bank_start : ∀ {c : κ} {b : SlotBank}, bank? c = some b →
    ∃ b', bank? (Camera.start c).1 = some b' ∧ b'.slots = b.slots
  bank_stop : ∀ {c : κ} {b : SlotBank}, bank? c = some b →
    ∃ b', bank? (Camera.stop c).1 = some b' ∧ b'.slots = b.slots
  bank_poll : ∀ {c c' : κ} {b : SlotBank} {now deadline : Clock} {r : Readiness},
    bank? c = some b → Camera.poll c now deadline = (c', r) →
    ∃ b', bank? c' = some b' ∧ b'.slots = b.slots
  bank_failed : ∀ {c c' : κ} {b : SlotBank} {moment : Moment} {e : DequeueError},
    bank? c = some b → Camera.dequeue c moment = (c', .failed e) →
    ∃ b', bank? c' = some b' ∧ b'.slots = b.slots
  /-- A frame comes in a buffer that was in the bank, and leaves it with no other. -/
  bank_frame : ∀ {c c' : κ} {b : SlotBank} {moment : Moment} {f : Captured},
    bank? c = some b → Camera.dequeue c moment = (c', .frame f) →
    ∃ b' slot memory, bank? c' = some b' ∧ f.slot = some slot ∧
      b.slots[slot.index]? = some (some memory) ∧
      b'.slots = b.slots.setIfInBounds slot.index none

namespace BankedCamera

/-- `c` has `count` buffers in its bank or on loan with the frames `lent`. -/
def Lends {κ : Type} [BankedCamera κ] (c : κ) (count : Nat) (lent : List Captured) : Prop :=
  ∃ b, bank? c = some b ∧ b.slots.size = count ∧ b.Lends (lent.filterMap (·.slot))

namespace Lends

variable {κ : Type} [BankedCamera κ] {c c' : κ} {count : Nat} {lent lent' : List Captured}
  {f : Captured}

theorem new {size : Nat} (h : bank? c = some (.new count size)) : Lends c count [] :=
  ⟨_, h, by simp [SlotBank.new], .new count size⟩

theorem perm (H : Lends c count lent) (h : lent.Perm lent') : Lends c count lent' := by
  obtain ⟨b, hb, hsize, hlends⟩ := H
  exact ⟨b, hb, hsize, hlends.perm (h.filterMap _)⟩

theorem congr (H : Lends c count lent)
    (h : ∀ {b}, bank? c = some b → ∃ b', bank? c' = some b' ∧ b'.slots = b.slots) :
    Lends c' count lent := by
  obtain ⟨b, hb, hsize, hlends⟩ := H
  obtain ⟨b', hb', hslots⟩ := h hb
  exact ⟨b', hb', by rw [hslots, hsize], hlends.congr hslots⟩

/-- A frame that is taken is on loan. -/
theorem dequeue {moment : Moment} (H : Lends c count lent)
    (h : Camera.dequeue c moment = (c', .frame f)) : Lends c' count (f :: lent) := by
  obtain ⟨b, hb, hsize, hlends⟩ := H
  obtain ⟨b', slot, memory, hb', hslot, hmem, hset⟩ := bank_frame hb h
  refine ⟨b', hb', by simp [hset, hsize], ?_⟩
  rw [List.filterMap_cons_some hslot]
  exact hlends.take hmem hset

/-- The buffer of a frame on loan is not refused. -/
theorem giveBack (H : Lends c count (f :: lent)) :
    (TickCapture.giveBack c f).2 = none ∧ Lends (TickCapture.giveBack c f).1 count lent := by
  obtain ⟨b, hb, hsize, hlends⟩ := H
  unfold TickCapture.giveBack
  cases hslot : f.slot with
  | none =>
    rw [List.filterMap_cons_none hslot] at hlends
    exact ⟨rfl, b, hb, hsize, hlends⟩
  | some slot =>
    rw [List.filterMap_cons_some hslot] at hlends
    obtain ⟨hok, hlends, hsize'⟩ := hlends.requeue
    obtain ⟨hb', hanswer⟩ := bank_requeue slot hb
    exact ⟨hanswer.trans hok, _, hb', hsize'.trans hsize, hlends⟩

theorem discard (H : Lends c count (f :: lent)) :
    Lends (TickCapture.discard c f).1 count lent := H.giveBack.2

end Lends
end BankedCamera

/-! ### Synthetic cameras -/

namespace SyntheticCamera

theorem bank_poll (c : SyntheticCamera) (now deadline : Clock) :
    (c.poll now deadline).1.bank = c.bank := by
  obtain ⟨due, hdue⟩ := c.poll_eq now deadline
  rw [hdue]

/-- An attempt that fails leaves all storage where it is. -/
theorem slots_of_dequeue_failed {c c' : SyntheticCamera} {moment : Moment} {e : DequeueError}
    (h : c.dequeue moment = (c', .failed e)) : c'.bank.slots = c.bank.slots := by
  have hattempt := c.attempt moment
  rw [h] at hattempt
  cases hattempt with
  | idle _ | transient _ _ | empty _ _ | astray _ _ _ => rfl
  | lends _ _ _ hloan => cases hloan

theorem slots_of_dequeue_frame {c c' : SyntheticCamera} {moment : Moment} {f : Captured}
    (h : c.dequeue moment = (c', .frame f)) : ∃ slot memory, f.slot = some slot ∧
      c.bank.slots[slot.index]? = some (some memory) ∧
      c'.bank.slots = c.bank.slots.setIfInBounds slot.index none := by
  have hattempt := c.attempt moment
  rw [h] at hattempt
  cases hattempt with
  | lends _ _ hslot hloan =>
    obtain ⟨_, _, _, hcamera⟩ := hloan.camera_eq
    have hbank := congrArg (·.bank.slots) hcamera
    cases hloan with
    | frame _ _ => exact ⟨_, _, rfl, hslot, hbank⟩

end SyntheticCamera

instance : BankedCamera SyntheticCamera where
  bank? c := some c.bank
  bank_requeue slot h := by cases h; exact ⟨rfl, rfl⟩
  bank_start h := by cases h; exact ⟨_, rfl, rfl⟩
  bank_stop h := by cases h; exact ⟨_, rfl, rfl⟩
  bank_poll h hp := by
    cases h
    have hbank := (congrArg (·.1.bank) hp).symm.trans (SyntheticCamera.bank_poll _ _ _)
    exact ⟨_, rfl, congrArg SlotBank.slots hbank⟩
  bank_failed h hd := by cases h; exact ⟨_, rfl, SyntheticCamera.slots_of_dequeue_failed hd⟩
  bank_frame h hd := by
    cases h
    obtain ⟨slot, memory, hslot, hmem, hset⟩ := SyntheticCamera.slots_of_dequeue_frame hd
    exact ⟨_, slot, memory, rfl, hslot, hmem, hset⟩

/-! ### Scripted cameras -/

namespace ScriptedCamera

/-- The bank of the camera inside, if there is one. -/
def bank? (c : ScriptedCamera) : Option SlotBank := c.inner.map (·.bank)

theorem bank?_eq_some {c : ScriptedCamera} {b : SlotBank} (h : c.bank? = some b) :
    ∃ inner, c.inner = some inner ∧ inner.bank = b := Option.map_eq_some_iff.mp h

theorem bank?_of_poll {c c' : ScriptedCamera} {now deadline : Clock} {r : Readiness}
    (h : c.poll now deadline = (c', r)) : c'.bank? = c.bank? := by
  unfold poll at h
  split at h
  · cases h; rfl
  · dsimp only at h
    split at h
    · cases h; rfl
    · cases h; rfl
    · cases h; rfl
    · next inner _ hinner =>
      cases h
      simp only [bank?, hinner, Option.map_some]
      rw [SyntheticCamera.bank_poll]

/-- Either the script answers and the camera inside is as before, or that camera answers. -/
theorem dequeue_cases {c c' : ScriptedCamera} {inner : SyntheticCamera} {moment : Moment}
    {d : Dequeued} (hi : c.inner = some inner) (h : c.dequeue moment = (c', d)) :
    (c'.inner = some inner ∧ ∀ f, d ≠ .frame f) ∨
      ∃ inner', inner.dequeue moment = (inner', d) ∧ c'.inner = some inner' := by
  simp only [dequeue, hi] at h
  cases hframe : c.current.frame with
  | transient text =>
    simp only [hframe] at h
    cases h
    exact .inl ⟨rfl, nofun⟩
  | fatal text | fault text =>
    simp only [hframe] at h
    cases h
    exact .inl ⟨hi, nofun⟩
  | usual script =>
    simp only [hframe] at h
    cases h
    exact .inr ⟨_, rfl, rfl⟩

end ScriptedCamera

instance : BankedCamera ScriptedCamera where
  bank? := ScriptedCamera.bank?
  bank_requeue slot h := by
    obtain ⟨inner, hi, rfl⟩ := ScriptedCamera.bank?_eq_some h
    simp only [DriverQueue.requeue, ScriptedCamera.requeue, hi]
    exact ⟨rfl, rfl⟩
  bank_start {c _} h := by
    obtain ⟨inner, hi, rfl⟩ := ScriptedCamera.bank?_eq_some h
    simp only [Camera.start, ScriptedCamera.start]
    cases c.startError with
    | none => exact ⟨inner.start.bank, by simp [ScriptedCamera.bank?, hi], rfl⟩
    | some text => exact ⟨_, h, rfl⟩
  bank_stop {c _} h := by
    obtain ⟨inner, hi, rfl⟩ := ScriptedCamera.bank?_eq_some h
    simp only [Camera.stop, ScriptedCamera.stop]
    cases c.stopError with
    | none => exact ⟨inner.stop.bank, by simp [ScriptedCamera.bank?, hi], rfl⟩
    | some text => exact ⟨_, h, rfl⟩
  bank_poll h hp := ⟨_, (ScriptedCamera.bank?_of_poll hp).trans h, rfl⟩
  bank_failed h hd := by
    obtain ⟨inner, hi, rfl⟩ := ScriptedCamera.bank?_eq_some h
    obtain ⟨hi', -⟩ | ⟨inner', hd', hi'⟩ := ScriptedCamera.dequeue_cases hi hd
    · exact ⟨_, by rw [ScriptedCamera.bank?, hi', Option.map_some], rfl⟩
    · exact ⟨_, by rw [ScriptedCamera.bank?, hi', Option.map_some],
        SyntheticCamera.slots_of_dequeue_failed hd'⟩
  bank_frame h hd := by
    obtain ⟨inner, hi, rfl⟩ := ScriptedCamera.bank?_eq_some h
    obtain ⟨-, hne⟩ | ⟨inner', hd', hi'⟩ := ScriptedCamera.dequeue_cases hi hd
    · exact absurd rfl (hne _)
    · obtain ⟨slot, memory, hslot, hmem, hset⟩ := SyntheticCamera.slots_of_dequeue_frame hd'
      exact ⟨_, slot, memory, by rw [ScriptedCamera.bank?, hi', Option.map_some], hslot, hmem,
        hset⟩

end TickCapture
