import Mathlib.Data.List.Perm.Subperm
import TickCapture.Pool.Basic

/-! # Slots returned by callers that keep no rules

A caller of `returnSlot` can name any slot and hand over any bytes, and buffers can be returned that
were returned before, or of which there are two. A pool is not harmed by that: it stays `Coherent`, a
bad return is refused and changes nothing, and the checks of its counts never fail
(`moves_incorruptible`). -/

namespace TickCapture
namespace Pool

/-- What anybody can do to a pool. -/
inductive Move where
  | acquire
  | returnSlot (slot : Nat) (data : Bytes)
  /-- Returns a buffer, whether or not it was taken from this pool and still has its storage. -/
  | takeBack (buffer : PooledBuffer)
  | drop (unwinding : Bool) (buffer : PooledBuffer)

def move (p : Pool) : Move → Pool
  | .acquire => p.acquire.1
  | .returnSlot slot data => (p.returnSlot slot data).1
  | .takeBack buffer => (p.takeBack buffer).1
  | .drop unwinding buffer => (p.drop unwinding buffer).1

def moves (p : Pool) (ms : List Move) : Pool := ms.foldl move p

/-- Storage, free list and counter of a pool of so many slots of one size say the same. -/
structure Coherent (p : Pool) (capacity slotLen : Nat) : Prop where
  capacity_eq : p.capacity = capacity
  slotLen_eq : p.slotLen = slotLen
  nodup : p.free.Nodup
  /-- The free list names the slots whose storage is there. -/
  mem_free : ∀ {slot}, slot ∈ p.free ↔ ∃ data, p.storage[slot]? = some (some data)
  size : p.storage.size = p.capacity
  count : p.free.length + p.outstanding = p.capacity

variable {p p' : Pool} {capacity slotLen slot : Nat} {data : Bytes}

namespace Coherent

theorem fresh (id capacity slotLen : Nat) :
    (Pool.fresh id capacity slotLen).Coherent capacity slotLen where
  capacity_eq := rfl
  slotLen_eq := rfl
  nodup := List.nodup_range
  mem_free := by
    intro slot
    simp only [Pool.fresh, List.mem_range, Array.getElem?_replicate]
    constructor
    · intro hlt
      exact ⟨Bytes.zeros slotLen, if_pos hlt⟩
    · rintro ⟨data, hdata⟩
      by_contra hge
      rw [if_neg hge] at hdata
      cases hdata
  size := Array.size_replicate
  count := by simp [Pool.fresh]

/-- Slots whose storage is there, and no others, are below the capacity and free. -/
theorem lt_capacity (H : p.Coherent capacity slotLen) (h : slot ∈ p.free) : slot < p.capacity := by
  obtain ⟨data, hdata⟩ := H.mem_free.mp h
  obtain ⟨hlt, -⟩ := Array.getElem?_eq_some_iff.mp hdata
  exact H.size ▸ hlt

theorem storage_eq_none (H : p.Coherent capacity slotLen) (hlt : slot < p.capacity)
    (hfree : slot ∉ p.free) : p.storage[slot]? = some none := by
  have hsize : slot < p.storage.size := H.size ▸ hlt
  rw [Array.getElem?_eq_getElem hsize]
  cases hs : p.storage[slot] with
  | none => rfl
  | some data =>
    refine absurd (H.mem_free.mpr ⟨data, ?_⟩) hfree
    rw [Array.getElem?_eq_getElem hsize, hs]

theorem not_mem_free (H : p.Coherent capacity slotLen) (h : p.storage[slot]? = some none) :
    slot ∉ p.free := by
  intro hfree
  obtain ⟨data, hdata⟩ := H.mem_free.mp hfree
  cases h.symm.trans hdata

/-- A slot that is not free is counted among the outstanding ones. -/
theorem outstanding_pos (H : p.Coherent capacity slotLen) (hlt : slot < p.capacity)
    (hfree : slot ∉ p.free) : 0 < p.outstanding := by
  have hnodup : (slot :: p.free).Nodup := List.nodup_cons.mpr ⟨hfree, H.nodup⟩
  have hsub : slot :: p.free ⊆ List.range p.capacity := by
    intro i hi
    rcases List.mem_cons.mp hi with rfl | hi
    · exact List.mem_range.mpr hlt
    · exact List.mem_range.mpr (H.lt_capacity hi)
  have hlength := (List.subperm_of_subset hnodup hsub).length_le
  have hcount := H.count
  rw [List.length_cons, List.length_range] at hlength
  omega

theorem check (H : p.Coherent capacity slotLen) : p.check = .ok () := by
  rw [Pool.check, if_pos H.count]

end Coherent

/-! ### Acquiring -/

/-- What an acquire can come to: no slot is free, or the one freed last is taken. -/
inductive AcquireCase (p : Pool) : Pool × Except Fault (Option PooledBuffer) → Prop
  | exhausted : p.free = [] → AcquireCase p (p, .ok none)
  | taken {slot : Nat} {free : List Nat} {data : Bytes} : p.free = slot :: free →
    p.storage[slot]? = some (some data) →
    AcquireCase p ({ p with
      free
      storage := p.storage.setIfInBounds slot none
      outstanding := p.outstanding + 1 }, .ok (some ⟨p.id, slot, some data, 0, false⟩))

theorem Coherent.acquire_cases (H : p.Coherent capacity slotLen) : AcquireCase p p.acquire := by
  cases hfree : p.free with
  | nil =>
    have hnone : p.acquire = (p, .ok none) := by simp only [Pool.acquire, hfree]
    rw [hnone]
    exact .exhausted hfree
  | cons slot free =>
    obtain ⟨data, hdata⟩ := H.mem_free.mp (hfree ▸ List.mem_cons_self)
    have hcount : free.length + (p.outstanding + 1) = p.capacity := by
      have := H.count
      rw [hfree, List.length_cons] at this
      omega
    have htaken := AcquireCase.taken hfree hdata
    simp only [Pool.acquire, hfree, hdata, Option.join_some, Pool.check, if_pos hcount]
    exact htaken

/-- Taking a slot keeps a pool coherent. -/
theorem Coherent.acquire (H : p.Coherent capacity slotLen) : p.acquire.1.Coherent capacity slotLen := by
  have hcase := H.acquire_cases
  generalize p.acquire = outcome at hcase ⊢
  cases hcase with
  | exhausted _ => exact H
  | @taken slot free data hfree hdata =>
    have hnodup := H.nodup
    rw [hfree, List.nodup_cons] at hnodup
    obtain ⟨hslot, hfree'⟩ := hnodup
    refine ⟨H.capacity_eq, H.slotLen_eq, hfree', ?_, ?_, ?_⟩
    · intro i
      by_cases hi : slot = i
      · subst hi
        rw [Array.getElem?_setIfInBounds_self_of_lt (Array.getElem?_eq_some_iff.mp hdata).1]
        constructor
        · intro hmem
          exact absurd hmem hslot
        · rintro ⟨_, h⟩
          cases h
      · rw [Array.getElem?_setIfInBounds_ne hi, ← H.mem_free, hfree, List.mem_cons]
        exact ⟨.inr, fun h => h.resolve_left (Ne.symm hi)⟩
    · rw [Array.size_setIfInBounds]
      exact H.size
    · have hcount := H.count
      rw [hfree, List.length_cons] at hcount
      change free.length + (p.outstanding + 1) = p.capacity
      omega

/-! ### Returning -/

/-- What a return can come to: there is no such slot, it is free, the storage is not of its size, or
it is free from now on. -/
inductive ReturnCase (p : Pool) (slot : Nat) (data : Bytes) : Pool × Except PoolError Unit → Prop
  | unknown : p.capacity ≤ slot → ReturnCase p slot data (p, .error (.unknownSlot slot))
  | free : slot ∈ p.free → ReturnCase p slot data (p, .error (.notOutstanding slot))
  | misfit : slot < p.capacity → slot ∉ p.free → data.size ≠ p.slotLen →
    ReturnCase p slot data (p, .error (.notOutstanding slot))
  | returned : slot < p.capacity → slot ∉ p.free → data.size = p.slotLen →
    ReturnCase p slot data ({ p with
      storage := p.storage.setIfInBounds slot (some data)
      free := slot :: p.free
      outstanding := p.outstanding - 1 }, .ok ())

theorem Coherent.return_cases (H : p.Coherent capacity slotLen) (slot : Nat) (data : Bytes) :
    ReturnCase p slot data (p.returnSlot slot data) := by
  by_cases hlt : slot < p.capacity
  · by_cases hfree : slot ∈ p.free
    · obtain ⟨stored, hstored⟩ := H.mem_free.mp hfree
      have hrefused : p.returnSlot slot data = (p, .error (.notOutstanding slot)) := by
        simp only [returnSlot, hstored]
      rw [hrefused]
      exact .free hfree
    · have hnone := H.storage_eq_none hlt hfree
      by_cases hsize : data.size = p.slotLen
      · -- the slot is counted, so the counter can be lowered, and the counts add up afterwards
        have hpos := H.outstanding_pos hlt hfree
        have hcount : p.free.length + 1 + (p.outstanding - 1) = p.capacity := by
          have := H.count
          omega
        simp only [returnSlot, hnone, hsize, ne_eq, not_true_eq_false, if_false,
          Nat.ne_of_gt hpos, Pool.check, List.length_cons, if_pos hcount]
        exact .returned hlt hfree hsize
      · have hrefused : p.returnSlot slot data = (p, .error (.notOutstanding slot)) := by
          simp only [returnSlot, hnone, ne_eq, hsize, not_false_eq_true, if_true]
        rw [hrefused]
        exact .misfit hlt hfree hsize
  · have hge := Nat.le_of_not_lt hlt
    have hunknown : p.returnSlot slot data = (p, .error (.unknownSlot slot)) := by
      simp only [returnSlot, Array.getElem?_eq_none (H.size ▸ hge)]
    rw [hunknown]
    exact .unknown hge

/-- Whatever is returned, a pool stays coherent. -/
theorem Coherent.returnSlot (H : p.Coherent capacity slotLen) (slot : Nat) (data : Bytes) :
    (p.returnSlot slot data).1.Coherent capacity slotLen := by
  have hcase := H.return_cases slot data
  generalize p.returnSlot slot data = outcome at hcase ⊢
  cases hcase with
  | unknown _ | free _ | misfit _ _ _ => exact H
  | returned hlt hfree hsize =>
    refine ⟨H.capacity_eq, H.slotLen_eq, List.nodup_cons.mpr ⟨hfree, H.nodup⟩, ?_, ?_, ?_⟩
    · intro i
      by_cases hi : slot = i
      · subst hi
        rw [Array.getElem?_setIfInBounds_self_of_lt (H.size ▸ hlt)]
        exact ⟨fun _ => ⟨data, rfl⟩, fun _ => List.mem_cons_self⟩
      · rw [Array.getElem?_setIfInBounds_ne hi, ← H.mem_free, List.mem_cons]
        exact ⟨fun h => h.resolve_left (Ne.symm hi), .inr⟩
    · rw [Array.size_setIfInBounds]
      exact H.size
    · have hpos := H.outstanding_pos hlt hfree
      have hcount := H.count
      change p.free.length + 1 + (p.outstanding - 1) = p.capacity
      omega

/-! ### Any sequence of moves -/

theorem takeBack_of_none {b : PooledBuffer} (h : b.data = none) :
    p.takeBack b = (p, .error (.notOutstanding b.slot)) := by
  rw [takeBack, h]

theorem drop_of_none {b : PooledBuffer} (unwinding : Bool) (h : b.data = none) :
    p.drop unwinding b = (p, [], none) := by
  rw [drop, h]

/-- Dropping a buffer returns its storage, whatever comes of that. -/
theorem drop_of_some {b : PooledBuffer} (unwinding : Bool) (h : b.data = some data) :
    (p.drop unwinding b).1 = (p.returnSlot b.slot data).1 := by
  rw [drop, h]
  dsimp only
  split <;> simp [*]

theorem Coherent.move (H : p.Coherent capacity slotLen) (m : Move) :
    (p.move m).Coherent capacity slotLen := by
  cases m with
  | acquire => exact H.acquire
  | returnSlot slot data => exact H.returnSlot slot data
  | takeBack b =>
    cases hd : b.data with
    | none =>
      rw [Pool.move, takeBack_of_none hd]
      exact H
    | some data =>
      have htake : p.takeBack b = p.returnSlot b.slot data := by rw [takeBack, hd]
      rw [Pool.move, htake]
      exact H.returnSlot b.slot data
  | drop unwinding b =>
    cases hd : b.data with
    | none =>
      rw [Pool.move, drop_of_none unwinding hd]
      exact H
    | some data =>
      rw [Pool.move, drop_of_some unwinding hd]
      exact H.returnSlot b.slot data

theorem Coherent.moves (H : p.Coherent capacity slotLen) (ms : List Move) :
    (p.moves ms).Coherent capacity slotLen := by
  induction ms generalizing p with
  | nil => exact H
  | cons m ms ih => exact ih (H.move m)

/-- What no sequence of moves takes from a pool of so many slots of one size. -/
structure Incorruptible (p : Pool) (capacity slotLen : Nat) : Prop where
  nodup : p.free.Nodup
  /-- The free list names exactly the slots whose storage is there. -/
  mem_free : ∀ slot : Nat, slot ∈ p.free ↔ ∃ data, p.storage[slot]? = some (some data)
  count : p.free.length + p.outstanding = capacity
  check : p.check = .ok ()
  /-- A slot without storage is counted, so the counter can always be lowered for it. -/
  counted : ∀ slot : Nat, p.storage[slot]? = some none → 0 < p.outstanding
  /-- Acquiring never faults. -/
  acquires : ∃ buffer?, p.acquire.2 = .ok buffer?
  unknown_iff : ∀ slot data,
    (p.returnSlot slot data).2 = .error (.unknownSlot slot) ↔ capacity ≤ slot
  notOutstanding_iff : ∀ slot data, (p.returnSlot slot data).2 = .error (.notOutstanding slot) ↔
    slot < capacity ∧ (slot ∈ p.free ∨ data.size ≠ slotLen)
  /-- There are no other refusals, and a refusal changes nothing. -/
  refuses : ∀ slot data e, (p.returnSlot slot data).2 = .error e →
    (p.returnSlot slot data).1 = p ∧ (e = .unknownSlot slot ∨ e = .notOutstanding slot)
  /-- A buffer that has been returned before is refused too, and dropping it does nothing. -/
  spent : ∀ b : PooledBuffer, b.data = none →
    p.takeBack b = (p, .error (.notOutstanding b.slot)) ∧
      ∀ unwinding, p.drop unwinding b = (p, [], none)

theorem Coherent.incorruptible (H : p.Coherent capacity slotLen) :
    p.Incorruptible capacity slotLen where
  nodup := H.nodup
  mem_free _ := H.mem_free
  count := H.count.trans H.capacity_eq
  check := H.check
  counted slot hnone := by
    obtain ⟨hlt, -⟩ := Array.getElem?_eq_some_iff.mp hnone
    exact H.outstanding_pos (H.size ▸ hlt) (H.not_mem_free hnone)
  acquires := by
    have hcase := H.acquire_cases
    generalize p.acquire = outcome at hcase ⊢
    cases hcase with
    | exhausted _ => exact ⟨_, rfl⟩
    | taken _ _ => exact ⟨_, rfl⟩
  unknown_iff slot data := by
    have hcase := H.return_cases slot data
    rw [← H.capacity_eq]
    generalize p.returnSlot slot data = outcome at hcase ⊢
    cases hcase with
    | unknown hge => simp [hge]
    | free hfree => simp [Nat.not_le_of_lt (H.lt_capacity hfree)]
    | misfit hlt _ _ | returned hlt _ _ => simp [Nat.not_le_of_lt hlt]
  notOutstanding_iff slot data := by
    have hcase := H.return_cases slot data
    rw [← H.capacity_eq, ← H.slotLen_eq]
    generalize p.returnSlot slot data = outcome at hcase ⊢
    cases hcase with
    | unknown hge => simp [Nat.not_lt_of_le hge]
    | free hfree => simp [hfree, H.lt_capacity hfree]
    | misfit hlt _ hsize => simp [hlt, hsize]
    | returned _ hfree hsize => simp [hfree, hsize]
  refuses slot data e he := by
    have hcase := H.return_cases slot data
    generalize p.returnSlot slot data = outcome at hcase he ⊢
    cases hcase with
    | unknown _ => cases he; exact ⟨rfl, .inl rfl⟩
    | free _ | misfit _ _ _ => cases he; exact ⟨rfl, .inr rfl⟩
    | returned _ _ _ => cases he
  spent b hb := ⟨takeBack_of_none hb, fun unwinding => drop_of_none unwinding hb⟩

/-- Whatever is taken from a new pool and returned to it, however often and by whomever: bad returns
are refused for what is wrong with them and change nothing, and storage, free list and counter say the
same at all times. -/
theorem moves_incorruptible (id capacity slotLen : Nat) (ms : List Move) :
    ((fresh id capacity slotLen).moves ms).Incorruptible capacity slotLen := by
  have hfresh := Coherent.fresh id capacity slotLen
  exact (hfresh.moves ms).incorruptible

/-- A slot of no bytes is returned twice by two buffers that name it, with an acquire in between: the
second return frees the slot that is outstanding anew. -/
example : (((fresh 0 1 0).moves [.acquire, .takeBack ⟨0, 0, some #[], 0, false⟩, .acquire,
    .takeBack ⟨0, 0, some #[], 0, false⟩]).free) = [0] := rfl

end Pool
end TickCapture
