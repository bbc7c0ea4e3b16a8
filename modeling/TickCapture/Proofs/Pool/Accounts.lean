import TickCapture.Pool.Basic

/-! # A pool and the buffers taken from it

`Pool.Accounts p held` says that `held` are the buffers of `p` that somebody holds: every slot is free
or held, once, and its storage is where it is said to be. Acquiring from such a pool fails only if no
slot is free, and returning a held buffer always succeeds; both keep the accounts. -/

namespace TickCapture

/-- Whether a buffer belongs to a pool and still has the storage of a slot. -/
def Pool.Owns (p : Pool) (b : PooledBuffer) : Prop :=
  b.home = p.id ∧ ∃ data, b.data = some data ∧ data.size = p.slotLen

namespace Pool

/-- The pool after its first free slot is handed out. -/
def without (p : Pool) (slot : Nat) (free : List Nat) : Pool :=
  { p with
    free
    storage := p.storage.setIfInBounds slot none
    outstanding := p.outstanding + 1 }

/-- The pool after a slot is given back. -/
def withSlot (p : Pool) (slot : Nat) (data : Bytes) : Pool :=
  { p with
    storage := p.storage.setIfInBounds slot (some data)
    free := slot :: p.free
    outstanding := p.outstanding - 1 }

/-- `held` are the buffers that are outstanding. -/
structure Accounts (p : Pool) (held : List PooledBuffer) : Prop where
  /-- Every slot is free or held, once. -/
  slots : (p.free ++ held.map (·.slot)).Perm (List.range p.capacity)
  stored : ∀ i ∈ p.free, ∃ data, p.storage[i]? = some (some data) ∧ data.size = p.slotLen
  lent : ∀ b ∈ held, p.storage[b.slot]? = some none
  owned : ∀ b ∈ held, p.Owns b
  count : p.outstanding = held.length

variable {p p' : Pool} {b b' : PooledBuffer} {held held' : List PooledBuffer}

theorem new_cases (id capacity slotLen : Nat) :
    (new id capacity slotLen = .error .capacityOverflow ∧
      (addressLimit ≤ capacity * handleBytes ∨ capacity ≠ 0 ∧ addressLimit ≤ slotLen)) ∨
    new id capacity slotLen = .ok (fresh id capacity slotLen) ∧
      ¬(addressLimit ≤ capacity * handleBytes ∨ capacity ≠ 0 ∧ addressLimit ≤ slotLen) := by
  unfold new
  split
  · next hsize => exact .inl ⟨rfl, hsize⟩
  · next hfits => exact .inr ⟨rfl, hfits⟩

theorem new_eq_ok {id capacity slotLen : Nat} (h : new id capacity slotLen = .ok p) :
    p = fresh id capacity slotLen := by
  obtain ⟨hnew, -⟩ | ⟨hnew, -⟩ := new_cases id capacity slotLen
  · cases hnew.symm.trans h
  · exact (Except.ok.inj (hnew.symm.trans h)).symm

/-- A return succeeds only for a slot of the pool, and it gives the slot back. -/
theorem returnSlot_eq_ok {slot : Nat} {data : Bytes} (h : p.returnSlot slot data = (p', .ok ())) :
    slot < p.storage.size ∧ p' = p.withSlot slot data := by
  unfold returnSlot at h
  split at h
  · cases h
  · cases h
  · next hnone =>
    split at h
    · cases h
    · dsimp only at h
      split at h
      · cases h
      · exact ⟨(Array.getElem?_eq_some_iff.mp hnone).1, (Prod.mk.inj h).1.symm⟩

namespace Accounts

theorem fresh (id capacity slotLen : Nat) : (Pool.fresh id capacity slotLen).Accounts [] where
  slots := by simp [Pool.fresh]
  stored i hi := by
    have hlt : i < capacity := List.mem_range.mp hi
    exact ⟨Bytes.zeros slotLen, by simp [Pool.fresh, hlt], by simp [Pool.fresh, Bytes.zeros]⟩
  lent := nofun
  owned := nofun
  count := rfl

theorem perm (H : p.Accounts held) (h : held.Perm held') : p.Accounts held' where
  slots := ((h.map _).append_left _).symm.trans H.slots
  stored := H.stored
  lent b hb := H.lent b (h.mem_iff.mpr hb)
  owned b hb := H.owned b (h.mem_iff.mpr hb)
  count := H.count.trans h.length_eq

/-- What a holder writes into a buffer does not matter to the pool. -/
theorem replace (H : p.Accounts (b :: held)) (hs : b'.slot = b.slot) (ho : p.Owns b') :
    p.Accounts (b' :: held) where
  slots := by simpa [hs] using H.slots
  stored := H.stored
  lent := List.forall_mem_cons.mpr
    ⟨hs ▸ H.lent b List.mem_cons_self, fun c hc => H.lent c (List.mem_cons_of_mem _ hc)⟩
  owned := List.forall_mem_cons.mpr ⟨ho, fun c hc => H.owned c (List.mem_cons_of_mem _ hc)⟩
  count := H.count

theorem nodup (H : p.Accounts held) : (p.free ++ held.map (·.slot)).Nodup :=
  H.slots.nodup_iff.mpr List.nodup_range

/-- Free and held slots add up to the capacity. -/
theorem length_add (H : p.Accounts held) : p.free.length + held.length = p.capacity := by
  simpa using H.slots.length_eq

theorem check (H : p.Accounts held) : p.check = .ok () := by
  rw [Pool.check, if_pos (H.count ▸ H.length_add)]

/-! ### Acquiring -/

theorem acquire_of_nil (h : p.free = []) : p.acquire = (p, .ok none) := by
  simp [acquire, h]

theorem acquire_eq {slot : Nat} {free : List Nat} {data : Bytes} (H : p.Accounts held)
    (hfree : p.free = slot :: free) (hdata : p.storage[slot]? = some (some data)) :
    p.acquire = (p.without slot free, .ok (some ⟨p.id, slot, some data, 0, false⟩)) := by
  have hcount := H.length_add
  rw [← H.count, hfree, List.length_cons] at hcount
  have hcheck : (p.without slot free).check = .ok () := by
    rw [Pool.check, if_pos]
    change free.length + (p.outstanding + 1) = p.capacity
    omega
  simp only [Pool.acquire, hfree, hdata, Option.join_some]
  rw [without] at hcheck ⊢
  rw [hcheck]

theorem acquire_of_cons {slot : Nat} {free : List Nat} (H : p.Accounts held)
    (h : p.free = slot :: free) :
    ∃ data, p.acquire = (p.without slot free, .ok (some ⟨p.id, slot, some data, 0, false⟩)) ∧
      (p.without slot free).Accounts (⟨p.id, slot, some data, 0, false⟩ :: held) := by
  obtain ⟨data, hdata, hsize⟩ := H.stored slot (h ▸ List.mem_cons_self)
  obtain ⟨hlt, -⟩ := Array.getElem?_eq_some_iff.mp hdata
  have hnodup := H.nodup
  rw [h, List.cons_append, List.nodup_cons] at hnodup
  have hother : ∀ i, i ≠ slot → (p.without slot free).storage[i]? = p.storage[i]? := fun i hi =>
    Array.getElem?_setIfInBounds_ne (Ne.symm hi)
  refine ⟨data, H.acquire_eq h hdata, ?_⟩
  exact {
    slots := List.perm_middle.trans (by simpa [h, without] using H.slots)
    stored := fun i hi => by
      rw [hother i fun hc => hnodup.1 (hc ▸ List.mem_append_left _ hi)]
      exact H.stored i (h ▸ List.mem_cons_of_mem _ hi)
    lent := List.forall_mem_cons.mpr ⟨Array.getElem?_setIfInBounds_self_of_lt hlt, fun c hc => by
      rw [hother _ fun he => hnodup.1
        (he ▸ List.mem_append_right _ (List.mem_map.mpr ⟨c, hc, rfl⟩))]
      exact H.lent c hc⟩
    owned := List.forall_mem_cons.mpr ⟨⟨rfl, data, rfl, hsize⟩, H.owned⟩
    count := congrArg (· + 1) H.count }

/-! ### Returning -/

theorem returnSlot {data : Bytes} (H : p.Accounts (b :: held)) (hd : b.data = some data) :
    p.returnSlot b.slot data = (p.withSlot b.slot data, .ok ()) ∧
      (p.withSlot b.slot data).Accounts held := by
  obtain ⟨-, data', hd', hsize⟩ := H.owned b List.mem_cons_self
  obtain rfl : data' = data := Option.some.inj (hd'.symm.trans hd)
  have hlent := H.lent b List.mem_cons_self
  obtain ⟨hlt, -⟩ := Array.getElem?_eq_some_iff.mp hlent
  have hcount : p.outstanding = held.length + 1 := H.count
  have hslots : (b.slot :: p.free ++ held.map (·.slot)).Perm (List.range p.capacity) :=
    List.perm_middle.symm.trans H.slots
  have hnodup := hslots.nodup_iff.mpr List.nodup_range
  rw [List.cons_append, List.nodup_cons] at hnodup
  have hother : ∀ i, i ≠ b.slot → (p.withSlot b.slot data').storage[i]? = p.storage[i]? :=
    fun i hi => Array.getElem?_setIfInBounds_ne (Ne.symm hi)
  have hacc : (p.withSlot b.slot data').Accounts held := {
    slots := hslots
    stored := List.forall_mem_cons.mpr
      ⟨⟨data', Array.getElem?_setIfInBounds_self_of_lt hlt, hsize⟩, fun i hi => by
        rw [hother i fun hc => hnodup.1 (hc ▸ List.mem_append_left _ hi)]
        exact H.stored i hi⟩
    lent := fun c hc => by
      rw [hother _ fun he => hnodup.1
        (he ▸ List.mem_append_right _ (List.mem_map.mpr ⟨c, hc, rfl⟩))]
      exact H.lent c (List.mem_cons_of_mem _ hc)
    owned := fun c hc => H.owned c (List.mem_cons_of_mem _ hc)
    count := by simp [withSlot, hcount] }
  refine ⟨?_, hacc⟩
  have hcheck := hacc.check
  rw [Pool.returnSlot, hlent]
  simp only [hsize, ne_eq, not_true_eq_false, if_false, hcount, Nat.succ_ne_zero]
  rw [← hcheck]
  simp [withSlot, hcount]

/-- Returning a held buffer succeeds. -/
theorem takeBack (H : p.Accounts (b :: held)) :
    ∃ data, b.data = some data ∧ p.takeBack b = (p.withSlot b.slot data, .ok ()) ∧
      (p.withSlot b.slot data).Accounts held := by
  obtain ⟨-, data, hd, -⟩ := H.owned b List.mem_cons_self
  obtain ⟨hreturn, H'⟩ := H.returnSlot hd
  exact ⟨data, hd, by rw [Pool.takeBack, hd]; exact hreturn, H'⟩

/-- Dropping a held buffer returns it, and nothing is logged. -/
theorem drop (H : p.Accounts (b :: held)) (unwinding : Bool) :
    ∃ data, b.data = some data ∧ p.drop unwinding b = (p.withSlot b.slot data, [], none) ∧
      (p.withSlot b.slot data).Accounts held := by
  obtain ⟨-, data, hd, -⟩ := H.owned b List.mem_cons_self
  obtain ⟨hreturn, H'⟩ := H.returnSlot hd
  exact ⟨data, hd, by simp only [Pool.drop, hd, hreturn], H'⟩

end Accounts
end Pool
end TickCapture
