import TickCapture.Proofs.Pool.SlotEvents

/-! # What slots hold, and in which order they are handed out

The storage of a slot moves to whoever takes the slot and back again, but nobody can tell: a buffer shows
the `contents` of its slot, whoever wrote them, and a pool hands out what is on top of its `shelf`. Both
are read off the events of the pool, so a pool is a memory and a stack (`Registry.ActsAsMemory`). -/

namespace TickCapture
namespace Registry

variable {r r' : Registry} {sizes : List (Nat × Nat)} {id : Nat} {p p' : Pool}
  {es : List SlotEvent} {q : PoolRequest} {buf slot start : Nat} {b : PooledBuffer}
  {rest : List PooledBuffer} {free : List Nat} {old data : Bytes}

/-! ### What a pool remembers -/

/-- Pool number `id` holds what was written to its slots, and its free slots are in the order in
which they were given back. -/
structure Remembers (r : Registry) (id : Nat) (p : Pool) (es : List SlotEvent) : Prop where
  pool : r.pools[id]? = some p
  free : p.free = shelf p.capacity es
  stored : ∀ slot ∈ p.free, p.storage[slot]? = some (some (contents p.slotLen slot es))
  held : ∀ b ∈ r.held, b.home = id → b.Shows (contents p.slotLen b.slot es)

namespace Remembers

theorem fresh {capacity slotLen : Nat} (hid : sizes[id]? = some (capacity, slotLen)) :
    (Registry.fresh sizes).Remembers id (Pool.fresh id capacity slotLen) [] where
  pool := by simp [Registry.fresh, hid]
  free := shelf_nil.symm
  stored slot hslot := by
    have hlt : slot < capacity := List.mem_range.mp hslot
    simp [Pool.fresh, hlt]
  held b hb := absurd hb (by simp [Registry.held, Registry.fresh])

/-- What happens in other pools does not matter, nor how holders mark their buffers. -/
theorem unstirred (R : r.Remembers id p es) (hpool : r'.pools[id]? = r.pools[id]?)
    (hheld : ∀ b' ∈ r'.held, b'.home = id → ∃ b ∈ r.held, b.Marked b') :
    r'.Remembers id p es where
  pool := hpool.trans R.pool
  free := R.free
  stored := R.stored
  held b' hb' hhome' := by
    obtain ⟨b, hb, hmarked⟩ := hheld b' hb' hhome'
    rw [hmarked.slot]
    exact (R.held b hb (hmarked.home.symm.trans hhome')).marked hmarked

/-- A slot that somebody holds is not free, and nobody else holds it. -/
theorem apart (R : r.Remembers id p es) (H : r.Owned sizes r.held)
    (hperm : r.held.Perm (b :: rest)) (hhome : b.home = id) :
    b.slot ∉ p.free ∧ ∀ c ∈ rest, c.home = id → c.slot ≠ b.slot := by
  have hnodup := ((H.perm hperm).pools R.pool).2.nodup
  rw [List.filter_cons_of_pos (by simpa using hhome), List.map_cons] at hnodup
  obtain ⟨-, hheld, hdisjoint⟩ := List.nodup_append.mp hnodup
  refine ⟨fun hfree => hdisjoint b.slot hfree b.slot List.mem_cons_self rfl, fun c hc hc' hslot => ?_⟩
  refine (List.nodup_cons.mp hheld).1 (List.mem_map.mpr ⟨c, ?_, hslot⟩)
  exact List.mem_filter.mpr ⟨hc, by simpa using hc'⟩

theorem pool_setPool (R : r.Remembers id p es) : (r.setPool id p').pools[id]? = some p' :=
  Array.getElem?_setIfInBounds_self_of_lt (Array.getElem?_eq_some_iff.mp R.pool).1

/-- The slot at the top of the shelf is taken. -/
theorem take (R : r.Remembers id p es) (H : r.Owned sizes r.held) (hfree : p.free = slot :: free)
    (hdata : p.storage[slot]? = some (some data))
    (hpools : r'.pools = (r.setPool id (p.without slot free)).pools)
    (hheld : r'.held = r.held ++ [⟨id, slot, some data, 0, false⟩]) :
    r'.Remembers id (p.without slot free) (es ++ [.taken slot]) := by
  have hnodup : p.free.Nodup := (List.nodup_append.mp (H.pools R.pool).2.nodup).1
  have hslot : slot ∉ free := (List.nodup_cons.mp (hfree ▸ hnodup)).1
  have hcontents := hdata.symm.trans (R.stored slot (hfree ▸ List.mem_cons_self))
  refine ⟨hpools ▸ R.pool_setPool, ?_, fun i hi => ?_, fun b hb hhome => ?_⟩
  · exact (shelf_taken (R.free ▸ hnodup) (R.free ▸ hfree)).symm
  · have hne : slot ≠ i := fun heq => hslot (heq ▸ hi)
    rw [contents_taken]
    exact (Array.getElem?_setIfInBounds_ne hne).trans
      (R.stored i (hfree ▸ List.mem_cons_of_mem _ hi))
  · rw [contents_taken]
    rw [hheld] at hb
    rcases List.mem_append.mp hb with hb | hb
    · exact R.held b hb hhome
    · obtain rfl := List.mem_singleton.mp hb
      exact ⟨Option.some.inj hcontents, Nat.zero_le _⟩

/-- A slot comes back, with what its holder has written. -/
theorem give (R : r.Remembers id p es) (H : r.Owned sizes r.held) (hhome : b.home = id)
    (hdata : b.data = some data)
    (hpools : r'.pools = (r.setPool id (p.withSlot b.slot data)).pools)
    (hheld : r.held.Perm (b :: r'.held)) :
    r'.Remembers id (p.withSlot b.slot data) (es ++ [.freed b.slot]) := by
  have hb : b ∈ r.held := hheld.mem_iff.mpr List.mem_cons_self
  obtain ⟨hslot, -⟩ := R.apart H hheld hhome
  obtain ⟨hlt, -⟩ := Array.getElem?_eq_some_iff.mp ((H.pools R.pool).2.lent b
    (List.mem_filter.mpr ⟨hb, by simpa using hhome⟩))
  refine ⟨hpools ▸ R.pool_setPool, ?_, fun i hi => ?_, fun c hc hc' => ?_⟩
  · rw [Pool.withSlot, R.free]
    exact shelf_freed.symm
  · rw [contents_freed]
    rcases List.mem_cons.mp hi with rfl | hi
    · refine (Array.getElem?_setIfInBounds_self_of_lt hlt).trans ?_
      rw [← hdata]
      exact congrArg some (R.held b hb hhome).1
    · have hne : b.slot ≠ i := fun heq => hslot (heq ▸ hi)
      exact (Array.getElem?_setIfInBounds_ne hne).trans (R.stored i hi)
  · rw [contents_freed]
    exact R.held c (hheld.mem_iff.mpr (List.mem_cons_of_mem _ hc)) hc'

/-- A holder writes to its slot, and to no other. -/
theorem write (R : r.Remembers id p es) (H : r.Owned sizes r.held) (hhome : b.home = id)
    (hold : b.data = some old) (hpools : r'.pools = r.pools) (hheld : r.held.Perm (b :: rest))
    (hwritten : r'.held.Perm ({ b with data := some (old.overwrite start data) } :: rest)) :
    r'.Remembers id p (es ++ [.written b.slot start data]) := by
  obtain ⟨hslot, hothers⟩ := R.apart H hheld hhome
  refine ⟨hpools ▸ R.pool, ?_, fun i hi => ?_, fun c hc hc' => ?_⟩
  · rw [shelf_written]
    exact R.free
  · have hne : b.slot ≠ i := fun heq => hslot (heq ▸ hi)
    rw [contents_written, if_neg hne]
    exact R.stored i hi
  · rw [contents_written]
    rcases List.mem_cons.mp (hwritten.mem_iff.mp hc) with rfl | hc
    · obtain ⟨hdata, hlen⟩ := R.held b (hheld.mem_iff.mpr List.mem_cons_self) hhome
      rw [if_pos rfl, ← Option.some.inj (hold.symm.trans hdata)]
      refine ⟨rfl, ?_⟩
      rwa [Bytes.size_overwrite, Option.some.inj (hold.symm.trans hdata)]
    · rw [if_neg (hothers c hc hc').symm]
      exact R.held c (hheld.mem_iff.mpr (List.mem_cons_of_mem _ hc)) hc'

/-- Whatever is asked, the pool remembers it. -/
theorem step (R : r.Remembers id p es) (H : r.Owned sizes r.held) (hq : q.keepsOwners = true) :
    ∃ p', (r.step q).1.Remembers id p' (es ++ (eventIn? id (r.event? q)).toList) := by
  have hstirs := H.stirs hq
  generalize r.event? q = event? at hstirs ⊢
  generalize (r.step q).1 = r' at hstirs ⊢
  cases hstirs with
  | stays hpools hheld =>
    rw [eventIn?_none]
    exact ⟨p, R.unstirred (by rw [hpools]) fun b' hb' _ => hheld b' hb'⟩
  | @takes _ other _ _ _ _ hp hfree hdata hpools hheld =>
    by_cases hid : other = id
    · subst hid
      obtain rfl := Option.some.inj (R.pool.symm.trans hp)
      rw [eventIn?_self]
      exact ⟨_, R.take H hfree hdata hpools hheld⟩
    · rw [eventIn?_of_ne hid]
      refine ⟨p, R.unstirred (by rw [hpools]; exact Array.getElem?_setIfInBounds_ne hid)
        fun b hb hhome => ?_⟩
      rw [hheld] at hb
      rcases List.mem_append.mp hb with hb | hb
      · exact ⟨b, hb, .rfl⟩
      · obtain rfl := List.mem_singleton.mp hb
        exact absurd hhome hid
  | @frees _ _ b _ hp hdata hpools hheld =>
    by_cases hid : b.home = id
    · subst hid
      obtain rfl := Option.some.inj (R.pool.symm.trans hp)
      rw [eventIn?_self]
      exact ⟨_, R.give H rfl hdata hpools hheld⟩
    · rw [eventIn?_of_ne hid]
      refine ⟨p, R.unstirred (by rw [hpools]; exact Array.getElem?_setIfInBounds_ne hid)
        fun c hc _ => ⟨c, ?_, .rfl⟩⟩
      exact hheld.mem_iff.mpr (List.mem_cons_of_mem _ hc)
  | @writes _ _ b _ _ _ hpools hheld hold hwritten =>
    by_cases hid : b.home = id
    · subst hid
      rw [eventIn?_self]
      exact ⟨p, R.write H rfl hold hpools hheld hwritten⟩
    · rw [eventIn?_of_ne hid]
      refine ⟨p, R.unstirred (by rw [hpools]) fun c hc hhome => ⟨c, ?_, .rfl⟩⟩
      rcases List.mem_cons.mp (hwritten.mem_iff.mp hc) with rfl | hc
      · exact absurd hhome hid
      · exact hheld.mem_iff.mpr (List.mem_cons_of_mem _ hc)

theorem serve (R : r.Remembers id p es) (H : r.Owned sizes r.held) {qs : List PoolRequest}
    (hqs : ∀ q ∈ qs, q.keepsOwners = true) :
    ∃ p', (r.serve qs).Remembers id p' (es ++ r.events id qs) := by
  induction qs generalizing r p es with
  | nil => exact ⟨p, by rwa [events, List.append_nil]⟩
  | cons q qs ih =>
    obtain ⟨hq, hqs⟩ := List.forall_mem_cons.mp hqs
    obtain ⟨p', R'⟩ := R.step H hq
    obtain ⟨p'', R''⟩ := ih R' (H.step hq) hqs
    exact ⟨p'', by rwa [events, ← List.append_assoc]⟩

end Remembers

/-- Pool number `id`, of so many slots of one size, is to its callers a memory that keeps what is
written to it, and a stack of free slots. -/
structure ActsAsMemory (r : Registry) (id capacity slotLen : Nat) (es : List SlotEvent) : Prop where
  /-- A buffer shows what its slot holds, and as its valid bytes the first ones of that. -/
  seen : ∀ buf b, r.buffer? buf = some b → b.home = id →
    b.whole = contents slotLen b.slot es ∧ b.len ≤ slotLen ∧
      b.bytes = (contents slotLen b.slot es).extract 0 b.len
  /-- No two buffers share a slot. -/
  distinct : ∀ buf b buf' b', r.buffer? buf = some b → r.buffer? buf' = some b' → b.home = id →
    b'.home = id → buf ≠ buf' → b.slot ≠ b'.slot
  /-- Writing to a buffer changes no other one. -/
  alone : ∀ buf start data other, other ≠ buf →
    (r.step (.write buf start data)).1.buffer? other = r.buffer? other
  /-- The slot on top of the shelf is handed out, with what it holds, and nothing marked. -/
  acquires : ∀ slot free, shelf capacity es = slot :: free →
    (r.step (.acquire id)).2 = ([], .taken r.buffers.size slot) ∧
    (r.step (.acquire id)).1.buffer? r.buffers.size =
      some ⟨id, slot, some (contents slotLen slot es), 0, false⟩
  exhausted : shelf capacity es = [] → r.step (.acquire id) = (r, [], .exhausted)
  /-- No more can be marked as valid than the slot has; an attempt to do so changes nothing. -/
  setLen : ∀ buf b len, r.buffer? buf = some b → b.home = id →
    r.step (.setLen buf len) =
      if len ≤ slotLen then (r.setBuffer buf (some { b with len }), [], .done)
      else (r, [], .faulted (.validLength len slotLen))

theorem mem_held (h : r.buffer? buf = some b) : b ∈ r.held :=
  (held_setBuffer_none h).mem_iff.mpr List.mem_cons_self

theorem buffer?_setBuffer_of_ne {other : Nat} (b? : Option PooledBuffer) (h : other ≠ buf) :
    (r.setBuffer buf b?).buffer? other = r.buffer? other := by
  rw [buffer?, setBuffer, Array.getElem?_setIfInBounds_ne h.symm]
  rfl

theorem Remembers.actsAsMemory (R : r.Remembers id p es) (H : r.Owned sizes r.held) :
    r.ActsAsMemory id p.capacity p.slotLen es where
  seen buf b hb hhome := by
    have hshows := R.held b (mem_held hb) hhome
    have hsize : (contents p.slotLen b.slot es).size = p.slotLen := size_contents
    exact ⟨hshows.whole, hsize ▸ hshows.2, hshows.bytes⟩
  distinct buf b buf' b' hb hb' hhome hhome' hne := by
    have hrest : b' ∈ (r.setBuffer buf none).held :=
      mem_held ((buffer?_setBuffer_of_ne none hne.symm).trans hb')
    exact ((R.apart H (held_setBuffer_none hb) hhome).2 b' hrest hhome').symm
  alone buf start data other hne := by
    rw [step_of_subject (q := .write buf start data) rfl]
    cases r.buffer? buf with
    | none => rfl
    | some b => exact buffer?_setBuffer_of_ne _ hne
  acquires slot free hshelf := by
    rw [← R.free] at hshelf
    have hstored := R.stored slot (hshelf ▸ List.mem_cons_self)
    rw [Registry.step, H.acquire_eq R.pool hshelf hstored]
    exact ⟨rfl, by simp [buffer?]⟩
  exhausted hshelf := by
    rw [← R.free] at hshelf
    simp only [Registry.step, acquire_of_nil R.pool hshelf]
  setLen buf b len hb hhome := by
    have hcapacity : b.capacity = p.slotLen :=
      (R.held b (mem_held hb) hhome).capacity.trans size_contents
    rw [step_of_subject (q := .setLen buf len) rfl, hb]
    simp only [stepBuffer, PooledBuffer.setLen, hcapacity]
    by_cases hlen : len ≤ p.slotLen
    · simp only [if_pos hlen]
    · simp only [if_neg hlen]

/-- Whatever is asked of pools of any sizes, by callers that spend no buffer and make no second one for
a slot: each pool keeps what its buffers write, slot by slot, and hands out the slot that was given
back last, or else the first that was never used. -/
theorem serve_actsAsMemory (sizes : List (Nat × Nat)) (qs : List PoolRequest)
    (hqs : ∀ q ∈ qs, q.keepsOwners = true) {id capacity slotLen : Nat}
    (hid : sizes[id]? = some (capacity, slotLen)) :
    ((Registry.fresh sizes).serve qs).ActsAsMemory id capacity slotLen
      ((Registry.fresh sizes).events id qs) := by
  have H := Owned.fresh sizes
  obtain ⟨p, R⟩ := (Remembers.fresh hid).serve H hqs
  have hshape := (H.serve hqs).shape id
  rw [R.pool, hid] at hshape
  obtain ⟨rfl, rfl⟩ := Prod.mk.inj (Option.some.inj hshape)
  exact R.actsAsMemory (H.serve hqs)

/-- Two buffers of the first of two pools are written to and given back, the first of them by way of the
second pool: the slot of the other one is next, and both hold what was written to them. -/
theorem serve_actsAsMemory_of_foreign :
    let qs : List PoolRequest := [.acquire 0, .acquire 0, .write 0 1 #[7, 7], .write 1 3 #[5, 5],
      .setLen 0 3, .release 1 0, .drop 1]
    let es := (Registry.fresh [(3, 4), (1, 4)]).events 0 qs
    ((Registry.fresh [(3, 4), (1, 4)]).serve qs).ActsAsMemory 0 3 4 es ∧
    shelf 3 es = [1, 0, 2] ∧ contents 4 0 es = #[0, 7, 7, 0] ∧ contents 4 1 es = #[0, 0, 0, 5] := by
  refine ⟨serve_actsAsMemory _ _ (by decide) rfl, ?_, ?_, ?_⟩ <;> decide +kernel

end Registry
end TickCapture
