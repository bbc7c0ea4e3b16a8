import Mathlib.Data.List.Nodup
import TickCapture.Pool.Registry
import TickCapture.Proofs.Pool.Accounts

/-! # Every slot has one owner

As long as nobody spends a buffer or makes a second one for its slot, each slot of each pool of a
registry is in its pool or with one buffer (`Registry.Owned`). So a pool with free slots always hands
one out, a buffer can always be returned, and one that is handed to the wrong pool goes home
(`serve_wellKept`). -/

namespace TickCapture

/-- Whether a request leaves every slot with one owner. Safe callers make no others. -/
def PoolRequest.keepsOwners : PoolRequest → Bool
  | spend _ | copy _ => false
  | _ => true

/-! ### The list of buffers -/

section Buffers

variable {β : Type} {l : List (Option β)} {i : Nat} {b : β}

theorem filterMap_set_none (h : l[i]? = some (some b)) :
    (l.filterMap id).Perm (b :: (l.set i none).filterMap id) := by
  induction l generalizing i with
  | nil => simp at h
  | cons x l ih =>
    cases i with
    | zero =>
      obtain rfl : x = some b := by simpa using h
      exact .refl _
    | succ i =>
      have hl := ih (i := i) (by simpa using h)
      cases x with
      | none => simpa using hl
      | some y =>
        have hy := (hl.cons y).trans (List.Perm.swap b y _)
        simpa using hy

theorem filterMap_set_some (h : i < l.length) :
    ((l.set i (some b)).filterMap id).Perm (b :: (l.set i none).filterMap id) := by
  have hset : (l.set i (some b))[i]? = some (some b) := List.getElem?_set_self h
  have hperm := filterMap_set_none hset
  rwa [List.set_set] at hperm

end Buffers

namespace Registry

/-- The buffers that somebody holds. -/
def held (r : Registry) : List PooledBuffer := r.buffers.toList.filterMap id

/-- Those among them that belong to one pool. -/
def heldOf (r : Registry) (id : Nat) : List PooledBuffer := r.held.filter (·.home == id)

/-- Carries out requests one after another. -/
def serve (r : Registry) (qs : List PoolRequest) : Registry := qs.foldl (fun r q => (r.step q).1) r

variable {r r' : Registry} {held held' : List PooledBuffer} {sizes : List (Nat × Nat)}
  {b b' : PooledBuffer} {buf id : Nat} {p p' : Pool}

theorem getElem?_of_buffer? (h : r.buffer? buf = some b) : r.buffers[buf]? = some (some b) :=
  Option.join_eq_some_iff.mp h

theorem held_setBuffer_none (h : r.buffer? buf = some b) :
    r.held.Perm (b :: (r.setBuffer buf none).held) := by
  rw [Registry.held, Registry.held, setBuffer, Array.toList_setIfInBounds]
  exact filterMap_set_none (by simpa using getElem?_of_buffer? h)

theorem held_setBuffer_some (h : r.buffer? buf = some b) :
    (r.setBuffer buf (some b')).held.Perm (b' :: (r.setBuffer buf none).held) := by
  obtain ⟨hlt, -⟩ := Array.getElem?_eq_some_iff.mp (getElem?_of_buffer? h)
  rw [Registry.held, Registry.held, setBuffer, setBuffer, Array.toList_setIfInBounds,
    Array.toList_setIfInBounds]
  exact filterMap_set_some (by simpa using hlt)

theorem held_push (r : Registry) (b : PooledBuffer) :
    Registry.held { r with buffers := r.buffers.push (some b) } = r.held ++ [b] := by
  simp [Registry.held]

/-! ### The invariant -/

/-- The pools have the given sizes, and each accounts for those of the buffers that belong to it. -/
structure Owned (r : Registry) (sizes : List (Nat × Nat)) (held : List PooledBuffer) : Prop where
  shape : ∀ id : Nat, (r.pools[id]?.map fun p => (p.capacity, p.slotLen)) = sizes[id]?
  pools : ∀ {id : Nat} {p}, r.pools[id]? = some p →
    p.id = id ∧ p.Accounts (held.filter (·.home == id))
  homes : ∀ b ∈ held, ∃ p, r.pools[b.home]? = some p

namespace Owned

theorem fresh (sizes : List (Nat × Nat)) : (Registry.fresh sizes).Owned sizes [] where
  shape id := by
    simp only [Registry.fresh, List.getElem?_toArray, List.getElem?_mapIdx, Option.map_map]
    cases sizes[id]? <;> rfl
  pools := by
    intro id p hp
    simp only [Registry.fresh, List.getElem?_toArray, List.getElem?_mapIdx,
      Option.map_eq_some_iff] at hp
    obtain ⟨size, -, rfl⟩ := hp
    exact ⟨rfl, .fresh id size.1 size.2⟩
  homes := nofun

theorem perm (H : r.Owned sizes held) (h : held.Perm held') : r.Owned sizes held' where
  shape := H.shape
  pools hp := ⟨(H.pools hp).1, (H.pools hp).2.perm (h.filter _)⟩
  homes b hb := H.homes b (h.mem_iff.mpr hb)

theorem congr (H : r.Owned sizes held) (h : r'.pools = r.pools) : r'.Owned sizes held := by
  obtain ⟨hshape, hpools, hhomes⟩ := H
  rw [← h] at hshape hhomes
  exact ⟨hshape, fun hp => hpools (h ▸ hp), hhomes⟩

/-- A pool that holds a buffer accounts for it. -/
theorem home (H : r.Owned sizes (b :: held)) : ∃ p, r.pools[b.home]? = some p ∧ p.id = b.home ∧
    p.Accounts (b :: held.filter (·.home == b.home)) := by
  obtain ⟨p, hp⟩ := H.homes b List.mem_cons_self
  obtain ⟨hid, hacc⟩ := H.pools hp
  rw [List.filter_cons_of_pos (by simp)] at hacc
  exact ⟨p, hp, hid, hacc⟩

/-- One pool changes, and with it only buffers of its own. -/
theorem setPool (H : r.Owned sizes held) (hp : r.pools[id]? = some p) (hid : p'.id = id)
    (hshape : p'.capacity = p.capacity ∧ p'.slotLen = p.slotLen)
    (hacc : p'.Accounts (held'.filter (·.home == id)))
    (hother : ∀ other, other ≠ id → held'.filter (·.home == other) = held.filter (·.home == other))
    (hhomes : ∀ b ∈ held', b.home = id ∨ b ∈ held) : (r.setPool id p').Owned sizes held' := by
  obtain ⟨hlt, -⟩ := Array.getElem?_eq_some_iff.mp hp
  have hself : (r.setPool id p').pools[id]? = some p' := Array.getElem?_setIfInBounds_self_of_lt hlt
  have hne {other : Nat} (h : other ≠ id) : (r.setPool id p').pools[other]? = r.pools[other]? :=
    Array.getElem?_setIfInBounds_ne (Ne.symm h)
  refine ⟨fun other => ?_, fun {other q} hq => ?_, fun b hb => ?_⟩
  · by_cases h : other = id
    · subst h
      rw [hself, ← H.shape, hp, Option.map_some, Option.map_some, hshape.1, hshape.2]
    · rw [hne h]
      exact H.shape other
  · by_cases h : other = id
    · subst h
      obtain rfl : p' = q := Option.some.inj (hself.symm.trans hq)
      exact ⟨hid, hacc⟩
    · rw [hother other h]
      exact H.pools (hne h ▸ hq)
  · by_cases h : b.home = id
    · exact ⟨p', by rw [h]; exact hself⟩
    · obtain ⟨q, hq⟩ := H.homes b ((hhomes b hb).resolve_left h)
      exact ⟨q, by rw [hne h]; exact hq⟩

/-- A holder changes what is in a buffer, but not which slot it is. -/
theorem replace (H : r.Owned sizes (b :: held)) (hhome : b'.home = b.home)
    (hslot : b'.slot = b.slot)
    (hdata : ∀ {data}, b.data = some data → ∃ data', b'.data = some data' ∧ data'.size = data.size) :
    r.Owned sizes (b' :: held) where
  shape := H.shape
  pools := by
    intro id p hp
    obtain ⟨hid, hacc⟩ := H.pools hp
    refine ⟨hid, ?_⟩
    by_cases h : b.home = id
    · rw [List.filter_cons_of_pos (by simpa using h)] at hacc
      rw [List.filter_cons_of_pos (by simpa [hhome] using h)]
      obtain ⟨hb, data, hd, hsize⟩ := hacc.owned b List.mem_cons_self
      obtain ⟨data', hd', hsize'⟩ := hdata hd
      exact hacc.replace hslot ⟨hhome.trans hb, data', hd', hsize'.trans hsize⟩
    · rw [List.filter_cons_of_neg (by simpa using h)] at hacc
      rw [List.filter_cons_of_neg (by simpa [hhome] using h)]
      exact hacc
  homes c hc := by
    rcases List.mem_cons.mp hc with rfl | hc
    · exact hhome ▸ H.homes b List.mem_cons_self
    · exact H.homes c (List.mem_cons_of_mem _ hc)

end Owned

/-! ### Acquiring -/

theorem setPool_self (h : r.pools[id]? = some p) : r.setPool id p = r := by
  obtain ⟨hlt, -⟩ := Array.getElem?_eq_some_iff.mp h
  have hpools : r.pools.setIfInBounds id p = r.pools := by
    refine Array.ext_getElem? fun i => ?_
    by_cases hi : id = i
    · subst hi
      rw [Array.getElem?_setIfInBounds_self_of_lt hlt, h]
    · rw [Array.getElem?_setIfInBounds_ne hi]
  rw [setPool, hpools]

theorem acquire_of_none (h : r.pools[id]? = none) : r.acquire id = (r, .exhausted) := by
  simp only [Registry.acquire, takeSlot, h]

theorem acquire_of_nil (hp : r.pools[id]? = some p) (hfree : p.free = []) :
    r.acquire id = (r, .exhausted) := by
  simp only [Registry.acquire, takeSlot, hp, Pool.Accounts.acquire_of_nil hfree, setPool_self hp]

/-- An acquire finds all slots outstanding, or hands out a slot that nobody holds. -/
theorem Owned.acquire (H : r.Owned sizes held) (hp : r.pools[id]? = some p) :
    (p.free = [] ∧ r.acquire id = (r, .exhausted)) ∨
    ∃ r' b, r.acquire id = (r', .taken r.buffers.size b.slot) ∧ r'.Owned sizes (b :: held) ∧
      r'.held = r.held ++ [b] ∧ b.slot ∈ p.free := by
  obtain ⟨hid, hacc⟩ := H.pools hp
  cases hfree : p.free with
  | nil => exact .inl ⟨rfl, acquire_of_nil hp hfree⟩
  | cons slot free =>
    obtain ⟨data, hacquire, hacc'⟩ := hacc.acquire_of_cons hfree
    let b : PooledBuffer := ⟨p.id, slot, some data, 0, false⟩
    have hb : b.home = id := hid
    have hset : (r.setPool id (p.without slot free)).Owned sizes (b :: held) := by
      refine H.setPool hp hid ⟨rfl, rfl⟩ ?_ (fun other hne => ?_) (fun c hc => ?_)
      · rw [List.filter_cons_of_pos (by simp [hb])]
        exact hacc'
      · exact List.filter_cons_of_neg (by simpa [hb] using Ne.symm hne)
      · rcases List.mem_cons.mp hc with rfl | hc
        · exact .inl hb
        · exact .inr hc
    refine .inr ⟨{ r.setPool id (p.without slot free) with buffers := r.buffers.push (some b) }, b,
      ?_, hset.congr rfl, held_push (r.setPool id (p.without slot free)) b, List.mem_cons_self⟩
    simp only [Registry.acquire, takeSlot, hp, hacquire]
    rfl

/-! ### Returning -/

/-- A buffer that goes home frees its slot, and no other pool changes. -/
theorem Owned.goHome (H : r.Owned sizes (b :: held)) :
    ∃ p p' data, r.pools[b.home]? = some p ∧ b.data = some data ∧
      p.returnSlot b.slot data = (p', .ok ()) ∧ (r.setPool b.home p').Owned sizes held := by
  obtain ⟨p, hp, hid, hacc⟩ := H.home
  obtain ⟨-, data, hd, -⟩ := hacc.owned b List.mem_cons_self
  obtain ⟨hreturn, hacc'⟩ := hacc.returnSlot hd
  refine ⟨p, p.withSlot b.slot data, data, hp, hd, hreturn, ?_⟩
  refine H.setPool hp hid ⟨rfl, rfl⟩ hacc'
    (fun other hne => ?_) (fun c hc => .inr (List.mem_cons_of_mem _ hc))
  exact (List.filter_cons_of_neg (by simpa using Ne.symm hne)).symm

theorem Owned.takeBack (H : r.Owned sizes (b :: held)) :
    ∃ p', r.takeBack b = (r.setPool b.home p', .done) ∧ (r.setPool b.home p').Owned sizes held := by
  obtain ⟨p, p', data, hp, hd, hreturn, H'⟩ := H.goHome
  exact ⟨p', by simp only [Registry.takeBack, hp, Pool.takeBack, hd, hreturn], H'⟩

theorem Owned.dropInto (H : r.Owned sizes (b :: held)) (unwinding : Bool) :
    ∃ p', r.dropInto unwinding b = (r.setPool b.home p', [], none) ∧
      (r.setPool b.home p').Owned sizes held := by
  obtain ⟨p, p', data, hp, hd, hreturn, H'⟩ := H.goHome
  exact ⟨p', by simp only [Registry.dropInto, hp, Pool.drop, hd, hreturn], H'⟩

/-! ### One request -/

/-- A request that concerns a buffer. -/
theorem step_of_subject {q : PoolRequest} (h : subject? q = some buf) :
    r.step q = match r.buffer? buf with
      | some b => r.stepBuffer buf b q
      | none => (r, [], .noSuchBuffer) := by
  cases q <;> cases h <;> rfl

/-- A buffer that is held, and the others. -/
theorem Owned.take (H : r.Owned sizes r.held) (h : r.buffer? buf = some b) :
    (r.setBuffer buf none).Owned sizes (b :: (r.setBuffer buf none).held) :=
  (H.perm (held_setBuffer_none h)).congr rfl

/-- A holder writes to a buffer or marks it. -/
theorem Owned.change (H : r.Owned sizes r.held) (h : r.buffer? buf = some b)
    (hhome : b'.home = b.home) (hslot : b'.slot = b.slot)
    (hdata : ∀ {data}, b.data = some data → ∃ data', b'.data = some data' ∧ data'.size = data.size) :
    (r.setBuffer buf (some b')).Owned sizes (r.setBuffer buf (some b')).held := by
  have hreplaced := (H.take h).replace hhome hslot hdata
  exact (hreplaced.perm (held_setBuffer_some h).symm).congr rfl

/-- Whatever is asked of a buffer, every slot has still one owner. -/
theorem Owned.stepBuffer (H : r.Owned sizes r.held) (h : r.buffer? buf = some b)
    {q : PoolRequest} (hq : q.keepsOwners = true) :
    (r.stepBuffer buf b q).1.Owned sizes (r.stepBuffer buf b q).1.held := by
  have htake := H.take h
  cases q with
  | acquire pool => exact H
  | release pool buf' =>
    simp only [Registry.stepBuffer]
    split
    · obtain ⟨p', hback, H'⟩ := htake.takeBack
      rw [hback]
      exact H'
    · obtain ⟨p', hdrop, H'⟩ := htake.dropInto false
      rw [hdrop]
      exact H'
  | releaseSelf buf' =>
    obtain ⟨p', hback, H'⟩ := htake.takeBack
    simp only [Registry.stepBuffer, hback]
    exact H'
  | drop buf' =>
    obtain ⟨p', hdrop, H'⟩ := htake.dropInto false
    simp only [Registry.stepBuffer, hdrop, settle]
    exact H'
  | dropUnwinding buf' =>
    obtain ⟨p', hdrop, H'⟩ := htake.dropInto true
    simp only [Registry.stepBuffer, hdrop]
    exact H'
  | write buf' start data =>
    refine H.change h rfl rfl fun {old} hold => ⟨old.overwrite start data, ?_, ?_⟩
    · simp [PooledBuffer.withData, PooledBuffer.whole, hold]
    · exact Bytes.size_overwrite old start data
  | setLen buf' len =>
    simp only [Registry.stepBuffer]
    cases hlen : b.setLen len with
    | error fault => exact H
    | ok b' =>
      unfold PooledBuffer.setLen at hlen
      split at hlen <;> cases hlen
      exact H.change h rfl rfl fun hold => ⟨_, hold, rfl⟩
  | select buf' value => exact H.change h rfl rfl fun hold => ⟨_, hold, rfl⟩
  | spend buf' | copy buf' => cases hq

theorem Owned.step (H : r.Owned sizes r.held) {q : PoolRequest} (hq : q.keepsOwners = true) :
    (r.step q).1.Owned sizes (r.step q).1.held := by
  cases hsubject : subject? q with
  | some buf =>
    rw [step_of_subject hsubject]
    cases h : r.buffer? buf with
    | none => exact H
    | some b => exact H.stepBuffer h hq
  | none =>
    obtain ⟨id, rfl⟩ : ∃ id, q = .acquire id := by
      cases q <;> first | exact ⟨_, rfl⟩ | cases hsubject
    cases hp : r.pools[id]? with
    | none =>
      simp only [Registry.step, acquire_of_none hp]
      exact H
    | some p =>
      simp only [Registry.step]
      rcases H.acquire hp with ⟨-, hnone⟩ | ⟨r', b, htaken, H', hheld, -⟩
      · rw [hnone]
        exact H
      · rw [htaken, hheld]
        exact H'.perm (List.perm_append_singleton b r.held).symm

theorem Owned.serve (H : r.Owned sizes r.held) {qs : List PoolRequest}
    (hqs : ∀ q ∈ qs, q.keepsOwners = true) :
    (r.serve qs).Owned sizes (r.serve qs).held := by
  induction qs generalizing r with
  | nil => exact H
  | cons q qs ih =>
    obtain ⟨hq, hqs⟩ := List.forall_mem_cons.mp hqs
    exact ih (H.step hq) hqs

/-! ### What every pool of a registry can rely on -/

/-- The slot is in the pool, once, with its storage, and with nobody else. -/
structure InPool (r : Registry) (id : Nat) (p : Pool) (slot : Nat) : Prop where
  listed : p.free.count slot = 1
  stored : ∃ data, p.storage[slot]? = some (some data) ∧ data.size = p.slotLen
  unheld : (r.heldOf id).filter (·.slot == slot) = []

/-- The slot is with one buffer, with its storage, and not in the pool. -/
structure WithBuffer (r : Registry) (id : Nat) (p : Pool) (slot : Nat) : Prop where
  unlisted : p.free.count slot = 0
  gone : p.storage[slot]? = some none
  held : ∃ b data, (r.heldOf id).filter (·.slot == slot) = [b] ∧ b.data = some data ∧
    data.size = p.slotLen

/-- Pool number `id` of a registry, and what comes of the requests that concern it. -/
structure WellKept (r : Registry) (id : Nat) (p : Pool) : Prop where
  slots : ∀ slot < p.capacity, r.InPool id p slot ∨ r.WithBuffer id p slot
  outstanding : p.outstanding = (r.heldOf id).length
  count : p.free.length + p.outstanding = p.capacity
  exhausted_iff : (r.step (.acquire id)).2.2 = .exhausted ↔ (r.heldOf id).length = p.capacity
  /-- Otherwise a slot is handed out that nobody holds. -/
  taken : (r.step (.acquire id)).2.2 ≠ .exhausted → ∃ slot < p.capacity,
    (r.step (.acquire id)).2.2 = .taken r.buffers.size slot ∧ ∀ b ∈ r.heldOf id, b.slot ≠ slot
  returns : ∀ buf b, r.buffer? buf = some b → b.home = id →
    (r.step (.release id buf)).2 = ([], .done) ∧ (r.step (.releaseSelf buf)).2 = ([], .done) ∧
      (r.step (.drop buf)).2 = ([], .done)
  /-- A buffer that is handed to another pool goes home, and the other pool stays as it is. -/
  foreign : ∀ buf b other q, r.buffer? buf = some b → b.home = id → other ≠ id →
    r.pools[other]? = some q →
    (r.step (.release other buf)).2 = ([], .refused (.foreignHandle b.slot)) ∧
      (r.step (.release other buf)).1.pools[other]? = some q ∧
      ∃ p', (r.step (.release other buf)).1.pools[id]? = some p' ∧
        p'.free = b.slot :: p.free ∧ p'.storage[b.slot]? = some b.data

theorem Owned.inPool_or_withBuffer (H : r.Owned sizes r.held) (hp : r.pools[id]? = some p)
    {slot : Nat} (hslot : slot < p.capacity) : r.InPool id p slot ∨ r.WithBuffer id p slot := by
  obtain ⟨hid, hacc⟩ := H.pools hp
  have honce : p.free.count slot + ((r.heldOf id).filter (·.slot == slot)).length = 1 := by
    have hcount := hacc.slots.count_eq slot
    rw [List.count_eq_one_of_mem List.nodup_range (List.mem_range.mpr hslot),
      List.count_append] at hcount
    have hheld : ((r.heldOf id).map (·.slot)).count slot =
        ((r.heldOf id).filter (·.slot == slot)).length := by
      rw [List.count_eq_countP, List.countP_map, List.countP_eq_length_filter]
      rfl
    rw [← hheld]
    exact hcount
  by_cases hfree : slot ∈ p.free
  · have hlisted := List.count_pos_iff.mpr hfree
    refine .inl ⟨by omega, hacc.stored slot hfree, List.length_eq_zero_iff.mp (by omega)⟩
  · have hunlisted := List.count_eq_zero.mpr hfree
    obtain ⟨b, hb⟩ := List.length_eq_one_iff.mp
      (show ((r.heldOf id).filter (·.slot == slot)).length = 1 by omega)
    have hmem : b ∈ (r.heldOf id).filter (·.slot == slot) := hb ▸ List.mem_cons_self
    obtain ⟨hheld, hbslot⟩ := List.mem_filter.mp hmem
    obtain ⟨-, data, hd, hsize⟩ := hacc.owned b hheld
    obtain rfl : b.slot = slot := by simpa using hbslot
    exact .inr ⟨hunlisted, hacc.lent b hheld, b, data, hb, hd, hsize⟩

theorem Owned.wellKept (H : r.Owned sizes r.held) (hp : r.pools[id]? = some p) :
    r.WellKept id p := by
  obtain ⟨hid, hacc⟩ := H.pools hp
  have hlength : p.free.length + (r.heldOf id).length = p.capacity := hacc.length_add
  have hunheld {slot : Nat} (hfree : slot ∈ p.free) : ∀ b ∈ r.heldOf id, b.slot ≠ slot := by
    rintro b hb rfl
    have hdisjoint := (List.nodup_append.mp hacc.nodup).2.2
    exact hdisjoint b.slot hfree b.slot (List.mem_map.mpr ⟨b, hb, rfl⟩) rfl
  have hacquire : (p.free = [] ∧ (r.step (.acquire id)).2.2 = .exhausted) ∨ ∃ slot ∈ p.free,
      (r.step (.acquire id)).2.2 = .taken r.buffers.size slot := by
    rcases H.acquire hp with ⟨hfree, hnone⟩ | ⟨r', b, htaken, -, -, hfree⟩
    · exact .inl ⟨hfree, by simp only [Registry.step, hnone]⟩
    · exact .inr ⟨b.slot, hfree, by simp only [Registry.step, htaken]⟩
  refine ⟨fun slot => H.inPool_or_withBuffer hp, hacc.count, ?_, ?_, ?_, ?_, ?_⟩
  · rw [hacc.count]
    exact hlength
  · rcases hacquire with ⟨hfree, hreply⟩ | ⟨slot, hfree, hreply⟩
    · rw [hfree, List.length_nil, Nat.zero_add] at hlength
      exact iff_of_true hreply hlength
    · have hpos := List.length_pos_of_mem hfree
      refine iff_of_false (fun h => by cases hreply.symm.trans h) (by omega)
  · intro hne
    rcases hacquire with ⟨-, hreply⟩ | ⟨slot, hfree, hreply⟩
    · exact absurd hreply hne
    · have hmem := hacc.slots.mem_iff.mp (List.mem_append_left _ hfree)
      exact ⟨slot, List.mem_range.mp hmem, hreply, hunheld hfree⟩
  · rintro buf b hb rfl
    have htake := H.take hb
    obtain ⟨p₁, hback, -⟩ := htake.takeBack
    obtain ⟨p₂, hdrop, -⟩ := htake.dropInto false
    refine ⟨?_, ?_, ?_⟩
    · simp only [step_of_subject (q := .release b.home buf) rfl, hb, Registry.stepBuffer, if_true,
        hback]
    · simp only [step_of_subject (q := .releaseSelf buf) rfl, hb, Registry.stepBuffer, hback]
    · simp only [step_of_subject (q := .drop buf) rfl, hb, Registry.stepBuffer, hdrop, settle]
  · rintro buf b other q hb rfl hne hq
    obtain ⟨p₀, p', data, hp₀, hd, hreturn, -⟩ := (H.take hb).goHome
    obtain rfl : p = p₀ := Option.some.inj (hp.symm.trans hp₀)
    obtain ⟨hlt, -⟩ := Array.getElem?_eq_some_iff.mp hp
    obtain ⟨hin, rfl⟩ := Pool.returnSlot_eq_ok hreturn
    have hdrop : (r.setBuffer buf none).dropInto false b =
        ((r.setBuffer buf none).setPool b.home (p.withSlot b.slot data), [], none) := by
      simp only [Registry.dropInto, hp₀, Pool.drop, hd, hreturn]
    have hstep : r.step (.release other buf) =
        ((r.setBuffer buf none).setPool b.home (p.withSlot b.slot data), [],
          .refused (.foreignHandle b.slot)) := by
      simp only [step_of_subject (q := .release other buf) rfl, hb, Registry.stepBuffer, if_neg hne,
        hdrop]
    rw [hstep]
    have hstored := (Array.getElem?_setIfInBounds_self_of_lt hin).trans (congrArg some hd.symm)
    refine ⟨rfl, ?_, _, Array.getElem?_setIfInBounds_self_of_lt hlt, rfl, hstored⟩
    exact (Array.getElem?_setIfInBounds_ne (Ne.symm hne)).trans hq

/-- Whatever is asked of pools of any sizes, by callers that spend no buffer and make no second one
for a slot: each slot is in its pool or with one buffer, a pool is exhausted exactly if all its slots
are held, a buffer always goes back to its own pool, and none is left with another. -/
theorem serve_wellKept (sizes : List (Nat × Nat)) (qs : List PoolRequest)
    (hqs : ∀ q ∈ qs, q.keepsOwners = true) {id : Nat} {p : Pool}
    (hp : ((Registry.fresh sizes).serve qs).pools[id]? = some p) :
    sizes[id]? = some (p.capacity, p.slotLen) ∧
      ((Registry.fresh sizes).serve qs).WellKept id p := by
  have H := (Owned.fresh sizes).serve hqs
  refine ⟨?_, H.wellKept hp⟩
  rw [← H.shape id, hp]
  rfl

/-- Two buffers of the first of two pools, one of which is handed to the second pool and goes home. -/
theorem serve_wellKept_of_foreign : ∃ p : Pool,
    ((Registry.fresh [(2, 4), (1, 4)]).serve
      [.acquire 0, .acquire 0, .write 0 1 #[7, 7], .release 1 0]).pools[0]? = some p ∧
    p.free = [0] ∧ p.outstanding = 1 ∧
    ((Registry.fresh [(2, 4), (1, 4)]).serve
      [.acquire 0, .acquire 0, .write 0 1 #[7, 7], .release 1 0]).WellKept 0 p := by
  refine ⟨⟨0, 2, 4, #[some #[0, 7, 7, 0], none], [0], 1⟩, rfl, rfl, rfl, ?_⟩
  exact (serve_wellKept _ _ (by decide) rfl).2

end Registry
end TickCapture
