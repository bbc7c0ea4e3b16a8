import Mathlib.Data.List.Induction
import TickCapture.Proofs.Pool.Ownership

/-! # What requests do to the slots of a pool

A request takes a slot, gives one back, writes to one, or does none of this; `Registry.event?` says
which, and `Registry.Stirs` what the registry is then. From the events of a pool one can tell what each
slot holds, if it is a piece of memory that keeps what is written to it (`contents`), and which slots
are free, if they are a stack on top of those that were never used (`shelf`). -/

namespace TickCapture

/-- What happens to a slot of a pool. -/
inductive SlotEvent where
  | taken (slot : Nat)
  | freed (slot : Nat)
  | written (slot start : Nat) (data : Bytes)
  deriving DecidableEq

/-! ### The memory and the stack that the events of a pool describe -/

/-- What a slot of `slotLen` bytes holds: zeros, and over them whatever was written to it, in order. -/
def contents (slotLen slot : Nat) (es : List SlotEvent) : Bytes :=
  es.foldl (fun memory e => match e with
    | .written written start data => if written = slot then memory.overwrite start data else memory
    | .taken _ | .freed _ => memory) (Bytes.zeros slotLen)

/-- The slots that were freed and not taken again, the one freed last first. -/
def givenBack (es : List SlotEvent) : List Nat :=
  es.foldl (fun stack e => match e with
    | .taken slot => stack.erase slot
    | .freed slot => slot :: stack
    | .written _ _ _ => stack) []

/-- The slots that were never taken, in increasing order. -/
def unused (capacity : Nat) (es : List SlotEvent) : List Nat :=
  (List.range capacity).filter fun slot => .taken slot ∉ es

/-- The free slots of a pool, the next one to be handed out first. -/
def shelf (capacity : Nat) (es : List SlotEvent) : List Nat := givenBack es ++ unused capacity es

section Events

variable {es : List SlotEvent} {capacity slotLen slot other start : Nat} {free : List Nat}
  {data : Bytes} {e : SlotEvent}

@[simp] theorem contents_nil : contents slotLen slot [] = Bytes.zeros slotLen := rfl

@[simp] theorem contents_taken :
    contents slotLen slot (es ++ [.taken other]) = contents slotLen slot es := by
  rw [contents, List.foldl_append]
  rfl

@[simp] theorem contents_freed :
    contents slotLen slot (es ++ [.freed other]) = contents slotLen slot es := by
  rw [contents, List.foldl_append]
  rfl

theorem contents_written : contents slotLen slot (es ++ [.written other start data]) =
    if other = slot then (contents slotLen slot es).overwrite start data
    else contents slotLen slot es := by
  rw [contents, List.foldl_append]
  rfl

theorem size_contents : (contents slotLen slot es).size = slotLen := by
  induction es using List.reverseRecOn with
  | nil => exact Array.size_replicate
  | append_singleton es e ih =>
    cases e with
    | taken other => rw [contents_taken, ih]
    | freed other => rw [contents_freed, ih]
    | written other start data =>
      rw [contents_written]
      split
      · rw [Bytes.size_overwrite, ih]
      · exact ih

theorem shelf_nil : shelf capacity [] = List.range capacity := by
  simp [shelf, givenBack, unused]

theorem unused_concat (h : ∀ slot, e ≠ .taken slot) :
    unused capacity (es ++ [e]) = unused capacity es := by
  simp [unused, fun slot => (h slot).symm]

theorem unused_taken :
    unused capacity (es ++ [.taken slot]) = (unused capacity es).filter (· ≠ slot) := by
  rw [unused, unused, List.filter_filter]
  refine List.filter_congr fun i _ => ?_
  simp [and_comm]

/-- A slot that is given back comes to the top. -/
theorem shelf_freed : shelf capacity (es ++ [.freed slot]) = slot :: shelf capacity es := by
  rw [shelf, unused_concat (by simp), givenBack, List.foldl_append]
  rfl

theorem shelf_written :
    shelf capacity (es ++ [.written slot start data]) = shelf capacity es := by
  rw [shelf, unused_concat (by simp), givenBack, List.foldl_append]
  rfl

/-- The slot at the top is taken away. -/
theorem shelf_taken (hnodup : (shelf capacity es).Nodup) (htop : shelf capacity es = slot :: free) :
    shelf capacity (es ++ [.taken slot]) = free := by
  have hback : givenBack (es ++ [.taken slot]) = (givenBack es).erase slot := by
    rw [givenBack, List.foldl_append]
    rfl
  rw [htop, List.nodup_cons] at hnodup
  rw [shelf, hback, unused_taken]
  rw [shelf] at htop
  cases hgiven : givenBack es with
  | nil =>
    rw [hgiven, List.nil_append] at htop
    rw [htop, List.filter_cons_of_neg (by simp)]
    exact List.filter_eq_self.mpr fun i hi => by
      simpa using fun heq : i = slot => hnodup.1 (heq ▸ hi)
  | cons top stack =>
    rw [hgiven, List.cons_append] at htop
    obtain ⟨rfl, rfl⟩ := List.cons.inj htop
    have hunused : (unused capacity es).filter (· ≠ top) = unused capacity es :=
      List.filter_eq_self.mpr fun i hi => by
        simpa using fun heq : i = top => hnodup.1 (heq ▸ List.mem_append_right _ hi)
    rw [List.erase_cons_head, hunused]

end Events

/-! ### What a request comes to -/

namespace PooledBuffer

/-- The storage is there, and no more of it is marked as valid than there is. -/
def Shows (b : PooledBuffer) (memory : Bytes) : Prop := b.data = some memory ∧ b.len ≤ memory.size

/-- `b'` is `b`, perhaps marked otherwise. -/
structure Marked (b b' : PooledBuffer) : Prop where
  home : b'.home = b.home
  slot : b'.slot = b.slot
  data : b'.data = b.data
  len : b'.len = b.len ∨ b'.len ≤ b.capacity

variable {b b' : PooledBuffer} {memory : Bytes}

theorem Marked.rfl : b.Marked b := ⟨Eq.refl _, Eq.refl _, Eq.refl _, .inl (Eq.refl _)⟩

theorem Shows.whole (h : b.Shows memory) : b.whole = memory := by rw [PooledBuffer.whole, h.1]; rfl

theorem Shows.capacity (h : b.Shows memory) : b.capacity = memory.size := by
  rw [PooledBuffer.capacity, h.1]

theorem Shows.bytes (h : b.Shows memory) : b.bytes = memory.extract 0 b.len := by
  rw [PooledBuffer.bytes, h.1]

theorem Shows.marked (h : b.Shows memory) (hmarked : b.Marked b') : b'.Shows memory := by
  refine ⟨hmarked.data.trans h.1, ?_⟩
  rcases hmarked.len with hlen | hlen
  · exact hlen ▸ h.2
  · exact h.capacity ▸ hlen

end PooledBuffer

namespace Registry

variable {r r' : Registry} {sizes : List (Nat × Nat)} {id : Nat} {p p' : Pool}
  {es : List SlotEvent} {q : PoolRequest} {buf slot start : Nat} {b : PooledBuffer}
  {rest : List PooledBuffer} {free : List Nat} {old data : Bytes}

/-- What a request does to a slot, and to which pool the slot belongs. -/
def event? (r : Registry) : PoolRequest → Option (Nat × SlotEvent)
  | .acquire pool => match (r.acquire pool).2 with
    | .taken _ slot => some (pool, .taken slot)
    | _ => none
  | .release _ buf | .releaseSelf buf | .drop buf | .dropUnwinding buf | .spend buf =>
    (r.buffer? buf).map fun b => (b.home, .freed b.slot)
  | .write buf start data => (r.buffer? buf).map fun b => (b.home, .written b.slot start data)
  | .setLen _ _ | .select _ _ | .copy _ => none

/-- The one among the events that concerns a pool. -/
def eventIn? (id : Nat) (event? : Option (Nat × SlotEvent)) : Option SlotEvent :=
  (event?.filter (·.1 = id)).map (·.2)

theorem eventIn?_none : es ++ (eventIn? id none).toList = es := List.append_nil es

theorem eventIn?_self {e : SlotEvent} :
    es ++ (eventIn? id (some (id, e))).toList = es ++ [e] := by
  simp [eventIn?]

theorem eventIn?_of_ne {other : Nat} {e : SlotEvent} (h : other ≠ id) :
    es ++ (eventIn? id (some (other, e))).toList = es := by
  simp [eventIn?, h]

/-- What requests do to the slots of a pool, one after another. -/
def events (id : Nat) (r : Registry) : List PoolRequest → List SlotEvent
  | [] => []
  | q :: qs => (eventIn? id (r.event? q)).toList ++ events id (r.step q).1 qs

/-- What a request can come to: a slot is taken, given back or written to, or none of this. -/
inductive Stirs (r : Registry) : Option (Nat × SlotEvent) → Registry → Prop
  | stays {r' : Registry} : r'.pools = r.pools →
    (∀ b' ∈ r'.held, ∃ b ∈ r.held, b.Marked b') → Stirs r none r'
  | takes {r' : Registry} {id slot : Nat} {free : List Nat} {p : Pool} {data : Bytes} :
    r.pools[id]? = some p → p.free = slot :: free → p.storage[slot]? = some (some data) →
    r'.pools = (r.setPool id (p.without slot free)).pools →
    r'.held = r.held ++ [⟨id, slot, some data, 0, false⟩] →
    Stirs r (some (id, .taken slot)) r'
  | frees {r' : Registry} {p : Pool} {b : PooledBuffer} {data : Bytes} :
    r.pools[b.home]? = some p → b.data = some data →
    r'.pools = (r.setPool b.home (p.withSlot b.slot data)).pools → r.held.Perm (b :: r'.held) →
    Stirs r (some (b.home, .freed b.slot)) r'
  | writes {r' : Registry} {start : Nat} {b : PooledBuffer} {old data : Bytes}
    {rest : List PooledBuffer} : r'.pools = r.pools → r.held.Perm (b :: rest) →
    b.data = some old →
    r'.held.Perm ({ b with data := some (old.overwrite start data) } :: rest) →
    Stirs r (some (b.home, .written b.slot start data)) r'

theorem stirs_marked {b' : PooledBuffer} (h : r.buffer? buf = some b) (hmarked : b.Marked b') :
    r.Stirs none (r.setBuffer buf (some b')) := by
  have hold := held_setBuffer_none h
  refine .stays rfl fun c hc => ?_
  rcases List.mem_cons.mp ((held_setBuffer_some h).mem_iff.mp hc) with rfl | hc
  · exact ⟨b, hold.mem_iff.mpr List.mem_cons_self, hmarked⟩
  · exact ⟨c, hold.mem_iff.mpr (List.mem_cons_of_mem _ hc), .rfl⟩

/-- A buffer that is given back frees its slot, whichever way it goes. -/
theorem Owned.stirs_goHome (H : r.Owned sizes r.held) (h : r.buffer? buf = some b) :
    ∃ r', (r.setBuffer buf none).takeBack b = (r', .done) ∧
      (∀ unwinding, (r.setBuffer buf none).dropInto unwinding b = (r', [], none)) ∧
      r.Stirs (some (b.home, .freed b.slot)) r' := by
  obtain ⟨p, p', data, hp, hd, hreturn, -⟩ := (H.take h).goHome
  obtain ⟨-, rfl⟩ := Pool.returnSlot_eq_ok hreturn
  refine ⟨(r.setBuffer buf none).setPool b.home (p.withSlot b.slot data), ?_, fun unwinding => ?_,
    .frees hp hd rfl (held_setBuffer_none h)⟩
  · simp only [Registry.takeBack, hp, Pool.takeBack, hd, hreturn]
  · simp only [Registry.dropInto, hp, Pool.drop, hd, hreturn]

theorem Owned.stirs_buffer (H : r.Owned sizes r.held) (h : r.buffer? buf = some b)
    (hq : q.keepsOwners = true) (hsubject : subject? q = some buf) :
    r.Stirs (r.event? q) (r.stepBuffer buf b q).1 := by
  have hback := H.stirs_goHome h
  cases q with
  | acquire pool => cases hsubject
  | release pool buf' =>
    cases hsubject
    obtain ⟨r', htake, hdrop, hstirs⟩ := hback
    simp only [event?, h, Option.map_some, Registry.stepBuffer]
    split
    · rwa [htake]
    · rwa [hdrop]
  | releaseSelf buf' =>
    cases hsubject
    obtain ⟨r', htake, hdrop, hstirs⟩ := hback
    simp only [event?, h, Option.map_some, Registry.stepBuffer, htake]
    exact hstirs
  | drop buf' | dropUnwinding buf' =>
    cases hsubject
    obtain ⟨r', htake, hdrop, hstirs⟩ := hback
    simp only [event?, h, Option.map_some, Registry.stepBuffer, hdrop, settle]
    exact hstirs
  | write buf' start data =>
    cases hsubject
    obtain ⟨-, -, old, -, hold, -⟩ := (H.take h).goHome
    simp only [event?, h, Option.map_some, Registry.stepBuffer]
    refine .writes rfl (held_setBuffer_none h) hold ?_
    have hwritten : (b.write start data).1 = { b with data := some (old.overwrite start data) } := by
      simp [PooledBuffer.write, PooledBuffer.withData, PooledBuffer.whole, hold]
    rw [← hwritten]
    exact held_setBuffer_some h
  | setLen buf' len =>
    cases hsubject
    simp only [event?, Registry.stepBuffer]
    cases hlen : b.setLen len with
    | error fault => exact .stays rfl fun c hc => ⟨c, hc, .rfl⟩
    | ok b' =>
      unfold PooledBuffer.setLen at hlen
      split at hlen
      · next hle =>
        cases hlen
        exact stirs_marked h ⟨rfl, rfl, rfl, .inr hle⟩
      · cases hlen
  | select buf' value =>
    cases hsubject
    exact stirs_marked h ⟨rfl, rfl, rfl, .inl rfl⟩
  | spend buf' | copy buf' => cases hq

theorem Owned.acquire_eq (H : r.Owned sizes r.held) (hp : r.pools[id]? = some p)
    (hfree : p.free = slot :: free) (hdata : p.storage[slot]? = some (some data)) :
    r.acquire id = ({ r.setPool id (p.without slot free) with
      buffers := r.buffers.push (some ⟨id, slot, some data, 0, false⟩) },
      .taken r.buffers.size slot) := by
  obtain ⟨hid, hacc⟩ := H.pools hp
  simp only [Registry.acquire, takeSlot, hp, hacc.acquire_eq hfree hdata, hid]
  rfl

/-- Every request does to the slots what its event says. -/
theorem Owned.stirs (H : r.Owned sizes r.held) (hq : q.keepsOwners = true) :
    r.Stirs (r.event? q) (r.step q).1 := by
  have hstays : r.Stirs none r := .stays rfl fun c hc => ⟨c, hc, .rfl⟩
  cases hsubject : subject? q with
  | some buf =>
    rw [step_of_subject hsubject]
    cases h : r.buffer? buf with
    | some b => exact H.stirs_buffer h hq hsubject
    | none =>
      have hnone : r.event? q = none := by
        cases q <;> cases hsubject <;> simp [event?, h]
      rw [hnone]
      exact hstays
  | none =>
    obtain ⟨id, rfl⟩ : ∃ id, q = .acquire id := by
      cases q <;> first | exact ⟨_, rfl⟩ | cases hsubject
    cases hp : r.pools[id]? with
    | none =>
      simp only [Registry.step, event?, acquire_of_none hp]
      exact hstays
    | some p =>
      cases hfree : p.free with
      | nil =>
        simp only [Registry.step, event?, acquire_of_nil hp hfree]
        exact hstays
      | cons slot free =>
        obtain ⟨data, hdata, -⟩ := (H.pools hp).2.stored slot (hfree ▸ List.mem_cons_self)
        simp only [Registry.step, event?, H.acquire_eq hp hfree hdata]
        exact .takes hp hfree hdata rfl (held_push (r.setPool id (p.without slot free)) _)

end Registry
end TickCapture
