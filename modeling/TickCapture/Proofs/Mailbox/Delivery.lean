import TickCapture.Mailbox.Basic

/-! # Which message a mailbox delivers

Entries are kept in the order of acceptance, so their numbers grow along the queue
(`Mailbox.Orderly`). Then the entry that outranks all others is the first one of the highest class
(`Delivers`), and taking it out leaves the rest in its order.

A mailbox whose messages are all of one class delivers them first in, first out
(`receive_got_uniform`). -/

namespace TickCapture

/-- `x` is the next of the messages `xs` to be delivered, and `rest` stays: those accepted before it
are of a lower class, those accepted after it of no higher one. -/
inductive Delivers {β : Type} (classOf : β → Priority) : List β → β → List β → Prop
  | mk {before after : List β} {x : β} :
    (∀ y ∈ before, classOf y < classOf x) → (∀ y ∈ after, classOf y ≤ classOf x) →
    Delivers classOf (before ++ x :: after) x (before ++ after)

namespace Delivers

variable {β γ : Type} {classOf : β → Priority} {xs rest : List β} {x : β}

theorem perm (H : Delivers classOf xs x rest) : xs.Perm (x :: rest) := by
  cases H with
  | mk _ _ => exact List.perm_middle

theorem sublist (H : Delivers classOf xs x rest) : rest.Sublist xs := by
  cases H with
  | mk _ _ => exact (List.sublist_cons_self _ _).append_left _

theorem mem (H : Delivers classOf xs x rest) : x ∈ xs :=
  H.perm.mem_iff.mpr List.mem_cons_self

/-- Nothing that waits is of a higher class than what is delivered. -/
theorem class_le (H : Delivers classOf xs x rest) {y : β} (hy : y ∈ xs) : classOf y ≤ classOf x := by
  cases H with
  | mk hb ha =>
    rcases List.mem_append.mp hy with hy | hy
    · exact UInt32.le_of_lt (hb y hy)
    · rcases List.mem_cons.mp hy with rfl | hy
      · exact UInt32.le_refl _
      · exact ha y hy

/-- The first message is delivered if no other one is of a higher class. -/
theorem head (h : ∀ y ∈ xs, classOf y ≤ classOf x) : Delivers classOf (x :: xs) x xs :=
  .mk (fun _ hy => absurd hy List.not_mem_nil) h

/-- A message of a lower class is passed by. -/
theorem cons {y : β} (h : classOf y < classOf x) (H : Delivers classOf xs x rest) :
    Delivers classOf (y :: xs) x (y :: rest) := by
  cases H with
  | @mk before after _ hb ha =>
    rw [← List.cons_append, ← List.cons_append]
    refine .mk (fun z hz => ?_) ha
    rcases List.mem_cons.mp hz with rfl | hz
    · exact h
    · exact hb z hz

theorem map (f : β → γ) {classOf' : γ → Priority} (hf : ∀ y, classOf' (f y) = classOf y)
    (H : Delivers classOf xs x rest) : Delivers classOf' (xs.map f) (f x) (rest.map f) := by
  cases H with
  | mk hb ha =>
    rw [List.map_append, List.map_append, List.map_cons]
    refine .mk (fun y hy => ?_) (fun y hy => ?_)
    · obtain ⟨z, hz, rfl⟩ := List.mem_map.mp hy
      rw [hf, hf]
      exact hb z hz
    · obtain ⟨z, hz, rfl⟩ := List.mem_map.mp hy
      rw [hf, hf]
      exact ha z hz

/-- Among messages of one class the first one is delivered. -/
theorem eq_cons_of_uniform {c : Priority} (H : Delivers classOf xs x rest)
    (hc : ∀ y ∈ xs, classOf y = c) : xs = x :: rest := by
  have hx := hc x H.mem
  cases H with
  | @mk before after _ hb ha =>
    cases before with
    | nil => rfl
    | cons y ys =>
      have hy := hb y List.mem_cons_self
      rw [hc y (by simp), hx] at hy
      exact absurd hy (UInt32.lt_irrefl _)

end Delivers

namespace Mailbox

variable {α : Type}

/-- The messages waiting, in the order of acceptance. -/
def messages (m : Mailbox α) : List α := m.queue.map (·.message)

/-- Numbers grow along the queue and stay below the next one. -/
structure Orderly (m : Mailbox α) : Prop where
  sorted : m.queue.Pairwise fun a b => a.number < b.number
  below : ∀ e ∈ m.queue, e.number < m.nextNumber

/-! ### The entry that is taken -/

theorem highest?_eq_none_iff {es : List (Entry α)} : highest? es = none ↔ es = [] := by
  cases es with
  | nil => simp [highest?]
  | cons e es => cases h : highest? es <;> simp [highest?, h]

/-- Of two entries the later one outranks the earlier one if it is of a higher class. -/
theorem outranks_of_number_lt {a b : Entry α} (h : a.number < b.number) :
    b.outranks a = decide (a.priority < b.priority) := by
  have hn : ¬ b.number < a.number := by omega
  simp [Entry.outranks, hn]

/-- The highest entry is the first one of the highest class. -/
theorem delivers_of_highest? {es : List (Entry α)} {e : Entry α}
    (hs : es.Pairwise fun a b => a.number < b.number) (h : highest? es = some e) :
    ∃ rest, Delivers (·.priority) es e rest := by
  induction es generalizing e with
  | nil => simp [highest?] at h
  | cons a es ih =>
    obtain ⟨ha, hs⟩ := List.pairwise_cons.mp hs
    cases hb : highest? es with
    | none =>
      obtain rfl : a = e := by simpa [highest?, hb] using h
      rw [highest?_eq_none_iff.mp hb]
      exact ⟨_, .head nofun⟩
    | some best =>
      obtain ⟨rest, H⟩ := ih hs hb
      have hlt := ha best H.mem
      simp only [highest?, hb, outranks_of_number_lt hlt, decide_eq_true_eq, Option.some.injEq] at h
      split at h
      · -- a later entry of a higher class: the first one is only passed by
        subst h
        exact ⟨_, H.cons ‹_›⟩
      · subst h
        refine ⟨_, .head fun y hy => ?_⟩
        exact UInt32.le_trans (H.class_le hy) (UInt32.not_lt.mp ‹_›)

/-- Numbers tell the entries of a queue apart, so the one that is taken is the one that was found. -/
theorem eraseP_of_delivers {es rest : List (Entry α)} {e : Entry α}
    (hs : es.Pairwise fun a b => a.number < b.number) (H : Delivers (·.priority) es e rest) :
    (es.eraseP fun x => x.number == e.number) = rest := by
  cases H with
  | @mk before after _ _ _ =>
    have hne : ∀ x ∈ before, ¬ (x.number == e.number) = true := by
      intro x hx
      have := (List.pairwise_append.mp hs).2.2 x hx e List.mem_cons_self
      simp only [beq_iff_eq]
      omega
    rw [List.eraseP_append_right _ hne, List.eraseP_cons_of_pos (by simp)]

theorem takeHighest?_eq_none_iff {es : List (Entry α)} : takeHighest? es = none ↔ es = [] := by
  simp [takeHighest?, highest?_eq_none_iff]

theorem delivers_of_takeHighest? {es rest : List (Entry α)} {e : Entry α}
    (hs : es.Pairwise fun a b => a.number < b.number) (h : takeHighest? es = some (e, rest)) :
    Delivers (·.priority) es e rest := by
  obtain ⟨best, hb, he⟩ := Option.map_eq_some_iff.mp h
  obtain ⟨rfl, rfl⟩ := Prod.mk.inj he
  obtain ⟨rest, H⟩ := delivers_of_highest? hs hb
  rwa [eraseP_of_delivers hs H]

/-! ### Receiving -/

/-- What a receive can come to: the highest entry is taken out, or nothing waits and nothing
changes. -/
inductive ReceiveCase (m : Mailbox α) : Mailbox α → Received α → Prop
  | got {e : Entry α} {rest : List (Entry α)} : Delivers (·.priority) m.queue e rest →
    ReceiveCase m { m with queue := rest } (.got e.message)
  | nothing : m.queue = [] → m.senders ≠ 0 → ReceiveCase m m .nothing
  | closed : m.queue = [] → m.senders = 0 → ReceiveCase m m .closed

theorem receive_cases {m m' : Mailbox α} {r : Received α} (H : m.Orderly)
    (h : m.receive = (m', r)) : ReceiveCase m m' r := by
  unfold receive at h
  split at h
  · next e rest he =>
    obtain ⟨rfl, rfl⟩ := Prod.mk.inj h
    exact .got (delivers_of_takeHighest? H.sorted he)
  · next he =>
    have hq := takeHighest?_eq_none_iff.mp he
    by_cases hs : m.senders = 0
    · rw [if_pos hs] at h
      obtain ⟨rfl, rfl⟩ := Prod.mk.inj h
      exact .closed hq hs
    · rw [if_neg hs] at h
      obtain ⟨rfl, rfl⟩ := Prod.mk.inj h
      exact .nothing hq hs

/-- What is delivered was there, and the rest stays. -/
theorem receive_got_perm {m m' : Mailbox α} {x : α} (H : m.Orderly)
    (h : m.receive = (m', .got x)) : m.messages.Perm (x :: m'.messages) := by
  cases receive_cases H h with
  | got hd => exact hd.perm.map _

/-- Messages of one class are delivered first in, first out. -/
theorem receive_got_uniform {m m' : Mailbox α} {x : α} {c : Priority} (H : m.Orderly)
    (hc : ∀ e ∈ m.queue, e.priority = c) (h : m.receive = (m', .got x)) :
    m.messages = x :: m'.messages := by
  cases receive_cases H h with
  | got hd =>
    unfold messages
    rw [hd.eq_cons_of_uniform hc, List.map_cons]

/-! ### Sending -/

/-- What an attempt to send can come to. -/
inductive AttemptCase (m : Mailbox α) (x : α) (c : Priority) : Mailbox α → Sent α → Prop
  | accepted : m.receiverAlive = true → m.queue.length < m.capacity →
    AttemptCase m x c
      { m with queue := m.queue ++ [⟨c, m.nextNumber, x⟩], nextNumber := m.nextNumber + 1 } .accepted
  | full : m.receiverAlive = true → m.capacity ≤ m.queue.length → AttemptCase m x c m (.full x)
  | closed : m.receiverAlive = false → AttemptCase m x c m (.closed x)

theorem attempt_cases {m m' : Mailbox α} {x : α} {c : Priority} {r : Sent α}
    (h : m.attempt x c = (m', r)) : AttemptCase m x c m' r := by
  unfold attempt at h
  split at h
  · next ha =>
    obtain ⟨rfl, rfl⟩ := Prod.mk.inj h
    exact .closed (by simpa using ha)
  · next ha =>
    replace ha : m.receiverAlive = true := by simpa using ha
    split at h
    · next hl =>
      obtain ⟨rfl, rfl⟩ := Prod.mk.inj h
      exact .accepted ha hl
    · next hl =>
      obtain ⟨rfl, rfl⟩ := Prod.mk.inj h
      exact .full ha (Nat.le_of_not_lt hl)

/-! ### Numbers keep their order -/

namespace Orderly

theorem bounded [MessageSize α] {capacity : Nat} {m : Mailbox α}
    (h : Mailbox.bounded capacity = .ok m) :
    m.Orderly ∧ m = ⟨capacity, [], 0, 1, true⟩ := by
  unfold Mailbox.bounded at h
  split at h
  · cases h
  · split at h
    · cases h
    · cases h
      exact ⟨⟨.nil, nofun⟩, rfl⟩

theorem attempt {m m' : Mailbox α} {x : α} {c : Priority} {r : Sent α} (H : m.Orderly)
    (h : m.attempt x c = (m', r)) : m'.Orderly := by
  cases attempt_cases h with
  | accepted _ _ =>
    constructor
    · refine List.pairwise_append.mpr ⟨H.sorted, List.pairwise_singleton _ _, fun a ha b hb => ?_⟩
      rw [List.mem_singleton.mp hb]
      exact H.below a ha
    · intro e he
      rcases List.mem_append.mp he with he | he
      · exact Nat.lt_succ_of_lt (H.below e he)
      · rw [List.mem_singleton.mp he]
        exact Nat.lt_succ_self _
  | full _ _ => exact H
  | closed _ => exact H

theorem receive {m m' : Mailbox α} {r : Received α} (H : m.Orderly)
    (h : m.receive = (m', r)) : m'.Orderly := by
  cases receive_cases H h with
  | got hd => exact ⟨H.sorted.sublist hd.sublist, fun e he => H.below e (hd.sublist.mem he)⟩
  | nothing _ _ => exact H
  | closed _ _ => exact H

theorem cloneSender {m : Mailbox α} (H : m.Orderly) : m.cloneSender.Orderly := ⟨H.sorted, H.below⟩

theorem dropSender {m : Mailbox α} (H : m.Orderly) : m.dropSender.Orderly := ⟨H.sorted, H.below⟩

theorem dropReceiver {m : Mailbox α} : m.dropReceiver.1.Orderly := ⟨.nil, nofun⟩

end Orderly
end Mailbox
end TickCapture
