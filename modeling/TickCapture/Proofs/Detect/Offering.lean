import Mathlib.Data.List.Induction
import TickCapture.Detect.TickDetector
import TickCapture.Proofs.Pool.Ownership

/-! # Frames offered to a detector

Of the frames that are offered one after another, the first one with any bytes and the later ones of its
size are accepted (`acceptedOf`). What a detector has become is told by the accepted frames alone
(`TickDetector.holding`), and so is what it gives back: each accepted frame but the last, in order and
with its bytes, selected if the comparison with the next one is a tick (`displacedOf`). A frame that is
not accepted changes nothing, and goes back to its pool. -/

namespace TickCapture

variable {α : Type} [Scale α]

/-! ### Differences one after another -/

namespace Hysteresis

/-- The state that differences lead to. -/
def after (h : Hysteresis α) (xs : List α) : Hysteresis α := xs.foldl (fun h x => (h.step x).1) h

/-- For each of the differences, whether it is a tick. -/
def ticks (h : Hysteresis α) : List α → List Bool
  | [] => []
  | x :: xs => (h.step x).2 :: ticks (h.step x).1 xs

theorem after_concat (h : Hysteresis α) (xs : List α) (x : α) :
    h.after (xs ++ [x]) = ((h.after xs).step x).1 := List.foldl_append

theorem ticks_concat (h : Hysteresis α) (xs : List α) (x : α) :
    h.ticks (xs ++ [x]) = h.ticks xs ++ [((h.after xs).step x).2] := by
  induction xs generalizing h with
  | nil => rfl
  | cons y ys ih =>
    rw [List.cons_append, ticks, ih]
    rfl

@[simp] theorem length_ticks (h : Hysteresis α) (xs : List α) : (h.ticks xs).length = xs.length := by
  induction xs generalizing h with
  | nil => rfl
  | cons x xs ih => rw [ticks, List.length_cons, ih, List.length_cons]

end Hysteresis

/-! ### Accepted frames -/

/-- Of frames offered one after another, the first with any bytes and the later ones of its size. -/
def acceptedOf (offered : List PooledBuffer) : List PooledBuffer :=
  match offered.dropWhile (·.len = 0) with
  | [] => []
  | first :: later => first :: later.filter (·.len = first.len)

/-- How much each frame but the first differs from the one before it, as a part of the most that
frames of that size can. -/
def differencesOf : List PooledBuffer → List α
  | [] => []
  | first :: later =>
    later.zipWith (fun b held => Scale.ratio (diffSum b.bytes held.bytes) (255 * first.len))
      (first :: later)

/-- Each frame but the last, selected if the one after it makes a tick. -/
def displacedOf (h : Hysteresis α) (frames : List PooledBuffer) : List PooledBuffer :=
  frames.zipWith (fun held tick => { held with selected := tick }) (h.ticks (differencesOf frames))

section Lists

variable {β γ δ : Type} {f : β → γ → δ} {xs : List β} {ys : List γ} {y : γ}

/-- Two lists of which one is ahead of the other by an element, and stays so. -/
theorem zipWith_concat_of_ahead (hlength : ys.length = xs.length + 1) (hlast : ys.getLast? = some y)
    (x : β) (z : γ) : (xs ++ [x]).zipWith f (ys ++ [z]) = xs.zipWith f ys ++ [f x y] := by
  obtain ⟨init, rfl⟩ := List.getLast?_eq_some_iff.mp hlast
  have hinit : xs.length = init.length := by
    rw [List.length_append, List.length_singleton] at hlength
    omega
  have hshort : xs.zipWith f (init ++ [y]) = xs.zipWith f init := by
    have hnil : (xs ++ []).zipWith f (init ++ [y]) = xs.zipWith f init ++ List.zipWith f [] [y] :=
      List.zipWith_append hinit
    rwa [List.append_nil, List.zipWith_nil_left, List.append_nil] at hnil
  rw [hshort, List.append_assoc, List.zipWith_append hinit]
  rfl

end Lists

variable {frames bufs pre : List PooledBuffer} {first held b : PooledBuffer} {h : Hysteresis α}

theorem length_differencesOf (frames : List PooledBuffer) :
    (differencesOf frames : List α).length = frames.length - 1 := by
  cases frames with
  | nil => rfl
  | cons first later => simp [differencesOf]

theorem differencesOf_concat (hfirst : frames.head? = some first)
    (hheld : frames.getLast? = some held) (b : PooledBuffer) :
    (differencesOf (frames ++ [b]) : List α) =
      differencesOf frames ++ [Scale.ratio (diffSum b.bytes held.bytes) (255 * first.len)] := by
  cases frames with
  | nil => cases hfirst
  | cons _ later =>
    cases hfirst
    exact zipWith_concat_of_ahead rfl hheld b b

theorem displacedOf_concat (hfirst : frames.head? = some first)
    (hheld : frames.getLast? = some held) (h : Hysteresis α) (b : PooledBuffer) :
    displacedOf h (frames ++ [b]) = displacedOf h frames ++
      [{ held with selected := ((h.after (differencesOf frames)).step
          (Scale.ratio (diffSum b.bytes held.bytes) (255 * first.len))).2 }] := by
  have hahead : frames.length = (h.ticks (differencesOf frames)).length + 1 := by
    cases frames with
    | nil => cases hfirst
    | cons first later => simp [length_differencesOf]
  rw [displacedOf, differencesOf_concat hfirst hheld, Hysteresis.ticks_concat, List.zipWith_comm,
    zipWith_concat_of_ahead hahead hheld, List.zipWith_comm]
  rfl

/-- What is selected tells which differences were ticks. -/
theorem countP_displacedOf (h : Hysteresis α) (frames : List PooledBuffer) :
    (displacedOf h frames).countP (·.selected) = (h.ticks (differencesOf frames)).count true := by
  have hselected : (displacedOf h frames).map (·.selected) = h.ticks (differencesOf frames) := by
    rw [displacedOf, List.map_zipWith]
    change frames.zipWith (fun _ tick => tick) (h.ticks (differencesOf frames)) = _
    rw [← List.map_uncurry_zip_eq_zipWith]
    apply List.map_snd_zip
    rw [Hysteresis.length_ticks, length_differencesOf]
    omega
  rw [← hselected, List.count, List.countP_map]
  congr 1
  funext frame
  simp

/-- The accepted frames after one more is offered. -/
def joined (frames : List PooledBuffer) (b : PooledBuffer) : List PooledBuffer :=
  match frames.head? with
  | none => if b.len = 0 then [] else [b]
  | some first => if b.len = first.len then frames ++ [b] else frames

@[simp] theorem joined_nil (b : PooledBuffer) : joined [] b = if b.len = 0 then [] else [b] := rfl

theorem joined_of_eq (hfirst : frames.head? = some first) (hlen : b.len = first.len) :
    joined frames b = frames ++ [b] := by
  rw [joined, hfirst]
  exact if_pos hlen

theorem joined_of_ne (hfirst : frames.head? = some first) (hlen : b.len ≠ first.len) :
    joined frames b = frames := by
  rw [joined, hfirst]
  exact if_neg hlen

theorem acceptedOf_concat (pre : List PooledBuffer) (b : PooledBuffer) :
    acceptedOf (pre ++ [b]) = joined (acceptedOf pre) b := by
  rw [acceptedOf, acceptedOf, List.dropWhile_append]
  cases hrest : pre.dropWhile (·.len = 0) with
  | nil =>
    by_cases hlen : b.len = 0
    · simp [joined, hlen]
    · simp [joined, hlen]
  | cons first later =>
    by_cases hlen : b.len = first.len
    · simp [joined, hlen]
    · simp [joined, hlen]

theorem acceptedOf_sublist (bufs : List PooledBuffer) : (acceptedOf bufs).Sublist bufs := by
  unfold acceptedOf
  split
  · exact List.nil_sublist _
  · next first later hrest =>
    have hkept : (first :: later).Sublist bufs := hrest ▸ List.dropWhile_sublist _
    exact (List.filter_sublist.cons_cons first).trans hkept

theorem untagged_acceptedOf (huntagged : ∀ b ∈ bufs, b.selected = false) :
    ∀ b ∈ acceptedOf bufs, b.selected = false := by
  intro b hb
  apply huntagged
  exact (acceptedOf_sublist bufs).mem hb

/-- To mark a frame that is not selected is to tell whether it is. -/
theorem tagged_eq (huntagged : held.selected = false) (tick : Bool) :
    (if tick then { held with selected := true } else held) = { held with selected := tick } := by
  cases tick with
  | false => rw [if_neg Bool.false_ne_true, ← huntagged]
  | true => rfl

/-- The frame that a detector gives back in exchange for the one offered. -/
def Detection.displaced? : Detection → Option PooledBuffer
  | .displaced frame => some frame
  | .seeded | .rejected _ _ => none

namespace TickDetector

/-! ### One offer -/

/-- The detector that has accepted the given frames. -/
def holding (h : Hysteresis α) (frames : List PooledBuffer) : TickDetector α where
  hysteresis := h.after (differencesOf frames)
  previous := frames.getLast?
  expectedLen := (frames.head?.map (·.len)).getD 0
  maxDiff := 255 * (frames.head?.map (·.len)).getD 0
  frames := frames.length
  ticks := (h.ticks (differencesOf frames)).count true
  lastDifference := (differencesOf frames).getLast?

/-- How a detector that has accepted `frames` answers to `b`. -/
inductive Answer (h : Hysteresis α) (frames : List PooledBuffer) (b : PooledBuffer) :
    Detection → Prop
  | seeded : frames = [] → b.len ≠ 0 → Answer h frames b .seeded
  | empty : frames = [] → b.len = 0 → Answer h frames b (.rejected .emptyFrame b)
  /-- It is compared with the frame that is held, and displaces it. -/
  | displaced {first held : PooledBuffer} :
    frames.head? = some first → frames.getLast? = some held → b.len = first.len →
    Answer h frames b (.displaced { held with
      selected := ((h.after (differencesOf frames)).step
        (Scale.ratio (diffSum b.bytes held.bytes) (255 * first.len))).2 })
  | mismatch {first : PooledBuffer} :
    frames.head? = some first → b.len ≠ first.len →
    Answer h frames b (.rejected (.frameSizeMismatch first.len b.len) b)

theorem holding_concat (hfirst : frames.head? = some first) (hheld : frames.getLast? = some held)
    (h : Hysteresis α) (b : PooledBuffer) {x : α}
    (hx : Scale.ratio (diffSum b.bytes held.bytes) (255 * first.len) = x) :
    holding h (frames ++ [b]) = { holding h frames with
      hysteresis := ((h.after (differencesOf frames)).step x).1
      previous := some b
      frames := frames.length + 1
      ticks := if ((h.after (differencesOf frames)).step x).2 then (holding h frames).ticks + 1
        else (holding h frames).ticks
      lastDifference := some x } := by
  have hdifferences : differencesOf (frames ++ [b]) = differencesOf frames ++ [x] :=
    hx ▸ differencesOf_concat hfirst hheld b
  have hhead : (frames ++ [b]).head? = frames.head? := by rw [List.head?_append, hfirst]; rfl
  simp only [holding, hdifferences, hhead, Hysteresis.after_concat, Hysteresis.ticks_concat,
    List.getLast?_concat, List.length_append, List.length_singleton, List.count_append]
  cases ((h.after (differencesOf frames)).step x).2 <;> rfl

/-- Whatever was accepted before, the next frame is answered as that tells, and joins it or not. -/
theorem process_holding (h : Hysteresis α) (hframes : ∀ x ∈ frames, x.selected = false)
    (b : PooledBuffer) : ∃ out,
      (holding h frames).process b = (holding h (joined frames b), out) ∧ Answer h frames b out := by
  cases hheld : frames.getLast? with
  | none =>
    obtain rfl : frames = [] := List.getLast?_eq_none_iff.mp hheld
    by_cases hlen : b.len = 0
    · refine ⟨_, ?_, .empty rfl hlen⟩
      simp [process, joined, holding, hlen]
    · refine ⟨_, ?_, .seeded rfl hlen⟩
      simp [process, joined, holding, hlen, Hysteresis.after, Hysteresis.ticks, differencesOf,
        Nat.mul_comm]
  | some held =>
    obtain ⟨first, hfirst⟩ : ∃ first, frames.head? = some first := by
      cases frames with
      | nil => cases hheld
      | cons first later => exact ⟨first, rfl⟩
    have hprevious : (holding h frames).previous = some held := hheld
    have hexpected : (holding h frames).expectedLen = first.len := by rw [holding, hfirst]; rfl
    by_cases hlen : b.len = first.len
    · refine ⟨_, ?_, .displaced hfirst hheld hlen⟩
      generalize hx : (Scale.ratio (diffSum b.bytes held.bytes) (255 * first.len) : α) = x
      have hdifference : (holding h frames).difference b held = x := by
        rw [difference, holding, hfirst]
        exact hx
      have htagged := tagged_eq (hframes held (List.mem_of_getLast? hheld))
        ((h.after (differencesOf frames)).step x).2
      rw [joined_of_eq hfirst hlen, holding_concat hfirst hheld h b hx, ← htagged]
      simp only [process, hprevious, hexpected, hlen, hdifference, ne_eq, not_true_eq_false,
        if_false]
      rfl
    · refine ⟨_, ?_, .mismatch hfirst hlen⟩
      simp only [process, hprevious, hexpected, joined_of_ne hfirst hlen, hlen, ne_eq,
        not_false_eq_true, if_true]

/-- A frame is rejected and does not join, or is accepted and does. -/
theorem Answer.joined_eq {out : Detection} (H : Answer h frames b out) :
    (∃ e, out = .rejected e b ∧ joined frames b = frames) ∨
      ((∀ e back, out ≠ .rejected e back) ∧ joined frames b = frames ++ [b]) := by
  cases H with
  | seeded hframes hlen =>
    subst hframes
    exact .inr ⟨nofun, if_neg hlen⟩
  | empty hframes hlen =>
    subst hframes
    exact .inl ⟨_, rfl, if_pos hlen⟩
  | displaced hfirst hheld hlen => exact .inr ⟨nofun, joined_of_eq hfirst hlen⟩
  | mismatch hfirst hlen => exact .inl ⟨_, rfl, joined_of_ne hfirst hlen⟩

theorem Answer.displacedOf_joined {out : Detection} (H : Answer h frames b out) :
    displacedOf h (joined frames b) = displacedOf h frames ++ out.displaced?.toList := by
  cases H with
  | seeded hframes hlen =>
    subst hframes
    rw [joined_nil, if_neg hlen]
    rfl
  | empty hframes hlen =>
    subst hframes
    rw [joined_nil, if_pos hlen]
    rfl
  | displaced hfirst hheld hlen =>
    rw [joined_of_eq hfirst hlen]
    exact displacedOf_concat hfirst hheld h b
  | mismatch hfirst hlen =>
    rw [joined_of_ne hfirst hlen]
    exact (List.append_nil _).symm

/-! ### Many offers -/

/-- Offers frames one after another: what each of them led to. -/
def offerAll (d : TickDetector α) : List PooledBuffer → TickDetector α × List Detection
  | [] => (d, [])
  | b :: rest =>
    (((d.process b).1.offerAll rest).1, (d.process b).2 :: ((d.process b).1.offerAll rest).2)

/-- What a new detector gives back of the frames it is offered. -/
def displacedFrom (h : Hysteresis α) (frames : List PooledBuffer) : List PooledBuffer :=
  ((new h).offerAll frames).2.filterMap Detection.displaced?

theorem offerAll_append (d : TickDetector α) (xs ys : List PooledBuffer) :
    d.offerAll (xs ++ ys) = (((d.offerAll xs).1.offerAll ys).1,
      (d.offerAll xs).2 ++ ((d.offerAll xs).1.offerAll ys).2) := by
  induction xs generalizing d with
  | nil => rfl
  | cons x xs ih =>
    rw [List.cons_append, offerAll, offerAll, ih]
    rfl

theorem length_offerAll (d : TickDetector α) (bufs : List PooledBuffer) :
    (d.offerAll bufs).2.length = bufs.length := by
  induction bufs generalizing d with
  | nil => rfl
  | cons b rest ih => rw [offerAll, List.length_cons, List.length_cons, ih]

/-- The accepted frames tell what a new detector has become, and what it has given back. -/
theorem offerAll_new (h : Hysteresis α) (huntagged : ∀ b ∈ bufs, b.selected = false) :
    ((new h).offerAll bufs).1 = holding h (acceptedOf bufs) ∧
      ((new h).offerAll bufs).2.filterMap Detection.displaced? = displacedOf h (acceptedOf bufs) := by
  induction bufs using List.reverseRecOn with
  | nil => exact ⟨rfl, rfl⟩
  | append_singleton pre b ih =>
    obtain ⟨hpre, -⟩ := List.forall_mem_append.mp huntagged
    obtain ⟨hdetector, hdisplaced⟩ := ih hpre
    have haccepted := untagged_acceptedOf hpre
    obtain ⟨out, hprocess, hanswer⟩ := process_holding h haccepted b
    rw [offerAll_append, offerAll, offerAll, hdetector, hprocess, acceptedOf_concat]
    refine ⟨rfl, ?_⟩
    rw [List.filterMap_append, hdisplaced, hanswer.displacedOf_joined]
    cases out <;> rfl

end TickDetector

/-! ### Where the slots are -/

/-- Dropping the buffer puts its slot back into its pool, on top of the free ones, with its storage;
nothing is logged, and no other pool changes. -/
def Registry.DropsHome (r : Registry) (b : PooledBuffer) : Prop :=
  ∃ p p', r.pools[b.home]? = some p ∧ r.dropInto false b = (r.setPool b.home p', [], none) ∧
    p'.free = b.slot :: p.free ∧ p'.storage[b.slot]? = some b.data

theorem Registry.Owned.dropsHome {r : Registry} {sizes : List (Nat × Nat)}
    {others : List PooledBuffer} (H : r.Owned sizes (b :: others)) : r.DropsHome b := by
  obtain ⟨p, p', data, hp, hdata, hreturn, -⟩ := H.goHome
  obtain ⟨hlt, rfl⟩ := Pool.returnSlot_eq_ok hreturn
  have hstored := (Array.getElem?_setIfInBounds_self_of_lt hlt).trans (congrArg some hdata.symm)
  refine ⟨p, p.withSlot b.slot data, hp, ?_, rfl, hstored⟩
  simp only [Registry.dropInto, hp, Pool.drop, hdata, hreturn]

namespace TickDetector

variable {d d' : TickDetector α} {r : Registry} {sizes : List (Nat × Nat)}
  {others : List PooledBuffer}

theorem offer_of_rejected {e : DetectError} (h : d.process b = (d', .rejected e b)) (r : Registry) :
    d.offer r b = (d', .rejected e b, r.dropInto false b) := by rw [offer, h]

theorem offer_of_accepted {out : Detection} (h : d.process b = (d', out))
    (hout : ∀ e back, out ≠ .rejected e back) (r : Registry) :
    d.offer r b = (d', out, r, [], none) := by
  rw [offer, h]
  cases out with
  | rejected e back => exact absurd rfl (hout e back)
  | seeded | displaced => rfl

/-- Offers frames one after another, where the pools are that they come from. -/
def offerEach (d : TickDetector α) (r : Registry) : List PooledBuffer → TickDetector α × Registry
  | [] => (d, r)
  | b :: rest => (d.offer r b).1.offerEach (d.offer r b).2.2.1 rest

theorem offerEach_concat (d : TickDetector α) (r : Registry) (pre : List PooledBuffer)
    (b : PooledBuffer) : d.offerEach r (pre ++ [b]) =
      (((d.offerEach r pre).1.offer (d.offerEach r pre).2 b).1,
        ((d.offerEach r pre).1.offer (d.offerEach r pre).2 b).2.2.1) := by
  induction pre generalizing d r with
  | nil => rfl
  | cons x pre ih => exact ih (d.offer r x).1 (d.offer r x).2.2.1

/-- The slots of the accepted frames stay out, those of the others go back to their pools. -/
theorem offerEach_owned (h : Hysteresis α) (huntagged : ∀ b ∈ bufs, b.selected = false)
    (H : r.Owned sizes (bufs ++ others)) :
    ∃ r', (new h).offerEach r bufs = (holding h (acceptedOf bufs), r') ∧
      r'.Owned sizes (acceptedOf bufs ++ others) := by
  induction bufs using List.reverseRecOn generalizing others with
  | nil => exact ⟨r, rfl, H⟩
  | append_singleton pre b ih =>
    obtain ⟨hpre, -⟩ := List.forall_mem_append.mp huntagged
    rw [List.append_assoc] at H
    obtain ⟨r', heach, H'⟩ := ih hpre H
    obtain ⟨out, hprocess, hanswer⟩ := process_holding h (untagged_acceptedOf hpre) b
    rw [offerEach_concat, heach, acceptedOf_concat]
    rcases hanswer.joined_eq with ⟨e, rfl, hjoined⟩ | ⟨hout, hjoined⟩
    · obtain ⟨p', hdrop, hback⟩ := (H'.perm List.perm_middle).dropInto false
      rw [offer_of_rejected hprocess, hdrop, hjoined]
      exact ⟨_, rfl, hback⟩
    · rw [offer_of_accepted hprocess hout, hjoined, List.append_assoc]
      exact ⟨r', rfl, H'⟩

/-- Frames that are offered to a new detector are answered as the accepted ones among those before them
tell. The slots of the accepted ones stay out, and those of the others go home. -/
theorem offerAll_follows_accepted (h : Hysteresis α) (bufs : List PooledBuffer)
    (huntagged : ∀ b ∈ bufs, b.selected = false) :
    ((new h).offerAll bufs).1 = holding h (acceptedOf bufs) ∧
    ((new h).offerAll bufs).2.filterMap Detection.displaced? = displacedOf h (acceptedOf bufs) ∧
    ((new h).offerAll bufs).1.ticks =
      (((new h).offerAll bufs).2.filterMap Detection.displaced?).countP (·.selected) ∧
    (∀ r sizes others, Registry.Owned r sizes (bufs ++ others) → ∃ r',
      (new h).offerEach r bufs = (((new h).offerAll bufs).1, r') ∧
        r'.Owned sizes (acceptedOf bufs ++ others)) ∧
    ∀ pre b post, bufs = pre ++ b :: post → ∃ out,
      ((new h).offerAll bufs).2[pre.length]? = some out ∧ Answer h (acceptedOf pre) b out ∧
      ((∀ e back, out ≠ .rejected e back) ∧ acceptedOf (pre ++ [b]) = acceptedOf pre ++ [b] ∧
          (∀ r, ((new h).offerAll pre).1.offer r b =
            (((new h).offerAll (pre ++ [b])).1, out, r, [], none)) ∨
        (∃ e, out = .rejected e b) ∧ acceptedOf (pre ++ [b]) = acceptedOf pre ∧
          ((new h).offerAll (pre ++ [b])).1 = ((new h).offerAll pre).1 ∧
          (∀ r, ((new h).offerAll pre).1.offer r b =
            (((new h).offerAll pre).1, out, r.dropInto false b)) ∧
          ∀ r sizes others, Registry.Owned r sizes (b :: others) → r.DropsHome b) := by
  obtain ⟨hdetector, hdisplaced⟩ := offerAll_new h huntagged
  refine ⟨hdetector, hdisplaced, ?_, fun r sizes others H => ?_, ?_⟩
  · rw [hdetector, hdisplaced, countP_displacedOf]
    rfl
  · rw [hdetector]
    exact offerEach_owned h huntagged H
  · rintro pre b post rfl
    obtain ⟨hpre, -⟩ := List.forall_mem_append.mp huntagged
    have haccepted := untagged_acceptedOf hpre
    obtain ⟨out, hprocess, hanswer⟩ := process_holding h haccepted b
    have hout : ((new h).offerAll pre).1.process b =
        (holding h (joined (acceptedOf pre) b), out) := by
      rw [(offerAll_new h hpre).1, hprocess]
    have hnext : ((new h).offerAll (pre ++ [b])).1 = holding h (joined (acceptedOf pre) b) := by
      rw [offerAll_append, offerAll, offerAll, hout]
    refine ⟨out, ?_, hanswer, ?_⟩
    · rw [offerAll_append, List.getElem?_append_right (Nat.le_of_eq (length_offerAll _ _)),
        length_offerAll, Nat.sub_self, offerAll, hout]
      rfl
    · rcases hanswer.joined_eq with ⟨e, rfl, hjoined⟩ | ⟨hne, hjoined⟩
      · have hsame : holding h (joined (acceptedOf pre) b) = ((new h).offerAll pre).1 := by
          rw [hjoined, (offerAll_new h hpre).1]
        exact .inr ⟨⟨e, rfl⟩, (acceptedOf_concat pre b).trans hjoined, hnext.trans hsame,
          offer_of_rejected (hsame ▸ hout), fun r sizes others H => H.dropsHome⟩
      · exact .inl ⟨hne, (acceptedOf_concat pre b).trans hjoined,
          hnext ▸ offer_of_accepted hout hne⟩

/-- Five frames: one without bytes, the first with any, one of another size, one that differs from the
first in everything, and the same again. -/
def settlingFrames : List PooledBuffer :=
  [⟨0, 0, some #[0, 0], 0, false⟩, ⟨0, 1, some #[0, 0], 2, false⟩, ⟨0, 2, some #[9, 9], 1, false⟩,
    ⟨0, 3, some #[255, 255], 2, false⟩, ⟨0, 4, some #[255, 255], 2, false⟩]

/-- The pool that they come from, with no slot left. -/
def settlingPool : Registry :=
  (Registry.fresh [(5, 2)]).serve <| List.replicate 5 (.acquire 0) ++
    [.write 2 0 #[9, 9], .write 3 0 #[255, 255], .write 4 0 #[255, 255], .setLen 1 2, .setLen 2 1,
      .setLen 3 2, .setLen 4 2]

/-- Thresholds between which there is much room. -/
def wideHysteresis : Hysteresis Rat := ⟨1 / 10, 1 / 2, .still⟩

/-- The scene moves and settles, so the frame before the last is selected. The first and the third are
rejected, and theirs are the slots that are free in the end. -/
theorem offerAll_settling :
    ((new wideHysteresis).offerAll settlingFrames).2.filterMap Detection.displaced? =
      [⟨0, 1, some #[0, 0], 2, false⟩, ⟨0, 3, some #[255, 255], 2, true⟩] ∧
    ((new wideHysteresis).offerAll settlingFrames).1.ticks = 1 ∧
    ((new wideHysteresis).offerAll settlingFrames).1.frames = 3 ∧
    ((new wideHysteresis).offerAll settlingFrames).2[2]? =
      some (.rejected (.frameSizeMismatch 2 1) ⟨0, 2, some #[9, 9], 1, false⟩) ∧
    settlingPool.pools.toList.map (·.free) = [[]] ∧
    ∃ r, (new wideHysteresis).offerEach settlingPool settlingFrames =
        (((new wideHysteresis).offerAll settlingFrames).1, r) ∧
      r.Owned [(5, 2)] (acceptedOf settlingFrames) ∧ r.pools.toList.map (·.free) = [[2, 0]] := by
  obtain ⟨hdetector, hdisplaced, hticks, hslots, hanswers⟩ :=
    offerAll_follows_accepted wideHysteresis settlingFrames (by decide)
  have howned : settlingPool.Owned [(5, 2)] (settlingFrames ++ []) :=
    (Registry.Owned.fresh [(5, 2)]).serve (by decide)
  obtain ⟨r, heach, hleft⟩ := hslots settlingPool [(5, 2)] [] howned
  have hframes : displacedOf wideHysteresis (acceptedOf settlingFrames) =
      [⟨0, 1, some #[0, 0], 2, false⟩, ⟨0, 3, some #[255, 255], 2, true⟩] := by decide +kernel
  obtain ⟨out, hout, hanswer, -⟩ := hanswers (settlingFrames.take 2) _ _ rfl
  refine ⟨hdisplaced.trans hframes, ?_, ?_, hout.trans ?_, rfl, r, heach, hleft, ?_⟩
  · rw [hticks, hdisplaced, hframes]
    rfl
  · rw [hdetector]
    rfl
  · cases hanswer with
    | seeded hnone hlen | empty hnone hlen => cases hnone
    | displaced hfirst hheld hlen =>
      cases hfirst
      cases hlen
    | mismatch hfirst hlen =>
      cases hfirst
      rfl
  · obtain rfl : ((new wideHysteresis).offerEach settlingPool settlingFrames).2 = r := by rw [heach]
    decide +kernel

end TickDetector
end TickCapture
