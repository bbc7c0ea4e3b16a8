import TickCapture.Proofs.Camera.Lending
import TickCapture.Proofs.Line.Rounds
import TickCapture.Store.Memory

/-! # A pool that is one slot too small

With two slots more than there is room in the mailbox of displaced frames, frames all of which are
stored exhaust the pool: the persistence stage takes one and keeps it, the mailbox fills up, the
detector holds one, and the next frame finds no slot. -/

namespace TickCapture

variable {κ σ : Type}

namespace Line

variable [Camera κ] [ImageSink σ] {l l' : Line κ σ} {used len size room : Nat} {f : Captured}
  {fs : List Captured}

/-! ### The pool runs out -/

/-- A camera that takes the buffers of all these frames back, one after another. -/
def TakesBack : κ → List Captured → Prop
  | _, [] => True
  | c, f :: fs => (giveBack c f).2 = none ∧ TakesBack (giveBack c f).1 fs

/-- The detector and the persistence stage hold a frame each, and `queued` more wait between them. -/
structure Filling (used len size room queued : Nat) (l : Line κ σ) (fs : List Captured) : Prop where
  stocked : ∃ w b, Stocked used len l w fs ∧ w.stage.phase = .checking ∧
    w.stage.detector.previous = some b
  pooled : l.Pooled (room + 2) size room
  held : l.persistenceBuffers.length = 1
  queued_eq : l.plant.ticks.queue.length = queued
  alike : ∀ f ∈ fs, Alike used len size f
  camera : TakesBack l.plant.camera fs

/-- Every further frame takes a slot and waits in the mailbox. -/
theorem Filling.round {queued : Nat} (H : Filling used len size room queued l (f :: fs))
    (hroom : queued < room) : ∃ l', Leads l l' ∧ Filling used len size room (queued + 1) l' fs := by
  obtain ⟨w, b₀, H₀, hp₀, hb₀⟩ := H.stocked
  obtain ⟨l₁, w₁, b, hlead₁, H₁, hp₁, hb, hdet₁, hpers₁, hcamera₁, hticks₁⟩ :=
    H₀.convertNext hp₀ H.pooled (H.alike f List.mem_cons_self) (by
      rw [DetectionStage.buffers, hp₀, hb₀, H.held, H.queued_eq]
      simp only [DetectionPhase.buffers, Option.toList_some, List.nil_append, List.length_singleton]
      omega)
  have hback : giveBack l₁.plant.camera f = ((giveBack l.plant.camera f).1, none) := by
    rw [hcamera₁]
    exact Prod.ext rfl H.camera.1
  have hqueue : l₁.plant.ticks.queue.length < l₁.plant.ticks.capacity := by
    rw [hticks₁, H.pooled.room_eq, H.queued_eq]
    exact hroom
  obtain ⟨l₂, w₂, x, hlead₂, H₂, hp₂, hb₂, hpers₂, hcamera₂, hticks₂⟩ :=
    H₁.displace hp₁ hb hback (hdet₁ ▸ hb₀) hqueue
  have hlead := hlead₁.trans hlead₂
  refine ⟨l₂, hlead, ⟨w₂, b, H₂, hp₂, hb₂⟩, H.pooled.leads hlead, ?_, ?_,
    fun g hg => H.alike g (List.mem_cons_of_mem _ hg), ?_⟩
  · rw [persistenceBuffers, hpers₂, hpers₁]
    exact H.held
  · rw [← Mailbox.length_messages, hticks₂, List.length_append, Mailbox.length_messages, hticks₁,
      H.queued_eq, List.length_singleton]
  · rw [hcamera₂]
    exact H.camera.2

/-- When the mailbox is full there is no slot for the next frame. -/
theorem Filling.exhausted (H : Filling used len size room room l (f :: fs)) :
    ∃ l' w, Leads l l' ∧ l'.detection = some w ∧ w.stage.request = .acquire ∧
      l'.plant.pool.acquire = (l'.plant.pool, .ok none) := by
  obtain ⟨w, b, H₀, hp₀, hb₀⟩ := H.stocked
  obtain ⟨l₁, w₁, hlead, H₁, hp₁, hdet₁, hpers₁, -, hticks₁⟩ :=
    H₀.receive hp₀ (H.alike f List.mem_cons_self).1
  have hsum := H₁.length_free (H.pooled.leads hlead)
  rw [DetectionStage.buffers, hp₁, hdet₁, hb₀, persistenceBuffers, hpers₁, ← persistenceBuffers,
    H.held, hticks₁, H.queued_eq] at hsum
  simp only [DetectionPhase.buffers, Option.toList_some, List.nil_append,
    List.length_singleton] at hsum
  have hnil : l₁.plant.pool.free = [] := List.length_eq_zero_iff.mp (by omega)
  exact ⟨l₁, w₁, hlead, H₁.worker, by rw [DetectionStage.request, hp₁],
    Pool.Accounts.acquire_of_nil hnil⟩

theorem Filling.exhausts {queued : Nat} (H : Filling used len size room queued l fs)
    (hlen : queued + fs.length = room + 1) :
    ∃ l' w, Leads l l' ∧ l'.detection = some w ∧ w.stage.request = .acquire ∧
      l'.plant.pool.acquire = (l'.plant.pool, .ok none) := by
  induction fs generalizing l queued with
  | nil =>
    have hqueue := H.pooled.bounded
    rw [H.queued_eq] at hqueue
    rw [List.length_nil] at hlen
    omega
  | cons f fs ih =>
    rw [List.length_cons] at hlen
    by_cases hroom : queued < room
    · obtain ⟨l₁, hlead₁, H₁⟩ := H.round hroom
      obtain ⟨l', w, hlead, hw⟩ := ih H₁ (by omega)
      exact ⟨l', w, hlead₁.trans hlead, hw⟩
    · have hqueue := H.pooled.bounded
      rw [H.queued_eq] at hqueue
      obtain rfl : queued = room := by omega
      exact H.exhausted

/-! ### From the start -/

/-- A line about to run in which `fs` wait for the detection stage. All frames are to be stored, and
the pool is one slot too small. -/
def brimming (camera : κ) (sink : σ) (room size : Nat) (fs : List Captured) : Line κ σ where
  plant := {
    camera
    frames := .sendAll .capture ⟨fs.length, [], 0, 1, true⟩ fs
    pool := .fresh 0 (room + 2) size
    ticks := ⟨room, [], 0, 1, true⟩
    sink
    clock := 0
    epoch := 0
    logs := #[] }
  capture := none
  detection := some (.start (.new ⟨0, true⟩ (.new .standard)) 0)
  persistence := some (.start (.new ⟨2, 1, 1, true, 0⟩) 0)

section Brimming

variable {κ σ : Type} {room : Nat}

theorem brimming_fresh {ticks : Mailbox PooledBuffer} (hroom : Mailbox.bounded room = .ok ticks)
    (camera : κ) (sink : σ) (size : Nat) (fs : List Captured) :
    (brimming camera sink room size fs).Fresh room (room + 2) where
  ticks := by
    obtain ⟨-, rfl⟩ := Mailbox.Orderly.bounded hroom
    exact hroom
  pool := ⟨0, size, rfl⟩
  detection := ⟨_, _, _, rfl⟩
  persistence := ⟨_, _, rfl⟩

theorem brimming_stocked (camera : κ) (sink : σ) (room size used len : Nat) (fs : List Captured) :
    Stocked used len (brimming camera sink room size fs)
    (.start (.new ⟨0, true⟩ (.new .standard)) 0) fs := by
  have hempty : (⟨fs.length, [], 0, 1, true⟩ : Mailbox Captured).Fifo .capture :=
    ⟨⟨.nil, nofun⟩, nofun⟩
  obtain ⟨hfifo, hmessages⟩ := hempty.sendAll rfl fs (by simp)
  exact ⟨rfl, rfl, rfl, rfl, nofun, hfifo, hmessages, rfl⟩

end Brimming

variable {camera : κ} {sink : σ}

/-- The first two frames: the detector holds the second, and the persistence stage the first. -/
theorem brimming_fills {f₁ f₂ : Captured} (hroom : 0 < room)
    (hpool : (brimming camera sink room size (f₁ :: f₂ :: fs)).Pooled (room + 2) size room)
    (hlen : len ≠ 0) (halike : ∀ f ∈ f₁ :: f₂ :: fs, Alike used len size f)
    (hcamera : TakesBack camera (f₁ :: f₂ :: fs)) :
    ∃ l', Leads (brimming camera sink room size (f₁ :: f₂ :: fs)) l' ∧
      Filling used len size room 0 l' fs := by
  have hf₁ := halike f₁ (by simp)
  have hf₂ := halike f₂ (by simp)
  -- the detector takes the first frame
  obtain ⟨l₁, w₁, b₁, hlead₁, H₁, hp₁, hb₁, hdet₁, hpers₁, hcamera₁, hticks₁⟩ :=
    (brimming_stocked camera sink room size used len (f₁ :: f₂ :: fs)).convertNext rfl hpool hf₁
      (Nat.succ_pos _)
  have hback₁ : giveBack l₁.plant.camera f₁ = ((giveBack camera f₁).1, none) := by
    rw [hcamera₁]
    exact Prod.ext rfl hcamera.1
  obtain ⟨l₂, w₂, hlead₂, H₂, hp₂, hprev₂, hpers₂, hcamera₂, hticks₂⟩ :=
    H₁.seed hp₁ hb₁ hlen hback₁ (hdet₁ ▸ rfl)
  have hlead₂ := hlead₁.trans hlead₂
  -- the second one displaces it
  have hfree₂ : w₂.stage.buffers.length + l₂.persistenceBuffers.length +
      l₂.plant.ticks.queue.length < room + 2 := by
    rw [DetectionStage.buffers, hp₂, hprev₂, persistenceBuffers, hpers₂, hpers₁, hticks₂, hticks₁]
    exact Nat.succ_lt_succ (Nat.succ_pos _)
  obtain ⟨l₃, w₃, b₃, hlead₃, H₃, hp₃, hb₃, hdet₃, hpers₃, hcamera₃, hticks₃⟩ :=
    H₂.convertNext hp₂ (hpool.leads hlead₂) hf₂ hfree₂
  have hback₃ : giveBack l₃.plant.camera f₂ =
      ((giveBack (giveBack camera f₁).1 f₂).1, none) := by
    rw [hcamera₃, hcamera₂]
    exact Prod.ext rfl hcamera.2.1
  obtain ⟨l₄, w₄, x, hlead₄, H₄, hp₄, hprev₄, hpers₄, hcamera₄, hticks₄⟩ :=
    H₃.displace hp₃ hb₃ hback₃ (hdet₃ ▸ hprev₂) (by
      rw [hticks₃, hticks₂, hticks₁]
      exact hroom)
  have hlead₄ := hlead₂.trans (hlead₃.trans hlead₄)
  have hmessages₄ : l₄.plant.ticks.messages = [x] := by
    rw [hticks₄, hticks₃, hticks₂, hticks₁]
    rfl
  -- and the persistence stage takes it in hand
  obtain ⟨ticks, s, hlead₅, hs, hmessages₅, halive⟩ :=
    Leads.hold (l := l₄) (by rw [hpers₄, hpers₃, hpers₂, hpers₁]; rfl) rfl rfl rfl
      (hpool.leads hlead₄).fifo hmessages₄
  have hlead := hlead₄.trans hlead₅
  refine ⟨_, hlead, ⟨w₄, b₃, ⟨H₄.worker, H₄.running, H₄.forwardAll, H₄.expected, H₄.detector,
    H₄.frames, H₄.messages, halive.trans H₄.open_⟩, hp₄, hprev₄⟩, hpool.leads hlead, ?_, ?_,
    fun f hf => halike f (by simp [hf]), ?_⟩
  · rw [persistenceBuffers_of_some rfl, hs]
    rfl
  · rw [← Mailbox.length_messages, hmessages₅, List.length_nil]
  · rw [hcamera₄]
    exact hcamera.2.2

/-- Three frames more than there is room exhaust the pool. -/
theorem brimming_exhausts (camera : κ) (sink : σ) {ticks : Mailbox PooledBuffer}
    (hroom : Mailbox.bounded room = .ok ticks) (hlen : len ≠ 0)
    (halike : ∀ f ∈ fs, Alike used len size f) (hcamera : TakesBack camera fs)
    (hfs : fs.length = room + 3) :
    ∃ l' w, Leads (brimming camera sink room size fs) l' ∧ l'.detection = some w ∧
      w.stage.request = .acquire ∧ l'.plant.pool.acquire = (l'.plant.pool, .ok none) := by
  have hpos : 0 < room := Nat.pos_of_ne_zero fun h => by
    subst h
    cases hroom
  obtain ⟨f₁, f₂, fs, rfl⟩ : ∃ f₁ f₂ fs', fs = f₁ :: f₂ :: fs' := by
    match fs, hfs with
    | f₁ :: f₂ :: fs, _ => exact ⟨f₁, f₂, fs, rfl⟩
  have hfresh := brimming_fresh hroom camera sink size (f₁ :: f₂ :: fs)
  obtain ⟨size', hpool⟩ := hfresh.pooled
  obtain rfl : size = size' := hpool.size_eq
  obtain ⟨l, hlead, hfilling⟩ := brimming_fills hpos hpool hlen halike hcamera
  obtain ⟨l', w, hlead', hw⟩ := hfilling.exhausts (by
    simp only [List.length_cons] at hfs
    omega)
  exact ⟨l', w, hlead.trans hlead', hw⟩

end Line

/-! ### Frames of a synthetic camera -/

theorem BankedCamera.Lends.takesBack [BankedCamera κ] {c : κ} {count : Nat} {fs : List Captured}
    (H : BankedCamera.Lends c count fs) : Line.TakesBack c fs := by
  induction fs generalizing c with
  | nil => trivial
  | cons f fs ih => exact ⟨H.giveBack.1, ih H.giveBack.2⟩

/-- A grey frame of two pixels, in the buffer of the same number. -/
def greyFrame (i : Nat) : Captured :=
  .lend ⟨i, #[128, 128, 128, 128]⟩ 4 (.packed 2 1 .yuyv) i 0

theorem greyFrame_alike (i : Nat) : Line.Alike 4 6 6 (greyFrame i) := by
  refine ⟨rfl, ?_⟩
  change conversionLen (greyFrame 0).bytes (greyFrame 0).format 6 = .ok 6
  rfl

/-- A synthetic camera of which all buffers are on loan. -/
def lentOut (count : Nat) : SyntheticCamera :=
  { SyntheticCamera.new .standard with bank := ⟨Array.replicate count none, []⟩ }

theorem lentOut_lends (count : Nat) :
    BankedCamera.Lends (lentOut count) count ((List.range count).map greyFrame) := by
  refine ⟨_, rfl, by simp [lentOut], ?_⟩
  have hpresent : (lentOut count).bank.present = [] := by
    refine List.filter_eq_nil_iff.mpr fun i hi => ?_
    have hlt : i < count := by simpa [lentOut] using hi
    simp [lentOut, hlt]
  have hindex : (((List.range count).map greyFrame).filterMap (·.slot)).map (·.index) =
      List.range count := by
    rw [List.filterMap_map, List.map_filterMap]
    exact List.filterMap_some
  rw [SlotBank.Lends, hpresent, hindex]
  simp [lentOut]

namespace Line

/-- With three slots more than there is room in the mailbox of displaced frames, the detection stage
is never without a slot, whatever the frames and the settings and whoever takes the next step. With
two more it can be. -/
theorem headroom_suffices_and_is_least {room : Nat} {ticks : Mailbox PooledBuffer}
    (hroom : Mailbox.bounded room = .ok ticks) :
    (∀ {κ σ : Type} [Camera κ] [ImageSink σ] (l : Line κ σ) (slots : Nat), l.Fresh room slots →
      room + PipelineSettings.poolHeadroom ≤ slots → ∀ (ms : List Move) (w : Worker DetectionStage),
      (l.moves ms).detection = some w →
      w.stage.report.poolExhausted = 0 ∧
        (w.stage.request = .acquire →
          ∃ pool slot, (l.moves ms).plant.pool.acquire = (pool, .ok (some slot)))) ∧
    ∃ (l : Line SyntheticCamera MemoryStore) (ms : List Move) (w : Worker DetectionStage),
      l.Fresh room (room + 2) ∧ (l.moves ms).detection = some w ∧ w.stage.request = .acquire ∧
        (l.moves ms).plant.pool.acquire = ((l.moves ms).plant.pool, .ok none) := by
  constructor
  · intro κ σ _ _ l slots H hslots ms w hw
    obtain ⟨size, hpool⟩ := H.pooled
    have hnone : ∀ w, l.detection = some w → w.stage.report.poolExhausted = 0 := by
      obtain ⟨settings, hysteresis, now, hd⟩ := H.detection
      intro w hw
      cases hd.symm.trans hw
      rfl
    obtain ⟨hpool', hnone'⟩ := hpool.moves hslots hnone ms
    refine ⟨hnone' w hw, fun hrequest => ?_⟩
    obtain ⟨frame, hphase⟩ := DetectionStage.request_eq_acquire hrequest
    cases hacquire : (l.moves ms).plant.pool.acquire with
    | mk pool outcome =>
      rcases Plant.Pooled.acquire hpool' hacquire with ⟨hfree, -⟩ | ⟨slot, rfl, -⟩
      · exact absurd hfree (hpool'.free_ne_nil hslots hw hphase)
      · exact ⟨pool, slot, rfl⟩
  · have hlends := lentOut_lends (room + 3)
    obtain ⟨l', w, ⟨ms, rfl⟩, hw⟩ := brimming_exhausts (lentOut (room + 3)) MemoryStore.empty
      hroom (by decide : 6 ≠ 0)
      (fun f hf => by
        obtain ⟨i, -, rfl⟩ := List.mem_map.mp hf
        exact greyFrame_alike i)
      hlends.takesBack (by simp)
    exact ⟨_, ms, w, brimming_fresh hroom _ _ _ _, hw⟩

/-- Room for two frames: five slots are enough, and four are not. -/
theorem headroom_of_two :
    Mailbox.bounded 2 = .ok (⟨2, [], 0, 1, true⟩ : Mailbox PooledBuffer) ∧
    (∃ l : Line SyntheticCamera MemoryStore, l.Fresh 2 5 ∧
      ∀ (ms : List Move) (w : Worker DetectionStage), (l.moves ms).detection = some w →
        w.stage.report.poolExhausted = 0) ∧
    ∃ (l : Line SyntheticCamera MemoryStore) (ms : List Move) (w : Worker DetectionStage),
      l.Fresh 2 4 ∧ (l.moves ms).detection = some w ∧ w.stage.request = .acquire ∧
        (l.moves ms).plant.pool.acquire = ((l.moves ms).plant.pool, .ok none) := by
  have hbounded : Mailbox.bounded 2 = .ok (⟨2, [], 0, 1, true⟩ : Mailbox PooledBuffer) := rfl
  obtain ⟨hsuffices, hleast⟩ := headroom_suffices_and_is_least hbounded
  have hfresh : Fresh { brimming (lentOut 5) MemoryStore.empty 2 6 [] with
      plant.pool := .fresh 0 5 6 } 2 5 :=
    { brimming_fresh hbounded (lentOut 5) MemoryStore.empty 6 [] with
      ticks := rfl, pool := ⟨0, 6, rfl⟩ }
  exact ⟨hbounded, ⟨_, hfresh, fun ms w hw => (hsuffices _ 5 hfresh (by decide) ms w hw).1⟩, hleast⟩

end Line
end TickCapture
