import TickCapture.Proofs.Line.Conservation
import TickCapture.Proofs.Run.ConductorSteps
import TickCapture.Store.Memory

/-! # No buffer is lost in a run

However the conductor and the stages interleave, whichever of them fails, and whenever somebody
interrupts the run: every buffer of the camera and every slot of the pool is in one place, and in one
only. Once the stages that could hold them are over, all buffers are back. -/

namespace TickCapture

variable {κ σ : Type}

namespace Run

/-- The plant of a run has nothing in its mailboxes, and all slots in its pool. -/
theorem plant_eq_ok {settings : PipelineSettings} {camera : κ} {sink : σ} {size : Nat}
    {epoch : Moment} {p : Plant κ σ} (h : plant settings camera sink size epoch = .ok p) :
    ∃ slots capacity room, p.camera = camera ∧ Mailbox.bounded capacity = .ok p.frames ∧
      Mailbox.bounded room = .ok p.ticks ∧ p.pool = .fresh 0 slots size := by
  obtain ⟨slots, -, h⟩ := bind_eq_ok h
  obtain ⟨pool, hpool, h⟩ := bind_eq_ok h
  obtain ⟨frames, hframes, h⟩ := bind_eq_ok h
  obtain ⟨ticks, hticks, h⟩ := bind_eq_ok h
  cases h
  exact ⟨slots, _, _, rfl, mapError_eq_ok hframes, mapError_eq_ok hticks,
    Pool.new_eq_ok (mapError_eq_ok hpool)⟩

variable [BankedCamera κ] {settings : PipelineSettings} {count slots size room : Nat}
  {r r' : Run κ σ}

/-- Nothing has been taken from a run that is prepared. -/
theorem conserved_prepare {host : Host} {camera : κ} {sink : σ} {epoch : Moment}
    (h : prepare settings host camera sink epoch = .ok r)
    (hcamera : BankedCamera.Lends camera count []) :
    ∃ size room, r.line.Conserved count r.line.plant.pool.capacity size room := by
  obtain ⟨-, -, -, p, size, hp, hline⟩ := prepare_eq_ok h
  obtain ⟨slots, capacity, room, hcam, hframes, hticks, hpool⟩ := plant_eq_ok hp
  have hcount : r.line.plant.pool.capacity = slots := by rw [hline, Line.idle, hpool]; rfl
  rw [hcount, hline]
  exact ⟨size, room, .idle hpool hticks hframes (hcam ▸ hcamera)⟩

/-- The conductor loses no buffer: it starts each stage once, and gives up the ends of the mailboxes
that a refused stage was to have. -/
theorem ConductorStep.conserved (hr : Conducted settings r)
    (H : r.line.Conserved count slots size room) (h : ConductorStep r r') :
    r'.line.Conserved count slots size room := by
  cases h with
  | persistenceRefused | seesEnding | watches | joins | leavesStreaming => exact H
  | persistenceStarts hp =>
    have hv : r.line.started .persistence = false := hr.started (by rw [hp]; rfl)
    exact H.startPersistence (by simpa [Line.started] using hv) _ _
  | detectionRefused hp =>
    have hd : r.line.started .detection = false := hr.started (by rw [hp]; rfl)
    exact H.abandonDetection (by simpa [Line.started] using hd)
  | detectionStarts hp =>
    have hd : r.line.started .detection = false := hr.started (by rw [hp]; rfl)
    have hv : r.line.started .persistence = true := hr.started (by rw [hp]; rfl)
    refine H.startDetection (by simpa [Line.started] using hd) (fun h => ?_) _ _ _
    simp [Line.started, h] at hv
  | streams hp hstart | streamingFails hp hstart =>
    exact H.camera fun hb => by simpa [hstart] using BankedCamera.bank_start hb
  | captureRefused => exact H.abandonCapture
  | captureStarts hp =>
    have hc : r.line.started .capture = false := hr.started (by rw [hp]; rfl)
    have hd : r.line.started .detection = true := hr.started (by rw [hp]; rfl)
    refine H.startCapture (by simpa [Line.started] using hc) (fun h => ?_) _ _
    simp [Line.started, h] at hd
  | interrupted => exact H.camera fun hb => ⟨_, hb, rfl⟩
  | asks => exact H.raiseStop _
  | stopsStreaming hp hending hstop =>
    exact H.camera fun hb => by simpa [hstop] using BankedCamera.bank_stop hb

theorem conserved_move? [ImageSink σ] {m : Move} (hr : Conducted settings r)
    (H : r.line.Conserved count slots size room) (h : r.move? m = some r') :
    r'.line.Conserved count slots size room := by
  cases m with
  | stage name =>
    obtain ⟨l, hl, rfl⟩ := Option.map_eq_some_iff.mp h
    exact H.step? hl
  | conductor => exact (conduct?_cases h).conserved hr H
  | interrupt =>
    cases h
    exact H
  | pass nanos =>
    cases h
    exact H.pass nanos

theorem Reaches.conserved [ImageSink σ] (h : Reaches r r') (hr : Conducted settings r)
    (H : r.line.Conserved count slots size room) : r'.line.Conserved count slots size room := by
  induction h with
  | refl => exact H
  | move hreaches hmove ih => exact conserved_move? (hr.reaches hreaches) ih hmove
  | raiseStop name _ ih => exact ih.raiseStop name

/-- When both stages that take frames of the camera are over, all buffers are in its bank. -/
theorem Conducted.bank_full (hr : Conducted settings r) (H : r.line.Conserved count slots size room)
    (hfault : r.line.captureFaulted = false)
    (hphase : r.phase = .stopStreaming ∨ r.phase = .ended) :
    BankedCamera.Lends r.line.plant.camera count [] := by
  have hc : r.line.Over .capture := hr.joined (by obtain hp | hp := hphase <;> rw [hp] <;> rfl)
  have hd : r.line.Over .detection := hr.joined (by obtain hp | hp := hphase <;> rw [hp] <;> rfl)
  obtain ⟨hframes, -, hmessages⟩ := H.tidy.detection_over hd
  have hlends := (H.banked hfault).lends
  rwa [Line.captureFrames_of_over hc, hframes, hmessages] at hlends

/-- When the run has ended all slots are free. -/
theorem Conducted.pool_full (hr : Conducted settings r) (H : r.line.Conserved count slots size room)
    (hphase : r.phase = .ended) :
    r.line.plant.pool.free.length = r.line.plant.pool.capacity := by
  have hd : r.line.Over .detection := hr.joined (by rw [hphase]; rfl)
  have hv : r.line.Over .persistence := hr.joined (by rw [hphase]; rfl)
  obtain ⟨-, hbuffers, -⟩ := H.tidy.detection_over hd
  obtain ⟨hbuffers', hmessages⟩ := H.tidy.persistence_over hv
  have hlength := H.pooled.accounts.length_add
  rwa [hbuffers, hbuffers', hmessages] at hlength

/-- Whatever happens in a run: every slot of the pool is free, with the detector, in the hands of the
detection or the persistence stage, or in the mailbox between them, and in one of these places only.
Every buffer of the camera is in its bank, in the hands of the capture or the detection stage, or in
the mailbox between them, and in one of these places only, unless the capture stage has faulted. All
buffers are in the bank when the camera is to be stopped, and when the run has ended all buffers are in
the bank and all slots are free. -/
theorem buffers_conserved [ImageSink σ] {settings : PipelineSettings} {host : Host} {camera : κ}
    {sink : σ} {epoch : Moment} {r₀ : Run κ σ}
    (hprepare : prepare settings host camera sink epoch = .ok r₀)
    (hcamera : BankedCamera.Lends camera count []) (hr : Reaches r₀ r) :
    let pool := r.line.plant.pool
    let held := r.line.detectionBuffers ++ r.line.persistenceBuffers ++ r.line.plant.ticks.messages
    let lent := r.line.captureFrames ++ r.line.detectionFrames ++ r.line.plant.frames.messages
    pool.capacity = r₀.line.plant.pool.capacity ∧
    (pool.free ++ held.map (·.slot)).Perm (List.range pool.capacity) ∧
    (r.phase = .ended → pool.free.length = pool.capacity) ∧
    (r.line.captureFaulted = false →
      ∃ bank, BankedCamera.bank? r.line.plant.camera = some bank ∧
        (bank.present ++ (lent.filterMap (·.slot)).map (·.index)).Perm (List.range count) ∧
        (r.phase = .stopStreaming ∨ r.phase = .ended → bank.present = List.range count)) := by
  have hr₀ : Conducted settings r₀ := .prepare hprepare
  obtain ⟨size, room, H₀⟩ := conserved_prepare hprepare hcamera
  have H := hr.conserved hr₀ H₀
  have hconducted := hr₀.reaches hr
  refine ⟨H.pooled.count_eq, H.pooled.accounts.slots, hconducted.pool_full H, fun hfault => ?_⟩
  obtain ⟨bank, hbank, hsize, hlends⟩ := (H.banked hfault).lends
  refine ⟨bank, hbank, hsize ▸ hlends, fun hphase => ?_⟩
  obtain ⟨bank', hbank', hsize', hlends'⟩ := hconducted.bank_full H hfault hphase
  cases hbank.symm.trans hbank'
  rw [← hsize']
  exact hlends'.present_eq

/-! ### A run that stores an image, and one that cannot be started -/

def twoBuffers : SyntheticCamera :=
  .new { SyntheticSettings.standard with width := 2, height := 1, buffers := 2 }

/-- Settings with which the first frame is stored. -/
def keepAll : PipelineSettings :=
  { PipelineSettings.standard with
    saveAll := true, captureCapacity := 1, tickCapacity := 1, realtime := false }

/-- Everybody takes a step in turn. -/
def rounds (n : Nat) : List Move :=
  (List.replicate n [.conductor, .stage .persistence, .stage .detection, .stage .capture]).flatten

/-- Settings that pin the detection stage to the second processor. -/
def pinned : PipelineSettings :=
  { PipelineSettings.standard with
    captureCapacity := 1, tickCapacity := 1, realtime := false, cpus := ⟨none, some 1, none⟩ }

/-- The persistence stage waits for a frame. The detection stage is refused, since there is one
processor only, so the persistence stage is stopped and joined. -/
def refusedStart : List Move :=
  [.conductor, .stage .persistence, .conductor, .conductor, .stage .persistence,
    .stage .persistence, .conductor]

/-- The places of a camera's buffers that are on loan: with the capture and the detection stage, and
in the mailbox between them. -/
def loans (r : Run κ σ) : List (List Nat) :=
  [r.line.captureFrames, r.line.detectionFrames, r.line.plant.frames.messages].map fun frames =>
    (frames.filterMap (·.slot)).map (·.index)

/-- The places of the slots that are taken: with the detection and the persistence stage, and in the
mailbox between them. -/
def slotsTaken (r : Run κ σ) : List (List Nat) :=
  [r.line.detectionBuffers, r.line.persistenceBuffers, r.line.plant.ticks.messages].map
    (·.map (·.slot))

/-- After nineteen rounds of the first run the capture and the detection stage have a buffer of the
camera each, the detection stage has two slots and the persistence stage one: so no buffer is in the
bank, and the fourth slot is the only free one. When the runs have ended, all are back. -/
theorem buffers_conserved_of_two_runs :
    (∃ r₀ r r' : Run SyntheticCamera MemoryStore,
      prepare keepAll ⟨1, true⟩ twoBuffers MemoryStore.empty 0 = .ok r₀ ∧
        Reaches r₀ r ∧ r.loans = [[1], [0], []] ∧ r.slotsTaken = [[2, 1], [0], []] ∧
        r.line.plant.camera.bank.present = [] ∧ r.line.plant.pool.free = [3] ∧
        Reaches r₀ r' ∧ r'.phase = .ended ∧ r'.refused = none ∧
        r'.line.plant.camera.bank.present = List.range 2 ∧ r'.line.plant.pool.free.length = 4) ∧
    ∃ r₀ r : Run SyntheticCamera MemoryStore,
      prepare pinned ⟨1, true⟩ twoBuffers MemoryStore.empty 0 = .ok r₀ ∧ Reaches r₀ r ∧
        r.phase = .ended ∧ r.refused.isSome = true ∧
        r.line.plant.camera.bank.present = List.range 2 ∧ r.line.plant.pool.free.length = 4 := by
  have hcamera : BankedCamera.Lends twoBuffers 2 [] :=
    .new (show BankedCamera.bank? twoBuffers = some (.new 2 4) from rfl)
  constructor
  · obtain ⟨r₀, hprepare⟩ : ∃ r₀ : Run SyntheticCamera MemoryStore,
        prepare keepAll ⟨1, true⟩ twoBuffers MemoryStore.empty 0 = .ok r₀ := ⟨_, rfl⟩
    have hfour : r₀.line.plant.pool.capacity = 4 := by cases hprepare; rfl
    have hmoved : (prepare keepAll ⟨1, true⟩ twoBuffers MemoryStore.empty 0).toOption.map
        (fun r => let r := r.moves (rounds 19)
          (r.line.captureFaulted, r.loans, r.slotsTaken)) =
        some (false, [[1], [0], []], [[2, 1], [0], []]) := by
      decide +kernel
    have hends : (prepare keepAll ⟨1, true⟩ twoBuffers MemoryStore.empty 0).toOption.map
        (fun r => let r := r.moves (rounds 33)
          (r.line.captureFaulted, r.phase, r.refused.isNone)) = some (false, .ended, true) := by
      decide +kernel
    rw [hprepare] at hmoved hends
    have hr : Reaches r₀ (r₀.moves (rounds 19)) := Reaches.refl.moves _
    have hr' : Reaches r₀ (r₀.moves (rounds 33)) := Reaches.refl.moves _
    simp only [Except.toOption, Option.map_some, Option.some.injEq, Prod.mk.injEq,
      Option.isNone_iff_eq_none] at hmoved hends
    generalize r₀.moves (rounds 19) = r, r₀.moves (rounds 33) = r' at hmoved hends hr hr'
    obtain ⟨hfault, hloans, htaken⟩ := hmoved
    obtain ⟨hfault', hended, hunrefused⟩ := hends
    obtain ⟨hcapacity, hslots, -, hlent⟩ := buffers_conserved hprepare hcamera hr
    obtain ⟨hcapacity', -, hfree, hlent'⟩ := buffers_conserved hprepare hcamera hr'
    obtain ⟨bank, hbank, hbanked, -⟩ := hlent hfault
    obtain ⟨bank', hbank', -, hpresent⟩ := hlent' hfault'
    cases hbank
    cases hbank'
    refine ⟨r₀, r, r', hprepare, hr, hloans, htaken, ?_, ?_, hr', hended, hunrefused,
      hpresent (.inr hended), ?_⟩
    · simp only [loans, List.map_cons, List.map_nil, List.cons.injEq, and_true] at hloans
      simp only [List.filterMap_append, List.map_append, hloans] at hbanked
      exact List.eq_nil_of_length_eq_zero (by simpa using hbanked.length_eq)
    · simp only [slotsTaken, List.map_cons, List.map_nil, List.cons.injEq, and_true] at htaken
      simp only [List.map_append, htaken, hcapacity, hfour] at hslots
      exact List.perm_singleton.mp <| (List.perm_append_right_iff [2, 1, 0]).mp <|
        hslots.trans (by decide)
    · rw [hfree hended, hcapacity', hfour]
  · obtain ⟨r₀, hprepare⟩ : ∃ r₀ : Run SyntheticCamera MemoryStore,
        prepare pinned ⟨1, true⟩ twoBuffers MemoryStore.empty 0 = .ok r₀ := ⟨_, rfl⟩
    have hr : Reaches r₀ (r₀.moves refusedStart) := Reaches.refl.moves _
    have hended : (r₀.moves refusedStart).phase = .ended := by cases hprepare; rfl
    have hfault : (r₀.moves refusedStart).line.captureFaulted = false := by cases hprepare; rfl
    have hfour : r₀.line.plant.pool.capacity = 4 := by cases hprepare; rfl
    obtain ⟨hcapacity, -, hfree, hlent⟩ := buffers_conserved hprepare hcamera hr
    obtain ⟨bank, hbank, -, hpresent⟩ := hlent hfault
    cases hbank
    refine ⟨r₀, _, hprepare, hr, hended, ?_, hpresent (.inr hended), ?_⟩
    · cases hprepare
      rfl
    · rw [hfree hended, hcapacity, hfour]

end Run
end TickCapture
