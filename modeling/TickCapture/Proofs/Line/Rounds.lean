import TickCapture.Proofs.Line.Headroom

/-! # Rounds of the detection stage

What the detection stage does with frames that are all alike, one round after another, when it is not
asked to stop: it takes a frame in hand, converts it if there is a slot, and sends the frame that the
detector held before to the persistence stage, which takes it in hand. -/

namespace TickCapture
namespace Line

variable {κ σ : Type} [Camera κ] [ImageSink σ] {l l' : Line κ σ}

/-- Frames that are all of `used` bytes and are converted to `len` bytes each. -/
def Alike (used len size : Nat) (f : Captured) : Prop :=
  f.used = used ∧ conversionLen f.bytes f.format size = .ok len

/-- The detection stage sends everything on and is not asked to stop; the frames `fs` wait for it, and
what the detector holds is of `len` bytes. -/
structure Stocked (used len : Nat) (l : Line κ σ) (w : Worker DetectionStage)
    (fs : List Captured) : Prop where
  worker : l.detection = some w
  running : w.stop = false
  forwardAll : w.stage.settings.forwardAll = true
  expected : w.stage.expectedLen.getD used = used
  detector : ∀ b, w.stage.detector.previous = some b → w.stage.detector.expectedLen = len
  frames : l.plant.frames.Fifo .capture
  messages : l.plant.frames.messages = fs
  open_ : l.plant.ticks.receiverAlive = true

variable {used len count size room : Nat} {w : Worker DetectionStage} {f : Captured}
  {fs : List Captured}

/-- The stage takes the next frame in hand. -/
theorem Stocked.receive (H : Stocked used len l w (f :: fs)) (hp : w.stage.phase = .checking)
    (hf : f.used = used) :
    ∃ l' w', Leads l l' ∧ Stocked used len l' w' fs ∧ w'.stage.phase = .acquiring f ∧
      w'.stage.detector = w.stage.detector ∧ l'.persistence = l.persistence ∧
      l'.plant.camera = l.plant.camera ∧ l'.plant.ticks = l.plant.ticks := by
  obtain ⟨frames, hreceive, hfifo, hmessages, -⟩ := H.frames.receive_of_messages H.messages
  have hfirst : l.plant.answerDetection? w = some (l.plant, .stop false) := by
    simp only [Plant.answerDetection?, DetectionStage.request, hp, H.running]
  have hlead := Leads.detection _ _ H.worker hfirst
  have hresume : w.stage.resume (.stop false) = w.stage.enter .receiving := by
    simp [DetectionStage.resume, hp]
  rw [hresume] at hlead
  have htake : (w.stage.enter .receiving).resume (.received (.got f)) =
      { w.stage with
        report.received := w.stage.report.received + 1
        expectedLen := some used
        phase := .acquiring f } := by
    simp [DetectionStage.resume, DetectionStage.enter, DetectionStage.takeIn, hf, H.expected]
  have hlead' := hlead.trans (Leads.detection { l.plant with frames } (.received (.got f)) rfl (by
      simp [Plant.answerDetection?, DetectionStage.request, DetectionStage.enter,
        Plant.receiveFrom?, hreceive]))
  rw [htake] at hlead'
  exact ⟨_, _, hlead', ⟨rfl, H.running, H.forwardAll, rfl, H.detector, hfifo, hmessages, H.open_⟩,
    rfl, rfl, rfl, rfl, rfl⟩

/-- The stage converts the frame in hand, if there is a slot for it. -/
theorem Stocked.convert (H : Stocked used len l w fs) (hp : w.stage.phase = .acquiring f)
    (hpool : l.Pooled count size room) (hfree : l.plant.pool.free ≠ [])
    (hf : Alike used len size f) :
    ∃ l' w' b, Leads l l' ∧ Stocked used len l' w' fs ∧ w'.stage.phase = .returning f b ∧
      b.len = len ∧ w'.stage.detector = w.stage.detector ∧ l'.persistence = l.persistence ∧
      l'.plant.camera = l.plant.camera ∧ l'.plant.ticks = l.plant.ticks := by
  cases hacquire : l.plant.pool.acquire with
  | mk pool outcome =>
    rcases Plant.Pooled.acquire hpool hacquire with
      ⟨hnil, -⟩ | ⟨slot, rfl, -, ⟨-, data, hdata, hsize⟩, hpool'⟩
    · exact absurd hnil hfree
    · have hlen : conversionLen f.bytes f.format data.size = .ok len := by
        rw [hsize, hpool'.size_eq]
        exact hf.2
      have hlead := Leads.detection { l.plant with pool } (.acquired (some slot)) H.worker (by
          simp [Plant.answerDetection?, DetectionStage.request, hp, hacquire])
      have hresume : w.stage.resume (.acquired (some slot)) = w.stage.convert f slot := by
        simp [DetectionStage.resume, hp]
      rw [hresume, DetectionStage.convert_of_ok hdata hlen] at hlead
      exact ⟨_, _, _, hlead, ⟨rfl, H.running, H.forwardAll, H.expected, H.detector, H.frames,
        H.messages, H.open_⟩, rfl, rfl, rfl, rfl, rfl, rfl⟩

omit [Camera κ] [ImageSink σ] in
theorem Stocked.length_free (H : Stocked used len l w fs) (hpool : l.Pooled count size room) :
    l.plant.pool.free.length + w.stage.buffers.length + l.persistenceBuffers.length +
      l.plant.ticks.queue.length = count := by
  have hsum := hpool.length_free
  rw [List.length_append, detectionBuffers_of_some H.worker] at hsum
  omega

/-- The stage converts the next frame, if there is a slot for it. -/
theorem Stocked.convertNext (H : Stocked used len l w (f :: fs)) (hp : w.stage.phase = .checking)
    (hpool : l.Pooled count size room) (hf : Alike used len size f)
    (hfree : w.stage.buffers.length + l.persistenceBuffers.length +
      l.plant.ticks.queue.length < count) :
    ∃ l' w' b, Leads l l' ∧ Stocked used len l' w' fs ∧ w'.stage.phase = .returning f b ∧
      b.len = len ∧ w'.stage.detector = w.stage.detector ∧ l'.persistence = l.persistence ∧
      l'.plant.camera = l.plant.camera ∧ l'.plant.ticks = l.plant.ticks := by
  obtain ⟨l₁, w₁, hlead₁, H₁, hp₁, hdet₁, hpers₁, hcamera₁, hticks₁⟩ := H.receive hp hf.1
  have hpool₁ := hpool.leads hlead₁
  have hne : l₁.plant.pool.free ≠ [] := by
    intro hnil
    have hsum := H₁.length_free hpool₁
    have hbuffers : w₁.stage.buffers = w.stage.buffers := by
      rw [DetectionStage.buffers, DetectionStage.buffers, hp₁, hp, hdet₁]
      rfl
    rw [hnil, hbuffers, persistenceBuffers, hpers₁, ← persistenceBuffers, hticks₁,
      List.length_nil] at hsum
    omega
  obtain ⟨l₂, w₂, b, hlead₂, H₂, hp₂, hb, hdet₂, hpers₂, hcamera₂, hticks₂⟩ :=
    H₁.convert hp₁ hpool₁ hne hf
  exact ⟨l₂, w₂, b, hlead₁.trans hlead₂, H₂, hp₂, hb, hdet₂.trans hdet₁, hpers₂.trans hpers₁,
    hcamera₂.trans hcamera₁, hticks₂.trans hticks₁⟩

/-- The first frame of all is held by the detector. -/
theorem Stocked.seed (H : Stocked used len l w fs) {b : PooledBuffer} {camera : κ}
    (hp : w.stage.phase = .returning f b) (hb : b.len = len) (hlen : len ≠ 0)
    (hback : giveBack l.plant.camera f = (camera, none))
    (hprev : w.stage.detector.previous = none) :
    ∃ l' w', Leads l l' ∧ Stocked used len l' w' fs ∧ w'.stage.phase = .checking ∧
      w'.stage.detector.previous = some b ∧ l'.persistence = l.persistence ∧
      l'.plant.camera = camera ∧ l'.plant.ticks = l.plant.ticks := by
  obtain ⟨d, hprocess, hprevious, hexpected⟩ :=
    TickDetector.process_of_none hprev (hb.symm ▸ hlen)
  have hlead := Leads.detection { l.plant with camera } .done H.worker (by
    simp [Plant.answerDetection?, DetectionStage.request, hp, hback])
  have hresume : w.stage.resume .done = { w.stage with
      detector := d, report.converted := w.stage.report.converted + 1, phase := .checking } := by
    simp [DetectionStage.resume, hp, DetectionStage.detect, hprocess, DetectionStage.enter]
  rw [hresume] at hlead
  exact ⟨_, _, hlead, ⟨rfl, H.running, H.forwardAll, H.expected, fun _ _ => hexpected.trans hb,
    H.frames, H.messages, H.open_⟩, rfl, hprevious, rfl, rfl, rfl⟩

/-- Every later one displaces the frame before it, which is sent on if there is room. -/
theorem Stocked.displace (H : Stocked used len l w fs) {b previous : PooledBuffer} {camera : κ}
    (hp : w.stage.phase = .returning f b) (hb : b.len = len)
    (hback : giveBack l.plant.camera f = (camera, none))
    (hprev : w.stage.detector.previous = some previous)
    (hroom : l.plant.ticks.queue.length < l.plant.ticks.capacity) :
    ∃ l' w' x, Leads l l' ∧ Stocked used len l' w' fs ∧ w'.stage.phase = .checking ∧
      w'.stage.detector.previous = some b ∧ l'.persistence = l.persistence ∧
      l'.plant.camera = camera ∧ l'.plant.ticks.messages = l.plant.ticks.messages ++ [x] := by
  obtain ⟨d, x, hprocess, hprevious, hexpected⟩ :=
    TickDetector.process_of_some hprev (hb.trans (H.detector _ hprev).symm)
  have hlead := Leads.detection { l.plant with camera } .done H.worker (by
    simp [Plant.answerDetection?, DetectionStage.request, hp, hback])
  have hresume : w.stage.resume .done = { w.stage with
      detector := d
      report := { w.stage.report with
        converted := w.stage.report.converted + 1
        ticks := if x.selected then w.stage.report.ticks + 1 else w.stage.report.ticks }
      phase := .sending x } := by
    simp [DetectionStage.resume, hp, DetectionStage.detect, hprocess,
      DetectionStage.afterDisplaced_eq, H.forwardAll]
  rw [hresume] at hlead
  have hattempt : l.plant.ticks.attempt x .tick = ({ l.plant.ticks with
      queue := l.plant.ticks.queue ++ [⟨.tick, l.plant.ticks.nextNumber, x⟩]
      nextNumber := l.plant.ticks.nextNumber + 1 }, .accepted) := by
    simp [Mailbox.attempt, H.open_, hroom]
  have hlead' := hlead.trans (Leads.detection { l.plant with
      camera
      ticks := { l.plant.ticks with
        queue := l.plant.ticks.queue ++ [⟨.tick, l.plant.ticks.nextNumber, x⟩]
        nextNumber := l.plant.ticks.nextNumber + 1 } }
    (.sent .accepted) rfl (by
      simp [Plant.answerDetection?, DetectionStage.request, Plant.sendTo?, hattempt]))
  exact ⟨_, _, x, hlead', ⟨rfl, H.running, H.forwardAll, H.expected, fun _ _ => by
    exact hexpected.trans (H.detector _ hprev), H.frames, H.messages, H.open_⟩, rfl, hprevious, rfl,
    rfl, by simp [Mailbox.messages]⟩

/-- The persistence stage takes the next displaced frame in hand. -/
theorem Leads.hold {v : Worker PersistenceStage} {x : PooledBuffer} {xs : List PooledBuffer}
    (hv : l.persistence = some v) (hp : v.stage.phase = .checking) (hrun : v.stop = false)
    (hall : v.stage.settings.saveAll = true) (hfifo : l.plant.ticks.Fifo .tick)
    (hticks : l.plant.ticks.messages = x :: xs) :
    ∃ ticks s, Leads l { l with
        plant := { l.plant with ticks }, persistence := some ⟨s, l.plant.clock, false⟩ } ∧
      s.phase = .timing x ∧ ticks.messages = xs ∧
      ticks.receiverAlive = l.plant.ticks.receiverAlive := by
  obtain ⟨ticks, hreceive, -, hmessages, halive⟩ := hfifo.receive_of_messages hticks
  have hlead := Leads.persistence l.plant (.stop false) hv (by
    simp [Plant.answerPersistence?, PersistenceStage.request, hp, hrun])
  have hresume : v.stage.resume (.stop false) = v.stage.enter .receiving := by
    simp [PersistenceStage.resume, hp]
  rw [hresume] at hlead
  have hlead' := hlead.trans (Leads.persistence { l.plant with ticks } (.received (.got x)) rfl (by
      simp [Plant.answerPersistence?, PersistenceStage.request, PersistenceStage.enter,
        Plant.receiveFrom?, hreceive]))
  have htake : (v.stage.enter .receiving).resume (.received (.got x)) =
      v.stage.enter (.timing x) := by
    simp [PersistenceStage.resume, PersistenceStage.enter, hall]
  rw [htake, hrun] at hlead'
  exact ⟨ticks, _, hlead', rfl, hmessages, halive⟩

end Line
end TickCapture
