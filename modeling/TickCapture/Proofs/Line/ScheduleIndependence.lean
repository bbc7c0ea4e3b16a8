import TickCapture.Proofs.Line.Headroom
import TickCapture.Proofs.Tracking.Detection
import TickCapture.Proofs.Tracking.Persistence
import TickCapture.Rehearsal.ScriptedCamera
import TickCapture.Store.Memory

/-! # The images do not depend on the schedule

Whoever takes the next step, and whenever somebody asks a stage to stop: the images handed to the sink
are a beginning of those that the frames taken from the camera make when they are worked off one after
another. Which frames the camera delivers may depend on the schedule, and so may how far the line gets;
what is stored does not.

The frames have to have lines of whole pixel pairs. The last pixel of an odd line is not converted, so it
shows what the slot held before, and which slot a frame gets does depend on the schedule
(`images_of_odd_width_follow_schedule`). -/

namespace TickCapture
namespace Line

variable {κ σ : Type}

/-! ### What is seen from outside -/

/-- The frame that a move takes from the camera, if it takes one. -/
def taken [Camera κ] (l : Line κ σ) : Move → List Captured
  | .stage .capture => (l.capture.map l.plant.taken).getD []
  | _ => []

/-- The image that a move hands to the sink, if it hands one. -/
def handed (l : Line κ σ) : Move → List ImageRecord
  | .stage .persistence => (l.persistence.map (·.handed)).getD []
  | _ => []

variable [Camera κ] [ImageSink σ]

/-- The frames taken from the camera along these moves. -/
def framesTaken (l : Line κ σ) : List Move → List Captured
  | [] => []
  | m :: ms =>
    match l.move? m with
    | none => framesTaken l ms
    | some l' => l.taken m ++ framesTaken l' ms

/-- The images handed to the sink along these moves. -/
def imagesHanded (l : Line κ σ) : List Move → List ImageRecord
  | [] => []
  | m :: ms =>
    match l.move? m with
    | none => imagesHanded l ms
    | some l' => l.handed m ++ imagesHanded l' ms

theorem framesTaken_append (l : Line κ σ) (ms ms' : List Move) :
    l.framesTaken (ms ++ ms') = l.framesTaken ms ++ (l.moves ms).framesTaken ms' := by
  induction ms generalizing l with
  | nil => rfl
  | cons m ms ih =>
    rw [Line.moves, List.foldl_cons, ← Line.moves]
    cases hmove : l.move? m <;> simp [framesTaken, hmove, ih]

theorem imagesHanded_append (l : Line κ σ) (ms ms' : List Move) :
    l.imagesHanded (ms ++ ms') = l.imagesHanded ms ++ (l.moves ms).imagesHanded ms' := by
  induction ms generalizing l with
  | nil => rfl
  | cons m ms ih =>
    rw [Line.moves, List.foldl_cons, ← Line.moves]
    cases hmove : l.move? m <;> simp [imagesHanded, hmove, ih]

/-! ### The chain from the camera to the sink -/

/-- Where the frames `taken` are that have not become one of the images `handed` yet: the capture stage
passed those of `forwarded` on, of which the detection stage has worked off those of `seen`; it passed
frames with the contents `sent` on, of which the persistence stage has `received` some. -/
structure Chained (h : Hysteresis Float) (settings : PersistenceSettings) (slots size room : Nat)
    (l : Line κ σ) (c : Worker CaptureStage) (d : Worker DetectionStage)
    (v : Worker PersistenceStage) (taken forwarded seen : List Captured)
    (sent received : List (Bytes × Nat × Bool)) (handed : List Picture) : Prop where
  capture_eq : l.capture = some c
  detection_eq : l.detection = some d
  persistence_eq : l.persistence = some v
  pooled : l.Pooled slots size room
  fifo : l.plant.frames.Fifo .capture
  capture : c.stage.Tracks c.stop taken forwarded
  inbox : Passed d.stage.phase.retired forwarded seen
    (d.stage.phase.frames ++ l.plant.frames.messages)
  detection : d.stage.Tracks size h settings.saveAll d.stop seen sent
  outbox : Passed v.stage.phase.retired sent received (l.plant.ticks.messages.map (·.content))
  persistence : v.stage.Tracks received handed
  settings_eq : v.stage.settings = settings

/-- All frames taken are somewhere in the chain. -/
def Tracks (h : Hysteresis Float) (settings : PersistenceSettings) (slots size room : Nat)
    (l : Line κ σ) (taken : List Captured) (handed : List Picture) : Prop :=
  ∃ c d v forwarded seen sent received,
    Chained h settings slots size room l c d v taken forwarded seen sent received handed

variable {h : Hysteresis Float} {settings : PersistenceSettings} {slots size room : Nat}
  {l l' : Line κ σ} {taken : List Captured} {handed : List Picture}

namespace Chained

variable {c : Worker CaptureStage} {d : Worker DetectionStage} {v : Worker PersistenceStage}
  {forwarded seen : List Captured} {sent received : List (Bytes × Nat × Bool)} {p : Plant κ σ}

omit [ImageSink σ] in
theorem stepCapture {s : CaptureStage} (H : Chained h settings slots size room l c d v taken forwarded
      seen sent received handed) (hs : CaptureStep l.plant c p s)
    (hpooled : Line.Pooled slots size room
      { l with plant := p, capture := some ⟨s, p.clock, c.stop⟩ }) :
    ∃ new, Chained h settings slots size room
      { l with plant := p, capture := some ⟨s, p.clock, c.stop⟩ } ⟨s, p.clock, c.stop⟩ d v
      (taken ++ l.plant.taken c) (forwarded ++ new) seen sent received handed := by
  obtain ⟨-, hticks⟩ := hs.pool_eq
  obtain ⟨hfifo, new, hmessages, hcapture⟩ := hs.tracks H.capture H.fifo
  have hinbox := H.inbox.give new
  rw [List.append_assoc, ← hmessages] at hinbox
  exact ⟨new, {
    capture_eq := rfl
    detection_eq := H.detection_eq
    persistence_eq := H.persistence_eq
    pooled := hpooled
    fifo := hfifo
    capture := hcapture
    inbox := hinbox
    detection := H.detection
    outbox := by rw [hticks]; exact H.outbox
    persistence := H.persistence
    settings_eq := H.settings_eq }⟩

omit [ImageSink σ] in
theorem stepDetection {s : DetectionStage} (H : Chained h settings slots size room l c d v taken
      forwarded seen sent received handed) (hroom : room + PipelineSettings.poolHeadroom ≤ slots)
    (heven : ∀ f ∈ taken, f.format.width % 2 = 0) (hs : DetectionStep l.plant d p s)
    (hpooled : Line.Pooled slots size room
      { l with plant := p, detection := some ⟨s, p.clock, d.stop⟩ }) :
    ∃ seen' new, Chained h settings slots size room
      { l with plant := p, detection := some ⟨s, p.clock, d.stop⟩ } c ⟨s, p.clock, d.stop⟩ v
      taken forwarded seen' (sent ++ new) received handed := by
  have hfree : ∀ f, d.stage.phase = .acquiring f → l.plant.pool.free ≠ [] := fun f hp =>
    H.pooled.free_ne_nil hroom H.detection_eq hp
  have hwidth : ∀ f, d.stage.phase = .acquiring f → f.format.width % 2 = 0 := fun f hp => by
    have hgiven := H.inbox.given_eq (by rw [hp]; rfl)
    refine heven f (H.capture.sent_prefix_taken.subset ?_)
    simp [hgiven, hp, DetectionPhase.frames]
  obtain ⟨seen', new, hdetection, hinbox, hfifo, hmessages⟩ :=
    hs.tracks H.detection H.fifo H.pooled hfree hwidth H.inbox
  have houtbox := H.outbox.give (new.map (·.content))
  rw [← List.map_append, ← hmessages] at houtbox
  exact ⟨seen', new.map (·.content), {
    capture_eq := H.capture_eq
    detection_eq := rfl
    persistence_eq := H.persistence_eq
    pooled := hpooled
    fifo := hfifo
    capture := H.capture
    inbox := hinbox
    detection := hdetection
    outbox := houtbox
    persistence := H.persistence
    settings_eq := H.settings_eq }⟩

omit [Camera κ] in
theorem stepPersistence {s : PersistenceStage} (H : Chained h settings slots size room l c d v taken
      forwarded seen sent received handed) (hs : PersistenceStep l.plant v p s)
    (hpooled : Line.Pooled slots size room
      { l with plant := p, persistence := some ⟨s, p.clock, v.stop⟩ }) :
    ∃ received', Chained h settings slots size room
      { l with plant := p, persistence := some ⟨s, p.clock, v.stop⟩ } c d ⟨s, p.clock, v.stop⟩
      taken forwarded seen sent received' (handed ++ v.handed.map (·.picture)) := by
  -- the stage is sent only what it is to store
  have hkeep : ∀ x ∈ sent, (x.2.2 || v.stage.settings.saveAll) = true := fun x hx => by
    obtain ⟨b, hb, rfl⟩ := List.mem_map.mp (H.detection.sent_prefix_kept.subset hx)
    rw [H.settings_eq]
    exact (List.mem_filter.mp hb).2
  obtain ⟨received', hpersistence, houtbox⟩ := hs.tracks H.persistence H.pooled.fifo hkeep H.outbox
  exact ⟨received', {
    capture_eq := H.capture_eq
    detection_eq := H.detection_eq
    persistence_eq := rfl
    pooled := hpooled
    fifo := hs.frames_eq.1 ▸ H.fifo
    capture := H.capture
    inbox := hs.frames_eq.1 ▸ H.inbox
    detection := H.detection
    outbox := houtbox
    persistence := hpersistence
    settings_eq := hs.settings_eq.trans H.settings_eq }⟩

end Chained

namespace Tracks

omit [Camera κ] [ImageSink σ] in
/-- What has been handed over is a beginning of what the frames taken make. -/
theorem handed_prefix_pictures (H : Tracks h settings slots size room l taken handed) :
    handed <+:
      Reference.pictures size h settings.width settings.height settings.saveAll taken := by
  obtain ⟨c, d, v, forwarded, seen, sent, received, H⟩ := H
  have hseen : seen <+: taken := H.inbox.done_prefix_given.trans H.capture.sent_prefix_taken
  have hreceived : received <+:
      ((Reference.after size h taken).kept settings.saveAll).map (·.content) :=
    (H.outbox.done_prefix_given.trans H.detection.sent_prefix_kept).trans
      ((Reference.kept_mono hseen).map _)
  refine H.persistence.handed_prefix_pictures.trans ?_
  rw [PersistenceStage.pictures, H.settings_eq]
  have hpixels := hreceived.map Prod.fst
  rw [List.map_map] at hpixels
  exact numbered_mono hpixels

/-- A step of a stage moves frames along the chain and loses none before a later one has passed. -/
theorem step? {name : StageName} (H : Tracks h settings slots size room l taken handed)
    (hroom : room + PipelineSettings.poolHeadroom ≤ slots)
    (heven : ∀ f ∈ taken, f.format.width % 2 = 0) (hstep : l.step? name = some l') :
    Tracks h settings slots size room l' (taken ++ l.taken (.stage name))
      (handed ++ (l.handed (.stage name)).map (·.picture)) := by
  obtain ⟨c, d, v, forwarded, seen, sent, received, H⟩ := H
  have hpooled := H.pooled.step? hstep
  cases step?_cases hstep with
  | capture hw hs =>
    cases hw.symm.trans H.capture_eq
    obtain ⟨new, hchain⟩ := H.stepCapture hs hpooled
    rw [show l.taken (.stage .capture) = l.plant.taken c by simp [Line.taken, hw],
      show l.handed (.stage .capture) = [] from rfl, List.map_nil, List.append_nil]
    exact ⟨_, _, _, _, _, _, _, hchain⟩
  | detection hw hs =>
    cases hw.symm.trans H.detection_eq
    obtain ⟨seen', new, hchain⟩ := H.stepDetection hroom heven hs hpooled
    rw [show l.taken (.stage .detection) = [] from rfl,
      show l.handed (.stage .detection) = [] from rfl, List.map_nil, List.append_nil, List.append_nil]
    exact ⟨_, _, _, _, _, _, _, hchain⟩
  | persistence hw hs =>
    cases hw.symm.trans H.persistence_eq
    obtain ⟨received', hchain⟩ := H.stepPersistence hs hpooled
    rw [show l.handed (.stage .persistence) = v.handed by simp [Line.handed, hw],
      show l.taken (.stage .persistence) = [] from rfl, List.append_nil]
    exact ⟨_, _, _, _, _, _, _, hchain⟩

omit [Camera κ] [ImageSink σ] in
theorem raiseStop (H : Tracks h settings slots size room l taken handed) (name : StageName) :
    Tracks h settings slots size room (l.raiseStop name) taken handed := by
  obtain ⟨c, d, v, forwarded, seen, sent, received, H⟩ := H
  cases name with
  | capture =>
    exact ⟨c.raiseStop, d, v, forwarded, seen, sent, received, { H with
      capture_eq := by simp [Line.raiseStop, H.capture_eq]
      pooled := H.pooled.raiseStop .capture
      capture := H.capture.raiseStop }⟩
  | detection =>
    exact ⟨c, d.raiseStop, v, forwarded, seen, sent, received, { H with
      detection_eq := by simp [Line.raiseStop, H.detection_eq]
      pooled := H.pooled.raiseStop .detection
      detection := H.detection.raiseStop }⟩
  | persistence =>
    exact ⟨c, d, v.raiseStop, forwarded, seen, sent, received, { H with
      persistence_eq := by simp [Line.raiseStop, H.persistence_eq]
      pooled := H.pooled.raiseStop .persistence }⟩

omit [Camera κ] [ImageSink σ] in
theorem pass (H : Tracks h settings slots size room l taken handed) (nanos : Nat) :
    Tracks h settings slots size room (l.pass nanos) taken handed := by
  obtain ⟨c, d, v, forwarded, seen, sent, received, H⟩ := H
  exact ⟨c, d, v, forwarded, seen, sent, received, { H with pooled := H.pooled.pass nanos }⟩

theorem move? {m : Move} (H : Tracks h settings slots size room l taken handed)
    (hroom : room + PipelineSettings.poolHeadroom ≤ slots)
    (heven : ∀ f ∈ taken, f.format.width % 2 = 0) (hmove : l.move? m = some l') :
    Tracks h settings slots size room l' (taken ++ l.taken m)
      (handed ++ (l.handed m).map (·.picture)) := by
  cases m with
  | stage name => exact H.step? hroom heven hmove
  | raiseStop name => cases hmove; simpa [Line.taken, Line.handed] using H.raiseStop name
  | pass nanos => cases hmove; simpa [Line.taken, Line.handed] using H.pass nanos

/-- Along all moves the frames stay in the chain until they are images. -/
theorem moves (H : Tracks h settings slots size room l taken handed)
    (hroom : room + PipelineSettings.poolHeadroom ≤ slots) (ms : List Move)
    (heven : ∀ f ∈ taken ++ l.framesTaken ms, f.format.width % 2 = 0) :
    Tracks h settings slots size room (l.moves ms) (taken ++ l.framesTaken ms)
      (handed ++ (l.imagesHanded ms).map (·.picture)) := by
  induction ms generalizing l taken handed with
  | nil => simpa [Line.moves, framesTaken, imagesHanded] using H
  | cons m ms ih =>
    rw [Line.moves, List.foldl_cons, ← Line.moves]
    cases hmove : l.move? m with
    | none =>
      simp only [framesTaken, imagesHanded, hmove] at heven ⊢
      exact ih H heven
    | some l' =>
      simp only [framesTaken, imagesHanded, hmove] at heven ⊢
      have H' := H.move? hroom (fun f hf => heven f (List.mem_append_left _ hf)) hmove
      rw [← List.append_assoc] at heven
      have H'' := ih H' heven
      rwa [List.append_assoc, List.append_assoc, ← List.map_append] at H''

end Tracks

/-! ### A line that has just been started -/

/-- All three stages are about to take their first step, with nothing in the mailboxes. The capture
stage waits when its mailbox is full, and the detection stage sends on what the persistence stage is
to store. -/
structure Opening (h : Hysteresis Float) (settings : PersistenceSettings) (slots size room : Nat)
    (l : Line κ σ) : Prop where
  frames : ∃ capacity, Mailbox.bounded capacity = .ok l.plant.frames
  ticks : Mailbox.bounded room = .ok l.plant.ticks
  pool : ∃ id, l.plant.pool = .fresh id slots size
  capture : ∃ csettings now, l.capture = some (.start (.new csettings) now) ∧
    csettings.policy = .block
  detection : ∃ dsettings now, l.detection = some (.start (.new dsettings (.new h)) now) ∧
    dsettings.forwardAll = settings.saveAll
  persistence : ∃ now, l.persistence = some (.start (.new settings) now)

namespace Opening

omit [Camera κ] [ImageSink σ] in
theorem fresh (H : Opening h settings slots size room l) : l.Fresh room slots where
  ticks := H.ticks
  pool := H.pool.imp fun _ hpool => ⟨size, hpool⟩
  detection := by
    obtain ⟨dsettings, now, hd, -⟩ := H.detection
    exact ⟨dsettings, h, now, hd⟩
  persistence := ⟨settings, H.persistence⟩

omit [Camera κ] [ImageSink σ] in
theorem tracks (H : Opening h settings slots size room l) :
    Tracks h settings slots size room l [] [] := by
  obtain ⟨size', hpooled⟩ := H.fresh.pooled
  obtain ⟨id, hpool⟩ := H.pool
  obtain rfl : size' = size := by rw [← hpooled.size_eq, hpool]; rfl
  obtain ⟨capacity, hframes⟩ := H.frames
  obtain ⟨-, hempty⟩ := Mailbox.Orderly.bounded hframes
  obtain ⟨-, hempty'⟩ := Mailbox.Orderly.bounded H.ticks
  obtain ⟨csettings, cnow, hcapture, hpolicy⟩ := H.capture
  obtain ⟨dsettings, dnow, hdetection, hall⟩ := H.detection
  obtain ⟨pnow, hpersistence⟩ := H.persistence
  refine ⟨_, _, _, [], [], [], [], {
    capture_eq := hcapture
    detection_eq := hdetection
    persistence_eq := hpersistence
    pooled := hpooled
    fifo := .of_bounded hframes
    capture := ⟨hpolicy, nofun, [], rfl, .inl rfl⟩
    inbox := .of_eq (by rw [hempty]; rfl)
    detection := ⟨hall, fun _ => ⟨rfl, ⟨rfl, rfl, rfl, rfl⟩, rfl⟩, [], rfl, .inl rfl⟩
    outbox := .of_eq (by rw [hempty']; rfl)
    persistence := .nextRound rfl rfl
    settings_eq := PersistenceStage.settings_nextRound _ }⟩

end Opening

/-- However the steps of the stages interleave, and whenever they are asked to stop: the images handed
to the sink are a beginning of those that the frames of the camera make one after another. The pool
is to have three slots more than there is room for displaced frames. The frames that are taken are to
have lines of whole pixel pairs: a run is only made with a camera whose format has, but the format that
a frame comes with is not looked at again. -/
theorem imagesHanded_prefix_pictures (H : Opening h settings slots size room l)
    (hslots : room + PipelineSettings.poolHeadroom ≤ slots) (ms : List Move) {frames : List Captured}
    (hframes : l.framesTaken ms <+: frames)
    (heven : ∀ f ∈ l.framesTaken ms, f.format.width % 2 = 0) :
    (l.imagesHanded ms).map (·.picture) <+:
      Reference.pictures size h settings.width settings.height settings.saveAll frames := by
  have htracks := H.tracks.moves hslots ms heven
  exact htracks.handed_prefix_pictures.trans (Reference.pictures_mono hframes)

/-! ### Two frames that make an image -/

/-- A camera that delivers a black frame and a grey one, of two pixels each. -/
def twoFrames : ScriptedCamera where
  device := "scripted"
  format := .packed 2 1 .yuyv
  inner := none
  queue := .new []
  cycles := [#[16, 128, 16, 128], #[128, 128, 128, 128]].map fun memory =>
    { Cycle.plain with frame := .usual (some ⟨memory, none, none, none, none, 0⟩) }
  current := .plain
  startError := none
  stopError := none
  made := 0
  transientErrors := 0

/-- A line over that camera. All frames are to be stored. -/
def twoFramesLine : Line ScriptedCamera MemoryStore where
  plant := {
    camera := twoFrames
    frames := ⟨1, [], 0, 1, true⟩
    pool := .fresh 0 4 6
    ticks := ⟨1, [], 0, 1, true⟩
    sink := MemoryStore.empty
    clock := 0
    epoch := 0
    logs := #[] }
  capture := some (.start (.new ⟨"scripted", 0, none, .block⟩) 0)
  detection := some (.start (.new ⟨0, true⟩ (.new .standard)) 0)
  persistence := some (.start (.new ⟨2, 1, 1, true, 0⟩) 0)

/-- Until the detector is to compare the frames. -/
def beforeComparison : List Move :=
  [(6, .capture), (4, .detection), (4, .capture), (3, .detection)].flatMap fun (n, name) =>
    List.replicate n (.stage name)

/-- Until the first image is handed to the sink. -/
def afterComparison : List Move :=
  .stage .detection :: List.replicate 4 (.stage .persistence)

/-- The line once the frames are compared. What the comparison of two doubles comes to is left open. -/
def twoFramesCompared (outcome : Hysteresis Float × Bool) (difference : Float) :
    Line ScriptedCamera MemoryStore :=
  let l := twoFramesLine.moves beforeComparison
  let black : PooledBuffer := ⟨0, 0, some (.replicate 6 0), 6, false⟩
  let displaced := if outcome.2 then { black with selected := true } else black
  let grey : PooledBuffer := ⟨0, 1, some (.replicate 6 130), 6, false⟩
  { l with
    plant.camera.queue := ⟨[], #[0, 1], 2⟩
    detection := l.detection.map fun w => { w with
      stage := DetectionStage.afterDisplaced { w.stage with
        detector := ⟨outcome.1, some grey, 6, 1530, 2, if outcome.2 then 1 else 0, some difference⟩
        report := ⟨2, 2, 0, 0, 0, 0⟩ } displaced } }

theorem twoFramesLine_compares : ∃ outcome difference,
    (twoFramesLine.moves beforeComparison).move? (.stage .detection) =
      some (twoFramesCompared outcome difference) := by
  let difference : Float := Scale.ratio (diffSum (.replicate 6 130) (.replicate 6 0)) 1530
  exact ⟨Hysteresis.standard.step difference, difference, rfl⟩

theorem imagesHanded_of_two_frames :
    let ms := beforeComparison ++ .stage .detection :: afterComparison
    (twoFramesLine.framesTaken ms).length = 2 ∧ (twoFramesLine.imagesHanded ms).length = 1 ∧
      (twoFramesLine.imagesHanded ms).map (·.picture) <+:
        Reference.pictures 6 .standard 2 1 true (twoFramesLine.framesTaken ms) := by
  intro ms
  obtain ⟨⟨hysteresis, tick⟩, difference, hcompare⟩ := twoFramesLine_compares
  have hframes : twoFramesLine.framesTaken ms = twoFramesLine.framesTaken beforeComparison := by
    rw [framesTaken_append]
    simp only [framesTaken, hcompare]
    cases tick <;> rfl
  have himages : (twoFramesLine.imagesHanded ms).length = 1 := by
    rw [imagesHanded_append]
    simp only [imagesHanded, hcompare]
    cases tick <;> rfl
  have hopening : Opening .standard ⟨2, 1, 1, true, 0⟩ 4 6 1 twoFramesLine := {
    frames := ⟨1, rfl⟩
    ticks := rfl
    pool := ⟨0, rfl⟩
    capture := ⟨_, _, rfl, rfl⟩
    detection := ⟨_, _, rfl, rfl⟩
    persistence := ⟨_, rfl⟩ }
  have heven : ∀ f ∈ twoFramesLine.framesTaken ms, f.format.width % 2 = 0 := by
    rw [hframes]
    decide
  exact ⟨by rw [hframes]; rfl, himages,
    imagesHanded_prefix_pictures hopening (by decide) ms List.prefix_rfl heven⟩

/-! ### Frames of odd width -/

/-- A camera that delivers a grey frame and a black one of two pixels in a line, a frame of one pixel in
each of two lines, and another black one. All have the same size. -/
def oddFrames : ScriptedCamera :=
  { twoFrames with
    cycles := [(#[128, 128, 128, 128], none), (#[16, 128, 16, 128], none),
        (#[16, 128, 16, 128], some (.packed 1 2 .yuyv)), (#[16, 128, 16, 128], none)].map
      fun (memory, format) =>
        { Cycle.plain with frame := .usual (some ⟨memory, none, none, none, format, 0⟩) } }

/-- A line over that camera. All frames are to be stored. -/
def oddFramesLine : Line ScriptedCamera MemoryStore :=
  { twoFramesLine with
    plant.camera := oddFrames
    persistence := some (.start (.new ⟨2, 1, 3, true, 0⟩) 0) }

/-- One stage after another takes six steps. -/
def inTurn (names : List StageName) : List Move :=
  names.flatMap fun name => List.replicate 6 (.stage name)

/-- Every image is stored at once: the grey frame's slot is free again when the odd one is converted. -/
def storedAtOnce : List Move :=
  (List.replicate 4 (inTurn [.capture, .detection, .persistence])).flatten

/-- No image is stored until the odd frame is converted, into a slot that was not used before. -/
def storedLate : List Move :=
  (List.replicate 3 (inTurn [.capture, .detection])).flatten ++
    (List.replicate 3 (inTurn [.persistence, .capture, .detection])).flatten ++
      inTurn [.persistence]

/-- The same frames make different images, so there are no images that only depend on the frames. -/
theorem images_of_odd_width_follow_schedule :
    Opening .standard ⟨2, 1, 3, true, 0⟩ 4 6 1 oddFramesLine ∧
    1 + PipelineSettings.poolHeadroom ≤ 4 ∧
    oddFramesLine.framesTaken storedAtOnce = oddFramesLine.framesTaken storedLate ∧
    ¬∃ images : List Captured → List Picture, ∀ ms,
      (oddFramesLine.imagesHanded ms).map (·.picture) <+: images (oddFramesLine.framesTaken ms) := by
  have hframes : oddFramesLine.framesTaken storedAtOnce = oddFramesLine.framesTaken storedLate := by
    decide +kernel
  have hearly : (oddFramesLine.imagesHanded storedAtOnce).map (·.picture) =
      [⟨1, 2, 1, .replicate 6 130⟩, ⟨2, 2, 1, .replicate 6 0⟩, ⟨3, 2, 1, .replicate 6 130⟩] := by
    decide +kernel
  have hlate : (oddFramesLine.imagesHanded storedLate).map (·.picture) =
      [⟨1, 2, 1, .replicate 6 130⟩, ⟨2, 2, 1, .replicate 6 0⟩, ⟨3, 2, 1, .replicate 6 0⟩] := by
    decide +kernel
  refine ⟨?_, by decide, hframes, ?_⟩
  · exact {
      frames := ⟨1, rfl⟩
      ticks := rfl
      pool := ⟨0, rfl⟩
      capture := ⟨_, _, rfl, rfl⟩
      detection := ⟨_, _, rfl, rfl⟩
      persistence := ⟨_, rfl⟩ }
  · rintro ⟨images, himages⟩
    have hthird := himages storedAtOnce
    have hthird' := himages storedLate
    rw [hearly, hframes] at hthird
    rw [hlate] at hthird'
    have hsame := List.prefix_of_prefix_length_le hthird hthird' (by simp)
    exact absurd hsame (by decide)

end Line
end TickCapture
