import TickCapture.Proofs.Camera.Footage

/-! # Playing a scene

A scene is looked at until a frame is shown, and no limit is set to that in advance. `Scene.Passes`
is a number of looks in a row that come to no frame. `Scene.advance?` finds the frame exactly if
there is an end to them (`Scene.advanceWithin_eq_some_iff`, `Scene.advanceWithin_eq_none_iff`).
There is one unless the script is `Scene.Barren`: it is repeated, and has segments but no frame. The
camera of such a script never answers once it has taken a buffer.

All other cameras play on for ever (`SyntheticCamera.play?`). What they show is the script with
every segment unrolled into its frames, and the ramp is shifted by one step with every frame that
moves. -/

namespace TickCapture
namespace Scene

/-- So many looks in a row come to no frame. -/
inductive Passes : Nat → Scene → Scene → Prop
  | none {s : Scene} : Passes 0 s s
  | look {n : Nat} {s s' s'' : Scene} : s.look = .passed s' → Passes n s' s'' →
    Passes (n + 1) s s''

/-- A script that starts over for ever and has no frame. -/
def Barren (script : List Segment) (repeated : Bool) : Prop :=
  repeated = true ∧ script ≠ [] ∧ ∀ segment ∈ script, segment.length = 0

variable {s s' : Scene} {script : List Segment} {moved repeated : Bool} {m n : Nat}

theorem flags_eq_nil_iff : flags script = [] ↔ ∀ segment ∈ script, segment.length = 0 := by
  constructor
  · intro hnil segment hsegment
    by_contra hne
    exact flags_ne_nil hsegment hne hnil
  · intro hzero
    refine List.flatMap_eq_nil_iff.mpr fun segment hsegment => ?_
    rw [hzero segment hsegment]
    rfl

/-! ### Frames of a script -/

theorem getElem?_flags {k : Nat} (h : k < (flags script).length) :
    (flags script)[k]? = some (movesAt script false k) := by
  rw [movesAt, if_neg Bool.false_ne_true, List.getElem?_eq_getElem h]
  rfl

/-- The picture stands still when the script is over. -/
theorem movesAt_of_over {k : Nat} (h : (flags script).length ≤ k) :
    movesAt script false k = false := by
  rw [movesAt, if_neg Bool.false_ne_true, List.getElem?_eq_none h]
  rfl

theorem getElem?_flags_mod (h : 0 < (flags script).length) (k : Nat) :
    (flags script)[k % (flags script).length]? = some (movesAt script true k) := by
  rw [movesAt, if_pos rfl, List.getElem?_eq_getElem (Nat.mod_lt k h)]
  rfl

/-! ### The looks of a scene -/

/-- Where so many looks come to no frame, fewer do not either. -/
theorem Passes.of_le (h : Passes n s s') (hle : m ≤ n) : ∃ between, Passes m s between := by
  induction h generalizing m with
  | none =>
    cases Nat.le_zero.mp hle
    exact ⟨_, .none⟩
  | look hlook _ ih =>
    cases m with
    | zero => exact ⟨_, .none⟩
    | succ m =>
      obtain ⟨between, hpasses⟩ := ih (Nat.le_of_succ_le_succ hle)
      exact ⟨between, .look hlook hpasses⟩

/-- Within so many looks a frame is found exactly if one comes after fewer looks without any. -/
theorem advanceWithin_eq_some_iff :
    advanceWithin n s = some (s', moved) ↔
      ∃ m < n, ∃ between, Passes m s between ∧ between.look = .frame s' moved := by
  constructor
  · intro h
    induction n generalizing s with
    | zero => cases h
    | succ n ih =>
      rw [advanceWithin] at h
      split at h
      · next hlook =>
        cases h
        exact ⟨0, Nat.succ_pos n, s, .none, hlook⟩
      · next hlook =>
        obtain ⟨m, hlt, between, hpasses, hframe⟩ := ih h
        exact ⟨m + 1, Nat.succ_lt_succ hlt, between, .look hlook hpasses, hframe⟩
  · rintro ⟨m, hlt, between, hpasses, hframe⟩
    induction hpasses generalizing n with
    | none =>
      obtain ⟨n, rfl⟩ := Nat.exists_eq_succ_of_ne_zero (Nat.ne_of_gt hlt)
      rw [advanceWithin, hframe]
    | look hlook _ ih =>
      obtain ⟨n, rfl⟩ := Nat.exists_eq_succ_of_ne_zero (Nat.ne_of_gt (Nat.zero_lt_of_lt hlt))
      rw [advanceWithin, hlook]
      exact ih (Nat.lt_of_succ_lt_succ hlt) hframe

theorem advanceWithin_eq_none_iff :
    advanceWithin n s = none ↔ ∃ between, Passes n s between := by
  constructor
  · intro h
    induction n generalizing s with
    | zero => exact ⟨s, .none⟩
    | succ n ih =>
      rw [advanceWithin] at h
      split at h
      · cases h
      · next hlook =>
        obtain ⟨between, hpasses⟩ := ih h
        exact ⟨between, .look hlook hpasses⟩
  · rintro ⟨between, hpasses⟩
    induction hpasses with
    | none => rfl
    | look hlook _ ih =>
      rw [advanceWithin, hlook]
      exact ih

/-! ### Scripts without a frame -/

/-- Unless its script is barren, a scene comes to a frame when it has been looked at once more than
every segment could be passed twice. -/
theorem advanceWithin_isSome (H : s.Placed) (h : ¬Barren s.script s.repeated) :
    (advanceWithin (2 * s.script.length + 1) s).isSome = true := by
  by_cases hplays : s.Plays
  · exact advanceWithin_of_plays H hplays (by omega)
  · -- all that is left is the empty script, which is over for good
    obtain ⟨hrepeated, hflags⟩ := not_or.mp hplays
    have hscript : s.script = [] := by
      by_contra hne
      exact h ⟨by simpa using hrepeated, hne, flags_eq_nil_iff.mp (Classical.not_not.mp hflags)⟩
    have hlook : s.look = .frame s false := by simp [look, hscript]
    rw [advanceWithin, hlook]
    rfl

theorem Passes.le (hpasses : Passes n s s') (H : s.Placed) (h : ¬Barren s.script s.repeated) :
    n ≤ 2 * s.script.length := by
  by_contra hlt
  have hmany := advanceWithin_eq_none_iff.mpr (hpasses.of_le (Nat.lt_of_not_le hlt))
  have hsome := advanceWithin_isSome H h
  rw [hmany] at hsome
  cases hsome

theorem exists_frame (H : s.Placed) (h : ¬Barren s.script s.repeated) :
    ∃ n between s' moved, Passes n s between ∧ between.look = .frame s' moved ∧
      s.advance? = some (s', moved) := by
  obtain ⟨⟨s', moved⟩, hsome⟩ := Option.isSome_iff_exists.mp (advanceWithin_isSome H h)
  obtain ⟨n, hlt, between, hpasses, hframe⟩ := advanceWithin_eq_some_iff.mp hsome
  have hadvance : s.advance? = some (s', moved) :=
    advanceWithin_eq_some_iff.mpr ⟨n, Nat.lt_succ_of_lt hlt, between, hpasses, hframe⟩
  exact ⟨n, between, s', moved, hpasses, hframe, hadvance⟩

theorem exists_passes (h : Barren s.script s.repeated) (n : Nat) :
    ∃ between, Passes n s between := by
  obtain ⟨hrepeated, hscript, hzero⟩ := h
  apply advanceWithin_eq_none_iff.mp
  exact advanceWithin_of_no_frame hrepeated hscript (flags_eq_nil_iff.mpr hzero) n

theorem advance?_eq_none_iff_barren (H : s.Placed) :
    s.advance? = none ↔ Barren s.script s.repeated := by
  rw [advance?_eq_none_iff H, flags_eq_nil_iff]
  rfl

end Scene

/-! ### Attempts that are never answered -/

namespace CameraSession

variable {s : SyntheticSettings} {session : CameraSession} {t n : Nat}

/-- An attempt is never answered if it takes a buffer out of the bank and the script has no frame to
put into it. -/
theorem dequeue_never_iff (H : session.Films s t n) :
    session.dequeue.2 = .never ↔
      Scene.Barren s.script s.repeated ∧ session.camera.Tries ∧
        ∃ i rest memory, session.camera.bank.queued = i :: rest ∧
          session.camera.bank.slots[i]? = some (some memory) := by
  have hbarren : session.camera.scene.advance? = none ↔ Scene.Barren s.script s.repeated := by
    rw [Scene.advance?_eq_none_iff_barren H.camera.placed, H.camera.script_eq, H.camera.repeated_eq]
  have hattempt := session.camera.attempt session.clock
  unfold CameraSession.dequeue
  generalize session.camera.dequeue session.clock = result at hattempt ⊢
  cases hattempt with
  | idle hidle =>
    refine iff_of_false nofun fun h => ?_
    rw [h.2.1.streaming] at hidle
    cases hidle
  | transient _ hfails =>
    refine iff_of_false nofun fun h => ?_
    rw [h.2.1.passes] at hfails
    cases hfails
  | empty _ hqueued =>
    refine iff_of_false nofun fun ⟨_, _, i, rest, _, hnext, _⟩ => ?_
    rw [hqueued] at hnext
    cases hnext
  | astray _ hqueued hslot =>
    refine iff_of_false nofun fun ⟨_, _, i, rest, memory, hnext, hstored⟩ => ?_
    rw [hqueued] at hnext
    cases hnext
    rw [hstored] at hslot
    cases hslot
  | @lends i rest memory _ htries hqueued hslot hloan =>
    have hnone : (session.camera.lending i rest).advance? = none ↔
        session.camera.scene.advance? = none := Option.map_eq_none_iff
    cases hloan with
    | never hadvance =>
      exact iff_of_true rfl
        ⟨hbarren.mp (hnone.mp hadvance), htries, i, rest, memory, hqueued, hslot⟩
    | faulted hadvance _ | frame hadvance _ =>
      refine iff_of_false nofun fun h => ?_
      rw [hnone.mpr (hbarren.mpr h.1)] at hadvance
      cases hadvance

/-- Whatever has been asked of a camera, its scene comes to a frame: no more looks than twice the
number of segments come to none before. Only a barren script can be looked at for ever, and an
attempt that takes a buffer out of the bank of such a camera is never answered; every other attempt
is. -/
theorem scene_comes_to_frame (s : SyntheticSettings) (requests : List CameraRequest) :
    let session := (CameraSession.new s).after requests
    let scene := session.camera.scene
    (¬Scene.Barren s.script s.repeated →
      (∀ n between, Scene.Passes n scene between → n ≤ 2 * s.script.length) ∧
      ∃ n between next moved, Scene.Passes n scene between ∧ between.look = .frame next moved ∧
        scene.advance? = some (next, moved)) ∧
    (Scene.Barren s.script s.repeated → ∀ n, ∃ between, Scene.Passes n scene between) ∧
    (session.dequeue.2 = .never ↔
      Scene.Barren s.script s.repeated ∧ session.camera.Tries ∧
        ∃ i rest memory, session.camera.bank.queued = i :: rest ∧
          session.camera.bank.slots[i]? = some (some memory)) := by
  intro session scene
  have hfilms := ((Films.new s).run requests).1
  have hplaced : scene.Placed := hfilms.camera.placed
  have hscript : scene.script = s.script := hfilms.camera.script_eq
  have hrepeated : scene.repeated = s.repeated := hfilms.camera.repeated_eq
  refine ⟨fun hframes => ?_, fun hbarren n => ?_, dequeue_never_iff hfilms⟩
  · rw [← hscript, ← hrepeated] at hframes
    refine ⟨fun n between hpasses => ?_, Scene.exists_frame hplaced hframes⟩
    rw [← hscript]
    exact hpasses.le hplaced hframes
  · rw [← hscript, ← hrepeated] at hbarren
    exact Scene.exists_passes hbarren n

/-- Two segments without a frame behind one that has a single frame. -/
def sparse : SyntheticSettings :=
  { SyntheticSettings.standard with script := [.moving 1, .still 0, .still 0] }

/-- When the only frame of a script has been shown, it is found again behind the empty segments. -/
theorem comes_to_frame_again :
    ¬Scene.Barren sparse.script sparse.repeated ∧
    ∃ n between next moved,
      Scene.Passes n ((CameraSession.new sparse).after [.start, .dequeue]).camera.scene between ∧
      between.look = .frame next moved ∧ n ≤ 6 := by
  have hframes : ¬Scene.Barren sparse.script sparse.repeated := fun ⟨_, _, hzero⟩ =>
    absurd (hzero (.moving 1) List.mem_cons_self) (by decide)
  obtain ⟨hfew, n, between, next, moved, hpasses, hframe, -⟩ :=
    (scene_comes_to_frame sparse [.start, .dequeue]).1 hframes
  exact ⟨hframes, n, between, next, moved, hpasses, hframe, hfew n between hpasses⟩

/-- A script of one segment without a frame, over and over. -/
def vacant : SyntheticSettings :=
  { SyntheticSettings.standard with width := 2, height := 1, buffers := 1, script := [.still 0] }

/-- The camera takes its only buffer and then looks at its scene for ever. -/
theorem dequeue_never_of_vacant :
    ((CameraSession.new vacant).replies [.start, .dequeue])[1]? = some .never ∧
    ∀ n, ∃ between,
      Scene.Passes n ((CameraSession.new vacant).after [.start]).camera.scene between := by
  refine ⟨rfl, fun n => Scene.exists_passes ⟨rfl, List.cons_ne_nil _ _, ?_⟩ n⟩
  intro segment hsegment
  cases List.mem_singleton.mp hsegment
  rfl

end CameraSession

/-! ### Frames one after another -/

namespace SyntheticSettings

/-- The ramp is shifted by one step with every frame that moves. -/
theorem toNat_phaseAt (s : SyntheticSettings) (k : Nat) :
    (s.phaseAt k).toNat = 37 * ((List.range k).map s.movesAt).count true % UInt32.size := by
  induction k with
  | zero => rfl
  | succ k ih =>
    have hstep : SyntheticCamera.motionStep.toNat = 37 := rfl
    rw [phaseAt, List.range_succ, List.map_append, List.count_append]
    cases hmoved : s.movesAt k with
    | true =>
      rw [if_pos rfl, UInt32.toNat_add, ih, hstep, List.map_singleton, hmoved,
        List.count_singleton_self, Nat.mod_add_mod, Nat.mul_succ]
    | false =>
      rw [if_neg Bool.false_ne_true, ih, List.map_singleton, hmoved]
      rfl

end SyntheticSettings

namespace SyntheticCamera

/-- Shows so many frames of the scene: the camera then, and for each whether the picture moved. -/
def play? (c : SyntheticCamera) : Nat → Option (SyntheticCamera × List Bool)
  | 0 => some (c, [])
  | k + 1 => do
    let (c, shown) ← c.play? k
    let (_, moved) ← c.scene.advance?
    let c ← c.advance?
    return (c, shown ++ [moved])

variable {s : SyntheticSettings} {c : SyntheticCamera} {shown : List Bool} {k : Nat}

/-- What a new camera shows is its scene, frame by frame. -/
theorem films_of_play? (h : (new s).play? k = some (c, shown)) :
    Films s k 0 c ∧ shown = (List.range k).map s.movesAt := by
  induction k generalizing c shown with
  | zero =>
    cases h
    exact ⟨.new s, rfl⟩
  | succ k ih =>
    rw [play?] at h
    obtain ⟨⟨before, earlier⟩, hplay, h⟩ := Option.bind_eq_some_iff.mp h
    obtain ⟨⟨scene, moved⟩, hscene, h⟩ := Option.bind_eq_some_iff.mp h
    obtain ⟨after, hcamera, h⟩ := Option.bind_eq_some_iff.mp h
    cases h
    obtain ⟨hfilms, rfl⟩ := ih hplay
    have hmoved : moved = s.movesAt k :=
      (Scene.shows_of_advanceWithin hfilms.placed hscene).moved_eq.trans (hfilms.upcoming_eq 0)
    rw [hmoved, List.range_succ, List.map_append]
    exact ⟨hfilms.advance hcamera, rfl⟩

/-- A camera whose script is not barren shows as many frames as are asked for. -/
theorem play?_isSome (h : ¬Scene.Barren s.script s.repeated) (k : Nat) :
    ((new s).play? k).isSome = true := by
  induction k with
  | zero => rfl
  | succ k ih =>
    obtain ⟨⟨c, shown⟩, hplay⟩ := Option.isSome_iff_exists.mp ih
    obtain ⟨hfilms, -⟩ := films_of_play? hplay
    rw [← hfilms.script_eq, ← hfilms.repeated_eq] at h
    obtain ⟨-, -, scene, moved, -, -, hscene⟩ := Scene.exists_frame hfilms.placed h
    rw [play?, hplay]
    simp only [Option.bind_eq_bind, Option.bind_some, advance?, hscene, Option.map_some]
    rfl

/-- A camera shows its script with every segment unrolled into its frames. When that is over, a
script that is repeated starts over, and any other leaves the picture still. The ramp is shifted by
one step with every frame that moves. Only a script that is repeated and has no frame may not play
on. -/
theorem play_follows_script (s : SyntheticSettings) (k : Nat) :
    let frames := Scene.flags s.script
    (s.repeated = false ∨ 0 < frames.length → ((new s).play? k).isSome = true) ∧
    ∀ c shown, (new s).play? k = some (c, shown) →
      shown.length = k ∧
      (s.repeated = false → ∀ i < k,
        (i < frames.length → shown[i]? = frames[i]?) ∧
        (frames.length ≤ i → shown[i]? = some false)) ∧
      (s.repeated = true → 0 < frames.length → ∀ i < k,
        shown[i]? = frames[i % frames.length]?) ∧
      c.phase.toNat = 37 * shown.count true % 2 ^ 32 := by
  intro frames
  refine ⟨fun hplays => play?_isSome (fun hbarren => ?_) k, fun c shown hplay => ?_⟩
  · obtain ⟨hrepeated, -, hzero⟩ := hbarren
    have hnil : frames = [] := Scene.flags_eq_nil_iff.mpr hzero
    rcases hplays with hover | hpos
    · rw [hrepeated] at hover
      cases hover
    · rw [hnil] at hpos
      exact Nat.lt_irrefl 0 hpos
  · obtain ⟨hfilms, rfl⟩ := films_of_play? hplay
    have hshown {i : Nat} (hi : i < k) :
        ((List.range k).map s.movesAt)[i]? = some (s.movesAt i) := by
      rw [List.getElem?_map, List.getElem?_range hi]
      rfl
    refine ⟨by rw [List.length_map, List.length_range], fun hover i hi => ?_,
      fun hrepeated hpos i hi => ?_, ?_⟩
    · rw [hshown hi, SyntheticSettings.movesAt, hover]
      exact ⟨fun hlt => (Scene.getElem?_flags hlt).symm,
        fun hle => congrArg some (Scene.movesAt_of_over hle)⟩
    · rw [hshown hi, SyntheticSettings.movesAt, hrepeated]
      exact (Scene.getElem?_flags_mod hpos i).symm
    · rw [hfilms.phase_eq]
      exact s.toNat_phaseAt k

/-- Segments without a frame at the front and before the end. -/
def patchy : SyntheticSettings :=
  { SyntheticSettings.standard with script := [.still 0, .moving 2, .still 1, .moving 0] }

/-- The fourth frame is the first one of the script again. -/
theorem play_around_patchy :
    ∃ c shown, (new patchy).play? 4 = some (c, shown) ∧ shown[3]? = some true ∧
      c.phase.toNat = 37 * shown.count true % 2 ^ 32 := by
  obtain ⟨hplays, hshows⟩ := play_follows_script patchy 4
  obtain ⟨⟨c, shown⟩, hplay⟩ := Option.isSome_iff_exists.mp (hplays (.inr (by decide)))
  obtain ⟨-, -, hcycle, hphase⟩ := hshows c shown hplay
  exact ⟨c, shown, hplay, hcycle rfl (by decide) 3 (by decide), hphase⟩

end SyntheticCamera
end TickCapture
