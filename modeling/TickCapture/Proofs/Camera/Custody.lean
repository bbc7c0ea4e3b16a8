import TickCapture.Proofs.Camera.Footage
import TickCapture.Proofs.Camera.Queueing
import TickCapture.Proofs.Pool.Ownership

/-! # Where the buffers of a camera are

As long as nobody makes a second frame for a buffer, each buffer of a synthetic camera is in the bank
or with one frame, and a frame that is given back is taken (`CameraSession.Keeps`). The only way to
lose one is that the camera breaks off: a buffer has been taken out of the bank, and then the frame
cannot be drawn, or the scene never shows it. A camera that can draw the frames of its scene does not.
An attempt finds no buffer if all are out, and otherwise takes the one that has been queued longest. -/

namespace TickCapture

/-! ### Buffers on loan -/

/-- Whatever is not in the bank is on loan. -/
theorem SlotBank.present_length_add_onLoan (b : SlotBank) :
    b.present.length + b.onLoan = b.slots.size := by
  have hslots : (List.range b.slots.size).map (fun i => b.slots[i]?.join) = b.slots.toList := by
    refine List.ext_getElem (by simp) fun i hi hi' => ?_
    rw [List.getElem_map, List.getElem_range, Array.getElem_toList, Array.getElem?_eq_getElem hi']
    rfl
  have hpresent : b.present.length = b.slots.toList.countP (·.isSome) := by
    rw [present, ← List.countP_eq_length_filter, ← hslots, List.countP_map]
    rfl
  have honLoan : b.onLoan = b.slots.toList.countP fun slot => decide ¬slot.isSome = true := by
    rw [onLoan, ← Array.countP_toList]
    congr 1
    funext slot
    cases slot <;> rfl
  rw [hpresent, honLoan, ← List.length_eq_countP_add_countP]
  rfl

/-! ### Loans -/

namespace SyntheticCamera

variable {s : SyntheticSettings} {t n : Nat} {c next : SyntheticCamera} {slot : DriverSlot}
  {moment : Moment} {memory : Bytes}

theorem Films.draws_iff (H : Films s t n c) (hadvance : c.advance? = some next)
    (hmemory : s.format.CleanMargins memory) :
    (∃ out, render next.format next.phase next.settings.noise next.noise memory = .ok out) ↔
      s.Drawable t := by
  have hnext := H.advance hadvance
  have hplays : ¬(s.repeated = true ∧ s.script ≠ [] ∧ Scene.flags s.script = []) := by
    rw [← H.script_eq, ← H.repeated_eq, ← Scene.advance?_eq_none_iff H.placed]
    intro hnone
    rw [SyntheticCamera.advance?, hnone] at hadvance
    cases hadvance
  rw [render_ok_iff, SyntheticCamera.format, hnext.settings_eq, hnext.phase_eq, hmemory.size_eq]
  constructor
  · rintro ⟨hroom, hpos, hwide, hsums⟩
    obtain ⟨hwidth, hfits⟩ := (room_iff s).mp ⟨hroom, hpos, hwide⟩
    exact ⟨hwidth, hfits, fun hrepeated hscript hflags => hplays ⟨hrepeated, hscript, hflags⟩, hsums⟩
  · intro hdrawable
    obtain ⟨hroom, hpos, hwide⟩ := (room_iff s).mpr ⟨hdrawable.width_ne, hdrawable.fits⟩
    exact ⟨hroom, hpos, hwide, hdrawable.sums⟩

/-- A buffer that was taken is lent out if and only if the next frame can be drawn. -/
theorem Films.lends_iff (H : Films s t n c) (hslot : s.format.CleanMargins slot.memory)
    {result : SyntheticCamera × Dequeued} (hloan : Loan c slot moment result) :
    (∃ frame, result.2 = .frame frame) ↔ s.Drawable t := by
  cases hloan with
  | never hadvance =>
    refine iff_of_false nofun fun hdrawable => ?_
    obtain ⟨hrepeated, hscript, hflags⟩ :=
      (Scene.advance?_eq_none_iff H.placed).mp (Option.map_eq_none_iff.mp hadvance)
    rw [H.script_eq] at hscript hflags
    exact hdrawable.plays (H.repeated_eq.symm.trans hrepeated) hscript hflags
  | faulted hadvance hrender =>
    refine iff_of_false nofun fun hdrawable => ?_
    obtain ⟨out, hout⟩ := (H.draws_iff hadvance hslot).mpr hdrawable
    rw [hrender] at hout
    cases hout
  | frame hadvance hrender =>
    exact iff_of_true ⟨_, rfl⟩ ((H.draws_iff hadvance hslot).mp ⟨_, hrender⟩)

end SyntheticCamera

/-! ### A session -/

/-- Whether a request leaves every buffer with one frame. Safe callers make no others. -/
def CameraRequest.keepsOwners : CameraRequest → Bool
  | .copy .. => false
  | _ => true

namespace CameraSession

/-- The frames that the caller holds. -/
def held (session : CameraSession) : List Captured := session.frames.toList.filterMap id

/-- The buffers that a request queues, in that order. -/
def queueing (session : CameraSession) : CameraRequest → List Nat
  | .start => session.camera.bank.present
  | request => ((request.returned?.bind session.frame?).bind (·.slot)).toList.map (·.index)

/-- The buffers that are queued one after another while requests are carried out. -/
def arrivals (session : CameraSession) : List CameraRequest → List Nat
  | [] => []
  | request :: rest => session.queueing request ++ (session.step request).1.arrivals rest

/-- How often the camera breaks off meanwhile. -/
def broken (session : CameraSession) (requests : List CameraRequest) : Nat :=
  (session.replies requests).countP CameraReply.breaks

variable {s : SyntheticSettings} {session : CameraSession} {frame : Captured} {handle : Nat}
  {arrivals rest : List Nat} {lost t n i : Nat} {memory : Bytes} {requests : List CameraRequest}

theorem queueing_of_namesHandle {request : CameraRequest} (h : request.namesHandle = true) :
    session.queueing request =
      ((request.returned?.bind session.frame?).bind (·.slot)).toList.map (·.index) := by
  cases request with
  | start | stop | wait | dequeue => cases h
  | release | drop | copy => rfl

theorem mem_held (h : session.frame? handle = some frame) : frame ∈ session.held := by
  have hframe : session.frames[handle]? = some (some frame) := Option.join_eq_some_iff.mp h
  rw [held, List.mem_filterMap]
  exact ⟨some frame, by simpa using Array.mem_of_getElem? hframe, rfl⟩

theorem held_set_none (h : session.frame? handle = some frame) :
    session.held.Perm (frame :: (session.set handle none).held) := by
  have hframe : session.frames[handle]? = some (some frame) := Option.join_eq_some_iff.mp h
  rw [held, held, set, Array.toList_setIfInBounds]
  exact filterMap_set_none (by simpa using hframe)

/-- Where the buffers of a camera are: in the bank, with a frame that is held, or lost. -/
structure Keeps (s : SyntheticSettings) (arrivals : List Nat) (lost : Nat)
    (session : CameraSession) : Prop where
  queues : session.camera.bank.Queues arrivals session.camera.streaming
  size_eq : session.camera.bank.slots.size = s.buffers
  owned : ∀ frame ∈ session.held, ∃ slot, frame.slot = some slot
  lends : ∃ slots : List DriverSlot, slots.length = lost ∧
    session.camera.bank.Lends (session.held.filterMap (·.slot) ++ slots)

namespace Keeps

theorem new (s : SyntheticSettings) : Keeps s [] 0 (.new s) where
  queues := .new _ _
  size_eq := Array.size_replicate
  owned := nofun
  lends := ⟨[], rfl, .new _ _⟩

/-- The frame under a handle is on loan, and the others are. -/
theorem lends_of_frame (H : Keeps s arrivals lost session)
    (h : session.frame? handle = some frame) :
    ∃ slot, frame.slot = some slot ∧ ∃ slots : List DriverSlot, slots.length = lost ∧
      session.camera.bank.Lends
        (slot :: ((session.set handle none).held.filterMap (·.slot) ++ slots)) := by
  obtain ⟨slot, hslot⟩ := H.owned frame (mem_held h)
  obtain ⟨slots, hlost, hlends⟩ := H.lends
  refine ⟨slot, hslot, slots, hlost, hlends.perm ?_⟩
  have hperm := ((held_set_none h).filterMap (·.slot)).append_right slots
  rwa [List.filterMap_cons_some hslot, List.cons_append] at hperm

/-- A frame that is given back is not refused. -/
theorem giveBack_eq_none (H : Keeps s arrivals lost session)
    (h : session.frame? handle = some frame) : (giveBack session.camera.bank frame).2 = none := by
  obtain ⟨slot, hslot, slots, -, hlends⟩ := H.lends_of_frame h
  rw [giveBack, hslot]
  exact hlends.requeue.1

theorem returning (H : Keeps s arrivals lost session) (h : session.frame? handle = some frame) :
    Keeps s (arrivals ++ frame.slot.toList.map (·.index)) lost
      (session.returning handle frame) := by
  obtain ⟨slot, hslot, slots, hlost, hlends⟩ := H.lends_of_frame h
  obtain ⟨-, hback, hsize⟩ := hlends.requeue
  have hbank : (giveBack session.camera.bank frame).1 = (session.camera.bank.requeue slot).1 := by
    rw [giveBack, hslot]
    rfl
  refine ⟨?_, ?_, fun other hother => ?_, slots, hlost, ?_⟩
  · rw [hslot, CameraSession.returning, hbank]
    exact H.queues.requeue hlends
  · rw [CameraSession.returning, hbank]
    exact hsize.trans H.size_eq
  · exact H.owned other ((held_set_none h).mem_iff.mpr (List.mem_cons_of_mem _ hother))
  · rw [CameraSession.returning, hbank]
    exact hback

/-- The queue of a camera that goes on streaming, or not, with one buffer less in the bank. -/
theorem queues_lending (H : Keeps s arrivals lost session) {camera : SyntheticCamera}
    (hqueued : session.camera.bank.queued = i :: rest)
    (hslot : session.camera.bank.slots[i]? = some (some memory))
    (hbank : camera.bank = (session.camera.lending i rest).bank)
    (hstreaming : camera.streaming = session.camera.streaming) :
    camera.bank.Queues arrivals camera.streaming ∧ camera.bank.slots.size = s.buffers := by
  rw [hbank, hstreaming]
  exact ⟨H.queues.take hqueued hslot, Array.size_setIfInBounds.trans H.size_eq⟩

/-- The camera breaks off, and the buffer that it took is lost. -/
theorem break_off (H : Keeps s arrivals lost session) {camera : SyntheticCamera}
    (hqueued : session.camera.bank.queued = i :: rest)
    (hslot : session.camera.bank.slots[i]? = some (some memory))
    (hbank : camera.bank = (session.camera.lending i rest).bank)
    (hstreaming : camera.streaming = session.camera.streaming) :
    Keeps s arrivals (lost + 1) { session with camera } := by
  obtain ⟨hqueues, hsize⟩ := H.queues_lending hqueued hslot hbank hstreaming
  obtain ⟨slots, hlost, hlends⟩ := H.lends
  refine ⟨hqueues, hsize, H.owned, ⟨i, memory⟩ :: slots, congrArg (· + 1) hlost, ?_⟩
  have htaken : camera.bank.Lends (⟨i, memory⟩ :: (session.held.filterMap (·.slot) ++ slots)) :=
    hlends.take hslot (congrArg SlotBank.slots hbank)
  exact htaken.perm List.perm_middle.symm

/-- The buffer that the camera took comes with a frame. -/
theorem lend (H : Keeps s arrivals lost session) {camera : SyntheticCamera} {memory' : Bytes}
    (hqueued : session.camera.bank.queued = i :: rest)
    (hslot : session.camera.bank.slots[i]? = some (some memory))
    (hbank : camera.bank = (session.camera.lending i rest).bank)
    (hstreaming : camera.streaming = session.camera.streaming)
    (hframe : frame.slot = some ⟨i, memory'⟩) :
    Keeps s arrivals lost { session with camera, frames := session.frames.push (some frame) } := by
  obtain ⟨hqueues, hsize⟩ := H.queues_lending hqueued hslot hbank hstreaming
  obtain ⟨slots, hlost, hlends⟩ := H.lends
  have hheld : CameraSession.held
      { session with camera, frames := session.frames.push (some frame) } =
      session.held ++ [frame] := by
    simp [CameraSession.held]
  refine ⟨hqueues, hsize, fun other hother => ?_, slots, hlost, ?_⟩
  · rw [hheld] at hother
    obtain hold | hnew := List.mem_append.mp hother
    · exact H.owned other hold
    · exact ⟨_, List.mem_singleton.mp hnew ▸ hframe⟩
  · have htaken : camera.bank.Lends (⟨i, memory'⟩ :: (session.held.filterMap (·.slot) ++ slots)) :=
      hlends.take hslot (congrArg SlotBank.slots hbank)
    rw [hheld, List.filterMap_append, List.filterMap_cons_some hframe, List.filterMap_nil,
      List.append_assoc]
    exact htaken.perm List.perm_middle.symm

/-- A queued buffer is never on loan. -/
theorem not_astray (H : Keeps s arrivals lost session)
    (hqueued : session.camera.bank.queued = i :: rest) :
    session.camera.bank.slots[i]?.join ≠ none := by
  obtain ⟨memory, hslot⟩ :=
    SlotBank.mem_present.mp (H.queues.stored i (hqueued ▸ List.mem_cons_self))
  rw [hslot]
  nofun

theorem dequeue (H : Keeps s arrivals lost session) :
    Keeps s arrivals (lost + if session.dequeue.2.breaks then 1 else 0) session.dequeue.1 := by
  have hattempt := session.camera.attempt session.clock
  unfold CameraSession.dequeue
  generalize session.camera.dequeue session.clock = result at hattempt
  cases hattempt with
  | idle _ | transient _ _ | empty _ _ => exact ⟨H.queues, H.size_eq, H.owned, H.lends⟩
  | astray _ hqueued hslot => exact absurd hslot (H.not_astray hqueued)
  | @lends i rest memory result _ hqueued hslot hloan =>
    obtain ⟨camera, d⟩ := result
    obtain ⟨_, _, _, hcamera⟩ := hloan.camera_eq
    have hbank : camera.bank = (session.camera.lending i rest).bank := by rw [hcamera]
    have hstreaming : camera.streaming = session.camera.streaming := by rw [hcamera]; rfl
    cases hloan with
    | never _ | faulted _ _ => exact H.break_off hqueued hslot hbank hstreaming
    | frame _ _ => exact H.lend hqueued hslot hbank hstreaming rfl

theorem step (H : Keeps s arrivals lost session) {request : CameraRequest}
    (hsafe : request.keepsOwners = true) :
    Keeps s (arrivals ++ session.queueing request)
      (lost + if (session.step request).2.2.breaks then 1 else 0) (session.step request).1 := by
  have hserved := session.served request
  generalize (session.step request).1 = next at hserved ⊢
  generalize (session.step request).2.2 = reply at hserved ⊢
  have hquiet {lost' : Nat} {session' : CameraSession} (hnil : session.queueing request = [])
      (H' : Keeps s arrivals lost' session') :
      Keeps s (arrivals ++ session.queueing request) lost' session' := by
    rwa [hnil, List.append_nil]
  cases hserved with
  | start => exact ⟨.fill _ _, H.size_eq, H.owned, H.lends⟩
  | stop => exact hquiet rfl ⟨.clear _ _, H.size_eq, H.owned, H.lends⟩
  | waited => exact hquiet rfl ⟨H.queues, H.size_eq, H.owned, H.lends⟩
  | attempted => exact hquiet rfl H.dequeue
  | returned hrequest hframe =>
    rw [queueing_of_namesHandle (CameraRequest.namesHandle_of_returned? hrequest), hrequest,
      Option.bind_some, hframe]
    exact H.returning hframe
  | refused hframe hrefusal =>
    rw [H.giveBack_eq_none hframe] at hrefusal
    cases hrefusal
  | copied => cases hsafe
  | unknown hnames hnone =>
    refine hquiet ?_ H
    rw [queueing_of_namesHandle hnames, hnone]
    rfl

theorem run (H : Keeps s arrivals lost session)
    (hsafe : ∀ request ∈ requests, request.keepsOwners = true) :
    Keeps s (arrivals ++ session.arrivals requests) (lost + session.broken requests)
      (session.after requests) := by
  induction requests generalizing session arrivals lost with
  | nil =>
    rw [CameraSession.arrivals, List.append_nil]
    exact H
  | cons request rest ih =>
    obtain ⟨hfirst, hrest⟩ := List.forall_mem_cons.mp hsafe
    have hrun := ih (H.step hfirst) hrest
    rw [List.append_assoc, Nat.add_assoc, Nat.add_comm (ite _ _ _)] at hrun
    rw [broken, replies, List.countP_cons]
    exact hrun

/-- A buffer is stored, or held with one frame, or lost. -/
theorem partition (H : Keeps s arrivals lost session) :
    ∃ indices : List Nat, indices.length = lost ∧
      (session.camera.bank.present ++ session.held.map (·.index) ++ indices).Perm
        (List.range s.buffers) := by
  obtain ⟨slots, hlost, hlends⟩ := H.lends
  refine ⟨slots.map (·.index), (List.length_map _).trans hlost, ?_⟩
  have hheld : (session.held.filterMap (·.slot)).map (·.index) = session.held.map (·.index) := by
    rw [List.map_filterMap, List.filterMap_eq_map_iff_forall_eq_some]
    intro frame hframe
    obtain ⟨slot, hslot⟩ := H.owned frame hframe
    simp [Captured.index, hslot]
  rw [← hheld, List.append_assoc, ← List.map_append, ← H.size_eq]
  exact hlends

theorem onLoan_eq (H : Keeps s arrivals lost session) :
    session.camera.bank.onLoan = session.held.length + lost := by
  obtain ⟨indices, hlost, hperm⟩ := H.partition
  have hlength := hperm.length_eq
  have hall := session.camera.bank.present_length_add_onLoan
  rw [H.size_eq] at hall
  simp only [List.length_append, List.length_map, List.length_range] at hlength
  omega

/-- A frame that is given back is taken, and nothing is logged about it. -/
theorem step_of_returned (H : Keeps s arrivals lost session) {request : CameraRequest}
    (hrequest : request.returned? = some handle) (hframe : session.frame? handle = some frame) :
    (session.step request).2 = ([], .done) := by
  have hnone := H.giveBack_eq_none hframe
  cases request with
  | start | stop | wait | dequeue | copy => cases hrequest
  | release | drop =>
    cases hrequest
    simp only [CameraSession.step, hframe, discard, session.camera.giveBack_eq frame, hnone,
      Option.map_none, Option.toList_none]

/-- An attempt that does not fail on purpose finds no buffer queued, or lends the first one. -/
theorem dequeue_cases (H : Keeps s arrivals lost session) (htries : session.camera.Tries) :
    (session.camera.bank.queued = [] ∧ session.dequeue.2 = .failed .empty) ∨
      ∃ i rest memory, session.camera.bank.queued = i :: rest ∧
        session.camera.bank.slots[i]? = some (some memory) ∧
        (session.camera.lending i rest).Loan ⟨i, memory⟩ session.clock
          (session.camera.dequeue session.clock) := by
  have hattempt := session.camera.attempt session.clock
  unfold CameraSession.dequeue
  generalize session.camera.dequeue session.clock = result at hattempt ⊢
  cases hattempt with
  | idle hidle =>
    rw [htries.streaming] at hidle
    cases hidle
  | transient _ hfails =>
    rw [htries.passes] at hfails
    cases hfails
  | empty _ hqueued => exact .inl ⟨hqueued, rfl⟩
  | astray _ hqueued hslot => exact absurd hslot (H.not_astray hqueued)
  | lends _ hqueued hslot hloan => exact .inr ⟨_, _, _, hqueued, hslot, hloan⟩

/-- No attempt reports that a queued buffer is on loan. -/
theorem dequeue_ne_astray (H : Keeps s arrivals lost session) (i : Nat) :
    session.dequeue.2 ≠ .failed (.fatal (.text s!"queued buffer {i} is on loan")) := by
  have hattempt := session.camera.attempt session.clock
  unfold CameraSession.dequeue
  generalize session.camera.dequeue session.clock = result at hattempt ⊢
  cases hattempt with
  | idle _ =>
    intro heq
    injection heq with heq
    injection heq with heq
    injection heq with heq
    have htext : "dequeue while not streaming" =
        "queued buffer " ++ toString i ++ " is on loan" := heq
    have hletters := congrArg String.toList htext
    simp at hletters
  | transient _ _ | empty _ _ => nofun
  | astray _ hqueued hslot => exact absurd hslot (H.not_astray hqueued)
  | lends _ _ _ hloan => cases hloan <;> nofun

end Keeps

/-! ### Breaking off -/

/-- The frame comes in the buffer that was taken, or the camera breaks off. -/
theorem dequeue_of_loan (H : session.Films s t n)
    (hslot : session.camera.bank.slots[i]? = some (some memory))
    (hloan : (session.camera.lending i rest).Loan ⟨i, memory⟩ session.clock
      (session.camera.dequeue session.clock)) :
    session.dequeue.2 ≠ .failed .empty ∧
    (s.Drawable t →
      ∃ handle frame, session.dequeue.2 = .frame handle frame ∧ frame.index = i) ∧
    (¬s.Drawable t → session.dequeue.2.breaks = true) := by
  have hmemory : s.format.CleanMargins memory := H.camera.stored.of_slots hslot
  rw [← (H.camera.lending i rest).lends_iff hmemory hloan]
  unfold CameraSession.dequeue
  generalize session.camera.dequeue session.clock = result at hloan ⊢
  cases hloan with
  | never _ | faulted _ _ => exact ⟨nofun, nofun, fun _ => rfl⟩
  | frame _ _ => exact ⟨nofun, fun _ => ⟨_, _, rfl, rfl⟩, fun hnone => absurd ⟨_, rfl⟩ hnone⟩

theorem step_answers (H : session.Films s t n) (hdrawable : s.Drawable t) (request : CameraRequest) :
    (session.step request).2.2.breaks = false := by
  have hserved := session.served request
  generalize (session.step request).1 = next at hserved
  generalize (session.step request).2.2 = reply at hserved ⊢
  cases hserved with
  | start | stop | waited | returned _ _ | refused _ _ | copied _ | unknown _ _ => rfl
  | attempted =>
    have hattempt := session.camera.attempt session.clock
    generalize hresult : session.camera.dequeue session.clock = result at hattempt
    cases hattempt with
    | idle _ | transient _ _ | empty _ _ | astray _ _ _ =>
      rw [CameraSession.dequeue, hresult]
      rfl
    | lends _ _ hslot hloan =>
      rw [← hresult] at hloan
      obtain ⟨_, _, hframe, -⟩ := (dequeue_of_loan H hslot hloan).2.1 hdrawable
      rw [hframe]
      rfl

/-- A camera that can draw the frames of its scene never breaks off. -/
theorem broken_eq_zero (H : session.Films s t n)
    (hdrawable : ∀ k, t ≤ k → k ≤ t + session.shown requests → s.Drawable k) :
    session.broken requests = 0 := by
  induction requests generalizing session t n with
  | nil => rfl
  | cons request rest ih =>
    have hanswers := step_answers H (hdrawable t (Nat.le_refl t) (Nat.le_add_right t _)) request
    have hrolls := H.step request
    rw [shown_cons] at hdrawable
    have hcons : session.broken (request :: rest) = (session.step request).1.broken rest := by
      rw [broken, replies, List.countP_cons, hanswers]
      rfl
    rw [hcons]
    generalize (session.step request).1 = next at hrolls hdrawable ⊢
    generalize (session.step request).2.2 = reply at hrolls hdrawable hanswers
    cases hrolls with
    | taken hnext _ _ =>
      refine ih hnext fun k hle hge => hdrawable k (Nat.le_of_succ_le hle) ?_
      rwa [Nat.add_right_comm] at hge
    | spoiled _ _ => cases hanswers
    | other _ hshows hnext =>
      rw [hshows] at hdrawable
      exact ih hnext hdrawable

/-- Whatever a safe caller asks of a camera, the queue names buffers in the bank and each once, every
buffer is in the bank or with one frame, and a frame that is given back is taken; only when the camera
breaks off is a buffer lost. While the camera is streaming every buffer in the bank is queued. So an
attempt that does not fail on purpose finds no buffer exactly when all are out, and otherwise takes the
one that has been queued longest: it lends it if the next frame of the scene can be drawn. -/
theorem buffers_kept (s : SyntheticSettings) {requests : List CameraRequest}
    (hsafe : ∀ request ∈ requests, request.keepsOwners = true) :
    let first := CameraSession.new s
    let session := first.after requests
    let bank := session.camera.bank
    bank.queued.Nodup ∧ (∀ i ∈ bank.queued, i ∈ bank.present) ∧
    (∃ lost : List Nat, lost.length = first.broken requests ∧
      (bank.present ++ session.held.map (·.index) ++ lost).Perm (List.range s.buffers)) ∧
    (∀ frame ∈ session.held, ∃ slot, frame.slot = some slot) ∧
    session.camera.stats.buffersOnLoan = session.held.length + first.broken requests ∧
    ((∀ t ≤ first.shown requests, s.Drawable t) → first.broken requests = 0) ∧
    (∀ request handle frame, request.returned? = some handle → session.frame? handle = some frame →
      (session.step request).2 = ([], .done)) ∧
    (session.camera.streaming = true → ∀ i ∈ bank.present, i ∈ bank.queued) ∧
    (session.camera.Tries →
      (session.dequeue.2 = .failed .empty ↔ bank.present = []) ∧
      (bank.present ≠ [] → ∃ i ∈ bank.present,
        (∀ j ∈ bank.present, j ≠ i → QueuedBefore (first.arrivals requests) i j) ∧
        (s.Drawable (first.shown requests) →
          ∃ handle frame, session.dequeue.2 = .frame handle frame ∧ frame.index = i) ∧
        (¬s.Drawable (first.shown requests) → session.dequeue.2.breaks = true))) ∧
    ∀ i : Nat, session.dequeue.2 ≠ .failed (.fatal (.text s!"queued buffer {i} is on loan")) := by
  intro first session bank
  have hkeeps : Keeps s (first.arrivals requests) (first.broken requests) session := by
    have hrun := (Keeps.new s).run hsafe
    rwa [List.nil_append, Nat.zero_add] at hrun
  have hfilms : session.Films s (first.shown requests) (first.taken requests).length := by
    have hrun := ((Films.new s).run requests).1
    rwa [Nat.zero_add, Nat.zero_add] at hrun
  have hanswers (hdrawable : ∀ t ≤ first.shown requests, s.Drawable t) :
      first.broken requests = 0 :=
    broken_eq_zero (Films.new s) fun k _ hle => hdrawable k (by rwa [Nat.zero_add] at hle)
  refine ⟨hkeeps.queues.nodup, hkeeps.queues.stored, hkeeps.partition, hkeeps.owned,
    hkeeps.onLoan_eq, hanswers, fun request handle frame => hkeeps.step_of_returned,
    hkeeps.queues.complete, fun htries => ?_, hkeeps.dequeue_ne_astray⟩
  have hqueues := hkeeps.queues
  rw [htries.streaming] at hqueues
  rcases hkeeps.dequeue_cases htries with
    ⟨hqueued, hreply⟩ | ⟨i, rest, memory, hqueued, hslot, hloan⟩
  · have hpresent : bank.present = [] := hqueues.queued_eq_nil_iff.mp hqueued
    exact ⟨iff_of_true hreply hpresent, fun hne => absurd hpresent hne⟩
  · obtain ⟨hpresent, hlongest⟩ := hqueues.queuedBefore_of_head hqueued
    obtain ⟨hne, hlends⟩ := dequeue_of_loan hfilms hslot hloan
    exact ⟨iff_of_false hne (List.ne_nil_of_mem hpresent), fun _ => ⟨i, hpresent, hlongest, hlends⟩⟩

/-! ### A restart, and a camera of no width -/

/-- A pixel pair in two buffers. -/
def paired : SyntheticSettings :=
  { SyntheticSettings.standard with width := 2, height := 1, buffers := 2, repeated := false }

/-- Both buffers are out when the camera stops. One comes back before the next start, the other after
it. -/
def lateReturns : List CameraRequest :=
  [.start, .dequeue, .dequeue, .stop, .drop 1, .start, .release 0]

/-- The next frame comes in the buffer that came back first. -/
theorem buffers_kept_over_restart :
    (∀ request ∈ lateReturns, request.keepsOwners = true) ∧
    ((CameraSession.new paired).after lateReturns).camera.bank.present = [0, 1] ∧
    ∃ handle frame, ((CameraSession.new paired).after lateReturns).dequeue.2 = .frame handle frame ∧
      frame.index = 1 := by
  have hsafe : ∀ request ∈ lateReturns, request.keepsOwners = true := by
    intro request hrequest
    simp only [lateReturns, List.mem_cons, List.not_mem_nil, or_false] at hrequest
    rcases hrequest with rfl | rfl | rfl | rfl | rfl | rfl | rfl <;> rfl
  have hdrawable : paired.Drawable ((CameraSession.new paired).shown lateReturns) :=
    ⟨by decide, by decide, nofun, by decide⟩
  obtain ⟨-, -, -, -, -, -, -, -, htries, -⟩ := buffers_kept paired hsafe
  obtain ⟨-, hlends⟩ := htries ⟨rfl, rfl⟩
  obtain ⟨i, hpresent, hlongest, hframe, -⟩ := hlends nofun
  have hi : i = 1 := by
    have hpresent : i ∈ [0, 1] := hpresent
    obtain rfl | hone := List.mem_cons.mp hpresent
    · have hbefore : QueuedBefore ([0, 1, 1, 1] ++ [0]) 0 1 :=
        hlongest 1 (show 1 ∈ [0, 1] by decide) Nat.one_ne_zero
      exact absurd hbefore not_queuedBefore_of_last
    · exact List.mem_singleton.mp hone
  exact ⟨hsafe, rfl, hi ▸ hframe hdrawable⟩

/-- A camera of no width: its first buffer is taken and never comes back. -/
theorem buffer_lost_without_width :
    ((CameraSession.new { paired with width := 0 }).replies [.start, .dequeue])[1]? =
      some (.faulted .zeroChunk) ∧
    ((CameraSession.new { paired with width := 0 }).after
      [.start, .dequeue]).camera.stats.buffersOnLoan = 1 ∧
    ((CameraSession.new { paired with width := 0 }).after [.start, .dequeue]).held = [] ∧
    ((CameraSession.new { paired with width := 0 }).after
      [.start, .dequeue]).camera.bank.present = [1] :=
  ⟨rfl, rfl, rfl, rfl⟩

end CameraSession
end TickCapture
