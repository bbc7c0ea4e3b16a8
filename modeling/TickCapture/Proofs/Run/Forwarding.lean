import TickCapture.Proofs.Line.Cancellation
import TickCapture.Proofs.Tracking.Forwarding
import TickCapture.Rehearsal.Recorder
import TickCapture.Store.Memory

/-! # The detection stage and a detector of its own

What is shown of the dialogues of the detection stage, put together: that it forwards what a new
detector selects, and leaves no frame and no slot behind. It does come to an end: at once for a frame
that it cannot handle, and otherwise when no more frames come. -/

namespace TickCapture

variable {κ σ : Type}

/-- No more frames come, and for a frame that is sent there is space, or nobody who would receive it. -/
structure Plant.Drained (p : Plant κ σ) : Prop where
  frames : p.frames.receive.2 = .closed
  ticks : ∀ b back, (p.ticks.attempt b .tick).2 ≠ .full back

namespace Plant

variable {p : Plant κ σ} {since : Clock}

theorem Drained.receiveFrom?_isSome {timeout : Clock} (h : p.Drained) :
    (p.receiveFrom? since timeout p.frames).isSome = true := by
  unfold receiveFrom?
  split
  · next hnothing =>
    have hclosed := h.frames
    rw [hnothing] at hclosed
    cases hclosed
  · rfl

theorem Drained.sendTo?_isSome {timeout : Option Clock} {b : PooledBuffer}
    (h : p.Drained) : (p.sendTo? since timeout p.ticks b .tick).isSome = true := by
  unfold sendTo?
  split
  · next hfull => exact absurd (congrArg Prod.snd hfull) (h.ticks _ _)
  · rfl

end Plant

/-- How many steps are left to a stage that finds its surroundings drained. -/
def DetectionPhase.turnsLeft : DetectionPhase → Nat
  | .ended _ => 0
  | .forgetting _ => 1
  | .closingOutbox _ => 2
  | .closingInbox _ => 3
  | .receiving | .discarding .. => 4
  | .checking | .dropping .. => 5
  | .exhausted _ | .releasing .. => 6
  | .sending _ => 7
  | .blocked _ | .returning .. => 8
  | .acquiring _ => 9

namespace DetectionStage

variable (s : DetectionStage)

theorem turnsLeft_convert (frame : Captured) (slot : PooledBuffer) :
    (s.convert frame slot).phase.turnsLeft ≤ 8 := by
  obtain ⟨b, h⟩ | ⟨ending, h⟩ := s.convert_cases frame slot <;>
    simp [h, enter, DetectionPhase.turnsLeft]

theorem turnsLeft_detect (converted : PooledBuffer) :
    (s.detect converted).phase.turnsLeft ≤ 7 := by
  have hcase := detect_cases s converted
  generalize s.detect converted = s' at hcase ⊢
  cases hcase with
  | seeded | rejected => simp [DetectionPhase.turnsLeft]
  | displaced => dsimp only; split <;> simp [DetectionPhase.turnsLeft]

theorem turnsLeft_forget (ending : Ending DetectionReport) :
    (s.forget ending).phase.turnsLeft ≤ 1 := by
  obtain h | h := s.forget_cases ending <;> simp [h, enter, DetectionPhase.turnsLeft]

variable {s}

theorem turnsLeft_eq_zero : s.phase.turnsLeft = 0 ↔ ∃ ending, s.phase = .ended ending := by
  cases s.phase <;> simp [DetectionPhase.turnsLeft]

theorem exists_of_ending? (hended : s.ending? ≠ none) : ∃ ending, s.phase = .ended ending := by
  unfold ending? at hended
  cases hp : s.phase with
  | ended ending => exact ⟨ending, rfl⟩
  | _ =>
    rw [hp] at hended
    exact absurd rfl hended

theorem turnsLeft_of_heading {ending : Ending DetectionReport}
    (hheading : s.phase.heading = some ending) : s.phase.turnsLeft ≤ 5 := by
  cases hp : s.phase <;> rw [hp] at hheading <;>
    first | (cases hheading; done) | simp [DetectionPhase.turnsLeft]

end DetectionStage

/-- A stage that is on its way out or finds its surroundings drained comes closer to its end with every
step. -/
theorem DetectionStep.turnsLeft_lt [DriverQueue κ] {p p' : Plant κ σ} {w : Worker DetectionStage}
    {s : DetectionStage} (h : DetectionStep p w p' s)
    (hfree : w.stage.phase.heading.isSome = true ∨ p.Drained) :
    s.phase.turnsLeft < w.stage.phase.turnsLeft := by
  have hdrained (hheading : w.stage.phase.heading = none) : p.Drained := by
    refine hfree.resolve_left fun hsome => ?_
    rw [hheading] at hsome
    cases hsome
  cases h with
  | receives hp hreceive =>
    have hclosed := (hdrained (by rw [hp]; rfl)).frames
    rw [hreceive] at hclosed
    cases hclosed
  | waits hp hreceive =>
    have hclosed := (hdrained (by rw [hp]; rfl)).frames
    rw [hreceive] at hclosed
    cases hclosed
  | blocks hp hattempt =>
    have hspace := (hdrained (by rw [hp]; rfl)).ticks
    exact absurd (congrArg Prod.snd hattempt) (hspace _ _)
  | acquires hp =>
    rw [hp]
    exact Nat.lt_succ_of_le (w.stage.turnsLeft_convert _ _)
  | returns hp =>
    rw [hp]
    exact Nat.lt_succ_of_le (w.stage.turnsLeft_detect _)
  | closesOutbox hp =>
    rw [hp]
    exact Nat.lt_succ_of_le (w.stage.turnsLeft_forget _)
  | @drops _ _ frame _ hp | @dropFaults _ _ frame _ _ hp =>
    rw [hp]
    cases frame <;> simp [DetectionStage.afterDrop, DetectionStage.leave, DetectionStage.enter,
      DetectionPhase.turnsLeft]
  | @releases _ _ last hp =>
    cases last <;> simp [hp, DetectionStage.finish, DetectionStage.leave, DetectionStage.enter,
      DetectionPhase.turnsLeft]
  | stops hp | proceeds hp | inboxClosed hp | exhausts hp | acquireFaults hp | skips hp | refused hp
  | sends hp | outboxClosed hp | givesUp hp | retries hp | releaseRefused hp | discards hp
  | closesInbox hp | forgets hp | forgetFaults hp =>
    simp [hp, DetectionStage.finish, DetectionStage.leave, DetectionStage.enter,
      DetectionPhase.turnsLeft]

/-- And it does not wait. -/
theorem Worker.stepDetection?_isSome_of_free [DriverQueue κ] {p : Plant κ σ}
    {w : Worker DetectionStage} (hrunning : w.stage.ending? = none)
    (hanswerable : w.stage.Answerable)
    (hfree : w.stage.phase.heading.isSome = true ∨ p.Drained) :
    (w.stepDetection? p).isSome = true := by
  obtain ⟨⟨settings, phase, detector, expectedLen, report⟩, since, stop⟩ := w
  cases phase with
  | receiving =>
    rw [stepDetection?, Option.isSome_map]
    simp only [Plant.answerDetection?, DetectionStage.request, Option.isSome_map]
    exact (hfree.resolve_left Bool.false_ne_true).receiveFrom?_isSome
  | sending displaced =>
    rw [stepDetection?, Option.isSome_map]
    simp only [Plant.answerDetection?, DetectionStage.request, Option.isSome_map]
    exact (hfree.resolve_left Bool.false_ne_true).sendTo?_isSome
  | forgetting ending =>
    refine stepDetection?_isSome hrunning hanswerable ?_
    rw [detectionLimit, DetectionStage.request]
    cases detector.previous <;> exact Nat.zero_le _
  | checking | acquiring | exhausted | returning | blocked | releasing | dropping | discarding
  | closingInbox | closingOutbox | ended =>
    exact stepDetection?_isSome hrunning hanswerable (Nat.zero_le _)

namespace DetectionStage

variable [DriverQueue κ] {w₀ w : Worker DetectionStage} {ts : List (Encounter κ σ)}
  {around : Nat → Plant κ σ} {p p' : Plant κ σ} {s s' : DetectionStage} {stop : Bool} {e : Exchange}
  {ending : Ending DetectionReport} {settings : DetectionSettings} {h : Hysteresis Float}
  {now : Clock}

/-- The pool that the stage finds at each of its turns keeps its books, in which its slots are. -/
def Booked (around : Nat → Plant κ σ) (w : Worker DetectionStage) : Prop :=
  ∀ n, ∃ others, (around n).pool.Accounts
    ((w.amid Worker.stepDetection? around n).1.stage.buffers ++ others)

/-- At the end the detector holds nothing. -/
theorem Turn.previous_of_ended (hturn : Turn p stop s e p' s') (hended : s'.phase = .ended ending) :
    s'.detector.previous = none := by
  have hgone : s'.phase.inboxGone = true := by rw [hended]; rfl
  cases hturn with
  | receives hp =>
    rw [inboxGone_takeIn] at hgone
    cases hgone
  | acquires hp =>
    rw [inboxGone_convert] at hgone
    cases hgone
  | returns hp =>
    rw [inboxGone_detect] at hgone
    cases hgone
  | @drops _ _ frame => cases frame <;> cases hended
  | @releases _ _ last => cases last <;> cases hended
  | closesOutbox hp =>
    unfold forget enter at hended
    dsimp only at hended
    split at hended
    · cases hended
    · next hnone => exact Option.not_isSome_iff_eq_none.mp hnone
  | forgets hp => rfl
  | stops | proceeds | waits | inboxClosed | exhausts | skips | refused | sends | blocks
  | outboxClosed | givesUp | retries | discards | closesInbox => cases hended

namespace Dialogue

theorem buffers_of_ended (H : Dialogue (.start (.new settings (.new h)) now) ts w)
    (hended : w.stage.phase = .ended ending) : w.stage.buffers = [] := by
  have hprevious := H.invariant
    (P := fun _ s => ∀ ending, s.phase = .ended ending → s.detector.previous = none) nofun
    (fun _ hturn _ => hturn.previous_of_ended) ending hended
  rw [buffers, hended, hprevious]
  rfl

theorem answerable (H : Dialogue w₀ ts w) (hstart : w₀.stage.Answerable) :
    w.stage.Answerable := by
  induction H with
  | start => exact hstart
  | raiseStop _ ih => exact ih
  | answer _ _ hanswer => exact (DetectionStep.of_answer hanswer).answerable

/-- A stage amid plants whose pools keep their books goes on with its dialogue. -/
theorem amid (H : Dialogue w₀ ts w) (hbooked : Booked around w) (n : Nat) :
    ∃ later, Dialogue w₀ (ts ++ later) (w.amid Worker.stepDetection? around n).1 := by
  induction n with
  | zero => exact ⟨[], (List.append_nil ts).symm ▸ H⟩
  | succ n ih =>
    obtain ⟨later, H⟩ := ih
    rcases Worker.amid_succ Worker.stepDetection? around w n with
      ⟨-, hwaits⟩ | ⟨p', w', hstep, hnext⟩
    · exact ⟨later, hwaits ▸ H⟩
    · obtain ⟨others, haccounts⟩ := hbooked n
      obtain ⟨⟨q, answer⟩, hanswer, hq⟩ := Option.map_eq_some_iff.mp hstep
      cases hq
      rw [hnext]
      exact ⟨_, List.append_assoc ts later _ ▸ H.answer haccounts hanswer⟩

/-- On its way out the stage keeps to its ending. -/
theorem heading_amid (hbooked : Booked around w) (hheading : w.stage.phase.heading = some ending)
    (n : Nat) :
    (w.amid Worker.stepDetection? around n).1.stage.phase.heading = some ending := by
  induction n with
  | zero => exact hheading
  | succ n ih =>
    rcases Worker.amid_succ Worker.stepDetection? around w n with
      ⟨-, hwaits⟩ | ⟨p', w', hstep, hnext⟩
    · rw [hwaits]
      exact ih
    · obtain ⟨others, haccounts⟩ := hbooked n
      obtain ⟨⟨q, answer⟩, hanswer, hq⟩ := Option.map_eq_some_iff.mp hstep
      cases hq
      rw [hnext]
      exact ((Turn.of_answer haccounts hanswer).leaving ih).2

/-- With every turn it is a step further. -/
theorem turnsLeft_amid (H : Dialogue w₀ ts w) (hstart : w₀.stage.Answerable)
    (hbooked : Booked around w)
    (hfree : w.stage.phase.heading.isSome = true ∨ ∀ n, (around n).Drained) (n : Nat) :
    (w.amid Worker.stepDetection? around n).1.stage.phase.turnsLeft ≤
      w.stage.phase.turnsLeft - n := by
  induction n with
  | zero => exact Nat.le_refl _
  | succ n ih =>
    obtain ⟨later, hlater⟩ := H.amid hbooked n
    have hfree : (w.amid Worker.stepDetection? around n).1.stage.phase.heading.isSome = true ∨
        (around n).Drained := by
      refine hfree.imp (fun hsome => ?_) (· n)
      obtain ⟨ending, hheading⟩ := Option.isSome_iff_exists.mp hsome
      rw [heading_amid hbooked hheading n]
      rfl
    rcases Worker.amid_succ Worker.stepDetection? around w n with
      ⟨hnone, hwaits⟩ | ⟨p', w', hstep, hnext⟩
    · -- a stage that is free takes a step unless it has ended
      have hended : (w.amid Worker.stepDetection? around n).1.stage.ending? ≠ none := by
        intro hrunning
        have hsome :=
          Worker.stepDetection?_isSome_of_free hrunning (hlater.answerable hstart) hfree
        rw [hnone] at hsome
        cases hsome
      rw [hwaits, turnsLeft_eq_zero.mpr (exists_of_ending? hended)]
      exact Nat.zero_le _
    · obtain ⟨s, rfl, hs⟩ := Worker.stepDetection?_cases hstep
      have hlt := hs.turnsLeft_lt hfree
      rw [hnext]
      dsimp only
      omega

end Dialogue

/-- The stage forwards, in order, what a new detector selects, or all that it gives back, of the frames
that got a slot, as far as all can be handled; then it has counted them, and else it fails with the
first that cannot. Whatever its surroundings do, it gives each frame back once, and sends or releases
each slot that it does not hold; and what it asks for is done. -/
theorem run_follows_detector (H : Dialogue (.start (.new settings (.new h)) now) ts w) :
    let es := exchangesOf ts
    receivedOf es = givenBackOf es ++ w.stage.phase.frames ∧
    ((acquisitionsOf es).reduceOption.map (·.slot)).Perm
      ((sentOf es ++ releasedOf es ++ w.stage.buffers).map (·.slot)) ∧
    (∀ t ∈ ts, t.Settles) ∧
    (∀ ending, w.stage.phase = .ended ending →
      w.stage.phase.frames = [] ∧ w.stage.buffers = []) ∧
    (w.stop = false → (∀ e ∈ es, e.findsClosed = false) →
      (w.stage.phase.heading = none →
        ∃ tried offered, InStep h settings.forwardAll es w.stage tried offered) ∧
      ∀ ending, w.stage.phase.heading = some ending → Due h settings.forwardAll es ending ∧
        (∀ report, ending = .finished report →
          report.received = report.converted + report.poolExhausted) ∧
        ∀ failure, Unfit h es failure → ending = .failed failure) ∧
    ∀ around : Nat → Plant κ σ, Booked around w →
      (∀ n, ∃ later, Dialogue (.start (.new settings (.new h)) now) (ts ++ later)
        (w.amid Worker.stepDetection? around n).1) ∧
      (∀ ending, w.stage.phase.heading = some ending →
        (w.amid Worker.stepDetection? around 5).1.stage.phase = .ended ending) ∧
      ((∀ n, (around n).Drained) →
        ∃ ending, (w.amid Worker.stepDetection? around 9).1.stage.phase = .ended ending) := by
  have hstart : (Worker.start (DetectionStage.new settings (.new h)) now).stage.Answerable := nofun
  refine ⟨H.received_eq rfl, H.acquired_perm rfl, H.settles, fun ending hended => ?_,
    fun hstop hopen => ?_,
    fun around hbooked => ⟨H.amid hbooked, fun ending hheading => ?_, fun hdrained => ?_⟩⟩
  · exact ⟨by rw [hended]; rfl, H.buffers_of_ended hended⟩
  · have hconforms := H.conforms hstop hopen
    unfold Conforms at hconforms
    refine ⟨fun hnone => by rwa [hnone] at hconforms, fun ending hheading => ?_⟩
    rw [hheading] at hconforms
    refine ⟨hconforms, ?_, fun failure => hconforms.of_unfit⟩
    rintro report rfl
    cases hconforms with
    | finished H => exact H.length_received
  · have hleft := H.turnsLeft_amid hstart hbooked (.inl (by rw [hheading]; rfl)) 5
    have hbound := turnsLeft_of_heading hheading
    obtain ⟨ending', hended⟩ := turnsLeft_eq_zero.mp
      (Nat.le_zero.mp (Nat.le_trans hleft (Nat.le_of_eq (Nat.sub_eq_zero_of_le hbound))))
    have hkept := Dialogue.heading_amid hbooked hheading 5
    rw [hended] at hkept ⊢
    cases hkept
    rfl
  · have hleft := H.turnsLeft_amid hstart hbooked (.inr hdrained) 9
    have hbound : w.stage.phase.turnsLeft ≤ 9 := by
      cases w.stage.phase <;> simp [DetectionPhase.turnsLeft]
    exact turnsLeft_eq_zero.mp
      (Nat.le_zero.mp (Nat.le_trans hleft (Nat.le_of_eq (Nat.sub_eq_zero_of_le hbound))))

/-! ### A run that ends with a frame of another size -/

def darkFrame (sequence used : Nat) : Captured :=
  .lend ⟨sequence, #[16, 128, 16, 128]⟩ used (.packed 2 1 .yuyv) sequence 0

/-- A pool of one slot, which somebody holds. -/
def lentOut : Pool := ⟨0, 1, 6, #[none], [], 1⟩

theorem accounts_lentOut {data : Bytes} (hsize : data.size = 6) (len : Nat) (selected : Bool) :
    lentOut.Accounts [⟨0, 0, some data, len, selected⟩] where
  slots := .refl _
  stored := nofun
  lent b hb := by
    rw [List.mem_singleton.mp hb]
    rfl
  owned b hb := by
    rw [List.mem_singleton.mp hb]
    exact ⟨rfl, data, rfl, hsize⟩
  count := rfl

/-- What a stage finds around it when these frames have come. -/
def bench (arrived : List Captured) (pool : Pool) : Plant Recorder MemoryStore where
  camera := .new []
  frames := ⟨1, arrived.map (⟨.capture, 0, ·⟩), 1, 1, true⟩
  pool
  ticks := ⟨1, [], 0, 1, true⟩
  sink := .empty
  clock := 0
  epoch := 0
  logs := #[]

/-- The stage that is set up there. -/
def benchStage (phase : DetectionPhase) (detector : TickDetector Float) (expectedLen : Option Nat)
    (report : DetectionReport) : Worker DetectionStage :=
  ⟨⟨⟨0, false⟩, phase, detector, expectedLen, report⟩, 0, false⟩

theorem Dialogue.next {w' : Worker DetectionStage} (H : Dialogue w₀ ts w) (p : Plant κ σ)
    (others : List PooledBuffer) (e : Exchange)
    (haccounts : p.pool.Accounts (w.stage.buffers ++ others)) (hrequest : w.stage.request = e.request)
    (hanswer : p.answerDetection? w = some (p', e.answer))
    (hnext : ⟨w.stage.resume e.answer, p'.clock, w.stop⟩ = w') :
    Dialogue w₀ (ts ++ [⟨e, w.stage, p, p'⟩]) w' := by
  have hanswered := H.answer haccounts hanswer
  rwa [hrequest, hnext] at hanswered

/-- What may have passed between the stage and its surroundings. -/
abbrev OnBench (ts : List (Encounter Recorder MemoryStore)) (w : Worker DetectionStage) : Prop :=
  Dialogue (.start (.new ⟨0, false⟩ (.new .standard)) 0) ts w

def blank : PooledBuffer := ⟨0, 0, some (Bytes.zeros 6), 0, false⟩

def black : PooledBuffer := { blank with len := 6 }

theorem convertInto_blank :
    convertInto blank (darkFrame 2 4).format (darkFrame 2 4).bytes = .ok black := by
  have hbytes : convertedBytes (darkFrame 2 4).bytes (darkFrame 2 4).format (Bytes.zeros 6) =
      Bytes.zeros 6 := by decide +kernel
  rw [convertInto_eq (show blank.data = some (Bytes.zeros 6) from rfl), hbytes]
  rfl

/-- There is no slot for the first frame, and the third has not as many bytes. The camera, of which the
stage finds a new one at every turn, has got each of the three buffers once. -/
theorem run_of_shrinking_frames : ∃ ts w, OnBench ts w ∧
    receivedOf (exchangesOf ts) = [darkFrame 1 4, darkFrame 2 4, darkFrame 3 2] ∧
    givenBackOf (exchangesOf ts) = receivedOf (exchangesOf ts) ∧
    ts.flatMap (·.after.camera.taken.toList) = [1, 2, 3] ∧
    (acquisitionsOf (exchangesOf ts)).map (·.isSome) = [false, true] ∧
    (releasedOf (exchangesOf ts)).map (·.slot) = [0] ∧ (∀ t ∈ ts, t.Settles) ∧
    w.stage.phase = .ended
      (.failed ⟨[.capturing 3], .detect (.frameSizeMismatch 4 2)⟩) ∧
    Due .standard false (exchangesOf ts)
      (.failed ⟨[.capturing 3], .detect (.frameSizeMismatch 4 2)⟩) := by
  have hlent : lentOut.Accounts [blank] := accounts_lentOut rfl 0 false
  have hheld : lentOut.Accounts [black] := accounts_lentOut rfl 6 false
  let fresh : TickDetector Float := .new .standard
  let seeded : TickDetector Float := ⟨.standard, some black, 6, 1530, 1, 0, none⟩
  let ending : Ending DetectionReport :=
    .failed ⟨[.capturing 3], .detect (.frameSizeMismatch 4 2)⟩
  have h₀ : OnBench [] (benchStage .checking fresh none ⟨0, 0, 0, 0, 0, 0⟩) := .start
  have h₁ : OnBench _ (benchStage .receiving fresh none ⟨0, 0, 0, 0, 0, 0⟩) :=
    h₀.next (bench [] lentOut) [blank] ⟨.readStop, .stop false⟩ hlent rfl rfl rfl
  have h₂ : OnBench _ (benchStage (.acquiring (darkFrame 1 4)) fresh (some 4) ⟨1, 0, 0, 0, 0, 0⟩) :=
    h₁.next (bench [darkFrame 1 4] lentOut) [blank] ⟨.receive 0, .received (.got (darkFrame 1 4))⟩
      hlent rfl rfl rfl
  have h₃ : OnBench _ (benchStage (.exhausted (darkFrame 1 4)) fresh (some 4) ⟨1, 0, 1, 0, 0, 0⟩) :=
    h₂.next (bench [] lentOut) [blank] ⟨.acquire, .acquired none⟩ hlent rfl rfl rfl
  have h₄ : OnBench _ (benchStage .checking fresh (some 4) ⟨1, 0, 1, 0, 0, 0⟩) :=
    h₃.next (bench [] lentOut) [blank] ⟨.discard (darkFrame 1 4) [exhaustedRecord _], .done⟩
      hlent rfl rfl rfl
  have h₅ : OnBench _ (benchStage .receiving fresh (some 4) ⟨1, 0, 1, 0, 0, 0⟩) :=
    h₄.next (bench [] lentOut) [blank] ⟨.readStop, .stop false⟩ hlent rfl rfl rfl
  have h₆ : OnBench _ (benchStage (.acquiring (darkFrame 2 4)) fresh (some 4) ⟨2, 0, 1, 0, 0, 0⟩) :=
    h₅.next (bench [darkFrame 2 4] lentOut) [blank] ⟨.receive 0, .received (.got (darkFrame 2 4))⟩
      hlent rfl rfl rfl
  have hconvert : (benchStage (.acquiring (darkFrame 2 4)) fresh (some 4)
      ⟨2, 0, 1, 0, 0, 0⟩).stage.convert (darkFrame 2 4) blank = _ := convert_eq ..
  rw [convertInto_blank] at hconvert
  have h₇ : OnBench _
      (benchStage (.returning (darkFrame 2 4) black) fresh (some 4) ⟨2, 0, 1, 0, 0, 0⟩) :=
    h₆.next (bench [] (.fresh 0 1 6)) [] ⟨.acquire, .acquired (some blank)⟩ (.fresh 0 1 6) rfl rfl
      (congrArg (Worker.mk · 0 false) hconvert)
  have h₈ : OnBench _ (benchStage .checking seeded (some 4) ⟨2, 1, 1, 0, 0, 0⟩) :=
    h₇.next (bench [] lentOut) [] ⟨.giveBack (darkFrame 2 4), .done⟩ hheld rfl rfl rfl
  have h₉ : OnBench _ (benchStage .receiving seeded (some 4) ⟨2, 1, 1, 0, 0, 0⟩) :=
    h₈.next (bench [] lentOut) [] ⟨.readStop, .stop false⟩ hheld rfl rfl rfl
  have h₁₀ : OnBench _
      (benchStage (.discarding (darkFrame 3 2) ending) seeded (some 4) ⟨3, 1, 1, 0, 0, 0⟩) :=
    h₉.next (bench [darkFrame 3 2] lentOut) [] ⟨.receive 0, .received (.got (darkFrame 3 2))⟩
      hheld rfl rfl rfl
  have h₁₁ : OnBench _ (benchStage (.closingInbox ending) seeded (some 4) ⟨3, 1, 1, 0, 0, 0⟩) :=
    h₁₀.next (bench [] lentOut) [] ⟨.discard (darkFrame 3 2) [], .done⟩ hheld rfl rfl rfl
  have h₁₂ : OnBench _ (benchStage (.closingOutbox ending) seeded (some 4) ⟨3, 1, 1, 0, 0, 0⟩) :=
    h₁₁.next (bench [] lentOut) [] ⟨.closeInbox, .done⟩ hheld rfl rfl rfl
  have h₁₃ : OnBench _ (benchStage (.forgetting ending) seeded (some 4) ⟨3, 1, 1, 0, 0, 0⟩) :=
    h₁₂.next (bench [] lentOut) [] ⟨.closeOutbox, .done⟩ hheld rfl rfl rfl
  have h₁₄ : OnBench _ (benchStage (.ended ending) { seeded with previous := none } (some 4)
      ⟨3, 1, 1, 0, 0, 0⟩) :=
    h₁₃.next (bench [] lentOut) [] ⟨.drop black false, .done⟩ hheld rfl rfl rfl
  obtain ⟨hreturned, -, hsettles, hended, hcourse, -⟩ := run_follows_detector h₁₄
  obtain ⟨hframes, -⟩ := hended ending rfl
  rw [hframes, List.append_nil] at hreturned
  obtain ⟨hdue, -⟩ := (hcourse rfl (by decide)).2 ending rfl
  refine ⟨_, _, h₁₄, ?_, hreturned.symm, ?_, ?_, ?_, hsettles, rfl, hdue⟩
  · simp only [exchangesOf_concat, receivedOf_concat]
    rfl
  · simp only [List.flatMap_append, List.flatMap_singleton]
    rfl
  · simp only [exchangesOf_concat, acquisitionsOf_concat]
    rfl
  · simp only [exchangesOf_concat, releasedOf_concat]
    rfl

end DetectionStage
end TickCapture
