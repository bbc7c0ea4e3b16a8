import TickCapture.Proofs.Line.Buffers
import TickCapture.Proofs.Stage.Course
import TickCapture.Proofs.Stage.DetectionSteps
import TickCapture.Proofs.Stage.Holdings

/-! # What the detection stage asks and is told

A run of the detection stage is told by its exchanges: what it asked for, what it was told, and what
became of the plant (`Dialogue`). The stage may find another plant at each of its turns, and be asked to
stop at any moment. It relies on one thing: the books of the pool that it finds list the slots it holds.
Then the pool takes every slot back, and neither the pool nor the dropping of a slot faults (`Turn`).

Whatever the surroundings do, each frame received is given back to the camera, once and in order; and
each slot acquired is sent, released, or still held. What the stage asks for is done: the buffers come
back to the camera, and the slots to the pool (`Encounter.Settles`). -/

namespace TickCapture

variable {κ σ : Type}

/-! ### A pool that keeps its books -/

namespace Pool.Accounts

variable {p p' : Pool} {b : PooledBuffer} {held : List PooledBuffer}

/-- A pool that keeps its books gives out its first free slot, or says that none is free. -/
theorem acquire_cases (H : p.Accounts held) {outcome : Except Fault (Option PooledBuffer)}
    (h : p.acquire = (p', outcome)) :
    (outcome = .ok none ∧ p' = p) ∨
      ∃ slot, outcome = .ok (some slot) ∧ p'.Owns slot ∧ p.free = slot.slot :: p'.free ∧
        p'.Accounts (slot :: held) := by
  cases hfree : p.free with
  | nil =>
    rw [acquire_of_nil hfree] at h
    cases h
    exact .inl ⟨rfl, rfl⟩
  | cons i free =>
    obtain ⟨data, hacquire, hq⟩ := H.acquire_of_cons hfree
    rw [hacquire] at h
    cases h
    exact .inr ⟨_, rfl, hq.owned _ List.mem_cons_self, rfl, hq⟩

/-- And it takes back what is in its books. -/
theorem takeBack_eq {outcome : Except PoolError Unit} (H : p.Accounts (b :: held))
    (h : p.takeBack b = (p', outcome)) : p'.free = b.slot :: p.free ∧ p'.Accounts held := by
  obtain ⟨data, -, hback, hacc⟩ := H.takeBack
  cases hback.symm.trans h
  exact ⟨rfl, hacc⟩

end Pool.Accounts

namespace Plant

variable {p p' : Plant κ σ} {b : PooledBuffer} {held : List PooledBuffer}

/-- A slot in the books is taken back when it is dropped. -/
theorem drop_of_accounts {unwinding : Bool} {fault : Option Fault} (H : p.pool.Accounts (b :: held))
    (h : p.drop unwinding b = (p', fault)) :
    fault = none ∧ p'.camera = p.camera ∧ p'.pool.free = b.slot :: p.pool.free ∧
      p'.pool.Accounts held := by
  obtain ⟨data, -, hdrop, hacc⟩ := H.drop unwinding
  simp only [drop, hdrop] at h
  cases h
  exact ⟨rfl, rfl, rfl, hacc⟩

end Plant

namespace DetectionStage

/-! ### Exchanges -/

/-- What a stage asked for, and what it was told. -/
structure Exchange where
  request : DetectionRequest
  answer : DetectionAnswer

namespace Exchange

def received? : Exchange → Option Captured
  | ⟨.receive _, .received (.got frame)⟩ => some frame
  | _ => none

/-- What came of asking the pool for a slot: the slot, or nothing. -/
def acquisition? : Exchange → Option (Option PooledBuffer)
  | ⟨.acquire, .acquired slot⟩ => some slot
  | _ => none

/-- The frame whose buffer goes back to the camera, which may refuse it. -/
def givenBack? : Exchange → Option Captured
  | ⟨.giveBack frame, _⟩ | ⟨.discard frame _, _⟩ => some frame
  | _ => none

def sent? : Exchange → Option PooledBuffer
  | ⟨.send buffer _, .sent .accepted⟩ => some buffer
  | _ => none

/-- The buffer whose slot goes back to the pool. -/
def released? : Exchange → Option PooledBuffer
  | ⟨.release buffer, .done⟩ | ⟨.drop buffer _, .done⟩ => some buffer
  | _ => none

/-- Whether the stage was told that nobody receives what it sends. -/
def findsClosed : Exchange → Bool
  | ⟨.send _ _, .sent (.closed _)⟩ => true
  | _ => false

end Exchange

/-! ### Over many exchanges -/

def receivedOf (es : List Exchange) : List Captured := es.filterMap Exchange.received?

def acquisitionsOf (es : List Exchange) : List (Option PooledBuffer) :=
  es.filterMap Exchange.acquisition?

def givenBackOf (es : List Exchange) : List Captured := es.filterMap Exchange.givenBack?

def sentOf (es : List Exchange) : List PooledBuffer := es.filterMap Exchange.sent?

def releasedOf (es : List Exchange) : List PooledBuffer := es.filterMap Exchange.released?

section Concat

variable (es : List Exchange) (e : Exchange)

theorem receivedOf_concat : receivedOf (es ++ [e]) = receivedOf es ++ e.received?.toList :=
  filterMap_concat _ es e

theorem acquisitionsOf_concat :
    acquisitionsOf (es ++ [e]) = acquisitionsOf es ++ e.acquisition?.toList :=
  filterMap_concat _ es e

theorem givenBackOf_concat : givenBackOf (es ++ [e]) = givenBackOf es ++ e.givenBack?.toList :=
  filterMap_concat _ es e

theorem sentOf_concat : sentOf (es ++ [e]) = sentOf es ++ e.sent?.toList :=
  filterMap_concat _ es e

theorem releasedOf_concat : releasedOf (es ++ [e]) = releasedOf es ++ e.released?.toList :=
  filterMap_concat _ es e

end Concat

/-- An exchange, the stage that asked, and the plant before and after it. -/
structure Encounter (κ σ : Type) extends Exchange where
  stage : DetectionStage
  before : Plant κ σ
  after : Plant κ σ

def exchangesOf (ts : List (Encounter κ σ)) : List Exchange := ts.map (·.toExchange)

theorem exchangesOf_concat (ts : List (Encounter κ σ)) (t : Encounter κ σ) :
    exchangesOf (ts ++ [t]) = exchangesOf ts ++ [t.toExchange] :=
  List.map_append

/-- The encounters that may have brought a stage from `w₀` to where it is. -/
inductive Dialogue [DriverQueue κ] (w₀ : Worker DetectionStage) :
    List (Encounter κ σ) → Worker DetectionStage → Prop
  | start : Dialogue w₀ [] w₀
  | raiseStop {ts : List (Encounter κ σ)} {w : Worker DetectionStage} :
    Dialogue w₀ ts w → Dialogue w₀ ts w.raiseStop
  | answer {ts : List (Encounter κ σ)} {w : Worker DetectionStage} {p p' : Plant κ σ}
      {others : List PooledBuffer} {answer : DetectionAnswer} :
    Dialogue w₀ ts w → p.pool.Accounts (w.stage.buffers ++ others) →
    p.answerDetection? w = some (p', answer) →
    Dialogue w₀ (ts ++ [⟨⟨w.stage.request, answer⟩, w.stage, p, p'⟩])
      ⟨w.stage.resume answer, p'.clock, w.stop⟩

/-! ### What becomes of the plant -/

/-- The camera when these buffers have come back to it, one after another. -/
def requeueAll [DriverQueue κ] (camera : κ) (slots : List DriverSlot) : κ :=
  slots.foldl (fun camera slot => (DriverQueue.requeue camera slot).1) camera

section Requeue

variable [DriverQueue κ] {camera : κ} {refusal : Option IoError} {frame : Captured}

/-- A frame that is given back brings its buffer back, and a refusal comes from the camera. -/
theorem giveBack_eq {queue : κ} (h : giveBack queue frame = (camera, refusal)) :
    camera = requeueAll queue frame.slot.toList ∧ ∀ e, refusal = some e ↔
      ∃ slot, frame.slot = some slot ∧ (DriverQueue.requeue queue slot).2 = some e := by
  unfold giveBack at h
  cases hslot : frame.slot with
  | none =>
    rw [hslot] at h
    cases h
    exact ⟨rfl, by simp⟩
  | some slot =>
    rw [hslot] at h
    dsimp only at h
    simp [requeueAll, h]

theorem camera_discard (p : Plant κ σ) (frame : Captured) :
    (p.discard frame).camera = requeueAll p.camera frame.slot.toList :=
  (giveBack_eq rfl).1

theorem camera_closeFrames (p : Plant κ σ) :
    p.closeFrames.camera = requeueAll p.camera (p.frames.messages.filterMap (·.slot)) := by
  have hfold (lost : List Captured) (q : Plant κ σ) :
      (lost.foldl Plant.discard q).camera = requeueAll q.camera (lost.filterMap (·.slot)) := by
    induction lost generalizing q with
    | nil => rfl
    | cons frame lost ih =>
      rw [List.foldl_cons, ih, camera_discard, List.filterMap_cons]
      cases frame.slot <;> rfl
  exact hfold p.frames.messages { p with frames := p.frames.dropReceiver.1 }

end Requeue

namespace Encounter

/-- The buffers that come back to the camera: that of the frame that the stage gives back, or those of
the frames that wait when it gives up its end of their mailbox. -/
def handedBack (t : Encounter κ σ) : List DriverSlot :=
  match t.request with
  | .giveBack frame | .discard frame _ => frame.slot.toList
  | .closeInbox => t.before.frames.messages.filterMap (·.slot)
  | _ => []

/-- What an exchange does to the plant is what the stage asked for, and no more. -/
structure Settles [DriverQueue κ] (t : Encounter κ σ) : Prop where
  camera : t.after.camera = requeueAll t.before.camera t.handedBack
  /-- The camera is asked whether it takes a buffer, if the stage wants to know. -/
  refused : ∀ frame e, t.request = .giveBack frame → (t.answer = .refused e ↔
    ∃ slot, frame.slot = some slot ∧ (DriverQueue.requeue t.before.camera slot).2 = some e)
  received : ∀ frame, t.received? = some frame →
    t.before.frames.receive = (t.after.frames, .got frame)
  sent : ∀ b, t.sent? = some b → t.before.ticks.attempt b .tick = (t.after.ticks, .accepted)
  /-- An acquired slot is no longer free, and a released one is free again. -/
  free : t.acquisition?.join.toList.map (·.slot) ++ t.after.pool.free =
    t.released?.toList.map (·.slot) ++ t.before.pool.free
  /-- The books list what the stage holds then, and what it has just sent. -/
  books : ∀ others, t.before.pool.Accounts (t.stage.buffers ++ others) →
    t.after.pool.Accounts (t.sent?.toList ++ ((t.stage.resume t.answer).buffers ++ others))

end Encounter

/-! ### One exchange -/

/-- A converted frame goes to the detector, and what that gives back comes into hand. -/
theorem slots_detect (s : DetectionStage) (b : PooledBuffer) :
    ((b :: s.detector.previous.toList).map (·.slot)).Perm ((s.detect b).buffers.map (·.slot)) := by
  have hcase := detect_cases s b
  generalize s.detect b = s' at hcase ⊢
  cases hcase with
  | seeded hproc =>
    cases TickDetector.process_cases hproc with
    | seeded hprev hprev' => simp [buffers, hprev', DetectionPhase.buffers, hprev]
  | @displaced d x hproc =>
    have hhand : (if x.selected || s.settings.forwardAll then DetectionPhase.sending x
        else .releasing x false).buffers = [x] := by
      split <;> rfl
    generalize hx : Detection.displaced x = out at hproc
    cases TickDetector.process_cases hproc with
    | @displaced _ previous tick hprev hprev' =>
      obtain rfl := Detection.displaced.inj hx
      simp only [buffers, hhand, hprev, hprev']
      cases tick <;> exact .swap _ _ _
    | seeded | rejected => cases hx
  | rejected hproc =>
    cases TickDetector.process_cases hproc with
    | rejected => exact .refl _

/-- What an exchange can come to if the pool's books list what the stage holds. -/
inductive Turn [DriverQueue κ] (p : Plant κ σ) (stop : Bool) (s : DetectionStage) :
    Exchange → Plant κ σ → DetectionStage → Prop
  | stops : s.phase = .checking → stop = true → Turn p stop s ⟨.readStop, .stop true⟩ p s.finish
  | proceeds : s.phase = .checking → stop = false →
    Turn p stop s ⟨.readStop, .stop false⟩ p (s.enter .receiving)
  | receives {timeout : Clock} {frame : Captured} {frames : Mailbox Captured} :
    s.phase = .receiving → p.frames.receive = (frames, .got frame) →
    Turn p stop s ⟨.receive timeout, .received (.got frame)⟩ { p with frames } (s.takeIn frame)
  | waits {timeout : Clock} : s.phase = .receiving →
    Turn p stop s ⟨.receive timeout, .received .nothing⟩ p (s.enter .checking)
  | inboxClosed {timeout : Clock} : s.phase = .receiving →
    Turn p stop s ⟨.receive timeout, .received .closed⟩ p s.finish
  | acquires {pool : Pool} {frame : Captured} {slot : PooledBuffer} : s.phase = .acquiring frame →
    p.pool.acquire = (pool, .ok (some slot)) → pool.Owns slot →
    Turn p stop s ⟨.acquire, .acquired (some slot)⟩ { p with pool } (s.convert frame slot)
  | exhausts {frame : Captured} : s.phase = .acquiring frame →
    Turn p stop s ⟨.acquire, .acquired none⟩ p
      { s with report.poolExhausted := s.report.poolExhausted + 1, phase := .exhausted frame }
  | skips {frame : Captured} {records : List LogRecord} : s.phase = .exhausted frame →
    Turn p stop s ⟨.discard frame records, .done⟩ ((p.log records).discard frame)
      (s.enter .checking)
  | returns {camera : κ} {frame : Captured} {converted : PooledBuffer} :
    s.phase = .returning frame converted → giveBack p.camera frame = (camera, none) →
    Turn p stop s ⟨.giveBack frame, .done⟩ { p with camera } (s.detect converted)
  | refused {camera : κ} {frame : Captured} {converted : PooledBuffer} {e : IoError} :
    s.phase = .returning frame converted → giveBack p.camera frame = (camera, some e) →
    Turn p stop s ⟨.giveBack frame, .refused e⟩ { p with camera }
      (s.enter (.dropping converted none (.failed ⟨[.returningBuffer], .io e⟩)))
  | sends {ticks : Mailbox PooledBuffer} {displaced : PooledBuffer} {timeout : Clock} :
    s.phase = .sending displaced → p.ticks.attempt displaced .tick = (ticks, .accepted) →
    Turn p stop s ⟨.send displaced timeout, .sent .accepted⟩ { p with ticks }
      { s with report.forwarded := s.report.forwarded + 1, phase := .checking }
  | blocks {displaced : PooledBuffer} {timeout : Clock} : s.phase = .sending displaced →
    Turn p stop s ⟨.send displaced timeout, .sent (.full displaced)⟩ p
      (s.enter (.blocked displaced))
  | outboxClosed {displaced : PooledBuffer} {timeout : Clock} : s.phase = .sending displaced →
    Turn p stop s ⟨.send displaced timeout, .sent (.closed displaced)⟩ p
      (s.enter (.releasing displaced true))
  | givesUp {displaced : PooledBuffer} : s.phase = .blocked displaced → stop = true →
    Turn p stop s ⟨.readStop, .stop true⟩ p { s with
      report.discarded := s.report.discarded + 1, phase := .releasing displaced false }
  | retries {displaced : PooledBuffer} : s.phase = .blocked displaced → stop = false →
    Turn p stop s ⟨.readStop, .stop false⟩ p (s.enter (.sending displaced))
  | releases {pool : Pool} {displaced : PooledBuffer} {last : Bool} :
    s.phase = .releasing displaced last → p.pool.takeBack displaced = (pool, .ok ()) →
    Turn p stop s ⟨.release displaced, .done⟩ { p with pool }
      (if last then s.finish else s.enter .checking)
  | drops {p' : Plant κ σ} {converted : PooledBuffer} {frame : Option Captured}
      {ending : Ending DetectionReport} {unwinding : Bool} :
    s.phase = .dropping converted frame ending → p.drop unwinding converted = (p', none) →
    Turn p stop s ⟨.drop converted unwinding, .done⟩ p' (s.afterDrop frame ending)
  | discards {frame : Captured} {ending : Ending DetectionReport} {records : List LogRecord} :
    s.phase = .discarding frame ending →
    Turn p stop s ⟨.discard frame records, .done⟩ ((p.log records).discard frame) (s.leave ending)
  | closesInbox {ending : Ending DetectionReport} : s.phase = .closingInbox ending →
    Turn p stop s ⟨.closeInbox, .done⟩ p.closeFrames (s.enter (.closingOutbox ending))
  | closesOutbox {ending : Ending DetectionReport} : s.phase = .closingOutbox ending →
    Turn p stop s ⟨.closeOutbox, .done⟩ { p with ticks := p.ticks.dropSender } (s.forget ending)
  | forgets {p' : Plant κ σ} {held : PooledBuffer} {ending : Ending DetectionReport}
      {unwinding : Bool} : s.phase = .forgetting ending → s.detector.previous = some held →
    p.drop unwinding held = (p', none) →
    Turn p stop s ⟨.drop held unwinding, .done⟩ p'
      { s with detector.previous := none, phase := .ended ending }

namespace Turn

variable [DriverQueue κ] {p p' : Plant κ σ} {s s' : DetectionStage} {stop : Bool} {e : Exchange}
  {others : List PooledBuffer}

/-- A pool that keeps its books does not refuse what it is given, and does not fault. -/
theorem of_answer {w : Worker DetectionStage} {answer : DetectionAnswer}
    (H : p.pool.Accounts (w.stage.buffers ++ others))
    (h : p.answerDetection? w = some (p', answer)) :
    Turn p w.stop w.stage ⟨w.stage.request, answer⟩ p' (w.stage.resume answer) := by
  obtain ⟨⟨settings, phase, detector, expectedLen, report⟩, since, stop⟩ := w
  cases phase with
  | checking =>
    cases h
    cases stop with
    | true => exact .stops rfl rfl
    | false => exact .proceeds rfl rfl
  | receiving =>
    obtain ⟨⟨frames, outcome⟩, hreceive, hout⟩ := Option.map_eq_some_iff.mp h
    cases hout
    obtain ⟨hreceive, -⟩ := Plant.receiveFrom?_eq_some hreceive
    cases outcome with
    | got frame => exact .receives rfl hreceive
    | nothing =>
      obtain ⟨rfl, -⟩ := Mailbox.receive_nothing hreceive
      exact .waits rfl
    | closed =>
      obtain ⟨rfl, -⟩ := Mailbox.receive_closed hreceive
      exact .inboxClosed rfl
  | acquiring frame =>
    simp only [Plant.answerDetection?, request] at h
    generalize hacquire : p.pool.acquire = taken at h
    obtain ⟨pool, outcome⟩ := taken
    rcases H.acquire_cases hacquire with ⟨rfl, rfl⟩ | ⟨slot, rfl, howns, -⟩
    · cases h
      exact .exhausts rfl
    · cases h
      exact .acquires rfl hacquire howns
  | exhausted frame =>
    cases h
    exact .skips rfl
  | returning frame converted =>
    simp only [Plant.answerDetection?, request] at h
    split at h
    · next hback =>
      cases h
      exact .returns rfl hback
    · next hback =>
      cases h
      exact .refused rfl hback
  | sending displaced =>
    obtain ⟨⟨ticks, outcome⟩, hsend, hout⟩ := Option.map_eq_some_iff.mp h
    cases hout
    obtain ⟨hattempt, -⟩ := Plant.sendTo?_eq_some hsend
    cases outcome with
    | accepted => exact .sends rfl hattempt
    | full y =>
      obtain ⟨-, -, rfl, rfl⟩ := Mailbox.attempt_full hattempt
      exact .blocks rfl
    | closed y =>
      obtain ⟨-, rfl, rfl⟩ := Mailbox.attempt_closed hattempt
      exact .outboxClosed rfl
  | blocked displaced =>
    cases h
    cases stop with
    | true => exact .givesUp rfl rfl
    | false => exact .retries rfl rfl
  | releasing displaced last =>
    obtain ⟨data, -, hback, -⟩ := H.takeBack
    simp only [Plant.answerDetection?, request, Plant.release, hback] at h
    cases h
    exact .releases rfl hback
  | dropping converted frame ending =>
    rcases Plant.settled_eq (Option.some.inj h) with ⟨hdrop, rfl⟩ | ⟨fault, hdrop, rfl⟩
    · exact .drops rfl hdrop
    · cases (Plant.drop_of_accounts H hdrop).1
  | discarding frame ending =>
    cases h
    exact .discards rfl
  | closingInbox ending =>
    cases h
    exact .closesInbox rfl
  | closingOutbox ending =>
    cases h
    exact .closesOutbox rfl
  | forgetting ending =>
    obtain ⟨hysteresis, previous, _, _, _, _, _⟩ := detector
    cases previous with
    | none => cases h
    | some held =>
      rcases Plant.settled_eq (Option.some.inj h) with ⟨hdrop, rfl⟩ | ⟨fault, hdrop, rfl⟩
      · exact .forgets rfl rfl hdrop
      · cases (Plant.drop_of_accounts H hdrop).1
  | ended ending => cases h

/-- The frame in hand is given back, or still in hand. -/
theorem frames_eq (h : Turn p stop s e p' s') :
    s.phase.frames ++ e.received?.toList = e.givenBack?.toList ++ s'.phase.frames := by
  cases h with
  | receives hp =>
    rw [hp, frames_takeIn]
    rfl
  | acquires hp =>
    rw [hp, frames_convert]
    rfl
  | returns hp =>
    rw [hp, frames_detect]
    rfl
  | closesOutbox hp =>
    rw [hp, frames_forget]
    rfl
  | @releases _ _ last hp =>
    rw [hp]
    cases last <;> rfl
  | @drops _ _ frame _ _ hp =>
    rw [hp]
    cases frame <;> rfl
  | stops hp | proceeds hp | waits hp | inboxClosed hp | exhausts hp | skips hp | refused hp
  | sends hp | blocks hp | outboxClosed hp | givesUp hp | retries hp | discards hp
  | closesInbox hp | forgets hp =>
    rw [hp]
    rfl

/-- An acquired slot comes to those in hand and held, and each of them is sent, released, or still
there. -/
theorem slots_perm (h : Turn p stop s e p' s') :
    ((e.acquisition?.join.toList ++ s.buffers).map (·.slot)).Perm
      ((e.sent?.toList ++ e.released?.toList ++ s'.buffers).map (·.slot)) := by
  cases h with
  | receives hp =>
    rw [buffers_takeIn, buffers, hp]
    exact .refl _
  | @acquires _ _ slot hp _ howns =>
    obtain ⟨b, hb, hslot, -⟩ := s.buffers_convert _ howns
    rw [hb, buffers, hp]
    change (slot.slot :: _).Perm (b.slot :: s.detector.previous.toList.map (·.slot))
    rw [hslot]
    exact .refl _
  | returns hp =>
    rw [buffers, hp]
    exact s.slots_detect _
  | closesOutbox hp =>
    rw [buffers_forget, buffers, hp]
    exact .refl _
  | @releases _ _ last hp =>
    rw [buffers, hp]
    cases last <;> exact .refl _
  | @drops _ _ frame _ _ hp =>
    rw [buffers, hp]
    cases frame <;> exact .refl _
  | forgets hp hheld =>
    rw [buffers, hp, hheld]
    exact .refl _
  | stops hp | proceeds hp | waits hp | inboxClosed hp | exhausts hp | skips hp | refused hp
  | sends hp | blocks hp | outboxClosed hp | givesUp hp | retries hp | discards hp
  | closesInbox hp =>
    rw [buffers, hp]
    exact .refl _

/-- The books list what the stage holds then, and what it has just sent. -/
theorem books (h : Turn p stop s e p' s') (H : p.pool.Accounts (s.buffers ++ others)) :
    p'.pool.Accounts (e.sent?.toList ++ (s'.buffers ++ others)) := by
  unfold buffers at H
  cases h with
  | receives hp =>
    rw [hp] at H
    rw [buffers_takeIn]
    exact H
  | @acquires _ _ slot hp hacquire howns =>
    rw [hp] at H
    obtain ⟨hnone, -⟩ | ⟨slot', hsome, -, -, hacc⟩ := H.acquire_cases hacquire
    · cases hnone
    · cases hsome
      obtain ⟨b, hb, hslot, hb'⟩ := s.buffers_convert _ howns
      rw [hb]
      exact hacc.replace hslot hb'
  | returns hp =>
    rw [hp] at H
    exact accounts_detect (by simpa [DetectionPhase.buffers] using H)
  | closesInbox hp =>
    rw [hp] at H
    rw [Plant.pool_closeFrames]
    exact H
  | closesOutbox hp =>
    rw [hp] at H
    rw [buffers_forget]
    exact H
  | @releases _ _ last hp hback =>
    rw [hp] at H
    cases last <;> exact (Pool.Accounts.takeBack_eq H hback).2
  | @drops _ _ frame _ _ hp hdrop =>
    rw [hp] at H
    cases frame <;> exact (Plant.drop_of_accounts H hdrop).2.2.2
  | forgets hp hheld hdrop =>
    rw [hp, hheld] at H
    exact (Plant.drop_of_accounts H hdrop).2.2.2
  | stops hp | proceeds hp | waits hp | inboxClosed hp | exhausts hp | skips hp | refused hp
  | sends hp | blocks hp | outboxClosed hp | givesUp hp | retries hp | discards hp =>
    rw [hp] at H
    exact H

/-- An acquired slot is no longer free, and a released one is free again. -/
theorem free_eq (h : Turn p stop s e p' s') (H : p.pool.Accounts (s.buffers ++ others)) :
    e.acquisition?.join.toList.map (·.slot) ++ p'.pool.free =
      e.released?.toList.map (·.slot) ++ p.pool.free := by
  unfold buffers at H
  cases h with
  | acquires hp hacquire =>
    obtain ⟨hnone, -⟩ | ⟨slot', hsome, -, hfree, -⟩ := H.acquire_cases hacquire
    · cases hnone
    · cases hsome
      exact hfree.symm
  | releases hp hback =>
    rw [hp] at H
    exact (Pool.Accounts.takeBack_eq H hback).1
  | drops hp hdrop =>
    rw [hp] at H
    exact (Plant.drop_of_accounts H hdrop).2.2.1
  | forgets hp hheld hdrop =>
    rw [hp, hheld] at H
    exact (Plant.drop_of_accounts H hdrop).2.2.1
  | closesInbox => exact congrArg Pool.free p.pool_closeFrames
  | stops | proceeds | receives | waits | inboxClosed | exhausts | skips | returns | refused | sends
  | blocks | outboxClosed | givesUp | retries | discards | closesOutbox => rfl

theorem camera_eq (h : Turn p stop s e p' s') (H : p.pool.Accounts (s.buffers ++ others)) :
    p'.camera = requeueAll p.camera (Encounter.handedBack ⟨e, s, p, p'⟩) := by
  unfold buffers at H
  cases h with
  | skips | discards => exact camera_discard _ _
  | returns hp hback | refused hp hback => exact (giveBack_eq hback).1
  | closesInbox => exact camera_closeFrames p
  | drops hp hdrop =>
    rw [hp] at H
    exact (Plant.drop_of_accounts H hdrop).2.1
  | forgets hp hheld hdrop =>
    rw [hp, hheld] at H
    exact (Plant.drop_of_accounts H hdrop).2.1
  | stops | proceeds | receives | waits | inboxClosed | acquires | exhausts | sends | blocks
  | outboxClosed | givesUp | retries | releases | closesOutbox => rfl

theorem refused_iff (h : Turn p stop s e p' s') {frame : Captured} {error : IoError}
    (hrequest : e.request = .giveBack frame) : e.answer = .refused error ↔
      ∃ slot, frame.slot = some slot ∧ (DriverQueue.requeue p.camera slot).2 = some error := by
  cases h with
  | returns hp hback =>
    cases hrequest
    exact iff_of_false nofun fun hrefused => nomatch ((giveBack_eq hback).2 error).mpr hrefused
  | @refused _ _ _ e hp hback =>
    cases hrequest
    rw [← (giveBack_eq hback).2 error]
    simp
  | _ => cases hrequest

/-- What is asked for is done. -/
theorem settles (h : Turn p stop s e p' (s.resume e.answer))
    (H : p.pool.Accounts (s.buffers ++ others)) : Encounter.Settles ⟨e, s, p, p'⟩ where
  camera := h.camera_eq H
  refused frame error := h.refused_iff
  received frame hreceived := by
    generalize s.resume e.answer = s' at h
    cases h with
    | receives hp hreceive =>
      cases hreceived
      exact hreceive
    | _ => cases hreceived
  sent b hsent := by
    generalize s.resume e.answer = s' at h
    cases h with
    | sends hp hattempt =>
      cases hsent
      exact hattempt
    | _ => cases hsent
  free := h.free_eq H
  books others' H' := h.books H'

end Turn

namespace Dialogue

variable [DriverQueue κ] {w₀ w : Worker DetectionStage} {ts : List (Encounter κ σ)}

/-- What every exchange preserves, and the raising of the stop flag too, holds along the dialogue. -/
theorem invariant {P : List Exchange → DetectionStage → Prop} (H : Dialogue w₀ ts w)
    (hstart : P [] w₀.stage)
    (hturn : ∀ {es s s' stop e} {p p' : Plant κ σ}, P es s → Turn p stop s e p' s' →
      P (es ++ [e]) s') : P (exchangesOf ts) w.stage := by
  induction H with
  | start => exact hstart
  | raiseStop _ ih => exact ih
  | answer _ hpool hanswer ih =>
    rw [exchangesOf_concat]
    exact hturn ih (.of_answer hpool hanswer)

/-- At every turn what the stage asks for is done. -/
theorem settles (H : Dialogue w₀ ts w) : ∀ t ∈ ts, t.Settles := by
  induction H with
  | start => exact List.forall_mem_nil _
  | raiseStop _ ih => exact ih
  | answer _ hpool hanswer ih =>
    refine List.forall_mem_append.mpr ⟨ih, List.forall_mem_singleton.mpr ?_⟩
    exact (Turn.of_answer hpool hanswer).settles hpool

/-- The frames received are given back in order, the last one perhaps not yet. -/
theorem received_eq (H : Dialogue w₀ ts w) (hempty : w₀.stage.phase.frames = []) :
    receivedOf (exchangesOf ts) = givenBackOf (exchangesOf ts) ++ w.stage.phase.frames := by
  refine H.invariant (P := fun es s => receivedOf es = givenBackOf es ++ s.phase.frames) ?_ ?_
  · exact hempty.symm
  · intro es s s' stop e p p' ih hturn
    rw [receivedOf_concat, givenBackOf_concat, ih, List.append_assoc, hturn.frames_eq,
      List.append_assoc]

/-- The slots acquired are sent, released, or in the hands of the stage. -/
theorem acquired_perm (H : Dialogue w₀ ts w) (hempty : w₀.stage.buffers = []) :
    ((acquisitionsOf (exchangesOf ts)).reduceOption.map (·.slot)).Perm
      ((sentOf (exchangesOf ts) ++ releasedOf (exchangesOf ts) ++ w.stage.buffers).map
        (·.slot)) := by
  refine H.invariant (P := fun es s => ((acquisitionsOf es).reduceOption.map (·.slot)).Perm
    ((sentOf es ++ releasedOf es ++ s.buffers).map (·.slot))) ?_ ?_
  · rw [hempty]
    exact .refl _
  · intro es s s' stop e p p' ih hturn
    rw [List.perm_iff_count]
    intro slot
    have hbefore := ih.count_eq slot
    have hstep := hturn.slots_perm.count_eq slot
    have hacquired : e.acquisition?.toList.reduceOption = e.acquisition?.join.toList := by
      rcases e.acquisition? with _ | _ | b <;> rfl
    rw [acquisitionsOf_concat, sentOf_concat, releasedOf_concat, List.reduceOption_append, hacquired]
    simp only [List.map_append, List.count_append] at hbefore hstep ⊢
    omega

end Dialogue
end DetectionStage
end TickCapture
