import TickCapture.Proofs.Line.Stopping
import TickCapture.Proofs.Stage.PersistenceTurns
import TickCapture.Rehearsal.ScriptedSink

/-! # What the persistence stage makes of the frames that it receives

The stage takes its turns while frames come into its mailbox and others use the pool. Of the frames that
it receives it stores those that are wanted, numbered from one, until it has stored as many as it is to
or something fails, and it counts the others. The slot of each frame that it receives goes back to
the pool, once, whatever becomes of the frame, and so do the slots of those that it leaves unread. -/

namespace TickCapture

variable {κ σ : Type}

namespace PersistenceStage

/-! ### Over many turns -/

section Records

variable [ImageSink σ] (ts : List (Turn (Depot κ σ) PersistenceStage))

def receivedOf : List PooledBuffer := ts.filterMap fun t => (event t).received?

def storedOf : Ledger := ts.filterMap fun t => (event t).stored?

def troublesOf : List PersistenceEvent := ts.filterMap fun t => (event t).trouble?

def returnedOf : List PooledBuffer := ts.filterMap fun t => (event t).returned?

/-- The frames that waited in the mailbox when the stage gave up its end. -/
def unreadOf : List PooledBuffer := ts.flatMap fun t => (event t).unread

/-- How often the stage has waited for nothing. -/
def idleTurns : Nat := ts.countP fun t => (event t).isIdle

variable (t : Turn (Depot κ σ) PersistenceStage)

theorem receivedOf_concat : receivedOf (ts ++ [t]) = receivedOf ts ++ (event t).received?.toList :=
  filterMap_concat _ ts t

theorem storedOf_concat : storedOf (ts ++ [t]) = storedOf ts ++ (event t).stored?.toList :=
  filterMap_concat _ ts t

theorem troublesOf_concat : troublesOf (ts ++ [t]) = troublesOf ts ++ (event t).trouble?.toList :=
  filterMap_concat _ ts t

theorem unreadOf_concat : unreadOf (ts ++ [t]) = unreadOf ts ++ (event t).unread := by
  rw [unreadOf, List.flatMap_append, List.flatMap_singleton]
  rfl

theorem idleTurns_concat : idleTurns (ts ++ [t]) = idleTurns ts + (event t).isIdle.toNat := by
  rw [idleTurns, List.countP_append, List.countP_singleton]
  cases (event t).isIdle <;> rfl

end Records

/-! ### A whole course -/

section

variable [ImageSink σ] {d₀ d d' : Depot κ σ} {w₀ w w' : Worker PersistenceStage}
  {ts : List (Turn (Depot κ σ) PersistenceStage)} {settings : PersistenceSettings} {now : Clock}

theorem step_cases (h : d.step? w = some (d', w')) :
    ∃ p' s, d' = { d with plant := p' } ∧ w' = ⟨s, p'.clock, w.stop⟩ ∧
      PersistenceStep d.plant w p' s := by
  obtain ⟨⟨p', v⟩, hstep, hd⟩ := Option.map_eq_some_iff.mp h
  obtain ⟨s, rfl, hs⟩ := Worker.stepPersistence?_cases hstep
  cases hd
  exact ⟨p', s, rfl, rfl, hs⟩

namespace Course

/-- The books of the pool are kept all along. -/
theorem sound (H : Course d₀ (.start (.new settings) now) ts d w) (hsound : d₀.Sound []) :
    d.Sound w.stage.phase.buffers := by
  induction H with
  | start =>
    change d₀.Sound (PersistenceStage.new settings).phase.buffers
    rw [PersistenceStage.new, buffers_nextRound]
    exact hsound
  | meanwhile _ h _ => exact h.sound
  | raiseStop _ ih => exact ih
  | turn _ h ih =>
    obtain ⟨p', s, rfl, rfl, hs⟩ := step_cases h
    exact (hs.settles ih).2

theorem sound_of_mem (H : Course d₀ (.start (.new settings) now) ts d w) (hsound : d₀.Sound [])
    {t : Turn (Depot κ σ) PersistenceStage} (ht : t ∈ ts) :
    t.around.Sound t.worker.stage.phase.buffers := by
  obtain ⟨before, Ht⟩ := H.of_mem ht
  exact Course.sound Ht hsound

theorem settings_eq (H : Course d₀ (.start (.new settings) now) ts d w) :
    w.stage.settings = settings :=
  H.stage_invariant (P := fun s => s.settings = settings) (settings_nextRound _) fun h hs => by
    obtain ⟨p', s, rfl, rfl, hstep⟩ := step_cases h
    exact hstep.settings_eq.trans hs

/-- The slot of each frame received goes back, unless the frame is still in hand. -/
theorem received_eq (H : Course d₀ (.start (.new settings) now) ts d w) (hsound : d₀.Sound []) :
    receivedOf ts = returnedOf ts ++ w.stage.phase.buffers := by
  have hflow := H.flow_eq (·.phase.buffers) (fun t => (event t).received?)
    (fun t => (event t).returned?) fun t ht d' w' h => by
      obtain ⟨p', s, rfl, rfl, hs⟩ := step_cases h
      exact (hs.passes (H.sound_of_mem hsound ht)).buffers_eq
  change (PersistenceStage.new settings).phase.buffers ++ _ = _ at hflow
  rwa [PersistenceStage.new, buffers_nextRound, List.nil_append] at hflow

theorem skipped_eq (H : Course d₀ (.start (.new settings) now) ts d w) (hsound : d₀.Sound []) :
    w.stage.report.skipped = (receivedOf ts).countP (!settings.wants ·) := by
  have hcount := H.count_eq (·.report.skipped)
    (fun t => ((event t).received?.map (!settings.wants ·)).getD false) fun t ht d' w' h => by
      obtain ⟨before, Ht⟩ := H.of_mem ht
      obtain ⟨p', s, rfl, rfl, hs⟩ := step_cases h
      have hskipped := (hs.passes (H.sound_of_mem hsound ht)).skipped_eq
      rwa [Course.settings_eq Ht] at hskipped
  change _ = (PersistenceStage.new settings).report.skipped + _ at hcount
  rw [PersistenceStage.new, skipped_nextRound, Nat.zero_add] at hcount
  rw [hcount, receivedOf, List.countP_filterMap]

theorem accepted_eq (d : Depot κ σ) (w : Worker PersistenceStage) :
    w.accepted d.plant = (event ⟨d, w⟩).stored?.toList := by
  obtain ⟨⟨settings, phase, report⟩, since, stop⟩ := w
  cases phase <;> simp only [Worker.accepted, PersistenceStage.request, event]
  case receiving => cases d.plant.ticks.receive.2 <;> rfl
  case timing => cases WallTime.ofMoment? d.plant.now <;> rfl
  case storing frame record => cases (ImageSink.store d.plant.sink record).2 <;> rfl
  case skipping frame | releasing frame _ => cases (d.plant.pool.takeBack frame).2 <;> rfl
  case dropping frame ending => cases (d.plant.drop ending.unwinding frame).2 <;> rfl
  all_goals rfl

/-- The stage has stored the frames that are wanted, as many as its report says. -/
theorem keeps (H : Course d₀ (.start (.new settings) now) ts d w) :
    w.stage.Keeps settings.target (storedOf ts) := by
  induction H with
  | start => exact .new settings
  | meanwhile _ _ ih => exact ih
  | raiseStop _ ih => exact ih
  | turn _ h ih =>
    obtain ⟨p', s, rfl, rfl, hs⟩ := step_cases h
    rw [storedOf_concat, ← accepted_eq]
    exact hs.keeps ih

theorem conducts (H : Course d₀ (.start (.new settings) now) ts d w) (hsound : d₀.Sound []) :
    w.stage.Conducts (settings.wanted (receivedOf ts)) (storedOf ts) (troublesOf ts) := by
  induction H with
  | start => exact .nextRound rfl rfl
  | meanwhile _ _ ih => exact ih
  | raiseStop _ ih => exact ih
  | turn H h ih =>
    obtain ⟨p', s, rfl, rfl, hs⟩ := step_cases h
    have hpasses := hs.passes (Course.sound H hsound)
    have hsettings := Course.settings_eq H
    rw [← hsettings] at ih ⊢
    rw [receivedOf_concat, storedOf_concat, troublesOf_concat]
    exact hpasses.conducts (Course.keeps H) ih

/-- Only what the stage leaves behind is unread. -/
theorem unread_eq_nil (H : Course d₀ (.start (.new settings) now) ts d w) (hsound : d₀.Sound [])
    (hrunning : ∀ ending, w.stage.phase ≠ .ended ending) : unreadOf ts = [] := by
  induction H with
  | start => rfl
  | meanwhile _ _ ih => exact ih hrunning
  | raiseStop _ ih => exact ih hrunning
  | turn H h ih =>
    obtain ⟨p', s, rfl, rfl, hs⟩ := step_cases h
    obtain ⟨hbefore, hunread⟩ := (hs.passes (Course.sound H hsound)).unread_cases
    rw [unreadOf_concat, ih hbefore, hunread.resolve_right fun ⟨ending, hended⟩ =>
      hrunning ending hended]
    rfl

open scoped List in
/-- Each frame that came into the mailbox was received, or left unread, or waits there. -/
theorem arrived_perm (H : Course d₀ (.start (.new settings) now) ts d w) (hsound : d₀.Sound [])
    (harrived : d₀.arrived = d₀.plant.ticks.messages) :
    (receivedOf ts ++ (unreadOf ts ++ d.plant.ticks.messages)).Perm d.arrived := by
  induction H with
  | start => exact .of_eq harrived.symm
  | meanwhile _ h ih =>
    obtain ⟨new, hnew, hmessages, -⟩ := h.arrivals
    rw [hnew, hmessages, ← List.append_assoc (unreadOf _), ← List.append_assoc (receivedOf _)]
    exact ih.append_right new
  | raiseStop _ ih => exact ih
  | @turn ts d _ w _ H h ih =>
    obtain ⟨p', s, rfl, rfl, hs⟩ := step_cases h
    obtain ⟨hmessages, -⟩ := hs.messages_perm (Course.sound H hsound).orderly
    rw [receivedOf_concat, unreadOf_concat]
    generalize event ⟨d, w⟩ = e at hmessages
    calc (receivedOf ts ++ e.received?.toList) ++ ((unreadOf ts ++ e.unread) ++ p'.ticks.messages)
      _ = receivedOf ts ++ ((e.received?.toList ++ unreadOf ts) ++
          (e.unread ++ p'.ticks.messages)) := by simp only [List.append_assoc]
      _ ~ receivedOf ts ++ ((unreadOf ts ++ e.received?.toList) ++
          (e.unread ++ p'.ticks.messages)) := (List.perm_append_comm.append_right _).append_left _
      _ = receivedOf ts ++ (unreadOf ts ++
          (e.received?.toList ++ (e.unread ++ p'.ticks.messages))) := by
        simp only [List.append_assoc]
      _ ~ receivedOf ts ++ (unreadOf ts ++ d.plant.ticks.messages) :=
        (hmessages.symm.append_left _).append_left _
      _ ~ d.arrived := ih

/-- Frames of one class are received in the order in which they came. -/
theorem arrived_eq (H : Course d₀ (.start (.new settings) now) ts d w) (hsound : d₀.Sound [])
    (harrived : d₀.arrived = d₀.plant.ticks.messages) {c : Priority}
    (hfifo : ∀ t ∈ ts, t.around.plant.ticks.Fifo c) :
    receivedOf ts ++ (unreadOf ts ++ d.plant.ticks.messages) = d.arrived := by
  induction H with
  | start => exact harrived.symm
  | meanwhile _ h ih =>
    obtain ⟨new, hnew, hmessages, -⟩ := h.arrivals
    rw [hnew, hmessages, ← ih hfifo]
    simp only [List.append_assoc]
  | raiseStop _ ih => exact ih hfifo
  | @turn ts d _ w _ H h ih =>
    obtain ⟨p', s, rfl, rfl, hs⟩ := step_cases h
    replace ih := ih fun t ht => hfifo t (List.mem_append_left _ ht)
    have hlast := hfifo ⟨d, w⟩ (List.mem_append_right _ (List.mem_singleton_self _))
    have hrunning := (hs.passes (Course.sound H hsound)).unread_cases.1
    rw [Course.unread_eq_nil H hsound hrunning] at ih
    rw [receivedOf_concat, unreadOf_concat, Course.unread_eq_nil H hsound hrunning]
    rcases hs.ticks_cases with ⟨hticks, hreceived, hunread⟩ | ⟨frame, hreceive, hevent⟩ |
      ⟨hticks, hevent⟩
    · rw [hreceived, hunread, hticks]
      simpa using ih
    · rw [(hlast.got hreceive).2] at ih
      rw [hevent]
      simpa [PersistenceEvent.received?, PersistenceEvent.unread] using ih
    · rw [hticks, hevent, Mailbox.messages_dropReceiver]
      simpa [PersistenceEvent.received?, PersistenceEvent.unread] using ih

/-- The mailbox that the stage has left is empty, and nothing more comes into it. -/
theorem left_empty (H : Course d₀ (.start (.new settings) now) ts d w)
    {ending : Ending PersistenceReport} (hended : w.stage.phase = .ended ending) :
    d.plant.ticks.messages = [] ∧ d.plant.ticks.receiverAlive = false := by
  induction H with
  | start => exact absurd hended (nextRound_ne_ended _ ending)
  | meanwhile _ h ih =>
    obtain ⟨hempty, hgone⟩ := ih hended
    obtain ⟨new, -, hmessages, hnew⟩ := h.arrivals
    refine ⟨?_, h.receiver hgone⟩
    rw [hmessages, hempty, List.nil_append]
    by_contra hne
    rw [hgone] at hnew
    cases (hnew hne).2
  | raiseStop _ ih => exact ih hended
  | turn _ h _ =>
    obtain ⟨p', s, rfl, rfl, hs⟩ := step_cases h
    have hshut := hs.outbox hended
    exact ⟨Mailbox.messages_eq_nil.mpr hshut.empty, hshut.dead⟩

/-- Why the stage leaves with its report. -/
theorem finished_because (H : Course d₀ (.start (.new settings) now) ts d w) (hsound : d₀.Sound [])
    {report : PersistenceReport} (hheading : w.stage.phase.heading = some (.finished report)) :
    w.stop = true ∨ settings.target ≤ (storedOf ts).length ∨
      unreadOf ts = [] ∧ d.plant.ticks.messages = [] ∧ d.plant.ticks.senders = 0 := by
  have hkeeps := H.keeps
  induction H with
  | start => exact .inr (.inl (hkeeps.reached (reached_of_nextRound hheading)))
  | meanwhile H h ih =>
    refine (ih hheading (Course.keeps H)).imp_right (.imp_right ?_)
    rintro ⟨hunread, hempty, hsenders⟩
    obtain ⟨new, -, hmessages, hnew⟩ := h.arrivals
    refine ⟨hunread, ?_, h.senders hsenders⟩
    rw [hmessages, hempty, List.nil_append]
    by_contra hne
    exact (hnew hne).1 hsenders
  | raiseStop => exact .inl rfl
  | turn H h ih =>
    obtain ⟨p', s, rfl, rfl, hs⟩ := step_cases h
    rcases hs.finish_cases hheading with
      hstop | hreached | ⟨hleaving, hticks, hempty, hsenders⟩ | hheading
    · exact .inl hstop
    · exact .inr (.inl (hkeeps.reached hreached))
    · rw [hticks]
      refine .inr (.inr ⟨Course.unread_eq_nil (H.turn h) hsound fun _ => ?_, hempty, hsenders⟩)
      rw [hleaving]
      exact nofun
    · refine (ih hheading (Course.keeps H)).imp_right (.imp (fun hreached => ?_) ?_)
      · rw [storedOf_concat, List.length_append]
        exact Nat.le_add_right_of_le hreached
      · rintro ⟨hunread, hempty, hsenders⟩
        obtain ⟨hmessages, -⟩ := hs.messages_perm (Course.sound H hsound).orderly
        rw [hempty, List.nil_perm] at hmessages
        obtain ⟨-, hmessages⟩ := List.append_eq_nil_iff.mp hmessages
        obtain ⟨hlast, hnone⟩ := List.append_eq_nil_iff.mp hmessages
        rw [unreadOf_concat, hunread, hlast]
        refine ⟨rfl, hnone, ?_⟩
        rcases hs.ticks_cases with ⟨hticks, -⟩ | ⟨frame, hreceive, -⟩ | ⟨hticks, -⟩
        · rw [hticks, hsenders]
        · obtain ⟨rest, hticks⟩ := Mailbox.receive_got hreceive
          rw [hticks, hsenders]
        · rw [hticks]
          exact hsenders

theorem length_le (H : Course d₀ (.start (.new settings) now) ts d w) (hsound : d₀.Sound []) :
    ts.length + w.stage.phase.turnsDue ≤ 5 * (receivedOf ts).length + 2 * idleTurns ts + 3 := by
  induction H with
  | start =>
    rw [List.length_nil, Nat.zero_add]
    exact turnsDue_nextRound _
  | meanwhile _ _ ih => exact ih
  | raiseStop _ ih => exact ih
  | @turn ts d _ w _ H h ih =>
    obtain ⟨p', s, rfl, rfl, hs⟩ := step_cases h
    have hdue := (hs.passes (Course.sound H hsound)).turnsDue_le
    rw [receivedOf_concat, idleTurns_concat, List.length_append, List.length_append]
    generalize event ⟨d, w⟩ = e at hdue
    have hone : e.received?.toList.length = e.received?.isSome.toNat := by
      cases e.received? <;> rfl
    rw [hone]
    dsimp only [List.length_singleton] at hdue ⊢
    omega

/-- The report that the stage leaves with counts what it has received and stored. -/
theorem report_eq (H : Course d₀ (.start (.new settings) now) ts d w) (hsound : d₀.Sound [])
    {report : PersistenceReport} (hheading : w.stage.phase.heading = some (.finished report)) :
    report = ⟨(storedOf ts).length, (storedOf ts).bytes,
      (receivedOf ts).countP (!settings.wants ·), settings.target⟩ := by
  have hkeeps := H.keeps
  obtain ⟨rfl, hwritten, hbytes⟩ := hkeeps.of_heading hheading
  rw [← hwritten, ← hbytes, ← H.skipped_eq hsound, ← hkeeps.target_eq]

/-- A stage that nobody asked to stop has stored as many of the frames as it was to, or all of them. -/
theorem stored_eq (H : Course d₀ (.start (.new settings) now) ts d w) (hsound : d₀.Sound [])
    (harrived : d₀.arrived = d₀.plant.ticks.messages) {report : PersistenceReport}
    (hheading : w.stage.phase.heading = some (.finished report)) :
    (storedOf ts).map (·.1.picture) = settings.images (settings.wanted (receivedOf ts)) ∧
    (w.stop = false → (settings.wanted (receivedOf ts)).length =
      min settings.target (settings.wanted d.arrived).length) := by
  have hstored := ((H.conducts hsound).concludes hheading).of_finished
  rw [H.settings_eq] at hstored
  have hlength := congrArg List.length hstored
  rw [List.length_map, PersistenceSettings.length_images] at hlength
  have hle := H.keeps.length_le
  have hperm := ((H.arrived_perm hsound harrived).filter settings.wants).length_eq
  rw [List.filter_append, List.length_append] at hperm
  refine ⟨hstored, fun hstop => ?_⟩
  unfold PersistenceSettings.wanted at hlength ⊢
  rcases H.finished_because hsound hheading with hasked | hreached | ⟨hunread, hempty, -⟩
  · rw [hstop] at hasked
    cases hasked
  · omega
  · rw [hunread, hempty, List.append_nil, List.filter_nil, List.length_nil] at hperm
    omega

end Course

/-- What waits for the stage is received at once, and so is the news that nothing will come. -/
theorem step?_isSome (hrunning : w.stage.ending? = none)
    (hready : w.persistenceLimit ≤ d.plant.clock ∨ d.plant.ticks.messages ≠ [] ∨
      d.plant.ticks.senders = 0) : (d.step? w).isSome = true := by
  rw [Depot.step?, Option.isSome_map]
  rcases hready with hlate | hready
  · exact Worker.stepPersistence?_isSome hrunning hlate
  · obtain ⟨⟨settings, phase, report⟩, since, stop⟩ := w
    cases phase with
    | receiving =>
      rw [Worker.stepPersistence?, Option.isSome_map]
      simp only [Plant.answerPersistence?, request, Option.isSome_map]
      unfold Plant.receiveFrom?
      split
      · next hnothing =>
        obtain ⟨-, hempty, hsenders⟩ := Mailbox.receive_nothing hnothing
        exact absurd (Mailbox.messages_eq_nil.mpr hempty) (hready.resolve_right hsenders)
      · rfl
    | checking | skipping | timing | storing | releasing | dropping | leaving | ended =>
      exact Worker.stepPersistence?_isSome hrunning (Nat.zero_le _)

/-- Of the frames that come into its mailbox the stage stores those that are wanted, in the order in
which it receives them and numbered from one, until it has reached its target; it counts the others.
It receives nothing after the last image. If it is not asked to stop it stores as many as it is to, or
all; a sink that fails has stored all that came before, and its failure is how the run ends. The slots
of all frames go back to the pool. -/
theorem run_stores_wanted {p₀ : Plant κ σ} {others : List PooledBuffer}
    (horderly : p₀.ticks.Orderly) (hbooks : p₀.pool.Accounts (p₀.ticks.messages ++ others))
    (H : Course ⟨p₀, p₀.ticks.messages, others⟩ (.start (.new settings) now) ts d w) :
    -- what becomes of the frames that came
    ((receivedOf ts ++ (unreadOf ts ++ d.plant.ticks.messages)).Perm d.arrived ∧
      ∀ c, (∀ t ∈ ts, t.around.plant.ticks.Fifo c) →
        receivedOf ts ++ (unreadOf ts ++ d.plant.ticks.messages) = d.arrived) ∧
    -- what becomes of their slots
    (receivedOf ts = returnedOf ts ++ w.stage.phase.buffers ∧
      (∀ t ∈ ts, ∀ p' w', t.worker.stepPersistence? t.around.plant = some (p', w') →
        t.around.plant.pool.Accounts ((event t).freed ++
          (w'.stage.phase.buffers ++ (p'.ticks.messages ++ t.around.others))) ∧
        p'.pool.Accounts (w'.stage.phase.buffers ++ (p'.ticks.messages ++ t.around.others))) ∧
      ∀ ending, w.stage.phase = .ended ending →
        receivedOf ts = returnedOf ts ∧ (receivedOf ts ++ unreadOf ts).Perm d.arrived ∧
          d.plant.pool.Accounts d.others) ∧
    -- what is stored and counted
    w.stage.Conducts (settings.wanted (receivedOf ts)) (storedOf ts) (troublesOf ts) ∧
    (storedOf ts).Numbered ∧
    w.stage.report.skipped = (receivedOf ts).countP (!settings.wants ·) ∧
    (∀ before t after, ts = before ++ t :: after → t.worker.stage.phase = .receiving →
      (storedOf before).length < settings.target) ∧
    -- how the run ends
    (∀ report, w.stage.phase.heading = some (.finished report) →
      report = ⟨(storedOf ts).length, (storedOf ts).bytes,
        (receivedOf ts).countP (!settings.wants ·), settings.target⟩ ∧
      (storedOf ts).map (·.1.picture) = settings.images (settings.wanted (receivedOf ts)) ∧
      (w.stop = false → (settings.wanted (receivedOf ts)).length =
        min settings.target (settings.wanted d.arrived).length)) ∧
    (∀ t ∈ ts, ∀ record trouble, event t = .refused record trouble →
      ∃ before b, settings.wanted (receivedOf ts) = before ++ [b] ∧
        (storedOf ts).map (·.1.picture) = settings.images before ∧
        record.picture = ⟨before.length + 1, settings.width, settings.height, b.bytes⟩ ∧
        w.stage.phase.heading = some (refusal record trouble)) ∧
    ts.length + w.stage.phase.turnsDue ≤ 5 * (receivedOf ts).length + 2 * idleTurns ts + 3 ∧
    (w.stage.ending? = none → w.persistenceLimit ≤ d.plant.clock ∨ d.plant.ticks.messages ≠ [] ∨
      d.plant.ticks.senders = 0 → (d.step? w).isSome = true) := by
  have hsound : Depot.Sound ⟨p₀, p₀.ticks.messages, others⟩ [] := ⟨horderly, hbooks⟩
  have hsettings := H.settings_eq
  refine ⟨⟨H.arrived_perm hsound rfl, fun c => H.arrived_eq hsound rfl⟩,
    ⟨H.received_eq hsound, fun t ht p' w' h => ?_, fun ending hended => ?_⟩,
    H.conducts hsound, H.keeps.numbered, H.skipped_eq hsound, fun before t after hts hp => ?_,
    fun report hheading => ⟨H.report_eq hsound hheading, H.stored_eq hsound rfl hheading⟩,
    fun t ht record trouble hrefused => ?_, H.length_le hsound, step?_isSome⟩
  · obtain ⟨s, rfl, hs⟩ := Worker.stepPersistence?_cases h
    have hsettles := hs.settles (H.sound_of_mem hsound ht)
    exact ⟨hsettles.1, hsettles.2.books⟩
  · have hreceived := H.received_eq hsound
    have hperm := H.arrived_perm hsound rfl
    have hheld := (H.sound hsound).books
    have hhand : w.stage.phase.buffers = [] := by rw [hended]; rfl
    obtain ⟨hempty, -⟩ := H.left_empty hended
    rw [hhand, List.append_nil] at hreceived
    rw [hempty, List.append_nil] at hperm
    rw [hhand, hempty] at hheld
    exact ⟨hreceived, hperm, hheld⟩
  · rw [hts] at H
    have hcounts := (Course.keeps H.before).counts
    rw [hp] at hcounts
    exact hcounts.2
  · have hmem : PersistenceEvent.refused record trouble ∈ troublesOf ts :=
      List.mem_filterMap.mpr ⟨t, ht, by rw [hrefused]; rfl⟩
    have hcut := (H.conducts hsound).of_refused hmem
    rwa [hsettings] at hcut

end

/-! ### A run that the sink ends -/

/-- A frame of one pixel in the slot of this number. -/
def pixel (slot : Nat) (selected : Bool) : PooledBuffer :=
  ⟨0, slot, some #[1, 2, 3], 3, selected⟩

/-- Three frames wait, and the image store refuses the first image. -/
def stocked : Plant Unit ScriptedSink where
  camera := ()
  frames := ⟨1, [], 0, 0, false⟩
  pool := ⟨0, 3, 3, #[none, none, none], [], 3⟩
  ticks := ⟨3, [⟨.tick, 0, pixel 0 false⟩, ⟨.tick, 1, pixel 1 true⟩, ⟨.tick, 2, pixel 2 true⟩],
    3, 0, true⟩
  sink := ⟨.memory .empty, 0, some 1, .error (.io (.text "disk gone"))⟩
  clock := 0
  epoch := 0
  logs := #[]

theorem orderly_stocked : stocked.ticks.Orderly := ⟨by decide, by decide⟩

theorem accounts_stocked : stocked.pool.Accounts (stocked.ticks.messages ++ []) where
  slots := .refl _
  stored := nofun
  lent := by decide
  owned b hb := by
    obtain rfl | rfl | rfl : b = pixel 0 false ∨ b = pixel 1 true ∨ b = pixel 2 true := by
      simpa [stocked, Mailbox.messages] using hb
    all_goals exact ⟨rfl, _, rfl, rfl⟩
  count := rfl

def storing : Worker PersistenceStage := .start (.new ⟨1, 1, 2, false, 0⟩) 0

/-- The stage from its start to its end. -/
def refusedRun : List (Turn (Depot Unit ScriptedSink) PersistenceStage) × Depot Unit ScriptedSink ×
    Worker PersistenceStage :=
  Course.alone (fun d w => d.step? w) 9 ⟨stocked, stocked.ticks.messages, []⟩ storing

/-- The first frame is skipped and the second refused; the third is left unread. All three slots are
free at the end. -/
theorem run_refused_by_sink :
    Course ⟨stocked, stocked.ticks.messages, []⟩ storing refusedRun.1 refusedRun.2.1 refusedRun.2.2 ∧
    refusedRun.2.2.stage.phase =
      .ended (.failed ⟨[.persisting 1], .sink (.io (.text "disk gone"))⟩) ∧
    returnedOf refusedRun.1 = [pixel 0 false, pixel 1 true] ∧
    unreadOf refusedRun.1 = [pixel 2 true] ∧
    storedOf refusedRun.1 = [] ∧
    refusedRun.2.1.plant.pool.Accounts [] := by
  have H : Course ⟨stocked, stocked.ticks.messages, []⟩ storing refusedRun.1 refusedRun.2.1
      refusedRun.2.2 := Course.start.then_alone 9
  have hended : refusedRun.2.2.stage.phase =
      .ended (.failed ⟨[.persisting 1], .sink (.io (.text "disk gone"))⟩) := rfl
  obtain ⟨-, ⟨-, -, hslots⟩, -⟩ := run_stores_wanted orderly_stocked accounts_stocked H
  obtain ⟨hreturned, -, hfree⟩ := hslots _ hended
  exact ⟨H, hended, hreturned.symm, rfl, rfl, hfree⟩

end PersistenceStage
end TickCapture
