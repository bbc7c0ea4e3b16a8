import TickCapture.Proofs.Tracking.Detection
import TickCapture.Proofs.Tracking.Handled

/-! # What the detection stage makes of the frames it receives

In its loop the stage is as far as a new detector that is offered the converted frames (`InStep`), and it
leaves the loop for an ending that is due. One lemma for each exchange that matters, and from these what
a whole dialogue comes to. -/

namespace TickCapture

namespace DetectionPhase

/-- The ending that the stage is on its way to. -/
def heading : DetectionPhase → Option (Ending DetectionReport)
  | .dropping _ _ ending | .discarding _ ending | .closingInbox ending | .closingOutbox ending
  | .forgetting ending | .ended ending => some ending
  | _ => none

end DetectionPhase

namespace DetectionStage

section Course

variable (h : Hysteresis Float) (forwardAll : Bool) (es : List Exchange)

/-- Where the stage is with the frames that it received. -/
def Working (s : DetectionStage) (tried : List (Captured × Option PooledBuffer))
    (offered : List PooledBuffer) : Prop :=
  match s.phase with
  | .acquiring f => Handled h forwardAll es tried offered [f] [] [] ∧ s.expectedLen = some f.used
  | .returning f b => ∃ slot, Handled h forwardAll es tried offered [f] [some slot] [] ∧
    s.expectedLen = some f.used ∧ convertInto slot f.format f.bytes = .ok b
  | phase => Handled h forwardAll es tried offered [] [] phase.outgoing

/-- The stage is in its loop, and as far as a new detector that was offered `offered`. -/
structure InStep (s : DetectionStage) (tried : List (Captured × Option PooledBuffer))
    (offered : List PooledBuffer) : Prop where
  running : s.phase.retired = false
  forwards : s.settings.forwardAll = forwardAll
  working : Working h forwardAll es s tried offered
  expected : s.expectedLen = (receivedOf es).head?.map (·.used)
  detector : s.detector = ((TickDetector.new h).offerAll offered).1
  report : s.report = tally h es offered

/-- The stage is in its loop, or on its way to an ending that is due. -/
def Conforms (s : DetectionStage) : Prop :=
  match s.phase.heading with
  | none => ∃ tried offered, InStep h forwardAll es s tried offered
  | some ending => Due h forwardAll es ending

end Course

variable {h : Hysteresis Float} {forwardAll : Bool} {es : List Exchange} {e : Exchange}
  {s s' : DetectionStage} {tried : List (Captured × Option PooledBuffer)}
  {offered : List PooledBuffer} {f : Captured} {b x : PooledBuffer}
  {ending : Ending DetectionReport} {κ σ : Type} [DriverQueue κ] {p p' : Plant κ σ}

theorem Conforms.of_due (H : Due h forwardAll es ending) (hheading : s.phase.heading = some ending) :
    Conforms h forwardAll es s := by
  unfold Conforms
  rwa [hheading]

namespace InStep

theorem conforms (H : InStep h forwardAll es s tried offered) : Conforms h forwardAll es s := by
  have hheading : s.phase.heading = none := by
    have hrunning := H.running
    cases hp : s.phase with
    | dropping | discarding | closingInbox | closingOutbox | forgetting | ended =>
      rw [hp] at hrunning
      cases hrunning
    | _ => rfl
  unfold Conforms
  rw [hheading]
  exact ⟨tried, offered, H⟩

/-- The frame in hand, if its size was compared with the one that is expected. -/
theorem fits (H : InStep h forwardAll es s tried offered) (hexpected : s.expectedLen = some f.used) :
    Fits es f := by
  intro first hfirst
  rw [H.expected, Option.mem_def.mp hfirst] at hexpected
  exact (Option.some.inj hexpected).symm

/-- In most exchanges the stage only turns to the next thing. -/
theorem enter {phase : DetectionPhase} (H : InStep h forwardAll es s tried offered) (he : e.Quiet)
    (hrunning : phase.retired = false)
    (hworking : Working h forwardAll (es ++ [e]) (s.enter phase) tried offered) :
    InStep h forwardAll (es ++ [e]) (s.enter phase) tried offered where
  running := hrunning
  forwards := H.forwards
  working := hworking
  expected := H.expected.trans (by rw [he.receivedOf_eq])
  detector := H.detector
  report := H.report.trans (he.tally_eq h es offered).symm

/-- The stage leaves the loop, with a report. -/
theorem finish (H : InStep h forwardAll es s tried offered) (he : e.Quiet)
    (hhandled : Handled h forwardAll es tried offered [] [] []) :
    Conforms h forwardAll (es ++ [e]) s.finish := by
  have hdue : Due h forwardAll (es ++ [e]) (.finished s.report) := by
    rw [H.report, ← he.tally_eq h es]
    exact .finished (hhandled.quiet he)
  exact .of_due hdue rfl

theorem receive (H : InStep h forwardAll es s tried offered) (hp : s.phase = .receiving)
    (timeout : Clock) (f : Captured) :
    Conforms h forwardAll (es ++ [⟨.receive timeout, .received (.got f)⟩]) (s.takeIn f) := by
  have hworking := H.working
  simp only [Working, hp] at hworking
  generalize he : Exchange.mk (.receive timeout) (.received (.got f)) = e
  have hreceived : receivedOf (es ++ [e]) = receivedOf es ++ [f] := by
    rw [receivedOf_concat, ← he]
    rfl
  have hacquisitions : acquisitionsOf (es ++ [e]) = acquisitionsOf es := by
    rw [acquisitionsOf_concat, ← he]
    exact List.append_nil _
  have hsent : sentOf (es ++ [e]) = sentOf es := by
    rw [sentOf_concat, ← he]
    exact List.append_nil _
  have hhandled := hworking.receive hreceived hacquisitions hsent
  unfold takeIn
  dsimp only
  rw [H.expected]
  by_cases hused : f.used = ((receivedOf es).head?.map (·.used)).getD f.used
  · rw [if_neg (not_not.mpr hused)]
    apply conforms
    exact {
      running := rfl
      forwards := H.forwards
      working := ⟨hhandled, congrArg some hused.symm⟩
      expected := by
        rw [hreceived, List.head?_append]
        cases (receivedOf es).head? <;> rfl
      detector := H.detector
      report := by
        rw [H.report, tally, tally, hreceived, hacquisitions, hsent, List.length_append]
        rfl }
  · rw [if_pos hused]
    obtain ⟨first, hfirst⟩ : ∃ first, (receivedOf es).head? = some first := by
      cases hhead : (receivedOf es).head? with
      | none =>
        rw [hhead] at hused
        exact absurd rfl hused
      | some first => exact ⟨first, rfl⟩
    rw [hfirst] at hused ⊢
    have hfirst' : (receivedOf (es ++ [e])).head? = some first := by
      rw [hreceived, List.head?_append, hfirst]
      rfl
    exact .of_due (.resized hhandled hfirst' hused) rfl

/-- The pool answers, with a slot or without one. -/
theorem acquire (H : InStep h forwardAll es s tried offered) (hp : s.phase = .acquiring f)
    (slot : Option PooledBuffer) :
    Handled h forwardAll (es ++ [⟨.acquire, .acquired slot⟩]) tried offered [f] [slot] [] ∧
      Fits (es ++ [⟨.acquire, .acquired slot⟩]) f ∧ s.expectedLen = some f.used ∧
      s.expectedLen = (receivedOf (es ++ [⟨.acquire, .acquired slot⟩])).head?.map (·.used) ∧
      { s.report with poolExhausted := s.report.poolExhausted + if slot.isNone then 1 else 0 } =
        tally h (es ++ [⟨.acquire, .acquired slot⟩]) offered := by
  have hworking := H.working
  simp only [Working, hp] at hworking
  obtain ⟨hhandled, hexpected⟩ := hworking
  generalize he : Exchange.mk .acquire (.acquired slot) = e
  have hreceived : receivedOf (es ++ [e]) = receivedOf es := by
    rw [receivedOf_concat, ← he]
    exact List.append_nil _
  have hacquisitions : acquisitionsOf (es ++ [e]) = acquisitionsOf es ++ [slot] := by
    rw [acquisitionsOf_concat, ← he]
    rfl
  have hsent : sentOf (es ++ [e]) = sentOf es := by
    rw [sentOf_concat, ← he]
    exact List.append_nil _
  refine ⟨hhandled.advance hreceived hacquisitions (by rw [hsent]), ?_, hexpected, ?_, ?_⟩
  · exact (H.fits hexpected).congr hreceived
  · rw [hreceived, H.expected]
  · rw [H.report, tally, tally, hreceived, hacquisitions, hsent, List.countP_append,
      List.countP_singleton]

theorem exhaust (H : InStep h forwardAll es s tried offered) (hp : s.phase = .acquiring f) :
    InStep h forwardAll (es ++ [⟨.acquire, .acquired none⟩])
      { s with report.poolExhausted := s.report.poolExhausted + 1, phase := .exhausted f }
      (tried ++ [(f, none)]) offered := by
  obtain ⟨hhandled, hfits, -, hexpected, hreport⟩ := H.acquire hp none
  exact {
    running := rfl
    forwards := H.forwards
    working := hhandled.drop hfits
    expected := hexpected
    detector := H.detector
    report := hreport }

/-- What a slot leads to: the frame is converted into it, or this is the end. -/
theorem convert (H : InStep h forwardAll es s tried offered) (hp : s.phase = .acquiring f)
    (slot : PooledBuffer) :
    Conforms h forwardAll (es ++ [⟨.acquire, .acquired (some slot)⟩]) (s.convert f slot) := by
  obtain ⟨hhandled, hfits, hused, hexpected, hreport⟩ := H.acquire hp (some slot)
  rw [convert_eq]
  cases hconvert : convertInto slot f.format f.bytes with
  | error trouble =>
    cases trouble with
    | error e => exact .of_due (.unconverted hhandled hfits hconvert) rfl
    | fault fault => exact .of_due (.conversionFaults hhandled hfits hconvert) rfl
  | ok converted =>
    apply conforms
    exact {
      running := rfl
      forwards := H.forwards
      working := ⟨slot, hhandled, hused, hconvert⟩
      expected := hexpected
      detector := H.detector
      report := hreport }

/-- The buffer of the frame in hand has gone back, and the detector answers. -/
theorem detect (H : InStep h forwardAll es s tried offered) (hp : s.phase = .returning f b) :
    Conforms h forwardAll (es ++ [⟨.giveBack f, .done⟩]) (s.detect b) := by
  have hworking := H.working
  simp only [Working, hp] at hworking
  obtain ⟨slot, hhandled, hexpected, hconvert⟩ := hworking
  generalize he : Exchange.mk (.giveBack f) .done = e
  have hquiet : e.Quiet := he ▸ ⟨rfl, rfl, rfl⟩
  have hfits := (H.fits hexpected).congr (hquiet.receivedOf_eq es)
  have hhandled := hhandled.quiet hquiet
  have hreport := H.report.trans (hquiet.tally_eq h es offered).symm
  have hcase := detect_cases s b
  generalize s.detect b = s' at hcase ⊢
  cases hcase with
  | seeded hproc =>
    rw [H.detector] at hproc
    apply conforms
    exact {
      running := rfl
      forwards := H.forwards
      working := hhandled.offer hfits hconvert hproc nofun
      expected := H.expected.trans (by rw [hquiet.receivedOf_eq])
      detector := by rw [TickDetector.offerAll_concat hproc]
      report := by
        rw [tally_offer hproc, hreport]
        rfl }
  | @displaced d x hproc =>
    rw [H.detector] at hproc
    have hoffered := hhandled.offer hfits hconvert hproc nofun
    have hreport' : { s.report with
        converted := s.report.converted + 1
        ticks := if x.selected then s.report.ticks + 1 else s.report.ticks } =
        tally h (es ++ [e]) (offered ++ [b]) := by
      rw [tally_offer hproc, hreport]
      cases hselected : x.selected <;> simp [tally, Detection.displaced?, hselected]
    rw [H.forwards]
    apply conforms
    exact {
      running := by
        dsimp only
        split <;> rfl
      forwards := H.forwards
      working := by
        cases hkeep : x.selected || forwardAll <;>
          simpa [Working, DetectionPhase.outgoing, Detection.displaced?, hkeep] using hoffered
      expected := H.expected.trans (by rw [hquiet.receivedOf_eq])
      detector := by rw [TickDetector.offerAll_concat hproc]
      report := hreport' }
  | rejected hproc =>
    rw [H.detector] at hproc
    exact .of_due (.rejected hhandled hfits hconvert hproc) rfl

theorem refuse (H : InStep h forwardAll es s tried offered) (hp : s.phase = .returning f b)
    (e : IoError) : Conforms h forwardAll (es ++ [⟨.giveBack f, .refused e⟩])
      (s.enter (.dropping b none (.failed ⟨[.returningBuffer], .io e⟩))) := by
  have hworking := H.working
  simp only [Working, hp] at hworking
  obtain ⟨slot, hhandled, hexpected, hconvert⟩ := hworking
  have hquiet : Exchange.Quiet ⟨.giveBack f, .refused e⟩ := ⟨rfl, rfl, rfl⟩
  have hfits := (H.fits hexpected).congr (hquiet.receivedOf_eq es)
  exact .of_due (.refused (hhandled.quiet hquiet) hfits hconvert
    (List.mem_append_right _ (List.mem_singleton.mpr rfl))) rfl

theorem send (H : InStep h forwardAll es s tried offered) (hp : s.phase = .sending x)
    (timeout : Clock) : InStep h forwardAll (es ++ [⟨.send x timeout, .sent .accepted⟩])
      { s with report.forwarded := s.report.forwarded + 1, phase := .checking } tried offered := by
  have hworking := H.working
  simp only [Working, hp] at hworking
  generalize he : Exchange.mk (.send x timeout) (.sent .accepted) = e
  have hreceived : receivedOf (es ++ [e]) = receivedOf es := by
    rw [receivedOf_concat, ← he]
    exact List.append_nil _
  have hacquisitions : acquisitionsOf (es ++ [e]) = acquisitionsOf es ++ [] := by
    rw [acquisitionsOf_concat, ← he]
    rfl
  have hsent : sentOf (es ++ [e]) = sentOf es ++ [x] := by
    rw [sentOf_concat, ← he]
    rfl
  have hhandled : Handled h forwardAll (es ++ [e]) tried offered [] [] [] := by
    refine hworking.advance hreceived hacquisitions ?_
    rw [hsent, List.append_nil]
    rfl
  exact {
    running := rfl
    forwards := H.forwards
    working := hhandled
    expected := by rw [hreceived, H.expected]
    detector := H.detector
    report := by
      rw [H.report, tally, tally, hreceived, hacquisitions, hsent, List.append_nil,
        List.length_append]
      rfl }

/-- What an exchange in the loop comes to. -/
theorem turn (H : InStep h forwardAll es s tried offered) (hturn : Turn p false s e p' s')
    (hopen : e.findsClosed = false) : Conforms h forwardAll (es ++ [e]) s' := by
  have hrunning := H.running
  have hworking := H.working
  cases hturn with
  | stops hp hstop | givesUp hp hstop => cases hstop
  | outboxClosed hp => cases hopen
  | drops hp | discards hp | closesInbox hp | closesOutbox hp | forgets hp =>
    rw [hp] at hrunning
    cases hrunning
  | receives hp => exact H.receive hp _ _
  | acquires hp => exact H.convert hp _
  | exhausts hp => exact (H.exhaust hp).conforms
  | returns hp => exact H.detect hp
  | refused hp => exact H.refuse hp _
  | sends hp => exact (H.send hp _).conforms
  | inboxClosed hp =>
    simp only [Working, hp] at hworking
    exact H.finish ⟨rfl, rfl, rfl⟩ hworking
  | proceeds hp | waits hp | skips hp | blocks hp | retries hp =>
    simp only [Working, hp] at hworking
    exact conforms (H.enter ⟨rfl, rfl, rfl⟩ rfl (hworking.quiet ⟨rfl, rfl, rfl⟩))
  | @releases _ _ last hp =>
    rw [hp] at hrunning
    obtain rfl : last = false := hrunning
    simp only [Working, hp] at hworking
    exact conforms (H.enter ⟨rfl, rfl, rfl⟩ rfl (hworking.quiet ⟨rfl, rfl, rfl⟩))

end InStep

/-- On its way out the stage receives and sends nothing, and it keeps to its ending. -/
theorem Turn.leaving {stop : Bool} (hturn : Turn p stop s e p' s')
    (hheading : s.phase.heading = some ending) : e.Quiet ∧ s'.phase.heading = some ending := by
  cases hturn with
  | @drops _ _ frame _ _ hp =>
    rw [hp] at hheading
    cases frame <;> exact ⟨⟨rfl, rfl, rfl⟩, hheading⟩
  | @closesOutbox last hp =>
    rw [hp] at hheading
    refine ⟨⟨rfl, rfl, rfl⟩, ?_⟩
    obtain hforget | hforget := s.forget_cases last <;> rw [hforget] <;> exact hheading
  | discards hp | closesInbox hp | forgets hp =>
    rw [hp] at hheading
    exact ⟨⟨rfl, rfl, rfl⟩, hheading⟩
  | stops hp | proceeds hp | receives hp | waits hp | inboxClosed hp | acquires hp | exhausts hp
  | skips hp | returns hp | refused hp | sends hp | blocks hp | outboxClosed hp | givesUp hp
  | retries hp | releases hp =>
    rw [hp] at hheading
    cases hheading

theorem Conforms.turn (H : Conforms h forwardAll es s) (hturn : Turn p false s e p' s')
    (hopen : e.findsClosed = false) : Conforms h forwardAll (es ++ [e]) s' := by
  unfold Conforms at H
  split at H
  · obtain ⟨tried, offered, H⟩ := H
    exact H.turn hturn hopen
  · next ending hheading =>
    obtain ⟨hquiet, hheading'⟩ := hturn.leaving hheading
    exact .of_due (H.quiet hquiet) hheading'

variable {w : Worker DetectionStage} {ts : List (Encounter κ σ)} {settings : DetectionSettings}
  {now : Clock}

/-- A stage that is not asked to stop and finds somebody to receive what it sends does what it should. -/
theorem Dialogue.conforms (H : Dialogue (.start (.new settings (.new h)) now) ts w)
    (hstop : w.stop = false) (hopen : ∀ e ∈ exchangesOf ts, e.findsClosed = false) :
    Conforms h settings.forwardAll (exchangesOf ts) w.stage := by
  induction H with
  | start =>
    have hstart : InStep h settings.forwardAll [] (.new settings (.new h)) [] [] := {
      running := rfl
      forwards := rfl
      working := ⟨rfl, rfl, nofun, rfl, nofun, rfl⟩
      expected := rfl
      detector := rfl
      report := rfl }
    exact hstart.conforms
  | raiseStop => cases hstop
  | answer _ hpool hanswer ih =>
    have hturn := Turn.of_answer hpool hanswer
    rw [show _ = false from hstop] at hturn
    rw [exchangesOf_concat] at hopen ⊢
    exact (ih hstop fun e he => hopen e (List.mem_append_left _ he)).turn hturn
      (hopen _ (List.mem_append_right _ (List.mem_singleton.mpr rfl)))

end DetectionStage
end TickCapture
