import TickCapture.Proofs.Line.Buffers
import TickCapture.Proofs.Line.Reference
import TickCapture.Proofs.Tracking.Capture

/-! # Where the frames of a sequence are: the detection stage

In its loop the stage is as far as the reference that has worked the same frames off, and what it sent
on is what that reference keeps. -/

namespace TickCapture

variable {κ σ : Type}

namespace DetectionPhase

def retired : DetectionPhase → Bool
  | .releasing _ last => last
  | .dropping .. | .discarding .. | .closingInbox _ | .closingOutbox _ | .forgetting _
  | .ended _ => true
  | _ => false

/-- The stage displaces no further frame: it was asked to stop and will see that before the next one,
or it is on its way out. -/
def finishing (stop : Bool) : DetectionPhase → Bool
  | .checking | .releasing _ false => stop
  | phase => phase.retired

theorem finishing_of_retired {stop : Bool} {phase : DetectionPhase} (h : phase.retired = true) :
    phase.finishing stop = true := by
  unfold finishing
  split
  · cases h
  · cases h
  · exact h

theorem finishing_true {stop : Bool} {phase : DetectionPhase} (h : phase.finishing stop = true) :
    phase.finishing true = true := by
  unfold finishing at h ⊢
  split <;> simp_all

/-- The displaced frame that the stage is about to send. -/
def outgoing : DetectionPhase → List PooledBuffer
  | .sending x | .blocked x => [x]
  | _ => []

end DetectionPhase

namespace DetectionStage

/-- What the stage has made of the frame in hand. -/
def Prepared (size : Nat) (s : DetectionStage) (r : Reference) : Prop :=
  match s.phase with
  | .acquiring f => s.expectedLen = some f.used ∧ f.used = r.expectedLen.getD f.used
  | .returning f b => s.expectedLen = some f.used ∧ f.used = r.expectedLen.getD f.used ∧
      ∃ b', convertFrame size f = .ok b' ∧ b.content = b'.content
  | .exhausted _ => False
  | _ => s.expectedLen = r.expectedLen

/-- The stage has come as far as the reference. -/
structure Follows (size : Nat) (s : DetectionStage) (r : Reference) : Prop where
  running : r.halted = false
  detector : s.detector.Agrees r.detector
  prepared : s.Prepared size r

variable {size : Nat} {s : DetectionStage} {r : Reference} {f : Captured}
  {b slot : PooledBuffer} {data : Bytes} {saveAll : Bool}

/-! What the functions of the stage do with frames to be sent. -/

theorem outgoing_takeIn (s : DetectionStage) (f : Captured) :
    (s.takeIn f).phase.outgoing = [] := by
  unfold DetectionStage.takeIn
  dsimp only
  split <;> rfl

theorem outgoing_convert (s : DetectionStage) (f : Captured) (slot : PooledBuffer) :
    (s.convert f slot).phase.outgoing = [] := by
  obtain ⟨b, h⟩ | ⟨ending, h⟩ := s.convert_cases f slot <;> rw [h] <;> rfl

theorem outgoing_detect_of_retired (hretired : (s.detect b).phase.retired = true) :
    (s.detect b).phase.outgoing = [] := by
  have hcase := detect_cases s b
  generalize s.detect b = s' at hcase hretired ⊢
  cases hcase with
  | seeded | rejected => rfl
  | displaced hproc =>
    dsimp only at hretired
    split at hretired <;> cases hretired

theorem retired_afterDrop (s : DetectionStage) (frame : Option Captured)
    (ending : Ending DetectionReport) : (s.afterDrop frame ending).phase.retired = true := by
  cases frame <;> rfl

theorem outgoing_afterDrop (s : DetectionStage) (frame : Option Captured)
    (ending : Ending DetectionReport) : (s.afterDrop frame ending).phase.outgoing = [] := by
  cases frame <;> rfl

theorem settings_afterDrop (s : DetectionStage) (frame : Option Captured)
    (ending : Ending DetectionReport) : (s.afterDrop frame ending).settings = s.settings := by
  cases frame <;> rfl

theorem retired_forget (s : DetectionStage) (ending : Ending DetectionReport) :
    (s.forget ending).phase.retired = true := by
  obtain h | h := s.forget_cases ending <;> rw [h] <;> rfl

theorem outgoing_forget (s : DetectionStage) (ending : Ending DetectionReport) :
    (s.forget ending).phase.outgoing = [] := by
  obtain h | h := s.forget_cases ending <;> rw [h] <;> rfl

namespace Follows

theorem congr {s' : DetectionStage} (H : s.Follows size r) (hdetector : s'.detector = s.detector)
    (hprepared : s.Prepared size r → s'.Prepared size r) : s'.Follows size r :=
  ⟨H.running, hdetector ▸ H.detector, hprepared H.prepared⟩

theorem takeIn (H : s.Follows size r) (hp : s.phase = .receiving)
    (hretired : (s.takeIn f).phase.retired = false) : (s.takeIn f).Follows size r := by
  have hexp : s.expectedLen = r.expectedLen := by simpa [Prepared, hp] using H.prepared
  unfold DetectionStage.takeIn at hretired ⊢
  dsimp only at hretired ⊢
  split at hretired
  · cases hretired
  · next hused =>
    rw [if_neg hused]
    rw [ne_eq, Decidable.not_not] at hused
    exact ⟨H.running, H.detector, by rw [← hused], by rw [← hexp, ← hused]⟩

/-- Conversion into a slot of the pool and into one of zero bytes come to the same. -/
theorem convert (H : s.Follows size r) (hp : s.phase = .acquiring f) (hdata : slot.data = some data)
    (hsize : data.size = size) (hselected : slot.selected = false)
    (heven : f.format.width % 2 = 0) (hretired : (s.convert f slot).phase.retired = false) :
    (s.convert f slot).Follows size r := by
  have hprep : s.expectedLen = some f.used ∧ f.used = r.expectedLen.getD f.used := by
    simpa [Prepared, hp] using H.prepared
  cases hlen : conversionLen f.bytes f.format data.size with
  | error e =>
    have hrgb : toRgb f.bytes f.format slot.whole = .error e := by
      rw [PooledBuffer.whole, hdata, Option.getD_some, toRgb_eq, hlen]
      rfl
    cases e <;> simp [DetectionStage.convert, hrgb, DetectionPhase.retired, enter] at hretired
  | ok len =>
    rw [convert_of_ok hdata hlen]
    refine ⟨H.running, H.detector, hprep.1, hprep.2,
      ⟨0, 0, some (convertedBytes f.bytes f.format (Bytes.zeros size)), len, false⟩, ?_, ?_⟩
    · rw [convertFrame, toRgb_eq, Bytes.zeros, Array.size_replicate, ← hsize, hlen]
      rfl
    · obtain ⟨rfl, -⟩ := conversionLen_eq_ok hlen
      have hextract := extract_convertedBytes heven f.bytes
        (show data.size = (Bytes.zeros size).size by simp [Bytes.zeros, hsize])
      simp [PooledBuffer.content, PooledBuffer.bytes, hextract, hselected]

/-- What the stage makes of a converted frame is what the reference makes of it. -/
theorem detect (H : s.Follows size r) (hp : s.phase = .returning f b)
    (hall : s.settings.forwardAll = saveAll) (hretired : (s.detect b).phase.retired = false) :
    (s.detect b).Follows size (r.offer size f) ∧
      ((r.offer size f).kept saveAll).map (·.content) =
        (r.kept saveAll).map (·.content) ++ (s.detect b).phase.outgoing.map (·.content) := by
  obtain ⟨hexp, hused, b', hconvert, hb⟩ : s.expectedLen = some f.used ∧
      f.used = r.expectedLen.getD f.used ∧
      ∃ b', convertFrame size f = .ok b' ∧ b.content = b'.content := by
    simpa [Prepared, hp] using H.prepared
  obtain ⟨hdetector, hagree⟩ := TickDetector.process_agrees H.detector hb
  rw [Reference.offer_of_ok H.running hused hconvert, Reference.judge]
  have hcase := detect_cases s b
  generalize s.detect b = s' at hcase hretired ⊢
  generalize r.detector.process b' = outcome at hdetector hagree ⊢
  obtain ⟨d', out⟩ := outcome
  cases hcase with
  | seeded hproc =>
    rw [hproc] at hdetector hagree
    cases hagree
    exact ⟨⟨H.running, hdetector, hexp⟩, (List.append_nil _).symm⟩
  | @displaced d x hproc =>
    rw [hproc] at hdetector hagree
    generalize hx : Detection.displaced x = o at hagree
    cases hagree with
    | @displaced x₁ x' hcontent =>
      cases hx
      obtain ⟨-, -, hsel⟩ := PooledBuffer.content_eq hcontent
      have hkept : (r.displaced ++ [x']).filter (fun b => b.selected || saveAll) =
          r.kept saveAll ++ if x.selected || saveAll then [x'] else [] := by
        rw [List.filter_append, List.filter_cons, List.filter_nil, hsel]
        rfl
      dsimp only [Reference.kept]
      rw [hkept, List.map_append]
      cases hkeep : x.selected || saveAll with
      | true =>
        simp only [hall, hkeep, if_true]
        refine ⟨⟨H.running, hdetector, hexp⟩, ?_⟩
        simp [DetectionPhase.outgoing, Reference.kept, hcontent]
      | false =>
        simp only [hall, hkeep]
        exact ⟨⟨H.running, hdetector, hexp⟩, by simp [DetectionPhase.outgoing, Reference.kept]⟩
    | seeded | rejected => cases hx
  | rejected hproc => cases hretired

end Follows

/-- The stage has worked off the frames `seen`, and sent frames with the contents `sent` on. -/
structure Tracks (size : Nat) (h : Hysteresis Float) (saveAll stop : Bool) (s : DetectionStage)
    (seen : List Captured) (sent : List (Bytes × Nat × Bool)) : Prop where
  forwardAll : s.settings.forwardAll = saveAll
  follows : s.phase.retired = false → s.Follows size (Reference.after size h seen)
  sent_eq : ∃ lost, ((Reference.after size h seen).kept saveAll).map (·.content) =
    sent ++ s.phase.outgoing.map (·.content) ++ lost ∧
      (lost = [] ∨ s.phase.finishing stop = true)

namespace Tracks

variable {h : Hysteresis Float} {stop : Bool} {s' : DetectionStage} {seen : List Captured}
  {sent : List (Bytes × Nat × Bool)} {x : PooledBuffer}

theorem sent_prefix_kept (H : s.Tracks size h saveAll stop seen sent) :
    sent <+: ((Reference.after size h seen).kept saveAll).map (·.content) := by
  obtain ⟨lost, hsent, -⟩ := H.sent_eq
  rw [hsent, List.append_assoc]
  exact List.prefix_append _ _

theorem eq_of_not_finishing (H : s.Tracks size h saveAll stop seen sent)
    (hfin : s.phase.finishing stop = false) :
    ((Reference.after size h seen).kept saveAll).map (·.content) =
      sent ++ s.phase.outgoing.map (·.content) := by
  obtain ⟨lost, hsent, rfl | hlost⟩ := H.sent_eq
  · rw [hsent, List.append_nil]
  · rw [hfin] at hlost
    cases hlost

/-- A step in which the stage sends and displaces nothing. -/
theorem quiet (H : s.Tracks size h saveAll stop seen sent) (hsettings : s'.settings = s.settings)
    (hfollows : s'.phase.retired = false → s'.Follows size (Reference.after size h seen))
    (houtgoing : s'.phase.outgoing = s.phase.outgoing)
    (hfin : s.phase.finishing stop = true → s'.phase.finishing stop = true) :
    s'.Tracks size h saveAll stop seen sent := by
  obtain ⟨lost, hsent, hlost⟩ := H.sent_eq
  exact ⟨by rw [hsettings, H.forwardAll], hfollows, lost, by rw [houtgoing, hsent],
    hlost.imp_right hfin⟩

/-- On the way out the stage gives up what it was about to send. -/
theorem leave (H : s.Tracks size h saveAll stop seen sent) (hsettings : s'.settings = s.settings)
    (hretired : s'.phase.retired = true) (houtgoing : s'.phase.outgoing = []) :
    s'.Tracks size h saveAll stop seen sent := by
  obtain ⟨lost, hsent, -⟩ := H.sent_eq
  refine ⟨by rw [hsettings, H.forwardAll], fun hc => ?_, s.phase.outgoing.map (·.content) ++ lost,
    by rw [houtgoing, hsent]; simp, .inr (DetectionPhase.finishing_of_retired hretired)⟩
  rw [hretired] at hc
  cases hc

/-! What the steps of the loop come to. -/

theorem turn (H : s.Tracks size h saveAll stop seen sent) (hs : s.phase.retired = false)
    (hsettings : s'.settings = s.settings) (hdetector : s'.detector = s.detector)
    (hprepared : ∀ r, s.Prepared size r → s'.Prepared size r)
    (houtgoing : s'.phase.outgoing = s.phase.outgoing)
    (hfin : s.phase.finishing stop = true → s'.phase.finishing stop = true) :
    s'.Tracks size h saveAll stop seen sent :=
  H.quiet hsettings (fun _ => (H.follows hs).congr hdetector (hprepared _)) houtgoing hfin

theorem receive (H : s.Tracks size h saveAll stop seen sent) (hp : s.phase = .receiving) :
    (s.takeIn f).Tracks size h saveAll stop seen sent := by
  have hfollows := H.follows (by rw [hp]; rfl)
  refine H.quiet (by simp) (hfollows.takeIn hp) ?_ ?_
  · rw [hp, outgoing_takeIn]
    rfl
  · rw [hp]
    nofun

theorem convert (H : s.Tracks size h saveAll stop seen sent) (hp : s.phase = .acquiring f)
    (hdata : slot.data = some data) (hsize : data.size = size) (hselected : slot.selected = false)
    (heven : f.format.width % 2 = 0) : (s.convert f slot).Tracks size h saveAll stop seen sent := by
  have hfollows := H.follows (by rw [hp]; rfl)
  refine H.quiet (by simp) (hfollows.convert hp hdata hsize hselected heven) ?_ ?_
  · rw [hp, outgoing_convert]
    rfl
  · rw [hp]
    nofun

/-- With the frame in hand judged, the stage has worked off one frame more. -/
theorem detect (H : s.Tracks size h saveAll stop seen sent) (hp : s.phase = .returning f b)
    (hretired : (s.detect b).phase.retired = false) :
    (s.detect b).Tracks size h saveAll stop (seen ++ [f]) sent := by
  have heq := H.eq_of_not_finishing (by rw [hp]; rfl)
  simp only [hp, DetectionPhase.outgoing, List.map_nil, List.append_nil] at heq
  obtain ⟨hfollows, hkept⟩ := (H.follows (by rw [hp]; rfl)).detect hp H.forwardAll hretired
  have hafter : Reference.after size h (seen ++ [f]) = (Reference.after size h seen).offer size f := by
    rw [Reference.after_append]
    rfl
  refine ⟨by simp [H.forwardAll], fun _ => hafter ▸ hfollows, [], ?_, .inl rfl⟩
  rw [hafter, hkept, heq, List.append_nil]

theorem send (H : s.Tracks size h saveAll stop seen sent) (hp : s.phase = .sending x)
    (hsettings : s'.settings = s.settings) (hdetector : s'.detector = s.detector)
    (hexpected : s'.expectedLen = s.expectedLen) (hp' : s'.phase = .checking) :
    s'.Tracks size h saveAll stop seen (sent ++ [x.content]) := by
  have hfollows := H.follows (by rw [hp]; rfl)
  have heq := H.eq_of_not_finishing (by rw [hp]; rfl)
  simp only [hp, DetectionPhase.outgoing] at heq
  refine ⟨by rw [hsettings, H.forwardAll], fun _ => hfollows.congr hdetector ?_, [], ?_, .inl rfl⟩
  · simp [Prepared, hp, hp', hexpected]
  · rw [heq, hp']
    simp [DetectionPhase.outgoing]

/-- Asked to stop, the stage gives up the frame it could not send. -/
theorem giveUp (H : s.Tracks size h saveAll stop seen sent) (hp : s.phase = .blocked x)
    (hsettings : s'.settings = s.settings) (hdetector : s'.detector = s.detector)
    (hexpected : s'.expectedLen = s.expectedLen) (hp' : s'.phase = .releasing x false)
    (hstop : stop = true) : s'.Tracks size h saveAll stop seen sent := by
  have hfollows := H.follows (by rw [hp]; rfl)
  have heq := H.eq_of_not_finishing (by rw [hp]; rfl)
  simp only [hp, DetectionPhase.outgoing] at heq
  refine ⟨by rw [hsettings, H.forwardAll], fun _ => hfollows.congr hdetector ?_, [x.content], ?_,
    .inr (by rw [hp', hstop]; rfl)⟩
  · simp [Prepared, hp, hp', hexpected]
  · rw [heq, hp']
    simp [DetectionPhase.outgoing]

theorem raiseStop (H : s.Tracks size h saveAll stop seen sent) :
    s.Tracks size h saveAll true seen sent := by
  obtain ⟨lost, hsent, hlost⟩ := H.sent_eq
  exact ⟨H.forwardAll, H.follows, lost, hsent, hlost.imp_right DetectionPhase.finishing_true⟩

end Tracks
end DetectionStage

/-- A step of the detection stage: what it works off comes out of its mailbox and its hands, and what it
displaces goes into the next mailbox. -/
theorem DetectionStep.tracks [DriverQueue κ] {size : Nat} {h : Hysteresis Float} {saveAll : Bool}
    {p p' : Plant κ σ} {w : Worker DetectionStage} {s : DetectionStage}
    {given seen : List Captured} {sent : List (Bytes × Nat × Bool)} {held : List PooledBuffer}
    {slots room : Nat} (hstep : DetectionStep p w p' s)
    (H : w.stage.Tracks size h saveAll w.stop seen sent)
    (hframes : p.frames.Fifo .capture) (hpool : p.Pooled slots size room held)
    (hfree : ∀ f, w.stage.phase = .acquiring f → p.pool.free ≠ [])
    (heven : ∀ f, w.stage.phase = .acquiring f → f.format.width % 2 = 0)
    (hin : Passed w.stage.phase.retired given seen (w.stage.phase.frames ++ p.frames.messages)) :
    ∃ seen' new, s.Tracks size h saveAll w.stop seen' (sent ++ new.map (·.content)) ∧
      Passed s.phase.retired given seen' (s.phase.frames ++ p'.frames.messages) ∧
      p'.frames.Fifo .capture ∧ p'.ticks.messages = p.ticks.messages ++ new := by
  -- what most steps do: nothing is worked off and nothing is sent
  have hquiet {q : Plant κ σ} {s' : DetectionStage}
      (hs : s'.Tracks size h saveAll w.stop seen sent)
      (hpass : Passed s'.phase.retired given seen (s'.phase.frames ++ q.frames.messages))
      (hfifo : q.frames.Fifo .capture) (hticks : q.ticks.messages = p.ticks.messages) :
      ∃ seen' new, s'.Tracks size h saveAll w.stop seen' (sent ++ new.map (·.content)) ∧
        Passed s'.phase.retired given seen' (s'.phase.frames ++ q.frames.messages) ∧
        q.frames.Fifo .capture ∧ q.ticks.messages = p.ticks.messages ++ new :=
    ⟨seen, [], by simpa using hs, hpass, hfifo, by rw [hticks, List.append_nil]⟩
  -- on the way out what is in hand and what waits does not matter any more
  have hleave {q : Plant κ σ} {s' : DetectionStage} (hsettings : s'.settings = w.stage.settings)
      (hretired : s'.phase.retired = true) (houtgoing : s'.phase.outgoing = [])
      (hfifo : q.frames.Fifo .capture) (hticks : q.ticks.messages = p.ticks.messages) :
      ∃ seen' new, s'.Tracks size h saveAll w.stop seen' (sent ++ new.map (·.content)) ∧
        Passed s'.phase.retired given seen' (s'.phase.frames ++ q.frames.messages) ∧
        q.frames.Fifo .capture ∧ q.ticks.messages = p.ticks.messages ++ new :=
    hquiet (H.leave hsettings hretired houtgoing) (by rw [hretired]; exact hin.leave) hfifo hticks
  cases hstep with
  | stops hp hs | inboxClosed hp | acquireFaults hp ha | refused hp hg | outboxClosed hp ha
  | releaseRefused hp hb | discards hp => exact hleave rfl rfl rfl hframes rfl
  | closesInbox hp =>
    refine hleave rfl rfl rfl ?_ (by rw [Plant.ticks_closeFrames])
    rw [Plant.frames_closeFrames]
    exact .dropReceiver
  | closesOutbox hp =>
    exact hleave rfl (w.stage.retired_forget _) (w.stage.outgoing_forget _) hframes rfl
  | @drops _ _ frame ending hp hd =>
    obtain ⟨hticks, hsame, -⟩ := Plant.drop_eq hd
    exact hleave (w.stage.settings_afterDrop frame _) (w.stage.retired_afterDrop frame _)
      (w.stage.outgoing_afterDrop frame _) (hsame ▸ hframes) (by rw [hticks])
  | @dropFaults _ _ frame ending _ hp hd =>
    obtain ⟨hticks, hsame, -⟩ := Plant.drop_eq hd
    exact hleave (w.stage.settings_afterDrop frame _) (w.stage.retired_afterDrop frame _)
      (w.stage.outgoing_afterDrop frame _) (hsame ▸ hframes) (by rw [hticks])
  | forgets hp hheld hd | forgetFaults hp hheld hd =>
    obtain ⟨hticks, hsame, -⟩ := Plant.drop_eq hd
    exact hleave rfl rfl rfl (hsame ▸ hframes) (by rw [hticks])
  | exhausts hp ha =>
    rcases hpool.acquire ha with ⟨hnil, -⟩ | ⟨slot, hslot, -⟩
    · exact absurd hnil (hfree _ hp)
    · cases hslot
  | skips hp =>
    have hprep := (H.follows (by rw [hp]; rfl)).prepared
    simp [DetectionStage.Prepared, hp] at hprep
  | proceeds hp hs =>
    rw [hp] at hin
    refine hquiet (H.turn (by rw [hp]; rfl) rfl rfl ?_ (by rw [hp]; rfl) ?_) hin hframes rfl
    · simp [DetectionStage.Prepared, hp, DetectionStage.enter]
    · rw [hp, hs]
      nofun
  | waits hp | blocks hp | retries hp =>
    rw [hp] at hin
    refine hquiet (H.turn (by rw [hp]; rfl) rfl rfl ?_ (by rw [hp]; rfl) ?_) hin hframes rfl
    · simp [DetectionStage.Prepared, hp, DetectionStage.enter]
    · rw [hp]
      nofun
  | @receives frames frame hp hr =>
    obtain ⟨hfifo, hmessages⟩ := hframes.got hr
    have hgiven := hin.given_eq (by rw [hp]; rfl)
    refine hquiet (H.receive hp) ?_ hfifo rfl
    rw [hp, hmessages] at hgiven
    rw [DetectionStage.frames_takeIn]
    exact .of_eq hgiven
  | @acquires pool frame slot hp ha =>
    have hgiven := hin.given_eq (by rw [hp]; rfl)
    rcases hpool.acquire ha with
      ⟨-, -, hnone⟩ | ⟨slot', hslot, hselected, ⟨-, data, hdata, hsize⟩, hpool'⟩
    · cases hnone
    · cases hslot
      refine hquiet (H.convert hp hdata (hsize.trans hpool'.size_eq) hselected (heven frame hp)) ?_
        hframes rfl
      rw [hp] at hgiven
      rw [DetectionStage.frames_convert]
      exact .of_eq hgiven
  | @returns camera frame converted hp hg =>
    by_cases hretired : (w.stage.detect converted).phase.retired = true
    · exact hleave (by simp) hretired (DetectionStage.outgoing_detect_of_retired hretired) hframes rfl
    · rw [Bool.not_eq_true] at hretired
      rw [hp] at hin
      refine ⟨seen ++ [frame], [], by simpa using H.detect hp hretired, ?_, hframes,
        (List.append_nil _).symm⟩
      rw [DetectionStage.frames_detect]
      exact hin.take
  | @sends ticks x hp ha =>
    rw [hp] at hin
    exact ⟨seen, [x], H.send hp rfl rfl rfl rfl, hin, hframes, (hpool.fifo.accepted ha).2⟩
  | @givesUp x hp hs =>
    rw [hp] at hin
    exact hquiet (H.giveUp hp rfl rfl rfl rfl hs) hin hframes rfl
  | @releases pool x last hp hb =>
    cases last with
    | true => exact hleave rfl rfl rfl hframes rfl
    | false =>
      rw [hp] at hin
      refine hquiet (H.turn (by rw [hp]; rfl) rfl rfl ?_ (by rw [hp]; rfl) ?_) hin hframes rfl
      · simp [DetectionStage.Prepared, hp, DetectionStage.enter]
      · rw [hp]
        exact id

end TickCapture
