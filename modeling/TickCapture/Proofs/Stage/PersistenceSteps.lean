import TickCapture.Proofs.Stage.DetectionSteps

/-! # The steps of the persistence stage

`PersistenceStep p w p' s` lists what one step over the plant `p` can come to. -/

namespace TickCapture

variable {κ σ : Type}

/-- What one step of the persistence stage can come to. -/
inductive PersistenceStep [ImageSink σ] (p : Plant κ σ) (w : Worker PersistenceStage) :
    Plant κ σ → PersistenceStage → Prop
  | stops : w.stage.phase = .checking → w.stop = true → PersistenceStep p w p w.stage.finish
  | proceeds : w.stage.phase = .checking → w.stop = false →
    PersistenceStep p w p (w.stage.enter .receiving)
  | accepts {ticks : Mailbox PooledBuffer} {frame : PooledBuffer} : w.stage.phase = .receiving →
    p.ticks.receive = (ticks, .got frame) →
    (frame.selected || w.stage.settings.saveAll) = true →
    PersistenceStep p w { p with ticks } (w.stage.enter (.timing frame))
  | skips {ticks : Mailbox PooledBuffer} {frame : PooledBuffer} : w.stage.phase = .receiving →
    p.ticks.receive = (ticks, .got frame) →
    (frame.selected || w.stage.settings.saveAll) = false →
    PersistenceStep p w { p with ticks } { w.stage with
      report.skipped := w.stage.report.skipped + 1, phase := .skipping frame }
  | waits : w.stage.phase = .receiving → p.ticks.receive = (p.ticks, .nothing) →
    p.expired w.since w.stage.settings.receiveTimeout = true →
    PersistenceStep p w p w.stage.nextRound
  | inboxClosed : w.stage.phase = .receiving → p.ticks.receive = (p.ticks, .closed) →
    PersistenceStep p w p w.stage.finish
  | releasesSkipped {pool : Pool} {frame : PooledBuffer} : w.stage.phase = .skipping frame →
    p.pool.takeBack frame = (pool, .ok ()) →
    PersistenceStep p w { p with pool } w.stage.nextRound
  | skippedRefused {pool : Pool} {frame : PooledBuffer} {e : PoolError} :
    w.stage.phase = .skipping frame → p.pool.takeBack frame = (pool, .error e) →
    PersistenceStep p w { p with pool } (w.stage.enter (.leaving (.failed (.of (.pool e)))))
  | times {frame : PooledBuffer} {time : WallTime} : w.stage.phase = .timing frame →
    WallTime.ofMoment? p.now = some time →
    PersistenceStep p w p (w.stage.enter (.storing frame (w.stage.record frame time)))
  | timeless {frame : PooledBuffer} : w.stage.phase = .timing frame →
    WallTime.ofMoment? p.now = none →
    PersistenceStep p w p (w.stage.enter (.dropping frame (.failed (.of .beforeEpoch))))
  | stores {sink : σ} {frame : PooledBuffer} {record : ImageRecord} {bytes : Nat} :
    w.stage.phase = .storing frame record →
    ImageSink.store p.sink record = (sink, .ok bytes) →
    PersistenceStep p w { p with sink } (w.stage.enter (.releasing frame bytes))
  | storeFails {sink : σ} {frame : PooledBuffer} {record : ImageRecord} {e : SinkError} :
    w.stage.phase = .storing frame record →
    ImageSink.store p.sink record = (sink, .error (.error e)) →
    PersistenceStep p w { p with sink }
      (w.stage.enter (.dropping frame (.failed ⟨[.persisting record.sequence], .sink e⟩)))
  | storeFaults {sink : σ} {frame : PooledBuffer} {record : ImageRecord} {fault : Fault} :
    w.stage.phase = .storing frame record →
    ImageSink.store p.sink record = (sink, .error (.fault fault)) →
    PersistenceStep p w { p with sink } (w.stage.enter (.dropping frame (.faulted fault)))
  | releases {pool : Pool} {frame : PooledBuffer} {bytes : Nat} :
    w.stage.phase = .releasing frame bytes → p.pool.takeBack frame = (pool, .ok ()) →
    PersistenceStep p w { p with pool } (w.stage.count bytes)
  | releaseRefused {pool : Pool} {frame : PooledBuffer} {bytes : Nat} {e : PoolError} :
    w.stage.phase = .releasing frame bytes → p.pool.takeBack frame = (pool, .error e) →
    PersistenceStep p w { p with pool } (w.stage.enter (.leaving (.failed (.of (.pool e)))))
  | drops {p' : Plant κ σ} {frame : PooledBuffer} {ending : Ending PersistenceReport} :
    w.stage.phase = .dropping frame ending → p.drop ending.unwinding frame = (p', none) →
    PersistenceStep p w p' (w.stage.enter (.leaving ending))
  | dropFaults {p' : Plant κ σ} {frame : PooledBuffer} {ending : Ending PersistenceReport}
      {fault : Fault} : w.stage.phase = .dropping frame ending →
    p.drop ending.unwinding frame = (p', some fault) →
    PersistenceStep p w p' (w.stage.enter (.leaving (ending.afterFault fault)))
  | leaves {p' : Plant κ σ} {ending : Ending PersistenceReport} :
    w.stage.phase = .leaving ending → p.closeTicks ending.unwinding = (p', none) →
    PersistenceStep p w p' (w.stage.enter (.ended ending))
  | leaveFaults {p' : Plant κ σ} {ending : Ending PersistenceReport} {fault : Fault} :
    w.stage.phase = .leaving ending → p.closeTicks ending.unwinding = (p', some fault) →
    PersistenceStep p w p' (w.stage.enter (.ended (ending.afterFault fault)))

namespace PersistenceStep

variable [ImageSink σ] {p p' : Plant κ σ} {w w' : Worker PersistenceStage}

theorem of_answer {answer : PersistenceAnswer} (h : p.answerPersistence? w = some (p', answer)) :
    PersistenceStep p w p' (w.stage.resume answer) := by
  obtain ⟨⟨settings, phase, report⟩, since, stop⟩ := w
  cases phase with
  | checking =>
    cases h
    cases stop with
    | true => exact .stops rfl rfl
    | false => exact .proceeds rfl rfl
  | receiving =>
    obtain ⟨⟨ticks, outcome⟩, hreceive, hout⟩ := Option.map_eq_some_iff.mp h
    cases hout
    obtain ⟨hreceive, hexpired⟩ := Plant.receiveFrom?_eq_some hreceive
    cases outcome with
    | got frame =>
      simp only [PersistenceStage.resume]
      split
      · next hkeep => exact .accepts rfl hreceive hkeep
      · next hskip => exact .skips rfl hreceive (Bool.eq_false_iff.mpr hskip)
    | nothing =>
      obtain ⟨rfl, -, -⟩ := Mailbox.receive_nothing hreceive
      exact .waits rfl hreceive (hexpired rfl)
    | closed =>
      obtain ⟨rfl, -, -⟩ := Mailbox.receive_closed hreceive
      exact .inboxClosed rfl hreceive
  | skipping frame =>
    rcases Plant.release_eq (Option.some.inj h) with
      ⟨pool, hback, rfl, rfl⟩ | ⟨pool, e, hback, rfl, rfl⟩
    · exact .releasesSkipped rfl hback
    · exact .skippedRefused rfl hback
  | timing frame =>
    cases h
    cases htime : WallTime.ofMoment? p.now with
    | none => exact .timeless rfl htime
    | some time => exact .times rfl htime
  | storing frame record =>
    simp only [Plant.answerPersistence?, PersistenceStage.request] at h
    split at h
    · next hstore => cases h; exact .stores rfl hstore
    · next hstore => cases h; exact .storeFails rfl hstore
    · next hstore => cases h; exact .storeFaults rfl hstore
  | releasing frame bytes =>
    rcases Plant.release_eq (Option.some.inj h) with
      ⟨pool, hback, rfl, rfl⟩ | ⟨pool, e, hback, rfl, rfl⟩
    · exact .releases rfl hback
    · exact .releaseRefused rfl hback
  | dropping frame ending =>
    rcases Plant.settled_eq (Option.some.inj h) with ⟨hdrop, rfl⟩ | ⟨fault, hdrop, rfl⟩
    · exact .drops rfl hdrop
    · exact .dropFaults rfl hdrop
  | leaving ending =>
    rcases Plant.settled_eq (Option.some.inj h) with ⟨hclose, rfl⟩ | ⟨fault, hclose, rfl⟩
    · exact .leaves rfl hclose
    · exact .leaveFaults rfl hclose
  | ended ending => cases h

end PersistenceStep

theorem Worker.stepPersistence?_cases [ImageSink σ] {p p' : Plant κ σ}
    {w w' : Worker PersistenceStage} (h : w.stepPersistence? p = some (p', w')) :
    ∃ s, w' = ⟨s, p'.clock, w.stop⟩ ∧ PersistenceStep p w p' s := by
  obtain ⟨⟨q, answer⟩, hanswer, hq⟩ := Option.map_eq_some_iff.mp h
  cases hq
  exact ⟨_, rfl, .of_answer hanswer⟩

end TickCapture
