import TickCapture.Proofs.Run.ConductorSteps

/-! # A run that is to end does end

Once the conductor has a reason to end a run, it asks the stages to stop and joins them one after
another. Whatever the other stages do meanwhile, the one that is joined comes to its end; so the run
ends under every schedule on which whoever it waits for moves again and again and time passes
(`Run.Served`), if only the calls of the camera return. The others may rest for ever. A schedule that
lets everybody take steps again and again (`Run.Fair`) is such a one.

The measure is how far the conductor has got, and then how many steps are left to the stage that it
waits for (`Run.stepsLeft`). Every move leaves it as it is or makes it smaller, and the move that the
run waits for (`Run.awaited`) makes it smaller. -/

namespace TickCapture

variable {κ σ : Type}

namespace RunPhase

/-- How many phases are left to the conductor, once it has a reason to end the run. -/
def phasesLeft : RunPhase → Nat
  | .ended => 0
  | .joinPersistence => 1
  | .stopPersistence => 2
  | .stopStreaming => 3
  | .joinDetection => 4
  | .stopDetection => 5
  | .joinCapture => 6
  | .stopCapture => 7
  | _ => 8

variable {phase next : RunPhase} {name : StageName}

theorem further_of_asks? (h : phase.asks? = some (name, next)) :
    next.phasesLeft < phase.phasesLeft ∧ ∀ since, next ≠ .watching since := by
  cases phase <;> cases h <;> exact ⟨Nat.lt_succ_self _, nofun⟩

theorem further_of_joins? (h : phase.joins? = some (name, next)) :
    next.phasesLeft < phase.phasesLeft ∧ ∀ since, next ≠ .watching since := by
  cases phase <;> cases h <;> exact ⟨Nat.lt_succ_self _, nofun⟩

end RunPhase

namespace Run

/-- The conductor has a reason to end the run. -/
def Closing (r : Run κ σ) : Prop :=
  r.phase.starting = false ∧ ∀ since, r.phase = .watching since → ∃ name, r.line.ended name = true

def stepsLeft (r : Run κ σ) : Nat :=
  11 * r.phase.phasesLeft + r.phase.joins?.elim 0 fun (name, _) => r.line.stepsLeft name

/-- The move that a closing run waits for, and when it can be made at the latest. -/
def awaited (r : Run κ σ) : Move × Clock :=
  match r.phase.joins? with
  | some (name, _) =>
    if r.line.started name && !r.line.ended name then (.stage name, r.line.limit name)
    else (.conductor, 0)
  | none => (.conductor, 0)

/-- The run has come closer to its end, or it waits for the same move as before. -/
def Nears (r r' : Run κ σ) : Prop :=
  r'.stepsLeft < r.stepsLeft ∨ r'.stepsLeft = r.stepsLeft ∧ r'.awaited = r.awaited

variable {settings : PipelineSettings} {r r' r'' : Run κ σ}

theorem Nears.refl (r : Run κ σ) : Nears r r := .inr ⟨rfl, rfl⟩

theorem Nears.trans (h : Nears r r') (h' : Nears r' r'') : Nears r r'' := by
  obtain h | ⟨h, hawaited⟩ := h
  · obtain h' | ⟨h', -⟩ := h'
    · exact .inl (Nat.lt_trans h' h)
    · exact .inl (h' ▸ h)
  · obtain h' | ⟨h', hawaited'⟩ := h'
    · exact .inl (h ▸ h')
    · exact .inr ⟨h'.trans h, hawaited'.trans hawaited⟩

/-- A phase weighs more than all steps that can be left to a stage. -/
theorem stepsLeft_le (r : Run κ σ) : r.stepsLeft ≤ 11 * r.phase.phasesLeft + 10 := by
  unfold stepsLeft
  cases r.phase.joins? with
  | none => simp
  | some joined => exact Nat.add_le_add_left (r.line.stepsLeft_le joined.1) _

/-- A phase further on there are fewer steps left, wherever the stages are. -/
theorem stepsLeft_lt_of_phase (h : r'.phase.phasesLeft < r.phase.phasesLeft) :
    r'.stepsLeft < r.stepsLeft := by
  have hle := r'.stepsLeft_le
  have hge : 11 * r.phase.phasesLeft ≤ r.stepsLeft := Nat.le_add_right _ _
  omega

namespace Closing

/-- A step of the conductor brings a closing run a phase further. -/
theorem conductor [Camera κ] (H : r.Closing) (h : ConductorStep r r') :
    r'.phase.phasesLeft < r.phase.phasesLeft ∧ r'.Closing := by
  obtain ⟨hstarting, hended⟩ := H
  cases h with
  | persistenceRefused hp | persistenceStarts hp | detectionRefused hp | detectionStarts hp
  | streams hp | streamingFails hp | captureRefused hp | captureStarts hp =>
    rw [hp] at hstarting
    cases hstarting
  | seesEnding hp | interrupted hp =>
    rw [hp]
    exact ⟨Nat.lt_succ_self 7, rfl, nofun⟩
  | watches hp hrunning =>
    obtain ⟨name, hname⟩ := hended _ hp
    cases (hrunning name).symm.trans hname
  | asks hp =>
    obtain ⟨hlt, hne⟩ := RunPhase.further_of_asks? hp
    exact ⟨hlt, (RunPhase.of_asks? hp).2.1, fun since hsince => absurd hsince (hne since)⟩
  | joins hp =>
    obtain ⟨hlt, hne⟩ := RunPhase.further_of_joins? hp
    exact ⟨hlt, (RunPhase.of_joins? hp).2.1, fun since hsince => absurd hsince (hne since)⟩
  | stopsStreaming hp | leavesStreaming hp =>
    rw [hp]
    exact ⟨Nat.lt_succ_self 2, rfl, nofun⟩

variable [Camera κ] [ImageSink σ]

/-- Whoever makes a move, a closing run comes closer to its end or waits for the same move. -/
theorem move? {m : Move} (H : r.Closing) (hr : Conducted settings r) (h : r.move? m = some r') :
    r.Nears r' ∧ r'.Closing := by
  cases m with
  | conductor =>
    obtain ⟨hphase, H'⟩ := H.conductor (conduct?_cases h)
    exact ⟨.inl (stepsLeft_lt_of_phase hphase), H'⟩
  | stage stage =>
    obtain ⟨l, hl, rfl⟩ := Option.map_eq_some_iff.mp h
    have H' : Closing { r with line := l } := ⟨H.1, fun since hp => by
      obtain ⟨name, hname⟩ := H.2 since hp
      exact ⟨name, Line.ended_step? hl hname⟩⟩
    refine ⟨?_, H'⟩
    cases hjoins : r.phase.joins? with
    | none => exact .inr (by simp [stepsLeft, awaited, hjoins])
    | some joined =>
      obtain ⟨name, next⟩ := joined
      by_cases hname : name = stage
      · subst hname
        have hlt := Line.stepsLeft_step? hl (hr.asked hjoins)
        exact .inl (by simpa [stepsLeft, hjoins] using hlt)
      · have hrests : r.line.Rests l name := Line.rests_step? hl hname
        exact .inr (by simp [stepsLeft, awaited, hjoins, hrests.stepsLeft_eq, hrests.started_eq,
          hrests.ended_eq, hrests.limit_eq])
  | interrupt =>
    cases h
    exact ⟨.refl _, H⟩
  | pass nanos =>
    cases h
    exact ⟨.refl _, H⟩

omit [ImageSink σ] in
/-- The conductor of a closing run goes on, unless the stage it waits for has not ended. -/
theorem conduct?_isSome (H : r.Closing) (hp : r.phase ≠ .ended)
    (hover : ∀ {name next}, r.phase.joins? = some (name, next) → r.line.Over name) :
    ∃ r', r.conduct? = some r' := by
  obtain ⟨hstarting, hended⟩ := H
  have hjoin {name : StageName} {next : RunPhase} (h : r.line.Over name) :
      ∃ r', r.joinStage? name next = some r' := by
    refine ⟨r.enter next, ?_⟩
    unfold joinStage?
    rw [if_neg]
    intro hwaits
    rw [Bool.and_eq_true, Bool.not_eq_true'] at hwaits
    cases hwaits.2.symm.trans (h hwaits.1)
  unfold conduct?
  cases hphase : r.phase with
  | startPersistence | startDetection | startStreaming | startCapture =>
    rw [hphase] at hstarting
    cases hstarting
  | watching since =>
    obtain ⟨name, hname⟩ := hended since hphase
    refine ⟨r.enter .stopCapture, ?_⟩
    dsimp only
    unfold watch?
    rw [if_pos]
    cases name <;> simp [hname]
  | stopCapture | stopDetection | stopPersistence | stopStreaming => exact ⟨_, rfl⟩
  | joinCapture | joinDetection | joinPersistence => exact hjoin (hover (by rw [hphase]; rfl))
  | ended => exact absurd hphase hp

/-- The move that a closing run waits for can be made once its time has come, and brings the run closer
to its end. -/
theorem awaited_move? (H : r.Closing) (hr : Conducted settings r) (hp : r.phase ≠ .ended)
    (hcamera : Camera.Returns r.line.plant.camera) (htime : r.awaited.2 ≤ r.clock) :
    ∃ r', r.move? r.awaited.1 = some r' ∧ r'.stepsLeft < r.stepsLeft := by
  have hconductor (hover : ∀ {name next}, r.phase.joins? = some (name, next) → r.line.Over name) :
      ∃ r', r.move? .conductor = some r' ∧ r'.stepsLeft < r.stepsLeft := by
    obtain ⟨r', hr'⟩ := H.conduct?_isSome hp hover
    exact ⟨r', hr', stepsLeft_lt_of_phase (H.conductor (conduct?_cases hr')).1⟩
  cases hjoins : r.phase.joins? with
  | none =>
    have hawaited : r.awaited = (.conductor, 0) := by
      rw [awaited, hjoins]
    rw [hawaited]
    refine hconductor fun hj => ?_
    cases hjoins.symm.trans hj
  | some joined =>
    obtain ⟨name, next⟩ := joined
    by_cases hwaits : (r.line.started name && !r.line.ended name) = true
    · have hawaited : r.awaited = (.stage name, r.line.limit name) := by
        rw [awaited, hjoins]
        exact if_pos hwaits
      rw [hawaited] at htime ⊢
      rw [Bool.and_eq_true, Bool.not_eq_true'] at hwaits
      have hasked := hr.asked hjoins
      obtain ⟨l, hl⟩ := Option.isSome_iff_exists.mp
        (Line.step?_isSome hwaits.1 hwaits.2 hasked hr.answerable hcamera htime)
      have hlt := Line.stepsLeft_step? hl hasked
      exact ⟨{ r with line := l }, by simp [Run.move?, hl], by simpa [stepsLeft, hjoins] using hlt⟩
    · have hawaited : r.awaited = (.conductor, 0) := by
        rw [awaited, hjoins]
        exact if_neg hwaits
      rw [hawaited]
      refine hconductor fun hj => ?_
      cases hjoins.symm.trans hj
      intro hstarted
      simpa [hstarted] using hwaits

end Closing

/-! ### Schedules -/

/-- The run after so many moves of a schedule; those that cannot be made are left out. -/
def after [Camera κ] [ImageSink σ] (r : Run κ σ) (schedule : Nat → Move) : Nat → Run κ σ
  | 0 => r
  | n + 1 => ((r.after schedule n).move? (schedule n)).getD (r.after schedule n)

/-- A schedule lets everybody take a step again and again, and time pass. -/
structure Fair (schedule : Nat → Move) : Prop where
  conductor : ∀ n, ∃ m, n ≤ m ∧ schedule m = .conductor
  stage : ∀ name n, ∃ m, n ≤ m ∧ schedule m = .stage name
  time : ∀ n, ∃ m, n ≤ m ∧ ∃ nanos, 0 < nanos ∧ schedule m = .pass nanos

namespace Fair

variable {schedule : Nat → Move}

theorem awaited (H : Fair schedule) (r : Run κ σ) (n : Nat) :
    ∃ m, n ≤ m ∧ schedule m = r.awaited.1 := by
  unfold Run.awaited
  split
  · split
    · exact H.stage _ n
    · exact H.conductor n
  · exact H.conductor n

end Fair

section Schedules

variable [Camera κ] [ImageSink σ] {schedule : Nat → Move}

theorem after_add (r : Run κ σ) (schedule : Nat → Move) (n k : Nat) :
    r.after schedule (n + k) = (r.after schedule n).after (fun i => schedule (n + i)) k := by
  induction k with
  | zero => rfl
  | succ k ih => rw [← Nat.add_assoc, after, after, ih]

/-- What every move keeps is kept along a schedule. -/
theorem after_induction {P : Run κ σ → Prop} (hr : P r)
    (hmove : ∀ {r r' : Run κ σ} {m : Move}, P r → r.move? m = some r' → P r') (n : Nat) :
    P (r.after schedule n) := by
  induction n with
  | zero => exact hr
  | succ n ih =>
    rw [after]
    cases h : (r.after schedule n).move? (schedule n) with
    | none => exact ih
    | some r' => exact hmove ih h

theorem Conducted.after (H : Conducted settings r) (n : Nat) :
    Conducted settings (r.after schedule n) :=
  after_induction H Conducted.move? n

theorem clock_le_after (r : Run κ σ) (schedule : Nat → Move) {n m : Nat} (h : n ≤ m) :
    (r.after schedule n).clock ≤ (r.after schedule m).clock := by
  obtain ⟨k, rfl⟩ := Nat.exists_eq_add_of_le h
  rw [after_add]
  exact after_induction (P := fun r' => (r.after schedule n).clock ≤ r'.clock) (Nat.le_refl _)
    (fun hle hmove => Nat.le_trans hle (clock_le_move? hmove)) k

/-- While a run goes on along the schedule, whoever it waits for moves again and again, and time
passes. -/
structure Served (r : Run κ σ) (schedule : Nat → Move) : Prop where
  awaited : ∀ n, ∃ m, n ≤ m ∧ schedule m = (r.after schedule m).awaited.1
  time : ∀ n, ∃ m, n ≤ m ∧ ∃ nanos, 0 < nanos ∧ schedule m = .pass nanos

namespace Served

/-- So it is after some moves. -/
theorem rest (H : r.Served schedule) (n : Nat) :
    (r.after schedule n).Served fun i => schedule (n + i) where
  awaited k := by
    obtain ⟨m, hm, hmove⟩ := H.awaited (n + k)
    refine ⟨m - n, by omega, ?_⟩
    rw [← after_add, Nat.add_sub_cancel' (by omega)]
    exact hmove
  time k := by
    obtain ⟨m, hm, hmove⟩ := H.time (n + k)
    exact ⟨m - n, by omega, by rwa [Nat.add_sub_cancel' (by omega)]⟩

/-- Every moment comes. -/
theorem exists_clock_ge (H : r.Served schedule) (moment : Clock) :
    ∃ n, ∀ m, n ≤ m → moment ≤ (r.after schedule m).clock := by
  induction moment with
  | zero => exact ⟨0, fun _ _ => Nat.zero_le _⟩
  | succ moment ih =>
    obtain ⟨n, hn⟩ := ih
    obtain ⟨m, hm, nanos, hpos, hpass⟩ := H.time n
    have hclock : (r.after schedule (m + 1)).clock = (r.after schedule m).clock + nanos := by
      rw [after, hpass]
      rfl
    refine ⟨m + 1, fun k hk => ?_⟩
    calc moment + 1 ≤ (r.after schedule m).clock + nanos := Nat.add_le_add (hn m hm) hpos
      _ = (r.after schedule (m + 1)).clock := hclock.symm
      _ ≤ (r.after schedule k).clock := r.clock_le_after schedule hk

end Served

namespace Closing

theorem after (H : r.Closing) (hr : Conducted settings r) (n : Nat) :
    r.Nears (r.after schedule n) ∧ (r.after schedule n).Closing := by
  have hall : r.Nears (r.after schedule n) ∧ (r.after schedule n).Closing ∧
      Conducted settings (r.after schedule n) := by
    refine after_induction (P := fun r' => r.Nears r' ∧ r'.Closing ∧ Conducted settings r')
      ⟨.refl r, H, hr⟩ (fun h hmove => ?_) n
    obtain ⟨hnears, H', hr'⟩ := h
    obtain ⟨hnears', H''⟩ := H'.move? hr' hmove
    exact ⟨hnears.trans hnears', H'', hr'.move? hmove⟩
  exact ⟨hall.1, hall.2.1⟩

/-- A run that is to end comes closer to its end. -/
theorem progresses (H : r.Closing) (hr : Conducted settings r) (hserved : r.Served schedule)
    (hcamera : ∀ n, Camera.Returns (r.after schedule n).line.plant.camera) :
    ∃ n, (r.after schedule n).phase = .ended ∨ (r.after schedule n).stepsLeft < r.stepsLeft := by
  obtain ⟨n, hclock⟩ := hserved.exists_clock_ge r.awaited.2
  obtain ⟨m, hm, hawaited⟩ := hserved.awaited n
  obtain ⟨hnears, H'⟩ : r.Nears (r.after schedule m) ∧ (r.after schedule m).Closing := H.after hr m
  obtain hlt | ⟨heq, hsame⟩ := hnears
  · exact ⟨m, .inr hlt⟩
  · by_cases hended : (r.after schedule m).phase = .ended
    · exact ⟨m, .inl hended⟩
    · obtain ⟨r', hmove, hlt⟩ := H'.awaited_move? (hr.after m) hended (hcamera m)
        (by rw [hsame]; exact hclock m hm)
      refine ⟨m + 1, .inr ?_⟩
      rw [← hawaited] at hmove
      rw [Run.after, hmove, Option.getD_some, ← heq]
      exact hlt

/-- A run that is to end ends. -/
theorem ends (H : r.Closing) (hr : Conducted settings r) (hserved : r.Served schedule)
    (hcamera : ∀ n, Camera.Returns (r.after schedule n).line.plant.camera) :
    ∃ n, (r.after schedule n).phase = .ended := by
  induction hleft : r.stepsLeft using Nat.strongRecOn generalizing r schedule with
  | ind left ih =>
    obtain ⟨n, hended | hlt⟩ := H.progresses hr hserved hcamera
    · exact ⟨n, hended⟩
    · obtain ⟨k, hk⟩ := ih _ (hleft ▸ hlt) (H.after hr n).2 (hr.after n) (hserved.rest n)
        (fun k => r.after_add schedule n k ▸ hcamera (n + k)) rfl
      exact ⟨n + k, r.after_add schedule n k ▸ hk⟩

/-- Where everybody takes steps again and again, so does whoever a closing run waits for: it waits for
the same one until that one has moved, or is closer to its end. -/
theorem served (H : r.Closing) (hr : Conducted settings r) (hfair : Fair schedule) :
    r.Served schedule where
  awaited n := by
    induction hleft : (r.after schedule n).stepsLeft using Nat.strongRecOn generalizing n with
    | ind left ih =>
      obtain ⟨m, hm, hmove⟩ := hfair.awaited (r.after schedule n) n
      obtain ⟨k, rfl⟩ := Nat.exists_eq_add_of_le hm
      have hnears : (r.after schedule n).Nears (r.after schedule (n + k)) := by
        rw [after_add]
        exact ((H.after hr n).2.after (hr.after n) k).1
      obtain hlt | ⟨-, hsame⟩ := hnears
      · obtain ⟨m', hm', hmove'⟩ := ih _ (hleft ▸ hlt) (n + k) rfl
        exact ⟨m', Nat.le_trans hm hm', hmove'⟩
      · exact ⟨n + k, hm, by rw [hmove, hsame]⟩
  time := hfair.time

end Closing
end Schedules
end Run
end TickCapture
