import Mathlib.Algebra.GroupWithZero.Nat
import Mathlib.Data.List.Forall2
import TickCapture.Proofs.Stage.CaptureTurns
import TickCapture.Rehearsal.ScriptedCamera

/-! # The pace of the capture stage

With an interval set, the stage sleeps after each frame until a deadline: an interval after the last
one, or after what the clock read at the end of the last sleep if that was later. A clock that does not
go back never reads less than the deadline then, unless the stage is asked to stop. So the deadlines are
those of a schedule that starts with the stage, each of them late by all that the sleeps before it
overshot by. -/

namespace TickCapture

variable {κ σ : Type}

/-- The next deadline stays as it is while the stage is in this phase. -/
def CapturePhase.working : CapturePhase → Bool
  | .starting | .pacing | .paced => false
  | _ => true

namespace CaptureStage

/-- The stage in surroundings in which time does not go back; they may become any others otherwise. -/
abbrev Timely [Camera κ] (p₀ : Plant κ σ) (w₀ : Worker CaptureStage) :
    List (Turn (Plant κ σ) CaptureStage) → Plant κ σ → Worker CaptureStage → Prop :=
  TickCapture.Course (fun p w p' w' => w.stepCapture? p = some (p', w'))
    (fun p _ p' => p.clock ≤ p'.clock) p₀ w₀

/-! ### What a stage reads and waits for -/

/-- What the clock reads when the stage starts. -/
def startedAt? (t : Turn (Plant κ σ) CaptureStage) : Option Clock :=
  match t.worker.stage.phase with
  | .starting => some t.around.clock
  | _ => none

/-- The deadline of a sleep. -/
def deadline? (t : Turn (Plant κ σ) CaptureStage) : Option Clock :=
  match t.worker.stage.request with
  | .sleep deadline => some deadline
  | _ => none

/-- What the clock reads after a sleep. -/
def wokenAt? (t : Turn (Plant κ σ) CaptureStage) : Option Clock :=
  match t.worker.stage.phase with
  | .paced => some t.around.clock
  | _ => none

section Records

variable (ts : List (Turn (Plant κ σ) CaptureStage))

def startsOf : List Clock := ts.filterMap startedAt?

def deadlinesOf : List Clock := ts.filterMap deadline?

def wokenOf : List Clock := ts.filterMap wokenAt?

end Records

/-- By how much each sleep lasted longer than until its deadline. -/
def overshoots (deadlines woken : List Clock) : List Clock :=
  List.zipWith (fun deadline now => now - deadline) deadlines woken

theorem sum_overshoots_append {ds us : List Clock} (h : ds.length = us.length) (d u : Clock) :
    (overshoots (ds ++ [d]) (us ++ [u])).sum = (overshoots ds us).sum + (u - d) := by
  rw [overshoots, List.zipWith_append h, List.sum_append]
  rfl

/-- Sleeps that did not end too early ended in time if none of them overshot. -/
theorem sum_overshoots_eq_zero {ds us : List Clock} (h : List.Forall₂ (· ≤ ·) ds us) :
    (overshoots ds us).sum = 0 ↔ us = ds := by
  induction h with
  | nil => exact ⟨fun _ => rfl, fun _ => rfl⟩
  | @cons d u ds us hle _ ih =>
    have hcons : (overshoots (d :: ds) (u :: us)).sum = u - d + (overshoots ds us).sum :=
      List.sum_cons
    rw [hcons, List.cons.injEq, ← ih, Nat.add_eq_zero_iff, Nat.sub_eq_zero_iff_le]
    exact and_congr_left fun _ => ⟨fun h => Nat.le_antisymm h hle, Nat.le_of_eq⟩

/-! ### What a turn does to the next deadline -/

variable {interval now start : Clock} {stop : Bool} {s s' : CaptureStage}

/-- The cases of a turn that is taken when the clock reads `now`. -/
inductive Paces (interval now : Clock) (stop : Bool) (s : CaptureStage) : CaptureStage → Prop
  | starts : s.phase = .starting →
    Paces interval now stop s { s with nextDue := now, phase := .checking }
  | works {s' : CaptureStage} : s.phase.working = true → s'.phase.working = true →
    s'.nextDue = s.nextDue → Paces interval now stop s s'
  | rests {s' : CaptureStage} : s.phase.working = true → s'.phase = .pacing →
    s'.nextDue = s.nextDue + interval → Paces interval now stop s s'
  | sleeps : s.phase = .pacing → s.nextDue ≤ now ∨ stop = true →
    Paces interval now stop s (s.enter .paced)
  | wakes : s.phase = .paced →
    Paces interval now stop s { s with nextDue := max s.nextDue now, phase := .checking }

theorem rests_afterFrame (hworking : s.phase.working = true) (hdue : s'.nextDue = s.nextDue)
    (hinterval : s'.settings.interval = some interval) :
    Paces interval now stop s s'.afterFrame := by
  rw [afterFrame, hinterval]
  exact .rests hworking rfl (congrArg (· + interval) hdue)

end CaptureStage

theorem CaptureStep.paces [Camera κ] {p p' : Plant κ σ} {w : Worker CaptureStage}
    {s : CaptureStage} {interval : Clock} (h : CaptureStep p w p' s)
    (hinterval : w.stage.settings.interval = some interval) :
    w.stage.Paces interval p.clock w.stop s := by
  cases h with
  | starts hp => exact .starts hp
  | sends hp | rejects hp =>
    exact CaptureStage.rests_afterFrame (by rw [hp]; rfl) rfl hinterval
  | sleeps hp hdue => exact .sleeps hp hdue
  | wakes hp => exact .wakes hp
  | _ hp => exact .works (by rw [hp]; rfl) rfl rfl

namespace CaptureStage

variable {interval now start : Clock} {stop : Bool} {s : CaptureStage} {starts ds us : List Clock}
  {p₀ p : Plant κ σ} {w₀ w : Worker CaptureStage}

/-! ### What a turn preserves -/

/-- The deadlines of sleeps and what the clock read after each: not less, unless a stop was asked for. -/
structure Slept (stop : Bool) (ds us : List Clock) : Prop where
  length_eq : ds.length = us.length
  late : stop = false → List.Forall₂ (· ≤ ·) ds us

theorem Slept.append (H : Slept stop ds us) {d u : Clock}
    (h : stop = false → d ≤ u) : Slept stop (ds ++ [d]) (us ++ [u]) where
  length_eq := by rw [List.length_append, List.length_append, H.length_eq]; rfl
  late hstop := List.rel_append (H.late hstop) (.cons (h hstop) .nil)

/-- The end of so many intervals after `start`, put off by what these sleeps overshot by. -/
def due (interval start : Clock) (sleeps : Nat) (ds us : List Clock) : Clock :=
  start + sleeps * interval + (overshoots ds us).sum

/-- The next deadline of a stage, told from the clock when it started, the deadlines of its sleeps and
the clock when they were over. -/
inductive Rhythm (interval now : Clock) (stop : Bool) (s : CaptureStage) :
    (starts deadlines woken : List Clock) → Prop
  | unstarted : s.phase = .starting → Rhythm interval now stop s [] [] []
  | working {start : Clock} {ds us : List Clock} : s.phase.working = true → Slept stop ds us →
    s.nextDue = due interval start ds.length ds us → Rhythm interval now stop s [start] ds us
  | asleep {start : Clock} {ds us : List Clock} : s.phase = .pacing → Slept stop ds us →
    s.nextDue = due interval start (ds.length + 1) ds us → Rhythm interval now stop s [start] ds us
  | awake {start : Clock} {ds us : List Clock} : s.phase = .paced → Slept stop ds us →
    s.nextDue = due interval start (ds.length + 1) ds us → (stop = false → s.nextDue ≤ now) →
    Rhythm interval now stop s [start] (ds ++ [s.nextDue]) us

theorem records_of_working {t : Turn (Plant κ σ) CaptureStage}
    (h : t.worker.stage.phase.working = true) :
    startedAt? t = none ∧ deadline? t = none ∧ wokenAt? t = none := by
  unfold startedAt? deadline? wokenAt? request
  cases hp : t.worker.stage.phase with
  | starting | pacing | paced =>
    rw [hp] at h
    cases h
  | _ => exact ⟨rfl, rfl, rfl⟩

namespace Rhythm

theorem mono {now' : Clock} (H : s.Rhythm interval now stop starts ds us) (h : now ≤ now') :
    s.Rhythm interval now' stop starts ds us := by
  cases H with
  | unstarted hp => exact .unstarted hp
  | working hp hslept hdue => exact .working hp hslept hdue
  | asleep hp hslept hdue => exact .asleep hp hslept hdue
  | awake hp hslept hdue hlate =>
    exact .awake hp hslept hdue fun hstop => Nat.le_trans (hlate hstop) h

theorem raiseStop (H : s.Rhythm interval now stop starts ds us) :
    s.Rhythm interval now true starts ds us := by
  have hslept {ds us : List Clock} (H : Slept stop ds us) : Slept true ds us := ⟨H.length_eq, nofun⟩
  cases H with
  | unstarted hp => exact .unstarted hp
  | working hp hs hdue => exact .working hp (hslept hs) hdue
  | asleep hp hs hdue => exact .asleep hp (hslept hs) hdue
  | awake hp hs hdue => exact .awake hp (hslept hs) hdue nofun

theorem of_starting (H : s.Rhythm interval now stop starts ds us) (hp : s.phase = .starting) :
    starts = [] ∧ ds = [] ∧ us = [] := by
  cases H with
  | unstarted => exact ⟨rfl, rfl, rfl⟩
  | working hp' | asleep hp' | awake hp' =>
    rw [hp] at hp'
    cases hp'

theorem of_working (H : s.Rhythm interval now stop starts ds us) (hw : s.phase.working = true) :
    ∃ start, starts = [start] ∧ Slept stop ds us ∧
      s.nextDue = due interval start ds.length ds us := by
  cases H with
  | working _ hslept hdue => exact ⟨_, rfl, hslept, hdue⟩
  | unstarted hp | asleep hp | awake hp =>
    rw [hp] at hw
    cases hw

theorem of_pacing (H : s.Rhythm interval now stop starts ds us) (hp : s.phase = .pacing) :
    ∃ start, starts = [start] ∧ Slept stop ds us ∧
      s.nextDue = due interval start (ds.length + 1) ds us := by
  cases H with
  | asleep _ hslept hdue => exact ⟨_, rfl, hslept, hdue⟩
  | unstarted hp' | working hp' | awake hp' =>
    rw [hp] at hp'
    cases hp'

theorem of_paced (H : s.Rhythm interval now stop starts ds us) (hp : s.phase = .paced) :
    ∃ start before, starts = [start] ∧ ds = before ++ [s.nextDue] ∧ Slept stop before us ∧
      s.nextDue = due interval start (before.length + 1) before us ∧
      (stop = false → s.nextDue ≤ now) := by
  cases H with
  | awake _ hslept hdue hlate => exact ⟨_, _, rfl, rfl, hslept, hdue, hlate⟩
  | unstarted hp' | working hp' | asleep hp' =>
    rw [hp] at hp'
    cases hp'

theorem step (H : w.stage.Rhythm interval p.clock w.stop starts ds us)
    (h : w.stage.Paces interval p.clock w.stop s) :
    s.Rhythm interval p.clock w.stop (starts ++ (startedAt? ⟨p, w⟩).toList)
      (ds ++ (deadline? ⟨p, w⟩).toList) (us ++ (wokenAt? ⟨p, w⟩).toList) := by
  cases h with
  | starts hp =>
    obtain ⟨rfl, rfl, rfl⟩ := H.of_starting hp
    simp only [startedAt?, deadline?, wokenAt?, request, hp]
    exact .working rfl ⟨rfl, fun _ => .nil⟩ (by simp [due, overshoots])
  | works hw hw' hdue' =>
    obtain ⟨start, rfl, hslept, hdue⟩ := H.of_working hw
    obtain ⟨hstarted, hdeadline, hwoken⟩ := records_of_working (t := ⟨p, w⟩) hw
    rw [hstarted, hdeadline, hwoken]
    simp only [Option.toList_none, List.append_nil]
    exact .working hw' hslept (hdue'.trans hdue)
  | rests hw hp' hdue' =>
    obtain ⟨start, rfl, hslept, hdue⟩ := H.of_working hw
    obtain ⟨hstarted, hdeadline, hwoken⟩ := records_of_working (t := ⟨p, w⟩) hw
    rw [hstarted, hdeadline, hwoken]
    simp only [Option.toList_none, List.append_nil]
    refine .asleep hp' hslept ?_
    rw [hdue', hdue, due, due, Nat.succ_mul, ← Nat.add_assoc, Nat.add_right_comm]
  | sleeps hp hready =>
    obtain ⟨start, rfl, hslept, hdue⟩ := H.of_pacing hp
    simp only [startedAt?, deadline?, wokenAt?, request, hp, Option.toList_none, Option.toList_some,
      List.append_nil]
    exact .awake rfl hslept hdue fun hstop => hready.resolve_right (Bool.eq_false_iff.mp hstop)
  | wakes hp =>
    obtain ⟨start, before, rfl, rfl, hslept, hdue, hlate⟩ := H.of_paced hp
    simp only [startedAt?, deadline?, wokenAt?, request, hp, Option.toList_none, Option.toList_some,
      List.append_nil]
    refine .working rfl (hslept.append hlate) ?_
    -- the deadline moves on by what the sleep overshot by
    calc max w.stage.nextDue p.clock
        = w.stage.nextDue + (p.clock - w.stage.nextDue) := by
          rw [Nat.add_comm, Nat.sub_add_eq_max, Nat.max_comm]
      _ = due interval start _ _ _ := by
          rw [due, sum_overshoots_append hslept.length_eq, List.length_append,
            List.length_singleton, ← Nat.add_assoc, ← due, ← hdue]

end Rhythm

/-! ### A whole course -/

namespace Timely

variable [Camera κ] {ts : List (Turn (Plant κ σ) CaptureStage)} {settings : CaptureSettings}

theorem settings_eq (H : Timely p₀ (.start (.new settings) now) ts p w) :
    w.stage.settings = settings :=
  H.stage_invariant (P := fun s => s.settings = settings) rfl fun h hs => by
    obtain ⟨s, rfl, hs'⟩ := Worker.stepCapture?_cases h
    exact hs'.passes.settings_eq.trans hs

theorem rhythm (H : Timely p₀ (.start (.new settings) now) ts p w)
    (hinterval : settings.interval = some interval) :
    w.stage.Rhythm interval p.clock w.stop (startsOf ts) (deadlinesOf ts) (wokenOf ts) := by
  induction H with
  | start => exact .unstarted rfl
  | meanwhile _ hclock ih => exact ih.mono hclock
  | raiseStop _ ih => exact ih.raiseStop
  | @turn ts p _ w _ H h ih =>
    obtain ⟨s, rfl, hs⟩ := Worker.stepCapture?_cases h
    have hsettings : w.stage.settings.interval = some interval := by
      rw [Timely.settings_eq H, hinterval]
    rw [startsOf, deadlinesOf, wokenOf, filterMap_concat, filterMap_concat, filterMap_concat,
      hs.clock_eq]
    exact ih.step (hs.paces hsettings)

end Timely

/-- Every sleep is asked for until a moment of the schedule that begins with the stage, put off by all
that the sleeps before it overshot by. So as long as nobody asks the stage to stop it is on schedule
only if each of these sleeps ended at its deadline exactly: what one of them overshot by is not made up
for. -/
theorem sleep_deadline_eq [Camera κ] {ts : List (Turn (Plant κ σ) CaptureStage)}
    {settings : CaptureSettings} {deadline : Clock}
    (H : Timely p₀ (.start (.new settings) now) ts p w)
    (hinterval : settings.interval = some interval) (hsleep : w.stage.request = .sleep deadline) :
    ∃ start, startsOf ts = [start] ∧
      deadline = start + ((deadlinesOf ts).length + 1) * interval +
        (overshoots (deadlinesOf ts) (wokenOf ts)).sum ∧
      (w.stop = false →
        List.Forall₂ (· ≤ ·) (deadlinesOf ts) (wokenOf ts) ∧
        (deadline = start + ((deadlinesOf ts).length + 1) * interval ↔
          wokenOf ts = deadlinesOf ts)) := by
  have hphase : w.stage.phase = .pacing ∧ w.stage.nextDue = deadline := by
    unfold request at hsleep
    split at hsleep <;> cases hsleep
    exact ⟨‹_›, rfl⟩
  obtain ⟨hpacing, rfl⟩ := hphase
  obtain ⟨start, hstart, hslept, hdue⟩ := (H.rhythm hinterval).of_pacing hpacing
  refine ⟨start, hstart, hdue, fun hstop => ⟨hslept.late hstop, ?_⟩⟩
  rw [← sum_overshoots_eq_zero (hslept.late hstop), hdue, due]
  exact Nat.add_eq_left

/-! ### A sleep that overshoots -/

/-- A camera that has two frames, and space for both of them. -/
def twoShots : Plant ScriptedCamera Unit where
  camera := {
    device := "bench", format := .packed 2 1 .yuyv, inner := none, queue := .new [],
    cycles := List.replicate 2 { Cycle.plain with
      frame := .usual (some ⟨#[16, 128, 16, 128], none, none, none, none, 0⟩) }
    current := .plain, startError := none, stopError := none, made := 0, transientErrors := 0 }
  frames := ⟨2, [], 0, 1, true⟩
  pool := .fresh 0 0 0
  ticks := ⟨1, [], 0, 1, true⟩
  sink := ()
  clock := 0
  epoch := 0
  logs := #[]

/-- A stage that takes a frame every ten units of time. -/
def everyTen : Worker CaptureStage := .start (.new ⟨"bench", 0, some 10, .block⟩) 0

/-- The turns up to the first sleep. -/
def toFirstSleep : List (Turn (Plant ScriptedCamera Unit) CaptureStage) ×
    Plant ScriptedCamera Unit × Worker CaptureStage :=
  Course.alone (fun p w => w.stepCapture? p) 6 twoShots everyTen

/-- The turns from there to the second sleep; the first one overshoots by one unit of time. -/
def toSecondSleep : List (Turn (Plant ScriptedCamera Unit) CaptureStage) ×
    Plant ScriptedCamera Unit × Worker CaptureStage :=
  Course.alone (fun p w => w.stepCapture? p) 7 (toFirstSleep.2.1.pass 11) toFirstSleep.2.2

def overslept : List (Turn (Plant ScriptedCamera Unit) CaptureStage) :=
  toFirstSleep.1 ++ toSecondSleep.1

theorem timely_overslept :
    Timely twoShots everyTen overslept toSecondSleep.2.1 toSecondSleep.2.2 :=
  ((Course.start.then_alone 6).meanwhile (Nat.le_add_right _ 11)).then_alone 7

/-- The second sleep is until twenty-one, and not until twenty. -/
theorem sleep_deadline_eq_overslept :
    deadlinesOf overslept = [10] ∧ wokenOf overslept = [11] ∧
    ∃ start, startsOf overslept = [start] ∧ 21 = start + (1 + 1) * 10 + 1 ∧
      21 ≠ start + (1 + 1) * 10 := by
  obtain ⟨start, hstart, hdue, hschedule⟩ := sleep_deadline_eq timely_overslept
    (show some 10 = some 10 from rfl)
    (show toSecondSleep.2.2.stage.request = .sleep 21 from rfl)
  exact ⟨rfl, rfl, start, hstart, hdue, mt (hschedule rfl).2.mp (by decide)⟩

/-- Every frame is sent before the sleep after it is to be over, and every sleep is over before the
next one is to be. -/
structure Unhurried [Camera κ] (interval : Clock) (ts : List (Turn (Plant κ σ) CaptureStage)) :
    Prop where
  sent : ∀ t ∈ ts, ∀ frame, event t = .sent frame →
    t.around.clock < t.worker.stage.nextDue + interval
  woken : ∀ overshoot ∈ overshoots (deadlinesOf ts) (wokenOf ts), overshoot < interval

theorem unhurried_overslept : Unhurried 10 overslept where
  sent t ht frame hevent := by
    have hall : (overslept.all fun t =>
        (event t).sent?.isNone || decide (t.around.clock < t.worker.stage.nextDue + 10)) = true := rfl
    have ht := List.all_eq_true.mp hall t ht
    rw [hevent] at ht
    exact of_decide_eq_true ht
  woken := by decide

/-- What a sleep overshoots by is not made up for, even if nothing else takes long. -/
theorem schedule_not_kept :
    ¬∀ (ts : List (Turn (Plant ScriptedCamera Unit) CaptureStage)) (p : Plant ScriptedCamera Unit)
      (w : Worker CaptureStage) (start deadline : Clock),
      Timely twoShots everyTen ts p w → w.stop = false → Unhurried 10 ts → startsOf ts = [start] →
      w.stage.request = .sleep deadline → deadline = start + ((deadlinesOf ts).length + 1) * 10 := by
  intro h
  exact absurd (h overslept _ _ 0 21 timely_overslept rfl unhurried_overslept rfl rfl) (by decide)

end CaptureStage
end TickCapture
