import TickCapture.Proofs.Config.Layers
import TickCapture.Proofs.Run.Conservation

/-! # What accepted settings promise

A run can be made with settings that were accepted: its pool has slots for the two frames that the
detector compares, there is a detector with their thresholds, and whatever keeps a stage from being
started comes from the host or the camera. One thing is not looked at beforehand: a mailbox reserves
space for all its entries at once, and a pool space for the handles of all its slots, and a capacity
can ask for more than can be addressed (`PipelineSettings.Oversized`).

The judgement itself runs into a fault where the recommended number of slots exceeds a word, for it
is worked out even where another number is set. -/

namespace TickCapture

/-! ### The judgement -/

namespace PipelineSettings

variable {s : PipelineSettings} {trouble : Trouble SettingsError} {fault : Fault}

theorem recommendedPool_eq_error : s.recommendedPool = .error trouble ↔
    trouble = .fault .overflow ∧ UInt64.size ≤ s.tickCapacity.toNat + poolHeadroom := by
  unfold recommendedPool word64
  split
  · next hlt => simp [hlt]
  · next hlt => simp [Nat.le_of_not_lt hlt, eq_comm]

theorem effectivePool_eq_error : s.effectivePool = .error trouble ↔
    trouble = .fault .overflow ∧ UInt64.size ≤ s.tickCapacity.toNat + poolHeadroom := by
  rw [← recommendedPool_eq_error, effectivePool]
  cases s.recommendedPool <;> simp [Except.map]

theorem checkRest_ne_fault : s.checkRest ≠ .error (.fault fault) := by
  unfold checkRest
  split
  · simp
  · split
    · simp
    · split <;> simp

theorem validate_eq_fault : s.validate.2 = .error (.fault fault) ↔
    fault = .overflow ∧ s.target ≠ 0 ∧ s.captureCapacity ≠ 0 ∧ s.tickCapacity ≠ 0 ∧
      UInt64.size ≤ s.tickCapacity.toNat + poolHeadroom := by
  constructor
  · intro h
    unfold validate at h
    split at h
    · cases h
    · next htarget =>
      split at h
      · cases h
      · next hcapacity =>
        rw [not_or] at hcapacity
        split at h
        · next hpool =>
          cases h
          obtain ⟨hfault, hword⟩ := effectivePool_eq_error.mp hpool
          cases hfault
          exact ⟨rfl, htarget, hcapacity.1, hcapacity.2, hword⟩
        · next hpool =>
          obtain ⟨hrecommended, -⟩ := effectivePool_eq_ok.mp hpool
          split at h
          · cases h
          · rw [recommendedPool_eq_ok.mpr ⟨hrecommended, rfl⟩] at h
            exact absurd h checkRest_ne_fault
  · rintro ⟨rfl, htarget, hcapture, htick, hword⟩
    rw [validate, if_neg htarget, if_neg (not_or.mpr ⟨hcapture, htick⟩),
      effectivePool_eq_error.mpr ⟨rfl, hword⟩]

theorem Valid.two_le_effectivePool (V : s.Valid) :
    ∃ slots, s.effectivePool = .ok slots ∧ 2 ≤ slots := by
  refine ⟨_, effectivePool_eq_ok.mpr ⟨V.recommended, rfl⟩, ?_⟩
  cases hset : s.poolCapacity with
  | none => exact Nat.le_add_left 2 (s.tickCapacity.toNat + 1)
  | some n => exact V.pool n hset

theorem Valid.cpu_lt {cpu : UInt64} (V : s.Valid) (stage : String)
    (hcpu : (stage, some cpu) ∈ [("capture", s.cpus.capture), ("detection", s.cpus.detection),
      ("persistence", s.cpus.persistence)]) : cpu.toNat < affinityLimit := by
  have hnone := List.findSome?_eq_none_iff.mp V.cpus _ hcpu
  exact Nat.lt_of_not_le fun hle => by simp [hle] at hnone

/-- The handles of the slots, or the entries of a mailbox, take more space than can be addressed. -/
def Oversized (s : PipelineSettings) : Prop :=
  (∃ slots, s.effectivePool = .ok slots ∧ addressLimit ≤ slots * Pool.handleBytes) ∨
    addressLimit ≤ s.captureCapacity.toNat * Mailbox.entryBytes Captured ∨
    addressLimit ≤ s.tickCapacity.toNat * Mailbox.entryBytes PooledBuffer

end PipelineSettings

theorem Mailbox.bounded_cases {α : Type} [MessageSize α] {capacity : Nat} (hne : capacity ≠ 0) :
    ((bounded capacity : Except Fault (Mailbox α)) = .error .capacityOverflow ∧
      addressLimit ≤ capacity * entryBytes α) ∨
    ∃ m : Mailbox α, bounded capacity = .ok m ∧ ¬addressLimit ≤ capacity * entryBytes α := by
  unfold bounded
  rw [if_neg hne]
  split
  · next hsize => exact .inl ⟨rfl, hsize⟩
  · next hfits => exact .inr ⟨_, rfl, hfits⟩

/-- A service whose processor an affinity set can hold is refused by the system only. -/
theorem Host.cause_of_refuse {h : Host} {spec : ServiceSpec} {failure : Failure}
    (hcpu : ∀ n, spec.cpu = some n → n < affinityLimit) (hrefuse : h.refuse spec = some failure) :
    ∃ e, failure.cause = .io e := by
  obtain ⟨inner, hinner, rfl⟩ := Option.map_eq_some_iff.mp hrefuse
  obtain hpinning | ⟨-, hclass⟩ := Option.or_eq_some_iff.mp hinner
  · obtain ⟨n, hn, hpinning⟩ := Option.bind_eq_some_iff.mp hpinning
    rw [refusePinning, if_neg (Nat.not_le_of_lt (hcpu n hn))] at hpinning
    split at hpinning <;> cases hpinning
    exact ⟨_, rfl⟩
  · split at hclass <;> cases hclass
    exact ⟨_, rfl⟩

/-! ### The run that is made -/

namespace Run

variable {κ σ : Type} {r r' : Run κ σ}

/-- The bytes of a slot can always be addressed, since their number is one of 32 bits. -/
theorem checkFormat_lt {device : String} {f : Format} {size : Nat}
    (h : checkFormat device f = .ok size) : size < addressLimit := by
  have hword (n : UInt32) : n.toNat < addressLimit := Nat.lt_trans n.toNat_lt (by decide)
  unfold checkFormat at h
  split at h
  · cases h
  · split at h
    · cases h
    · split at h
      · cases h
      · next hbytes =>
        cases h
        unfold Format.rgbFrameBytes Format.frameBytes at hbytes
        split at hbytes <;> cases hbytes
        exact hword _

theorem plant_cases {s : PipelineSettings} (V : s.Valid) (camera : κ) (sink : σ) {size : Nat}
    (hsize : size < addressLimit) (epoch : Moment) :
    plant s camera sink size epoch = .error (.fault .capacityOverflow) ∧ s.Oversized ∨
      ∃ p, plant s camera sink size epoch = .ok p ∧ ¬s.Oversized := by
  have hcapture : s.captureCapacity.toNat ≠ 0 := fun h => V.captureCapacity (UInt64.toNat_inj.mp h)
  have htick : s.tickCapacity.toNat ≠ 0 := fun h => V.tickCapacity (UInt64.toNat_inj.mp h)
  obtain ⟨slots, hslots, -⟩ := V.two_le_effectivePool
  obtain ⟨hpool, hlarge⟩ | ⟨hpool, hfits⟩ := Pool.new_cases 0 slots size
  · refine .inl ⟨?_, .inl ⟨slots, hslots, ?_⟩⟩
    · simp only [plant, hslots, hpool, mapError_error, bind, Except.bind]
    · exact hlarge.resolve_right fun h => absurd h.2 (Nat.not_le_of_lt hsize)
  · obtain ⟨hframes, hlarge⟩ | ⟨frames, hframes, hfits'⟩ :=
      Mailbox.bounded_cases (α := Captured) hcapture
    · refine .inl ⟨?_, .inr (.inl hlarge)⟩
      simp only [plant, hslots, hpool, hframes, mapError_ok, mapError_error, bind, Except.bind]
    · obtain ⟨hticks, hlarge⟩ | ⟨ticks, hticks, hfits''⟩ :=
        Mailbox.bounded_cases (α := PooledBuffer) htick
      · refine .inl ⟨?_, .inr (.inr hlarge)⟩
        simp only [plant, hslots, hpool, hframes, hticks, mapError_ok, mapError_error, bind,
          Except.bind]
      · obtain ⟨p, hplant⟩ : ∃ p, plant s camera sink size epoch = .ok p := by
          simp only [plant, hslots, hpool, hframes, hticks, mapError_ok, bind, Except.bind]
          exact ⟨_, rfl⟩
        refine .inr ⟨p, hplant, ?_⟩
        rintro (⟨slots', hslots', hlarge⟩ | hlarge | hlarge)
        · cases hslots.symm.trans hslots'
          exact hfits (.inl hlarge)
        · exact hfits' hlarge
        · exact hfits'' hlarge

/-- A run is made with accepted settings, if the camera's format is one that a run can be made with
and the pool and both mailboxes can be addressed. -/
theorem prepare_eq_error [Camera κ] {s : PipelineSettings} {host : Host} {camera : κ} {sink : σ}
    {epoch : Moment} {trouble : Trouble Failure} (V : s.Valid) :
    prepare s host camera sink epoch = .error trouble ↔
      (∃ failure, checkFormat (Camera.device camera) (Camera.format camera) = .error failure ∧
        trouble = .error failure) ∨
      (∃ size, checkFormat (Camera.device camera) (Camera.format camera) = .ok size) ∧
        s.Oversized ∧ trouble = .fault .capacityOverflow := by
  cases hformat : checkFormat (Camera.device camera) (Camera.format camera) with
  | error failure =>
    have hprepare : prepare s host camera sink epoch = .error (.error failure) := by
      rw [prepare, hformat]
      rfl
    rw [hprepare]
    simp [eq_comm]
  | ok size =>
    have hbind (next : Nat → Except (Trouble Failure) (Run κ σ)) :
        (Except.ok size : Except Failure Nat).mapError .error >>= next = next size := rfl
    obtain ⟨hplant, hover⟩ | ⟨p, hplant, hfits⟩ :=
      plant_cases V camera sink (checkFormat_lt hformat) epoch
    · have hprepare : prepare s host camera sink epoch = .error (.fault .capacityOverflow) := by
        rw [prepare, hformat, hbind, hplant]
      rw [hprepare]
      simp [hover, eq_comm]
    · obtain ⟨r, hprepare⟩ : ∃ r, prepare s host camera sink epoch = .ok r := by
        rw [prepare, hformat, hbind, hplant]
        exact ⟨_, rfl⟩
      rw [hprepare]
      simp [hfits]

/-- If not all stages could be started, it was because of the host or the camera. -/
def RefusedOutside (r : Run κ σ) : Prop :=
  ∀ failure, r.refused = some failure →
    (∃ e, failure.cause = .io e) ∨ ∃ e, failure.cause = .camera e

theorem cpu_lt_affinityLimit (V : r.settings.Valid) (stage : StageName) (n : Nat)
    (h : (r.serviceSpec stage).cpu = some n) : n < affinityLimit := by
  obtain ⟨cpu, hcpu, rfl⟩ := Option.map_eq_some_iff.mp h
  cases stage with
  | capture => exact V.cpu_lt "capture" (by simp [← hcpu])
  | detection => exact V.cpu_lt "detection" (by simp [← hcpu])
  | persistence => exact V.cpu_lt "persistence" (by simp [← hcpu])

namespace RefusedOutside

theorem of_none (h : r.refused = none) : r.RefusedOutside := by
  intro failure hfailure
  cases h.symm.trans hfailure

theorem of_refusal? {stage : StageName} {failure : Failure} (V : r.settings.Valid)
    (hrefusal : r.refusal? stage = some failure) (h : r'.refused = some failure) :
    r'.RefusedOutside := by
  intro failure' hfailure
  cases h.symm.trans hfailure
  exact .inl (Host.cause_of_refuse (cpu_lt_affinityLimit V stage) hrefusal)

theorem conduct? [Camera κ] (V : r.settings.Valid) (H : r.RefusedOutside)
    (h : r.conduct? = some r') : r'.RefusedOutside := by
  cases conduct?_cases h with
  | persistenceRefused _ hrefusal | captureRefused _ hrefusal => exact of_refusal? V hrefusal rfl
  | detectionRefused _ hrefused =>
    obtain hrefusal | ⟨e, hmake, -⟩ := hrefused
    · exact of_refusal? V hrefusal rfl
    · obtain ⟨hysteresis, hmake'⟩ := V.thresholds
      cases hmake.symm.trans hmake'
  | streamingFails _ hstart =>
    intro failure hfailure
    cases hfailure
    exact .inr ⟨_, rfl⟩
  | _ => exact H

theorem move? [Camera κ] [ImageSink σ] {m : Move} (V : r.settings.Valid) (H : r.RefusedOutside)
    (h : r.move? m = some r') : r'.RefusedOutside := by
  cases m with
  | stage name =>
    obtain ⟨l, -, rfl⟩ := Option.map_eq_some_iff.mp h
    exact H
  | conductor => exact H.conduct? V h
  | interrupt | pass => cases h; exact H

theorem reaches [Camera κ] [ImageSink σ] {settings : PipelineSettings} (V : settings.Valid)
    (hconducted : Conducted settings r) (H : r.RefusedOutside) (h : r.Reaches r') :
    r'.RefusedOutside := by
  induction h with
  | refl => exact H
  | move hr hmove ih =>
    have hsettings := (hconducted.reaches hr).settings_eq
    exact ih.move? (hsettings ▸ V) hmove
  | raiseStop name _ ih => exact ih

end RefusedOutside

/-- Settings are judged without a fault, unless images and both mailboxes are asked for and the
recommended number of slots exceeds a word. If they are accepted, the pool gets two slots at least,
and a run is made with them if the camera's format allows it and the pool and both mailboxes can be
addressed; if one cannot, there is a fault. Whatever such a run comes to, no stage was refused because
of the thresholds or of a processor that no affinity set can hold. -/
theorem accepted_settings_make_runs [Camera κ] [ImageSink σ] (s : PipelineSettings) (host : Host)
    (camera : κ) (sink : σ) (epoch : Moment) :
    (∀ fault, s.validate.2 = .error (.fault fault) ↔
      fault = .overflow ∧ s.target ≠ 0 ∧ s.captureCapacity ≠ 0 ∧ s.tickCapacity ≠ 0 ∧
        UInt64.size ≤ s.tickCapacity.toNat + PipelineSettings.poolHeadroom) ∧
    (s.validate.2 = .ok () →
      (∃ slots, s.effectivePool = .ok slots ∧ 2 ≤ slots) ∧
      (∀ trouble, prepare s host camera sink epoch = .error trouble ↔
        (∃ failure, checkFormat (Camera.device camera) (Camera.format camera) = .error failure ∧
          trouble = .error failure) ∨
        (∃ size, checkFormat (Camera.device camera) (Camera.format camera) = .ok size) ∧
          s.Oversized ∧ trouble = .fault .capacityOverflow) ∧
      ∀ r₀ r failure, prepare s host camera sink epoch = .ok r₀ → Reaches r₀ r →
        r.refused = some failure →
          (∃ e, failure.cause = .io e) ∨ ∃ e, failure.cause = .camera e) := by
  refine ⟨fun fault => PipelineSettings.validate_eq_fault, fun haccepted => ?_⟩
  have V := PipelineSettings.validate_eq_ok.mp haccepted
  refine ⟨V.two_le_effectivePool, fun trouble => prepare_eq_error V,
    fun r₀ r failure hprepare hr => ?_⟩
  obtain ⟨-, -, hunrefused, -⟩ := prepare_eq_ok hprepare
  exact (RefusedOutside.of_none hunrefused).reaches V (.prepare hprepare) hr failure

/-! ### Capacities at the end of their range -/

/-- Settings that are accepted, though no space can be reserved for the captured frames. -/
def oversized : PipelineSettings :=
  { PipelineSettings.standard with captureCapacity := 4611686018427387904 }

/-- Settings that are accepted, though no space can be reserved for the handles of the slots. -/
def sprawling : PipelineSettings :=
  { PipelineSettings.standard with poolCapacity := some 576460752303423488 }

/-- Settings with a pool that is too small, and more waiting images than a word can count. -/
def countless : PipelineSettings :=
  { PipelineSettings.standard with tickCapacity := 18446744073709551615, poolCapacity := some 1 }

theorem oversized_valid : oversized.Valid :=
  { PipelineSettings.standard_valid with captureCapacity := by decide }

theorem sprawling_valid : sprawling.Valid :=
  { PipelineSettings.standard_valid with pool := by rintro n ⟨rfl⟩; decide }

theorem pinned_valid : pinned.Valid :=
  { PipelineSettings.standard_valid with
    captureCapacity := by decide
    tickCapacity := by decide
    recommended := by decide
    cpus := by decide }

/-- Not every judgement is without a fault, and not all accepted settings make a run. -/
theorem faults_of_capacities :
    countless.validate.2 = .error (.fault .overflow) ∧ oversized.validate.2 = .ok () ∧
      (Mailbox.bounded oversized.captureCapacity.toNat : Except Fault (Mailbox Captured)) =
        .error .capacityOverflow ∧
      sprawling.validate.2 = .ok () ∧ ∃ slots, sprawling.effectivePool = .ok slots ∧
        ∀ size, Pool.new 0 slots size = .error .capacityOverflow := by
  refine ⟨PipelineSettings.validate_eq_fault.mpr (by decide),
    PipelineSettings.validate_eq_ok.mpr oversized_valid, rfl,
    PipelineSettings.validate_eq_ok.mpr sprawling_valid, _, rfl, fun size => ?_⟩
  exact if_pos (.inl (by decide))

/-- A run on a host that lacks the processor, and two that cannot be made. -/
theorem runs_of_accepted_settings :
    (∃ (r₀ r : Run SyntheticCamera MemoryStore) (failure : Failure),
      prepare pinned ⟨1, true⟩ twoBuffers MemoryStore.empty 0 = .ok r₀ ∧ Reaches r₀ r ∧
        r.refused = some failure ∧
        ((∃ e, failure.cause = .io e) ∨ ∃ e, failure.cause = .camera e)) ∧
    prepare oversized ⟨1, true⟩ twoBuffers MemoryStore.empty 0 =
      .error (.fault .capacityOverflow) ∧
    prepare sprawling ⟨1, true⟩ twoBuffers MemoryStore.empty 0 =
      .error (.fault .capacityOverflow) := by
  refine ⟨?_, ?_, ?_⟩
  · obtain ⟨r₀, hprepare⟩ : ∃ r₀ : Run SyntheticCamera MemoryStore,
        prepare pinned ⟨1, true⟩ twoBuffers MemoryStore.empty 0 = .ok r₀ := ⟨_, rfl⟩
    have hr : Reaches r₀ (r₀.moves refusedStart) := Reaches.refl.moves _
    obtain ⟨failure, hrefused⟩ : ∃ failure, (r₀.moves refusedStart).refused = some failure := by
      cases hprepare
      exact ⟨_, rfl⟩
    have haccepted := PipelineSettings.validate_eq_ok.mpr pinned_valid
    obtain ⟨-, -, hrefusals⟩ := (accepted_settings_make_runs pinned ⟨1, true⟩ twoBuffers
      MemoryStore.empty 0).2 haccepted
    exact ⟨r₀, _, failure, hprepare, hr, hrefused, hrefusals r₀ _ failure hprepare hr hrefused⟩
  · have haccepted := PipelineSettings.validate_eq_ok.mpr oversized_valid
    obtain ⟨-, hmade, -⟩ := (accepted_settings_make_runs oversized ⟨1, true⟩ twoBuffers
      MemoryStore.empty 0).2 haccepted
    exact (hmade _).mpr (.inr ⟨⟨_, rfl⟩, .inr (.inl (by decide)), rfl⟩)
  · have haccepted := PipelineSettings.validate_eq_ok.mpr sprawling_valid
    obtain ⟨-, hmade, -⟩ := (accepted_settings_make_runs sprawling ⟨1, true⟩ twoBuffers
      MemoryStore.empty 0).2 haccepted
    exact (hmade _).mpr (.inr ⟨⟨_, rfl⟩, .inl ⟨_, rfl, by decide⟩, rfl⟩)

end Run
end TickCapture
