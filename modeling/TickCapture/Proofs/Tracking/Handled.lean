import TickCapture.Proofs.Detect.Feeding
import TickCapture.Proofs.Detect.Offering
import TickCapture.Proofs.Stage.Dialogue

/-! # Frames that the detection stage is done with

The reference for the detection stage is a new detector that is offered, one after another, the converted
frames for which there was a slot (`Handled`): what the stage is to send on, and what it is to count, is
told by what that detector gives back. The stage may end when all frames are handled, or with the first
that cannot be (`Due`, `Unfit`). -/

namespace TickCapture

/-! ### The reference, one frame further -/

namespace TickDetector

variable {α : Type} [Scale α] {h : Hysteresis α} {d : TickDetector α} {out : Detection}
  {offered : List PooledBuffer} {b : PooledBuffer}

theorem offerAll_concat (hproc : ((new h).offerAll offered).1.process b = (d, out)) :
    (new h).offerAll (offered ++ [b]) = (d, ((new h).offerAll offered).2 ++ [out]) := by
  rw [offerAll_append, offerAll, hproc]
  rfl

theorem displacedFrom_concat (hproc : ((new h).offerAll offered).1.process b = (d, out)) :
    displacedFrom h (offered ++ [b]) = displacedFrom h offered ++ out.displaced?.toList := by
  rw [displacedFrom, offerAll_concat hproc, List.filterMap_append]
  cases out <;> rfl

end TickDetector

namespace DetectionStage

/-- What became of the frames that got a slot: converted into it, or not. -/
def conversionsOf (tried : List (Captured × Option PooledBuffer)) :
    List (Except (Trouble DetectError) PooledBuffer) :=
  tried.filterMap fun (frame, slot) => slot.map (convertInto · frame.format frame.bytes)

/-- A frame has as many bytes as the first one of all. -/
def Fits (es : List Exchange) (f : Captured) : Prop :=
  ∀ first ∈ (receivedOf es).head?, f.used = first.used

/-- After the exchanges `es` the stage is done with the frames `tried`, each with the slot that it got,
if it got one. What was converted of them, `offered`, the detector took; and of what that gave back the
stage has sent what it should, but for `outgoing`. In hand is `hand`, a frame perhaps, and `got` is what
came of asking for a slot for it. -/
structure Handled (h : Hysteresis Float) (forwardAll : Bool) (es : List Exchange)
    (tried : List (Captured × Option PooledBuffer)) (offered : List PooledBuffer)
    (hand : List Captured) (got : List (Option PooledBuffer)) (outgoing : List PooledBuffer) :
    Prop where
  received : receivedOf es = tried.map (·.1) ++ hand
  acquisitions : acquisitionsOf es = tried.map (·.2) ++ got
  fits : ∀ x ∈ tried, Fits es x.1
  converted : conversionsOf tried = offered.map .ok
  accepted : ∀ out ∈ ((TickDetector.new h).offerAll offered).2, ∀ e b, out ≠ .rejected e b
  /-- To be sent is what is selected, or everything. -/
  sent : sentOf es ++ outgoing =
    (TickDetector.displacedFrom h offered).filter fun b => b.selected || forwardAll

/-- What the stage counts when it has offered `offered`. -/
def tally (h : Hysteresis Float) (es : List Exchange) (offered : List PooledBuffer) :
    DetectionReport where
  received := (receivedOf es).length
  converted := offered.length
  poolExhausted := (acquisitionsOf es).countP (·.isNone)
  ticks := (TickDetector.displacedFrom h offered).countP (·.selected)
  forwarded := (sentOf es).length
  discarded := 0

section Due

variable (h : Hysteresis Float) (forwardAll : Bool) (es : List Exchange)

/-- How the stage ends that is not asked to stop and finds somebody to receive what it sends: with all
frames handled, or with the last one in hand, for which it fails. -/
inductive Due : Ending DetectionReport → Prop
  /-- No more frames come. -/
  | finished {tried : List (Captured × Option PooledBuffer)} {offered : List PooledBuffer} :
    Handled h forwardAll es tried offered [] [] [] → Due (.finished (tally h es offered))
  /-- The frame has not as many bytes as the first one. -/
  | resized {tried : List (Captured × Option PooledBuffer)} {offered : List PooledBuffer}
      {f first : Captured} : Handled h forwardAll es tried offered [f] [] [] →
    (receivedOf es).head? = some first → f.used ≠ first.used →
    Due (.failed ⟨[.capturing f.sequence], .detect (.frameSizeMismatch first.used f.used)⟩)
  /-- The frame got a slot and cannot be converted. -/
  | unconverted {tried : List (Captured × Option PooledBuffer)} {offered : List PooledBuffer}
      {f : Captured} {slot : PooledBuffer} {e : DetectError} :
    Handled h forwardAll es tried offered [f] [some slot] [] → Fits es f →
    convertInto slot f.format f.bytes = .error (.error e) →
    Due (.failed ⟨[.converting f.sequence], .detect e⟩)
  | conversionFaults {tried : List (Captured × Option PooledBuffer)} {offered : List PooledBuffer}
      {f : Captured} {slot : PooledBuffer} {fault : Fault} :
    Handled h forwardAll es tried offered [f] [some slot] [] → Fits es f →
    convertInto slot f.format f.bytes = .error (.fault fault) → Due (.faulted fault)
  /-- The frame is converted, and the camera refuses its buffer. -/
  | refused {tried : List (Captured × Option PooledBuffer)} {offered : List PooledBuffer}
      {f : Captured} {slot b : PooledBuffer} {e : IoError} :
    Handled h forwardAll es tried offered [f] [some slot] [] → Fits es f →
    convertInto slot f.format f.bytes = .ok b → ⟨.giveBack f, .refused e⟩ ∈ es →
    Due (.failed ⟨[.returningBuffer], .io e⟩)
  /-- The frame is converted, and the detector rejects it. -/
  | rejected {tried : List (Captured × Option PooledBuffer)} {offered : List PooledBuffer}
      {f : Captured} {slot b back : PooledBuffer} {d : TickDetector Float} {e : DetectError} :
    Handled h forwardAll es tried offered [f] [some slot] [] → Fits es f →
    convertInto slot f.format f.bytes = .ok b →
    ((TickDetector.new h).offerAll offered).1.process b = (d, .rejected e back) →
    Due (.failed (.of (.detect e)))

end Due

variable {h : Hysteresis Float} {forwardAll : Bool} {es es' : List Exchange} {e : Exchange}
  {tried : List (Captured × Option PooledBuffer)} {offered outgoing : List PooledBuffer}
  {f : Captured} {slot b x : PooledBuffer} {hand : List Captured}
  {got : List (Option PooledBuffer)} {ending : Ending DetectionReport}

/-! ### One exchange, and one frame, further -/

/-- Nothing is received or sent, and no slot is asked for. -/
structure Exchange.Quiet (e : Exchange) : Prop where
  received : e.received? = none
  acquisition : e.acquisition? = none
  sent : e.sent? = none

namespace Exchange.Quiet

theorem receivedOf_eq (he : e.Quiet) (es : List Exchange) :
    receivedOf (es ++ [e]) = receivedOf es := by
  rw [receivedOf_concat, he.received]
  exact List.append_nil _

theorem acquisitionsOf_eq (he : e.Quiet) (es : List Exchange) :
    acquisitionsOf (es ++ [e]) = acquisitionsOf es := by
  rw [acquisitionsOf_concat, he.acquisition]
  exact List.append_nil _

theorem sentOf_eq (he : e.Quiet) (es : List Exchange) : sentOf (es ++ [e]) = sentOf es := by
  rw [sentOf_concat, he.sent]
  exact List.append_nil _

theorem tally_eq (he : e.Quiet) (h : Hysteresis Float) (es : List Exchange)
    (offered : List PooledBuffer) : tally h (es ++ [e]) offered = tally h es offered := by
  rw [tally, he.receivedOf_eq, he.acquisitionsOf_eq, he.sentOf_eq]
  rfl

end Exchange.Quiet

theorem conversionsOf_concat (tried : List (Captured × Option PooledBuffer)) (f : Captured)
    (slot : Option PooledBuffer) : conversionsOf (tried ++ [(f, slot)]) =
      conversionsOf tried ++ (slot.map (convertInto · f.format f.bytes)).toList := by
  rw [conversionsOf, List.filterMap_append]
  cases slot <;> rfl

theorem length_conversionsOf_add (tried : List (Captured × Option PooledBuffer)) :
    (conversionsOf tried).length + (tried.map (·.2)).countP (·.isNone) = tried.length := by
  induction tried with
  | nil => rfl
  | cons x rest ih =>
    obtain ⟨f, _ | slot⟩ := x <;> simp [conversionsOf] at ih ⊢ <;> omega

/-- What is counted when one more frame is offered. -/
theorem tally_offer {d : TickDetector Float} {out : Detection}
    (hproc : ((TickDetector.new h).offerAll offered).1.process b = (d, out)) :
    tally h es (offered ++ [b]) = { tally h es offered with
      converted := (tally h es offered).converted + 1
      ticks := (tally h es offered).ticks + out.displaced?.toList.countP (·.selected) } := by
  rw [tally, tally, TickDetector.displacedFrom_concat hproc, List.countP_append, List.length_append]
  rfl

theorem Fits.congr (H : Fits es f) (hreceived : receivedOf es' = receivedOf es) : Fits es' f := by
  rw [Fits, hreceived]
  exact H

namespace Handled

theorem receive (H : Handled h forwardAll es tried offered [] [] outgoing)
    (hreceived : receivedOf es' = receivedOf es ++ [f])
    (hacquisitions : acquisitionsOf es' = acquisitionsOf es) (hsent : sentOf es' = sentOf es) :
    Handled h forwardAll es' tried offered [f] [] outgoing := by
  have hall : receivedOf es = tried.map (·.1) := H.received.trans (List.append_nil _)
  refine ⟨?_, ?_, fun x hx first hfirst => ?_, H.converted, H.accepted, hsent ▸ H.sent⟩
  · rw [hreceived, hall]
  · rw [hacquisitions, H.acquisitions]
  · refine H.fits x hx first ?_
    -- some frame came before, so the new one is not the first
    rw [hreceived, hall] at hfirst
    rw [hall]
    cases tried with
    | nil => cases hx
    | cons y rest => exact hfirst

/-- The pool was perhaps asked for a slot for the frame in hand, and perhaps something was sent. -/
theorem advance {got' : List (Option PooledBuffer)} {outgoing' : List PooledBuffer}
    (H : Handled h forwardAll es tried offered hand got outgoing)
    (hreceived : receivedOf es' = receivedOf es)
    (hacquisitions : acquisitionsOf es' = acquisitionsOf es ++ got')
    (hsent : sentOf es' ++ outgoing' = sentOf es ++ outgoing) :
    Handled h forwardAll es' tried offered hand (got ++ got') outgoing' := by
  refine ⟨?_, ?_, fun y hy => (H.fits y hy).congr hreceived, H.converted, H.accepted, ?_⟩
  · rw [hreceived, H.received]
  · rw [hacquisitions, H.acquisitions, List.append_assoc]
  · rw [hsent, H.sent]

theorem quiet (H : Handled h forwardAll es tried offered hand got outgoing) (he : e.Quiet) :
    Handled h forwardAll (es ++ [e]) tried offered hand got outgoing := by
  have hacquisitions : acquisitionsOf (es ++ [e]) = acquisitionsOf es ++ [] := by
    rw [he.acquisitionsOf_eq, List.append_nil]
  have hhandled := H.advance (he.receivedOf_eq es) hacquisitions (by rw [he.sentOf_eq])
  rwa [List.append_nil] at hhandled

/-- The stage is done with the frame in hand. -/
theorem settle {got : Option PooledBuffer} {offered' outgoing' : List PooledBuffer}
    (H : Handled h forwardAll es tried offered [f] [got] outgoing) (hfits : Fits es f)
    (hconverted : conversionsOf (tried ++ [(f, got)]) = offered'.map .ok)
    (haccepted : ∀ out ∈ ((TickDetector.new h).offerAll offered').2, ∀ e b, out ≠ .rejected e b)
    (hsent : sentOf es ++ outgoing' =
      (TickDetector.displacedFrom h offered').filter fun b => b.selected || forwardAll) :
    Handled h forwardAll es (tried ++ [(f, got)]) offered' [] [] outgoing' := by
  refine ⟨?_, ?_, fun x hx => ?_, hconverted, haccepted, hsent⟩
  · rw [H.received, List.map_append, List.append_nil]
    rfl
  · rw [H.acquisitions, List.map_append, List.append_nil]
    rfl
  · rcases List.mem_append.mp hx with hx | hx
    · exact H.fits x hx
    · rw [List.mem_singleton.mp hx]
      exact hfits

/-- The frame in hand got no slot. -/
theorem drop (H : Handled h forwardAll es tried offered [f] [none] outgoing) (hfits : Fits es f) :
    Handled h forwardAll es (tried ++ [(f, none)]) offered [] [] outgoing := by
  refine H.settle hfits ?_ H.accepted H.sent
  rw [conversionsOf_concat, H.converted]
  exact List.append_nil _

/-- The frame in hand was converted and offered to the detector, which took it. -/
theorem offer {d : TickDetector Float} {out : Detection}
    (H : Handled h forwardAll es tried offered [f] [some slot] []) (hfits : Fits es f)
    (hconvert : convertInto slot f.format f.bytes = .ok b)
    (hproc : ((TickDetector.new h).offerAll offered).1.process b = (d, out))
    (haccepted : ∀ e b, out ≠ .rejected e b) :
    Handled h forwardAll es (tried ++ [(f, some slot)]) (offered ++ [b]) [] []
      (out.displaced?.toList.filter fun b => b.selected || forwardAll) := by
  refine H.settle hfits ?_ ?_ ?_
  · rw [conversionsOf_concat, H.converted, List.map_append, Option.map_some, hconvert]
    rfl
  · rw [TickDetector.offerAll_concat hproc]
    intro o ho
    rcases List.mem_append.mp ho with ho | ho
    · exact H.accepted o ho
    · rw [List.mem_singleton.mp ho]
      exact haccepted
  · rw [TickDetector.displacedFrom_concat hproc, List.filter_append, ← H.sent, List.append_nil]

/-- Every frame that the stage is done with was converted, or got no slot. -/
theorem length_received (H : Handled h forwardAll es tried offered [] [] outgoing) :
    (receivedOf es).length = offered.length + (acquisitionsOf es).countP (·.isNone) := by
  have hconverted : (conversionsOf tried).length = offered.length := by
    rw [H.converted, List.length_map]
  rw [H.received, H.acquisitions, List.append_nil, List.append_nil, List.length_map,
    ← length_conversionsOf_add, hconverted]

end Handled

/-- What is due stays so on the way out. -/
theorem Due.quiet (H : Due h forwardAll es ending) (he : e.Quiet) :
    Due h forwardAll (es ++ [e]) ending := by
  have hreceived := he.receivedOf_eq es
  cases H with
  | finished H =>
    rw [← he.tally_eq h es]
    exact .finished (H.quiet he)
  | resized H hfirst hne => exact .resized (H.quiet he) (by rw [hreceived, hfirst]) hne
  | unconverted H hfits hconvert =>
    exact .unconverted (H.quiet he) (hfits.congr hreceived) hconvert
  | conversionFaults H hfits hconvert =>
    exact .conversionFaults (H.quiet he) (hfits.congr hreceived) hconvert
  | refused H hfits hconvert hrefused =>
    exact .refused (H.quiet he) (hfits.congr hreceived) hconvert
      (List.mem_append_left _ hrefused)
  | rejected H hfits hconvert hproc =>
    exact .rejected (H.quiet he) (hfits.congr hreceived) hconvert hproc

/-! ### Frames that cannot be handled -/

/-- Some frame cannot be handled: what it fails with. -/
inductive Unfit (h : Hysteresis Float) (es : List Exchange) : Failure → Prop
  | resized {f first : Captured} : (receivedOf es).head? = some first → f ∈ receivedOf es →
    f.used ≠ first.used →
    Unfit h es ⟨[.capturing f.sequence], .detect (.frameSizeMismatch first.used f.used)⟩
  | unconverted {f : Captured} {slot : PooledBuffer} {e : DetectError} :
    (f, some slot) ∈ (receivedOf es).zip (acquisitionsOf es) →
    convertInto slot f.format f.bytes = .error (.error e) →
    Unfit h es ⟨[.converting f.sequence], .detect e⟩
  /-- It is converted, and its buffer goes back to the camera, but the detector rejects it. -/
  | rejected {converted : List PooledBuffer} {back : PooledBuffer} {e : DetectError} :
    (∀ f e, ⟨.giveBack f, .refused e⟩ ∉ es) →
    conversionsOf ((receivedOf es).zip (acquisitionsOf es)) = converted.map .ok →
    .rejected e back ∈ ((TickDetector.new h).offerAll converted).2 → Unfit h es (.of (.detect e))

namespace Handled

theorem zip_eq (H : Handled h forwardAll es tried offered hand got outgoing) :
    (receivedOf es).zip (acquisitionsOf es) = tried ++ hand.zip got := by
  have hlength : (tried.map (·.1)).length = (tried.map (·.2)).length := by
    rw [List.length_map, List.length_map]
  rw [H.received, H.acquisitions, List.zip_append hlength, List.zip_map', List.map_id']

/-- What is done with was converted. -/
theorem exists_converted (H : Handled h forwardAll es tried offered hand got outgoing)
    (hmem : (f, some slot) ∈ tried) : ∃ b, convertInto slot f.format f.bytes = .ok b := by
  have hconversion : convertInto slot f.format f.bytes ∈ conversionsOf tried :=
    List.mem_filterMap.mpr ⟨_, hmem, rfl⟩
  rw [H.converted] at hconversion
  obtain ⟨b, -, hb⟩ := List.mem_map.mp hconversion
  exact ⟨b, hb.symm⟩

theorem used_eq {first : Captured} (H : Handled h forwardAll es tried offered hand got outgoing)
    (hfirst : (receivedOf es).head? = some first) (hmem : f ∈ receivedOf es) :
    f.used = first.used ∨ f ∈ hand := by
  rw [H.received] at hmem
  rcases List.mem_append.mp hmem with htried | hhand
  · obtain ⟨x, hx, rfl⟩ := List.mem_map.mp htried
    exact .inl (H.fits x hx first hfirst)
  · exact .inr hhand

end Handled

theorem Due.of_resized {first : Captured} (H : Due h forwardAll es ending)
    (hfirst : (receivedOf es).head? = some first) (hmem : f ∈ receivedOf es)
    (hne : f.used ≠ first.used) : ending =
      .failed ⟨[.capturing f.sequence], .detect (.frameSizeMismatch first.used f.used)⟩ := by
  cases H with
  | finished H => simpa [hne] using H.used_eq hfirst hmem
  | resized H hfirst' =>
    have hlast := (H.used_eq hfirst hmem).resolve_left hne
    rw [hfirst] at hfirst'
    cases hfirst'
    rw [List.mem_singleton.mp hlast]
  | unconverted H hfits | conversionFaults H hfits | refused H hfits | rejected H hfits =>
    have hlast := (H.used_eq hfirst hmem).resolve_left hne
    rw [← List.mem_singleton.mp hlast] at hfits
    exact absurd (hfits first hfirst) hne

theorem Due.of_unconverted {error : DetectError} (H : Due h forwardAll es ending)
    (hmem : (f, some slot) ∈ (receivedOf es).zip (acquisitionsOf es))
    (hconvert : convertInto slot f.format f.bytes = .error (.error error)) :
    ending = .failed ⟨[.converting f.sequence], .detect error⟩ := by
  have hearlier {tried : List (Captured × Option PooledBuffer)} {offered : List PooledBuffer}
      {hand : List Captured} {got : List (Option PooledBuffer)} {outgoing : List PooledBuffer}
      (H : Handled h forwardAll es tried offered hand got outgoing) :
      (f, some slot) ∈ hand.zip got := by
    rw [H.zip_eq] at hmem
    refine (List.mem_append.mp hmem).resolve_left fun hmem => ?_
    obtain ⟨b, hb⟩ := H.exists_converted hmem
    rw [hconvert] at hb
    cases hb
  cases H with
  | finished H | resized H => cases hearlier H
  | unconverted H _ hlast =>
    cases List.mem_singleton.mp (hearlier H)
    rw [hconvert] at hlast
    cases hlast
    rfl
  | conversionFaults H _ hlast | refused H _ hlast | rejected H _ hlast =>
    cases List.mem_singleton.mp (hearlier H)
    rw [hconvert] at hlast
    cases hlast

theorem Due.of_rejected {error : DetectError} {converted : List PooledBuffer}
    (H : Due h forwardAll es ending) (hreturned : ∀ f e, ⟨.giveBack f, .refused e⟩ ∉ es)
    (hconverted : conversionsOf ((receivedOf es).zip (acquisitionsOf es)) = converted.map .ok)
    (hmem : .rejected error x ∈ ((TickDetector.new h).offerAll converted).2) :
    ending = .failed (.of (.detect error)) := by
  have hinj := List.map_injective_iff.mpr fun (b b' : PooledBuffer) =>
    Except.ok.inj (ε := Trouble DetectError)
  have hlast {tried : List (Captured × Option PooledBuffer)} {offered outgoing : List PooledBuffer}
      {f : Captured} {slot : PooledBuffer}
      (H : Handled h forwardAll es tried offered [f] [some slot] outgoing) :
      offered.map .ok ++ [convertInto slot f.format f.bytes] = converted.map .ok := by
    rw [← hconverted, ← H.converted, H.zip_eq]
    exact (conversionsOf_concat tried f (some slot)).symm
  cases H with
  | finished H | resized H =>
    rw [H.zip_eq, List.zip_nil_right, List.append_nil, H.converted] at hconverted
    obtain rfl := hinj hconverted
    exact absurd rfl (H.accepted _ hmem _ _)
  | refused _ _ _ hrefused => exact absurd hrefused (hreturned _ _)
  | unconverted H _ hconvert | conversionFaults H _ hconvert =>
    have herror : convertInto _ _ _ ∈ converted.map .ok :=
      hlast H ▸ List.mem_append_right _ (List.mem_singleton.mpr rfl)
    rw [hconvert] at herror
    obtain ⟨b, -, hb⟩ := List.mem_map.mp herror
    cases hb
  | @rejected _ offered _ _ b _ _ _ H _ hconvert hproc =>
    have heq := hlast H
    rw [hconvert] at heq
    obtain rfl : offered ++ [b] = converted := hinj (by rw [← heq, List.map_append]; rfl)
    rw [TickDetector.offerAll_concat hproc] at hmem
    rcases List.mem_append.mp hmem with hmem | hmem
    · exact absurd rfl (H.accepted _ hmem _ _)
    · cases List.mem_singleton.mp hmem
      rfl

/-- If a frame cannot be handled, the stage fails with that. -/
theorem Due.of_unfit {failure : Failure} (H : Due h forwardAll es ending)
    (hunfit : Unfit h es failure) : ending = .failed failure := by
  cases hunfit with
  | resized hfirst hmem hne => exact H.of_resized hfirst hmem hne
  | unconverted hmem hconvert => exact H.of_unconverted hmem hconvert
  | rejected hreturned hconverted hmem => exact H.of_rejected hreturned hconverted hmem

end DetectionStage
end TickCapture
