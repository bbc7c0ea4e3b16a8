import TickCapture.Detect.TickDetector
import TickCapture.Frame.Captured
import TickCapture.Proofs.Detect.Conversion
import TickCapture.Store.Image

/-! # The images of a sequence of frames

A `Reference` works frames off one after another, with nobody else around: it converts each one and
offers it to a single detector, until the first one that is refused. The displaced frames that are to
be stored, numbered from one, are the images of the sequence (`pictures`).

What a detector does depends on the contents of the frames only, and not on where they are kept
(`process_agrees`). -/

namespace TickCapture

structure Picture where
  sequence : Nat
  width : UInt32
  height : UInt32
  pixels : Bytes
  deriving DecidableEq

def ImageRecord.picture (r : ImageRecord) : Picture := ⟨r.sequence, r.width, r.height, r.pixels⟩

/-- Images of one size, numbered from one. -/
def numbered (width height : UInt32) (pixels : List Bytes) : List Picture :=
  (pixels.zipIdx 1).map fun (bytes, number) => ⟨number, width, height, bytes⟩

/-- A frame converted into a slot of zero bytes. -/
def convertFrame (size : Nat) (frame : Captured) : Except (Trouble DetectError) PooledBuffer :=
  (toRgb frame.bytes frame.format (Bytes.zeros size)).map fun (rgb, len) =>
    ⟨0, 0, some rgb, len, false⟩

/-- Frames worked off one after another. -/
structure Reference where
  detector : TickDetector Float
  expectedLen : Option Nat
  /-- The frames that were displaced, in that order. -/
  displaced : List PooledBuffer
  /-- Whether a frame was refused; those after it are not looked at. -/
  halted : Bool

namespace Reference

def start (h : Hysteresis Float) : Reference := ⟨.new h, none, [], false⟩

/-- Offers a frame of `used` bytes that has been converted. -/
def judge (r : Reference) (used : Nat) (converted : PooledBuffer) : Reference :=
  match r.detector.process converted with
  | (detector, .seeded) => { r with detector, expectedLen := some used }
  | (detector, .displaced x) =>
    { r with detector, expectedLen := some used, displaced := r.displaced ++ [x] }
  | (_, .rejected _ _) => { r with halted := true }

/-- Works off the next frame, with slots of `size` bytes. -/
def offer (size : Nat) (r : Reference) (frame : Captured) : Reference :=
  if r.halted then r
  else if frame.used ≠ r.expectedLen.getD frame.used then { r with halted := true }
  else match convertFrame size frame with
    | .error _ => { r with halted := true }
    | .ok converted => r.judge frame.used converted

def after (size : Nat) (h : Hysteresis Float) (frames : List Captured) : Reference :=
  frames.foldl (offer size) (start h)

/-- The displaced frames that are to be stored. -/
def kept (saveAll : Bool) (r : Reference) : List PooledBuffer :=
  r.displaced.filter fun b => b.selected || saveAll

/-- The images that these frames make. -/
def pictures (size : Nat) (h : Hysteresis Float) (width height : UInt32) (saveAll : Bool)
    (frames : List Captured) : List Picture :=
  numbered width height (((after size h frames).kept saveAll).map (·.bytes))

end Reference

/-! ### Later frames add images behind those of earlier ones -/

theorem numbered_mono {width height : UInt32} {xs ys : List Bytes} (h : xs <+: ys) :
    numbered width height xs <+: numbered width height ys := by
  obtain ⟨zs, rfl⟩ := h
  rw [numbered, numbered, List.zipIdx_append, List.map_append]
  exact List.prefix_append _ _

theorem numbered_concat (width height : UInt32) (xs : List Bytes) (x : Bytes) :
    numbered width height (xs ++ [x]) =
      numbered width height xs ++ [⟨xs.length + 1, width, height, x⟩] := by
  simp [numbered, List.zipIdx_append, Nat.add_comm]

namespace Reference

variable {size : Nat} {h : Hysteresis Float} {saveAll : Bool} {r : Reference} {frame : Captured}
  {frames frames' : List Captured}

theorem after_append (size : Nat) (h : Hysteresis Float) (frames frames' : List Captured) :
    after size h (frames ++ frames') = frames'.foldl (offer size) (after size h frames) :=
  List.foldl_append ..

theorem offer_of_ok {b : PooledBuffer} (hrun : r.halted = false)
    (hused : frame.used = r.expectedLen.getD frame.used) (hb : convertFrame size frame = .ok b) :
    r.offer size frame = r.judge frame.used b := by
  rw [offer, hrun, if_neg (by simp), if_neg (not_not_intro hused), hb]

theorem displaced_judge (r : Reference) (used : Nat) (b : PooledBuffer) :
    r.displaced <+: (r.judge used b).displaced := by
  unfold judge
  split
  · exact List.prefix_rfl
  · exact List.prefix_append _ _
  · exact List.prefix_rfl

theorem displaced_offer (size : Nat) (r : Reference) (frame : Captured) :
    r.displaced <+: (r.offer size frame).displaced := by
  unfold offer
  split
  · exact List.prefix_rfl
  · split
    · exact List.prefix_rfl
    · split
      · exact List.prefix_rfl
      · exact displaced_judge r _ _

theorem displaced_foldl (frames : List Captured) (r : Reference) :
    r.displaced <+: (frames.foldl (offer size) r).displaced := by
  induction frames generalizing r with
  | nil => exact List.prefix_rfl
  | cons frame frames ih => exact (displaced_offer size r frame).trans (ih _)

theorem kept_mono (hpre : frames <+: frames') :
    (after size h frames).kept saveAll <+: (after size h frames').kept saveAll := by
  obtain ⟨rest, rfl⟩ := hpre
  rw [after_append]
  exact (displaced_foldl rest _).filter _

theorem pictures_mono {width height : UInt32} (hpre : frames <+: frames') :
    pictures size h width height saveAll frames <+: pictures size h width height saveAll frames' :=
  numbered_mono ((kept_mono hpre).map _)

end Reference

/-! ### What a detector looks at -/

/-- What a frame holds, wherever it is kept. -/
def PooledBuffer.content (b : PooledBuffer) : Bytes × Nat × Bool := (b.bytes, b.len, b.selected)

theorem PooledBuffer.content_eq {b b' : PooledBuffer} (h : b.content = b'.content) :
    b.bytes = b'.bytes ∧ b.len = b'.len ∧ b.selected = b'.selected := by
  simpa [content] using h

/-- Two outcomes that differ in where the frames are kept only. -/
inductive Detection.Agrees : Detection → Detection → Prop
  | seeded : Detection.Agrees .seeded .seeded
  | displaced {x x' : PooledBuffer} : x.content = x'.content →
    Detection.Agrees (.displaced x) (.displaced x')
  | rejected {e : DetectError} {x x' : PooledBuffer} :
    Detection.Agrees (.rejected e x) (.rejected e x')

namespace TickDetector

variable {α : Type} [Scale α] {d d' : TickDetector α} {b b' : PooledBuffer}

/-- Two detectors that differ in where the frame they hold is kept, and in what they counted. -/
structure Agrees (d d' : TickDetector α) : Prop where
  hysteresis : d.hysteresis = d'.hysteresis
  previous : d.previous.map (·.content) = d'.previous.map (·.content)
  expectedLen : d.expectedLen = d'.expectedLen
  maxDiff : d.maxDiff = d'.maxDiff

/-- Detectors that agree do the same with frames of the same contents. -/
theorem process_agrees (H : d.Agrees d') (hb : b.content = b'.content) :
    (d.process b).1.Agrees (d'.process b').1 ∧ (d.process b).2.Agrees (d'.process b').2 := by
  obtain ⟨hbytes, hlen, -⟩ := PooledBuffer.content_eq hb
  have hprev := H.previous
  unfold process
  cases hd : d.previous with
  | none =>
    rw [hd] at hprev
    have hd' : d'.previous = none := Option.map_eq_none_iff.mp hprev.symm
    simp only [hd', hlen]
    split
    · exact ⟨H, .rejected⟩
    · exact ⟨⟨H.hysteresis, by simp [hb], rfl, rfl⟩, .seeded⟩
  | some x =>
    rw [hd] at hprev
    obtain ⟨x', hd', hx⟩ := Option.map_eq_some_iff.mp hprev.symm
    obtain ⟨hxbytes, hxlen, hxselected⟩ := PooledBuffer.content_eq hx
    have hdiff : d.difference b x = d'.difference b' x' := by
      rw [difference, difference, hbytes, hxbytes, H.maxDiff]
    simp only [hd', hlen, H.expectedLen, H.hysteresis, hdiff]
    split
    · exact ⟨H, .rejected⟩
    · refine ⟨⟨rfl, by simp [hb], rfl, H.maxDiff⟩, .displaced ?_⟩
      split
      · simpa [PooledBuffer.content, PooledBuffer.bytes] using ⟨hxbytes.symm, hxlen.symm⟩
      · exact hx.symm

end TickDetector
end TickCapture
