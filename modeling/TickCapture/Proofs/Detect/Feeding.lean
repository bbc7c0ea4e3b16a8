import TickCapture.Proofs.Detect.Conversion
import TickCapture.Stage.Detection

/-! # Feeding a detector

What the detection stage does with the bytes of one captured frame once it has a slot for them: they are
converted into the slot, its valid length is set, and the detector is offered the result. -/

namespace TickCapture

/-- The frame converted into a slot, its length set. -/
def convertInto (slot : PooledBuffer) (f : Format) (src : Bytes) :
    Except (Trouble DetectError) PooledBuffer := do
  let (rgb, written) ← toRgb src f slot.whole
  ((slot.withData rgb).setLen written).mapError .fault

/-- A stage with a slot in hand goes on as the conversion came out. -/
theorem DetectionStage.convert_eq (s : DetectionStage) (frame : Captured) (slot : PooledBuffer) :
    s.convert frame slot =
      match convertInto slot frame.format frame.bytes with
      | .ok converted => s.enter (.returning frame converted)
      | .error (.error e) =>
        s.enter (.dropping slot (some frame) (.failed ⟨[.converting frame.sequence], .detect e⟩))
      | .error (.fault fault) => s.enter (.dropping slot (some frame) (.faulted fault)) := by
  unfold convert convertInto
  cases toRgb frame.bytes frame.format slot.whole with
  | error trouble => cases trouble <;> rfl
  | ok out =>
    obtain ⟨rgb, written⟩ := out
    simp only [bind, Except.bind]
    cases (slot.withData rgb).setLen written <;> rfl

/-- A conversion into a slot with storage is a matter of the slot's size. -/
theorem convertInto_eq {slot : PooledBuffer} {data : Bytes} (hdata : slot.data = some data)
    (f : Format) (src : Bytes) :
    convertInto slot f src =
      (conversionLen src f data.size).map fun written =>
        { slot with data := some (convertedBytes src f data), len := written } := by
  have hwhole : slot.whole = data := by rw [PooledBuffer.whole, hdata, Option.getD_some]
  have hcapacity (bytes : Bytes) : (slot.withData bytes).capacity = bytes.size := by
    rw [PooledBuffer.capacity, PooledBuffer.withData, hdata, Option.map_some]
  rw [convertInto, hwhole, toRgb_eq]
  cases hlen : conversionLen src f data.size with
  | error e => rfl
  | ok written =>
    have hle : written ≤ (convertedBytes src f data).size := by
      rw [size_convertedBytes]
      exact (conversionLen_eq_ok hlen).2
    have hset : (slot.withData (convertedBytes src f data)).setLen written =
        .ok { slot with data := some (convertedBytes src f data), len := written } := by
      rw [PooledBuffer.setLen, hcapacity, if_pos hle, PooledBuffer.withData, hdata]
      rfl
    simp only [Except.map, bind, Except.bind, hset]
    rfl

namespace TickDetector

variable {α : Type} [Scale α]

/-- Converts a frame into a slot and offers it: the frame that was displaced, if one was. -/
def feed (d : TickDetector α) (f : Format) (slot : PooledBuffer) (src : Bytes) :
    Except (Trouble DetectError) (TickDetector α × Option PooledBuffer) := do
  let converted ← convertInto slot f src
  match d.process converted with
  | (d, .seeded) => return (d, none)
  | (d, .displaced frame) => return (d, some frame)
  | (_, .rejected e _) => throw (.error e)

/-- Feeds frames one after another, each with a slot of its own: what each of them displaced. -/
def feedAll (d : TickDetector α) (f : Format) :
    List (PooledBuffer × Bytes) →
      Except (Trouble DetectError) (TickDetector α × List (Option PooledBuffer))
  | [] => return (d, [])
  | (slot, src) :: rest => do
    let (d, displaced) ← d.feed f slot src
    let (d, later) ← d.feedAll f rest
    return (d, displaced :: later)

end TickDetector
end TickCapture
