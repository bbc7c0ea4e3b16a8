/-! # Byte sequences

Frames, slots and files are arrays of bytes. -/

namespace TickCapture

abbrev Bytes := Array UInt8

namespace Bytes

def zeros (n : Nat) : Bytes := Array.replicate n 0

def ofText (s : String) : Bytes := s.toUTF8.data

/-- `src` written over `dst` from position `start`, as far as `dst` reaches. -/
def overwrite (dst : Bytes) (start : Nat) (src : Bytes) : Bytes :=
  Array.ofFn fun i : Fin dst.size =>
    if start ≤ i.val then src.getD (i.val - start) dst[i] else dst[i]

@[simp] theorem size_overwrite (dst : Bytes) (start : Nat) (src : Bytes) :
    (dst.overwrite start src).size = dst.size := by
  simp [overwrite]

/-- Some bytes stored over `dst`, one after another from position `start` on. -/
def put (dst : Bytes) (start : Nat) : List UInt8 → Bytes
  | [] => dst
  | b :: bs => put (dst.setIfInBounds start b) (start + 1) bs

@[simp] theorem size_put (dst : Bytes) (start : Nat) (bs : List UInt8) :
    (dst.put start bs).size = dst.size := by
  induction bs generalizing dst start with
  | nil => rfl
  | cons b bs ih => rw [put, ih, Array.size_setIfInBounds]

theorem getElem?_put (dst : Bytes) (start : Nat) (bs : List UInt8) (i : Nat) :
    (dst.put start bs)[i]? =
      if start ≤ i ∧ i < start + bs.length ∧ i < dst.size then bs[i - start]? else dst[i]? := by
  induction bs generalizing dst start with
  | nil => rw [put, if_neg (by simp; omega)]
  | cons b bs ih =>
    rw [put, ih, Array.size_setIfInBounds, Array.getElem?_setIfInBounds, List.length_cons]
    by_cases hi : i = start
    · subst hi
      by_cases hsize : i < dst.size
      · rw [if_neg (by omega), if_pos rfl, if_pos hsize, if_pos (by omega), Nat.sub_self]
        rfl
      · rw [if_neg (by omega), if_pos rfl, if_neg hsize, if_neg (by omega)]
        exact (Array.getElem?_eq_none (Nat.le_of_not_lt hsize)).symm
    · have hsub : start < i → i - start = i - (start + 1) + 1 := by omega
      rw [if_neg (Ne.symm hi)]
      by_cases hlt : start < i
      · rw [hsub hlt, List.getElem?_cons_succ]
        congr 1
        exact propext (by omega)
      · rw [if_neg (by omega), if_neg (by omega)]

end Bytes
end TickCapture
