import Mathlib.Algebra.Group.Nat.Defs
import TickCapture.Decimal.Digits

/-! # Decimal notation reads back

The digits of a number, with or without zeros in front of them, have that number as their value. A field
is not longer than its width unless the number is. -/

namespace TickCapture

variable {n width : Nat} {c : Char} {cs : List Char}

theorem isDigit_digitChar : ∀ d < 10, isDigit (digitChar d) = true := by decide

theorem digitValue_digitChar : ∀ d < 10, digitValue (digitChar d) = d := by decide

theorem ofDigits_concat (cs : List Char) (c : Char) :
    ofDigits (cs ++ [c]) = 10 * ofDigits cs + digitValue c := by
  simp [ofDigits, List.foldl_append]

/-! ### The digits of a number -/

theorem decimal_of_lt (h : n < 10) : decimal n = [digitChar n] := by
  rw [decimal, if_pos h]

theorem decimal_ne_nil (n : Nat) : decimal n ≠ [] := by
  unfold decimal
  split <;> simp

theorem isDigit_of_mem_decimal (h : c ∈ decimal n) : isDigit c = true := by
  induction n using decimal.induct with
  | case1 n hn =>
    rw [decimal_of_lt hn, List.mem_singleton] at h
    rw [h]
    exact isDigit_digitChar n hn
  | case2 n hn ih =>
    rw [decimal, if_neg hn, List.mem_append, List.mem_singleton] at h
    obtain h | rfl := h
    · exact ih h
    · exact isDigit_digitChar _ (Nat.mod_lt _ (by decide))

theorem ofDigits_decimal (n : Nat) : ofDigits (decimal n) = n := by
  induction n using decimal.induct with
  | case1 n hn =>
    rw [decimal_of_lt hn]
    simpa [ofDigits] using digitValue_digitChar n hn
  | case2 n hn ih =>
    rw [decimal, if_neg hn, ofDigits_concat, ih, digitValue_digitChar _ (Nat.mod_lt _ (by decide))]
    exact Nat.div_add_mod n 10

/-- A number below `10 ^ width` has no more than `width` digits. -/
theorem length_decimal_le (hwidth : 0 < width) (h : n < 10 ^ width) :
    (decimal n).length ≤ width := by
  induction width generalizing n with
  | zero => exact absurd hwidth (Nat.lt_irrefl 0)
  | succ width ih =>
    rw [decimal]
    split
    · exact Nat.succ_le_succ (Nat.zero_le width)
    · next hn =>
      have hlt : n / 10 < 10 ^ width := Nat.div_lt_of_lt_mul (by rwa [Nat.pow_succ'] at h)
      have hpos : 0 < width := by
        refine Nat.pos_of_ne_zero fun hzero => hn ?_
        rwa [hzero] at h
      rw [List.length_append, List.length_singleton]
      exact Nat.succ_le_succ (ih hpos hlt)

/-! ### Fields of digits -/

theorem padded_zero (n : Nat) : padded 0 n = decimal n := by
  rw [padded, Nat.zero_sub, List.replicate_zero, List.nil_append]

theorem padded_ne_nil (width n : Nat) : padded width n ≠ [] :=
  List.append_ne_nil_of_right_ne_nil _ (decimal_ne_nil n)

theorem isDigit_of_mem_padded (h : c ∈ padded width n) : isDigit c = true := by
  rw [padded, List.mem_append, List.mem_replicate] at h
  obtain ⟨-, rfl⟩ | h := h
  · rfl
  · exact isDigit_of_mem_decimal h

theorem notMem_padded (hc : isDigit c = false) (width n : Nat) : c ∉ padded width n := by
  intro hmem
  rw [isDigit_of_mem_padded hmem] at hc
  cases hc

theorem ofDigits_zeros_append (k : Nat) (cs : List Char) :
    ofDigits (List.replicate k '0' ++ cs) = ofDigits cs := by
  induction k with
  | zero => rfl
  | succ k ih =>
    rw [List.replicate_succ, List.cons_append]
    exact ih

theorem le_length_padded (width n : Nat) : width ≤ (padded width n).length := by
  rw [padded, List.length_append, List.length_replicate]
  omega

theorem length_padded (hwidth : 0 < width) (h : n < 10 ^ width) :
    (padded width n).length = width := by
  rw [padded, List.length_append, List.length_replicate]
  exact Nat.sub_add_cancel (length_decimal_le hwidth h)

/-- What a field holds is read back, however wide it is. -/
theorem decimal?_padded (width n : Nat) : decimal? (padded width n) = some n := by
  have hall : (padded width n).all isDigit = true :=
    List.all_eq_true.mpr fun _ => isDigit_of_mem_padded
  rw [decimal?, if_pos ⟨padded_ne_nil width n, hall⟩, padded, ofDigits_zeros_append,
    ofDigits_decimal]

theorem padded_inj {m : Nat} (h : padded width n = padded width m) : n = m := by
  have hread := decimal?_padded width n
  rw [h, decimal?_padded] at hread
  exact (Option.some.inj hread).symm

end TickCapture
