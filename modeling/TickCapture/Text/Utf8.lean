/-! # Reading bytes as UTF-8

`next?` takes one character, or one ill-formed part, off the front of a byte list. On top of it
`decode?` accepts well-formed text only, and `decodeLossy` writes U+FFFD for every ill-formed
part. An ill-formed part is as long as some well-formed character starts that way, and at least
one byte long, so a cut-off character counts once. -/

namespace TickCapture
namespace Utf8

/-- What a byte list starts with: a character, or an ill-formed part (`none`), and the rest. -/
structure Step where
  char? : Option Char
  rest : List UInt8

/-- A byte `10xxxxxx`. -/
def isContinuation (b : UInt8) : Bool := 0x80 ≤ b && b ≤ 0xBF

/-- The range that a second byte after the lead byte `b` must lie in. It is narrower than
`isContinuation` where a wider one would let in overlong forms, surrogates or code points above
U+10FFFF. -/
def secondRange (b : UInt8) : UInt8 × UInt8 :=
  if b = 0xE0 then (0xA0, 0xBF)
  else if b = 0xED then (0x80, 0x9F)
  else if b = 0xF0 then (0x90, 0xBF)
  else if b = 0xF4 then (0x80, 0x8F)
  else (0x80, 0xBF)

/-- How many bytes follow the lead byte `b`, if it can start a character. -/
def followers? (b : UInt8) : Option Nat :=
  if b < 0x80 then some 0
  else if 0xC2 ≤ b && b ≤ 0xDF then some 1
  else if 0xE0 ≤ b && b ≤ 0xEF then some 2
  else if 0xF0 ≤ b && b ≤ 0xF4 then some 3
  else none

/-- Takes up to `n` further continuation bytes: how many are missing, the value so far, the rest. -/
def continuation : Nat → Nat → List UInt8 → Nat × Nat × List UInt8
  | 0, value, bs => (0, value, bs)
  | n + 1, value, [] => (n + 1, value, [])
  | n + 1, value, b :: bs =>
    if isContinuation b then continuation n (value * 64 + b.toNat % 64) bs
    else (n + 1, value, b :: bs)

theorem length_continuation_le (n value : Nat) (bs : List UInt8) :
    (continuation n value bs).2.2.length ≤ bs.length := by
  induction bs generalizing n value with
  | nil => cases n <;> simp [continuation]
  | cons b bs ih =>
    cases n with
    | zero => simp [continuation]
    | succ n =>
      simp only [continuation]
      split
      · exact Nat.le_succ_of_le (ih ..)
      · simp

/-- One character or one ill-formed part off the front. -/
def next? : List UInt8 → Option Step
  | [] => none
  | b :: bs =>
    match followers? b, bs with
    | none, _ => some ⟨none, bs⟩
    | some 0, _ => some ⟨some (Char.ofNat b.toNat), bs⟩
    | some (_ + 1), [] => some ⟨none, []⟩
    | some (n + 1), c :: cs =>
      if (secondRange b).1 ≤ c ∧ c ≤ (secondRange b).2 then
        match continuation n (b.toNat % Nat.pow 2 (5 - n) * 64 + c.toNat % 64) cs with
        | (0, value, rest) => some ⟨some (Char.ofNat value), rest⟩
        | (_ + 1, _, rest) => some ⟨none, rest⟩
      else some ⟨none, bs⟩

theorem length_rest_lt {bs : List UInt8} {s : Step} (h : next? bs = some s) :
    s.rest.length < bs.length := by
  unfold next? at h
  split at h
  · simp at h
  · next b bs =>
    split at h
    · cases h; simp
    · cases h; simp
    · cases h; simp
    · next n c cs _ =>
      split at h
      · split at h <;> rename_i value rest hc <;> cases h
        all_goals
          have := length_continuation_le n (b.toNat % Nat.pow 2 (5 - n) * 64 + c.toNat % 64) cs
          simp only [hc] at this
          simp only [List.length_cons]
          omega
      · cases h; simp

/-- The text of a byte list, U+FFFD standing for every ill-formed part. -/
def decodeLossy (bs : List UInt8) : List Char :=
  match _h : next? bs with
  | none => []
  | some s => s.char?.getD '\uFFFD' :: decodeLossy s.rest
termination_by bs.length
decreasing_by exact length_rest_lt _h

/-- The text of a well-formed byte list. -/
def decode? (bs : List UInt8) : Option (List Char) :=
  match _h : next? bs with
  | none => some []
  | some s =>
    match s.char? with
    | none => none
    | some c => (decode? s.rest).map (c :: ·)
termination_by bs.length
decreasing_by exact length_rest_lt _h

end Utf8

/-- The text that `bytes` encode in UTF-8, U+FFFD standing for every ill-formed part. -/
def lossyText (bytes : List UInt8) : String := String.ofList (Utf8.decodeLossy bytes)

/-- The text that `bytes` encode in UTF-8, if they are well-formed. -/
def strictText? (bytes : List UInt8) : Option String := (Utf8.decode? bytes).map String.ofList

end TickCapture
