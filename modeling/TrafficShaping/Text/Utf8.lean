import TrafficShaping.Bytes
import TrafficShaping.Outcome

/-!
UTF-8, read strictly: overlong forms, surrogates and code points past the last one are refused.

A fault names the index of the first character that cannot be read and, unless the text ends inside
that character, the number of bytes that are sure to be no part of a valid one.
-/

namespace TrafficShaping.Text.Utf8

/-- Why a byte string is not UTF-8. -/
structure Fault where
  /-- The index of the first byte that no character accounts for. -/
  index : Nat
  /-- The bytes that form the bad sequence; `none` when the text ends too early. -/
  length : Option Nat
  deriving DecidableEq, Repr

/-- The wording of a fault. -/
def Fault.message (fault : Fault) : String :=
  match fault.length with
  | some length => s!"invalid utf-8 sequence of {length} bytes from index {fault.index}"
  | none => s!"incomplete utf-8 byte sequence from index {fault.index}"

/-- The bytes of a text. -/
def encode (text : String) : Bytes := text.toList.flatMap String.utf8EncodeChar

/-- The six low bits of a continuation byte between `low` and `high`, and what follows it. `good` is
the number of bytes of the character that were read before. -/
def continuation (low high : UInt8) (good : Nat) : Bytes → Except (Option Nat) (Nat × Bytes)
  | [] => .error none
  | b :: rest => if low ≤ b ∧ b ≤ high then .ok (b.toNat % 64, rest) else .error (some good)

/-- The character that begins with the byte `first`, and what follows it. The second byte of a
three or four byte form is bounded more tightly where the form would be overlong, a surrogate or
past the last code point. -/
def takeChar (first : UInt8) (rest : Bytes) : Except (Option Nat) (Char × Bytes) :=
  if first < 0x80 then .ok (Char.ofNat first.toNat, rest)
  else if 0xC2 ≤ first ∧ first ≤ 0xDF then do
    let (x, rest) ← continuation 0x80 0xBF 1 rest
    .ok (Char.ofNat (first.toNat % 32 * 64 + x), rest)
  else if 0xE0 ≤ first ∧ first ≤ 0xEF then do
    let low := if first = 0xE0 then 0xA0 else 0x80
    let high := if first = 0xED then 0x9F else 0xBF
    let (x, rest) ← continuation low high 1 rest
    let (y, rest) ← continuation 0x80 0xBF 2 rest
    .ok (Char.ofNat ((first.toNat % 16 * 64 + x) * 64 + y), rest)
  else if 0xF0 ≤ first ∧ first ≤ 0xF4 then do
    let low := if first = 0xF0 then 0x90 else 0x80
    let high := if first = 0xF4 then 0x8F else 0xBF
    let (x, rest) ← continuation low high 1 rest
    let (y, rest) ← continuation 0x80 0xBF 2 rest
    let (z, rest) ← continuation 0x80 0xBF 3 rest
    .ok (Char.ofNat (((first.toNat % 8 * 64 + x) * 64 + y) * 64 + z), rest)
  else .error (some 1)

theorem length_le_of_continuation {low high : UInt8} {good : Nat} {data rest : Bytes} {x : Nat}
    (read : continuation low high good data = .ok (x, rest)) : rest.length ≤ data.length := by
  cases data with
  | nil => cases read
  | cons b tail =>
      simp only [continuation] at read
      split at read
      · cases read
        exact Nat.le_succ _
      · cases read

/-- A character takes no byte twice: what follows it is a part of what followed its first byte. -/
theorem length_le_of_takeChar {first : UInt8} {data rest : Bytes} {c : Char}
    (read : takeChar first data = .ok (c, rest)) : rest.length ≤ data.length := by
  unfold takeChar at read
  split at read
  · cases read
    exact Nat.le_refl _
  split at read
  · obtain ⟨⟨x, rest₁⟩, h₁, read⟩ := Outcome.bind_eq_ok.mp read
    cases read
    exact length_le_of_continuation h₁
  split at read
  · obtain ⟨⟨x, rest₁⟩, h₁, read⟩ := Outcome.bind_eq_ok.mp read
    obtain ⟨⟨y, rest₂⟩, h₂, read⟩ := Outcome.bind_eq_ok.mp read
    cases read
    exact Nat.le_trans (length_le_of_continuation h₂) (length_le_of_continuation h₁)
  split at read
  · obtain ⟨⟨x, rest₁⟩, h₁, read⟩ := Outcome.bind_eq_ok.mp read
    obtain ⟨⟨y, rest₂⟩, h₂, read⟩ := Outcome.bind_eq_ok.mp read
    obtain ⟨⟨z, rest₃⟩, h₃, read⟩ := Outcome.bind_eq_ok.mp read
    cases read
    exact Nat.le_trans (length_le_of_continuation h₃)
      (Nat.le_trans (length_le_of_continuation h₂) (length_le_of_continuation h₁))
  · cases read

/-- The characters of `data`, which starts at `index`, after those already read, last one first. -/
def decodeFrom (index : Nat) (read : List Char) (data : Bytes) : Except Fault (List Char) :=
  match data with
  | [] => .ok read.reverse
  | first :: rest =>
    match _ : takeChar first rest with
    | .error length => .error ⟨index, length⟩
    | .ok (c, later) => decodeFrom (index + c.utf8Size) (c :: read) later
termination_by data.length
decreasing_by
  have := length_le_of_takeChar ‹_›
  simp
  omega

/-- The text whose bytes these are. -/
def decode (data : Bytes) : Except Fault String := (decodeFrom 0 [] data).map String.ofList

end TrafficShaping.Text.Utf8
