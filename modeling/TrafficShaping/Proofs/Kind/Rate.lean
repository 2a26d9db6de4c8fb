import TrafficShaping.RateTable

/-!
Rates in 32 and in 64 bits.

A rate is always written as a word of 32 bits, which saturates. It is written in 64 bits as well
exactly when that word is not the rate, so the two together carry every rate.
-/

namespace TrafficShaping

namespace RateSpec

/-- The payload with a rate in 64 bits, when the rate does not fit 32. -/
def wide? (rate : UInt64) : Option Bytes :=
  if UInt32.size ≤ rate.toNat then some (Layout.uint64.write rate) else none

theorem wide?_of_le {rate : UInt64} (large : UInt32.size ≤ rate.toNat) :
    wide? rate = some (Layout.uint64.write rate) := if_pos large

theorem wide?_of_lt {rate : UInt64} (small : rate.toNat < UInt32.size) : wide? rate = none :=
  if_neg (Nat.not_le.mpr small)

theorem length_of_mem_wide? {rate : UInt64} {data : Bytes} (there : data ∈ wide? rate) :
    data.length = 8 := by
  rcases Nat.lt_or_ge rate.toNat UInt32.size with small | large
  · rw [wide?_of_lt small] at there
    cases there
  · rw [wide?_of_le large] at there
    rw [← Option.some.inj there]
    exact Layout.lawful_uint64.length_write rate

theorem toNat_saturated (rate : UInt64) :
    (saturated rate).toNat = min rate.toNat (UInt32.size - 1) := by
  apply UInt32.toNat_ofNat_of_lt'
  change min rate.toNat 4294967295 < 4294967296
  omega

/-- A rate that fits 32 bits is not changed by writing it in 32 bits. -/
theorem toUInt64_saturated {rate : UInt64} (small : rate.toNat < UInt32.size) :
    (saturated rate).toUInt64 = rate := by
  apply UInt64.toNat_inj.mp
  rw [UInt32.toNat_toUInt64, toNat_saturated]
  exact Nat.min_eq_left (by omega)

theorem saturated_eq_zero_iff {rate : UInt64} : saturated rate = 0 ↔ rate = 0 := by
  rw [← UInt32.toNat_inj, ← UInt64.toNat_inj, toNat_saturated]
  change min rate.toNat 4294967295 = 0 ↔ rate.toNat = 0
  omega

end RateSpec

namespace RateTable

/-- Words one after the other take four bytes each. -/
theorem length_words (word : Nat → UInt32) (count : Nat) :
    ((List.range count).flatMap fun index => Layout.uint32.write (word index)).length =
      4 * count := by
  have width : ∀ value : UInt32, (Layout.uint32.write value).length = 4 :=
    Layout.lawful_uint32.length_write
  simp only [List.length_flatMap, width, List.map_const', List.sum_replicate_nat, List.length_range]
  exact Nat.mul_comm _ _

theorem length_compute (spec : RateSpec) (rate : UInt64) (largestPacket : UInt32) (clock : Clock) :
    (compute spec rate largestPacket clock).2.length = 4 * cells := by
  unfold compute
  dsimp only
  exact length_words _ cells

end RateTable

end TrafficShaping
