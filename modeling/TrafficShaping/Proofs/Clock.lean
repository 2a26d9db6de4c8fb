import TrafficShaping.Clock
import TrafficShaping.Proofs.Number.Binary64

/-!
Times on the clock of high resolution.

A microsecond has 15.625 ticks on this clock, and both conversions come out as on paper: 125/8 and
8/125 of a number, with the fraction cut off (`Clock.toNat_ticksOfTime`, `Clock.toNat_timeOfTicks`).
Each way loses a little. A time that has gone to the kernel and back is the same if it is a multiple
of eight microseconds and one microsecond less otherwise, until it is one: `Clock.worn`.
-/

namespace TrafficShaping

namespace Number.Binary64

theorem mul_finite (a b : Bool) (m n : Nat) (e f : Int) :
    Binary64.finite a m e * .finite b n f = ofScaledRatio (a != b) (m * n) 1 (e + f) :=
  rfl

theorem div_finite (a b : Bool) (m : Nat) {n : Nat} (e f : Int) (nonzero : n ≠ 0) :
    Binary64.finite a m e / .finite b n f = ofScaledRatio (a != b) m n (e - f) :=
  if_neg nonzero

theorem ofScaledRatio_eq (negative : Bool) (numerator denominator : Nat) (exponent : Int) :
    ofScaledRatio negative numerator denominator exponent =
      ofRatio negative (numerator * 2 ^ exponent.toNat) (denominator * 2 ^ (-exponent).toNat) := by
  unfold ofScaledRatio
  rw [scaled_eq, Int.neg_neg]

end Number.Binary64

namespace Clock

open Number

theorem ticksPerMicrosecond_highResolution :
    highResolution.ticksPerMicrosecond = .finite false (125 * 2 ^ 46) (-49) := by
  decide +kernel

theorem toNat_saturated (n : Nat) :
    (UInt32.ofNat (min n (UInt32.size - 1))).toNat = min n (UInt32.size - 1) := by
  rw [UInt32.toNat_ofNat']
  exact Nat.mod_eq_of_lt (Nat.lt_of_le_of_lt (Nat.min_le_right _ _) (by decide))

/-- The ticks of a time. -/
theorem toNat_ticksOfTime (time : UInt32) :
    (highResolution.ticksOfTime time).toNat = min (125 * time.toNat / 8) (UInt32.size - 1) := by
  have word : time.toNat < 2 ^ 32 := time.toNat_lt
  obtain ⟨k, exact⟩ := Binary64.exists_ofNat_eq (Nat.lt_trans word (by decide))
  have up : (-k + -49 : Int).toNat = 0 := by omega
  have down : (-(-k + -49) : Int).toNat = k + 49 := by omega
  have same : time.toNat * 2 ^ k * (125 * 2 ^ 46) * 2 ^ 0 * 8 =
      125 * time.toNat * (1 * 2 ^ (k + 49)) := by ring
  have small : time.toNat * 2 ^ k * (125 * 2 ^ 46) * 2 ^ 0 < 2 ^ 40 * (1 * 2 ^ (k + 49)) := by
    calc time.toNat * 2 ^ k * (125 * 2 ^ 46) * 2 ^ 0 = 125 * time.toNat * 2 ^ (k + 46) := by ring
      _ < 2 ^ 43 * 2 ^ (k + 46) :=
        Nat.mul_lt_mul_of_pos_right (by omega) (Nat.two_pow_pos _)
      _ = 2 ^ 40 * (1 * 2 ^ (k + 49)) := by ring
  have positive : 0 < 1 * 2 ^ (k + 49) := Nat.mul_pos Nat.one_pos (Nat.two_pow_pos _)
  unfold ticksOfTime
  rw [ticksPerMicrosecond_highResolution, exact, Binary64.mul_finite, Binary64.ofScaledRatio_eq, up,
    down, bne_self_eq_false,
    Binary64.toUInt32_ofRatio positive (by decide) same small (by decide), toNat_saturated]

/-- The time of ticks. -/
theorem toNat_timeOfTicks (ticks : UInt32) :
    (highResolution.timeOfTicks ticks).toNat = 8 * ticks.toNat / 125 := by
  have word : ticks.toNat < 2 ^ 32 := ticks.toNat_lt
  obtain ⟨k, exact⟩ := Binary64.exists_ofNat_eq (Nat.lt_trans word (by decide))
  obtain ⟨up, isUp⟩ : ∃ up, (-k - -49 : Int).toNat = up := ⟨_, rfl⟩
  obtain ⟨down, isDown⟩ : ∃ down, (-(-k - -49) : Int).toNat = down := ⟨_, rfl⟩
  have shifts : ticks.toNat * 2 ^ k * 2 ^ up = ticks.toNat * (2 ^ 49 * 2 ^ down) := by
    have balance : k + up = 49 + down := by omega
    rw [Nat.mul_assoc, ← Nat.pow_add, balance, Nat.pow_add]
  have same : ticks.toNat * 2 ^ k * 2 ^ up * 125 =
      8 * ticks.toNat * (125 * 2 ^ 46 * 2 ^ down) := by
    rw [shifts]
    ring
  have small : ticks.toNat * 2 ^ k * 2 ^ up < 2 ^ 40 * (125 * 2 ^ 46 * 2 ^ down) := by
    calc ticks.toNat * 2 ^ k * 2 ^ up = ticks.toNat * (2 ^ 49 * 2 ^ down) := shifts
      _ < 2 ^ 37 * 125 * (2 ^ 49 * 2 ^ down) :=
        Nat.mul_lt_mul_of_pos_right (by omega) (Nat.mul_pos (by decide) (Nat.two_pow_pos _))
      _ = 2 ^ 40 * (125 * 2 ^ 46 * 2 ^ down) := by ring
  have positive : 0 < 125 * 2 ^ 46 * 2 ^ down := Nat.mul_pos (by decide) (Nat.two_pow_pos _)
  have inWord : 8 * ticks.toNat / 125 ≤ UInt32.size - 1 := by
    have size : UInt32.size = 2 ^ 32 := rfl
    omega
  unfold timeOfTicks
  rw [ticksPerMicrosecond_highResolution, exact, Binary64.div_finite _ _ _ _ _ (by decide),
    Binary64.ofScaledRatio_eq, isUp, isDown, bne_self_eq_false,
    Binary64.toUInt32_ofRatio positive (by decide) same small (by decide), toNat_saturated,
    Nat.min_eq_left inWord]

/-! ## There and back -/

/-- The longest time that a word of ticks tells. -/
def longestTime : Nat := 274877906

theorem toNat_timeOfTicks_le (ticks : UInt32) :
    (highResolution.timeOfTicks ticks).toNat ≤ longestTime := by
  have word : ticks.toNat < 2 ^ 32 := ticks.toNat_lt
  rw [toNat_timeOfTicks]
  unfold longestTime
  omega

/-- A time that has gone to the kernel and back in some cycles. -/
def worn (cycles : Nat) (time : UInt32) : UInt32 :=
  UInt32.ofNat (max (time.toNat - cycles) (8 * (time.toNat / 8)))

theorem toNat_worn (cycles : Nat) (time : UInt32) :
    (worn cycles time).toNat = max (time.toNat - cycles) (8 * (time.toNat / 8)) := by
  have word : time.toNat < 2 ^ 32 := time.toNat_lt
  have inWord : max (time.toNat - cycles) (8 * (time.toNat / 8)) < 2 ^ 32 := by omega
  unfold worn
  rw [UInt32.toNat_ofNat']
  exact Nat.mod_eq_of_lt inWord

theorem worn_zero (time : UInt32) : worn 0 time = time := by
  apply UInt32.toNat_inj.mp
  rw [toNat_worn]
  omega

theorem worn_worn (first second : Nat) (time : UInt32) :
    worn second (worn first time) = worn (second + first) time := by
  apply UInt32.toNat_inj.mp
  rw [toNat_worn, toNat_worn, toNat_worn]
  omega

theorem worn_eq_self_iff {cycles : Nat} (some : 0 < cycles) (time : UInt32) :
    worn cycles time = time ↔ 8 ∣ time.toNat := by
  rw [← UInt32.toNat_inj, toNat_worn]
  omega

/-- One cycle. -/
theorem timeOfTicks_ticksOfTime {time : UInt32} (inRange : time.toNat ≤ longestTime) :
    highResolution.timeOfTicks (highResolution.ticksOfTime time) = worn 1 time := by
  apply UInt32.toNat_inj.mp
  have size : UInt32.size = 2 ^ 32 := rfl
  unfold longestTime at inRange
  rw [toNat_timeOfTicks, toNat_ticksOfTime, toNat_worn]
  omega

end Clock

end TrafficShaping
