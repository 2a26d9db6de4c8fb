import Mathlib.Algebra.Order.Ring.Nat
import Mathlib.Tactic.Linarith
import Mathlib.Tactic.Ring
import TrafficShaping.Number.Binary64

/-!
Cutting off the fraction after rounding.

Rounding a quotient to 53 bits can carry it over the next integer, so that what is cut off is not
the fraction of the quotient. It cannot when the quotient has a small denominator in lowest terms
and is small itself, since it is then too far below the next integer: `Binary64.toUInt32_ofRatio`.
Naturals of 32 bits are exact (`Binary64.exists_ofNat_eq`).
-/

namespace TrafficShaping.Number.Binary64

variable {numerator denominator : Nat}

/-! ## The nearest integer -/

theorem nearestEven_one (n : Nat) : nearestEven n 1 = n := by
  unfold nearestEven
  rw [Nat.div_one, Nat.mod_one]
  rfl

/-- Only a fraction of at least a half is rounded up. -/
theorem nearestEven_cases (numerator denominator : Nat) :
    nearestEven numerator denominator = numerator / denominator ∨
      nearestEven numerator denominator = numerator / denominator + 1 ∧
        denominator ≤ 2 * (numerator % denominator) := by
  unfold nearestEven
  dsimp only
  split
  · next up =>
      refine .inr ⟨rfl, ?_⟩
      rcases up with more | ⟨half, _⟩
      · exact Nat.le_of_lt more
      · exact Nat.le_of_eq half.symm
  · exact .inl rfl

/-- A multiple of `1 / d` that is not an integer is `1 / d` below the next one at least. The
distance is `gap / denominator` here, on a grid of `2 ^ -k`. -/
theorem two_pow_le_of_gap {c d k next gap : Nat} (positive : 0 < denominator) (nonzero : 0 < d)
    (below : 0 < gap) (near : 2 * gap ≤ denominator) (same : numerator * d = c * denominator)
    (reached : denominator * (2 ^ k * next) = numerator * 2 ^ k + gap) : 2 ^ (k + 1) ≤ d := by
  have distance : denominator * 2 ^ k * (next * d) = denominator * 2 ^ k * c + gap * d := by
    calc denominator * 2 ^ k * (next * d) = denominator * (2 ^ k * next) * d := by ring
      _ = numerator * d * 2 ^ k + gap * d := by rw [reached]; ring
      _ = denominator * 2 ^ k * c + gap * d := by rw [same]; ring
  have multiple : denominator * 2 ^ k ∣ gap * d :=
    (Nat.dvd_add_right (Nat.dvd_mul_right _ c)).mp (distance ▸ Nat.dvd_mul_right _ _)
  have far : denominator * 2 ^ k ≤ gap * d := Nat.le_of_dvd (Nat.mul_pos below nonzero) multiple
  have scaled : denominator * 2 ^ (k + 1) ≤ denominator * d := by
    calc denominator * 2 ^ (k + 1) = 2 * (denominator * 2 ^ k) := by ring
      _ ≤ 2 * (gap * d) := Nat.mul_le_mul_left 2 far
      _ = 2 * gap * d := by ring
      _ ≤ denominator * d := Nat.mul_le_mul_right d near
  exact Nat.le_of_mul_le_mul_left scaled positive

/-- Rounding on a grid of `2 ^ -k` does not reach the next integer when the exact quotient is a
multiple of `1 / d` and the grid is finer than that. -/
theorem nearestEven_div_two_pow {c d k : Nat} (positive : 0 < denominator) (nonzero : 0 < d)
    (same : numerator * d = c * denominator) (fine : d < 2 ^ (k + 1)) :
    nearestEven (numerator * 2 ^ k) denominator / 2 ^ k = numerator / denominator := by
  have floor : numerator * 2 ^ k / denominator / 2 ^ k = numerator / denominator := by
    rw [Nat.div_div_eq_div_mul, Nat.mul_div_mul_right _ _ (Nat.two_pow_pos k)]
  rcases nearestEven_cases (numerator * 2 ^ k) denominator with down | ⟨up, half⟩
  · rw [down, floor]
  · have inside : ¬ 2 ^ k ∣ numerator * 2 ^ k / denominator + 1 := by
      rintro ⟨next, reached⟩
      have whole := Nat.div_add_mod (numerator * 2 ^ k) denominator
      have less := Nat.mod_lt (numerator * 2 ^ k) positive
      have above : denominator * (2 ^ k * next) =
          numerator * 2 ^ k + (denominator - numerator * 2 ^ k % denominator) := by
        rw [← reached, Nat.mul_add, Nat.mul_one]
        omega
      have coarse := two_pow_le_of_gap positive nonzero (by omega) (by omega) same above
      omega
    rw [up, Nat.succ_div, if_neg inside, Nat.add_zero, floor]

/-! ## Exponents -/

theorem scaled_eq (numerator denominator : Nat) (exponent : Int) :
    scaled numerator denominator exponent =
      (numerator * 2 ^ (-exponent).toNat, denominator * 2 ^ exponent.toNat) := by
  unfold scaled
  rw [Nat.shiftLeft_eq, Nat.shiftLeft_eq]

theorem scaled_neg (numerator denominator k : Nat) :
    scaled numerator denominator (-k) = (numerator * 2 ^ k, denominator) := by
  rw [scaled_eq, Int.neg_neg, Int.toNat_natCast, Int.toNat_neg_natCast, Nat.pow_zero, Nat.mul_one]

/-- A quotient below `2 ^ j` has a grid of `2 ^ (j - 52)` at most. -/
theorem exponentFor_le {j : Nat} (nonzero : numerator ≠ 0) (positive : 0 < denominator)
    (small : numerator < 2 ^ j * denominator) : exponentFor numerator denominator ≤ j - 52 := by
  have digits : numerator.log2 ≤ j + denominator.log2 := by
    refine Nat.le_of_lt_succ ((Nat.log2_lt nonzero).mpr ?_)
    have bound : denominator < 2 ^ (denominator.log2 + 1) :=
      (Nat.log2_lt (Nat.ne_of_gt positive)).mp (Nat.lt_succ_self _)
    calc numerator < 2 ^ j * denominator := small
      _ ≤ 2 ^ j * 2 ^ (denominator.log2 + 1) := Nat.mul_le_mul_left _ (Nat.le_of_lt bound)
      _ = 2 ^ (j + denominator.log2 + 1) := by ring
  unfold exponentFor minExponent
  dsimp only
  split
  · omega
  · omega

/-! ## Rounded quotients -/

/-- A rounded quotient below `2 ^ j` is the nearest integer on a grid of `2 ^ -(k + i)`, from which
`i` digits may have been dropped that are zero. -/
theorem exists_ofRatio_eq (negative : Bool) {j : Nat} (nonzero : numerator ≠ 0)
    (positive : 0 < denominator) (small : numerator < 2 ^ j * denominator) (room : j ≤ 51) :
    ∃ significand k i : Nat,
      ofRatio negative numerator denominator = .finite negative significand (-k) ∧
      significand * 2 ^ i = nearestEven (numerator * 2 ^ (k + i)) denominator ∧
      52 ≤ j + (k + i) := by
  have exponent := exponentFor_le nonzero positive small
  obtain ⟨k, grid⟩ : ∃ k : Nat, exponentFor numerator denominator = -k :=
    ⟨(-exponentFor numerator denominator).toNat, by omega⟩
  rw [grid] at exponent
  unfold ofRatio
  rw [if_neg nonzero, grid]
  dsimp only
  rw [scaled_neg]
  dsimp only
  split
  · next carried =>
      obtain ⟨less, rfl⟩ : ∃ less, k = less + 1 := ⟨k - 1, by omega⟩
      refine ⟨leadingBit, less, 1, ?_, ?_, by omega⟩
      · rw [if_neg (by unfold maxExponent; omega)]
        congr 1
        omega
      · rw [carried]
        exact Nat.mul_comm _ _
  · rw [if_neg (by unfold maxExponent; omega)]
    exact ⟨_, k, 0, rfl, Nat.mul_one _, by omega⟩

theorem toUInt32_finite (significand k : Nat) :
    (Binary64.finite false significand (-k)).toUInt32 =
      UInt32.ofNat (min (significand / 2 ^ k) (UInt32.size - 1)) := by
  have part : integerPart significand (-k) = significand / 2 ^ k := by
    unfold integerPart
    rw [Int.neg_neg, Int.toNat_natCast, Int.toNat_neg_natCast, Nat.shiftLeft_zero,
      Nat.shiftRight_eq_div_pow]
  unfold toUInt32
  dsimp only
  rw [part]
  rfl

/-- A small quotient with a small denominator in lowest terms loses its own fraction. -/
theorem toUInt32_ofRatio {c d : Nat} (positive : 0 < denominator) (nonzero : 0 < d)
    (same : numerator * d = c * denominator) (small : numerator < 2 ^ 40 * denominator)
    (fine : d < 2 ^ 13) :
    (ofRatio false numerator denominator).toUInt32 =
      UInt32.ofNat (min (c / d) (UInt32.size - 1)) := by
  have lowest : c / d = numerator / denominator := by
    rw [← Nat.mul_div_mul_right c d positive, ← same, Nat.mul_comm numerator,
      Nat.mul_div_mul_left _ _ nonzero]
  rw [lowest]
  by_cases zero : numerator = 0
  · rw [zero, Nat.zero_div]
    rfl
  · obtain ⟨significand, k, i, rounded, nearest, bound⟩ :=
      exists_ofRatio_eq false zero positive small (by decide)
    have grid : d < 2 ^ (k + i + 1) :=
      Nat.lt_of_lt_of_le fine (Nat.pow_le_pow_right (by decide) (by omega))
    have floor : significand / 2 ^ k = numerator / denominator := by
      rw [← nearestEven_div_two_pow positive nonzero same grid, ← nearest, Nat.pow_add,
        Nat.mul_div_mul_right _ _ (Nat.two_pow_pos i)]
    rw [rounded, toUInt32_finite, floor]

/-- A natural below `2 ^ 51` is a number. -/
theorem exists_ofNat_eq {n : Nat} (small : n < 2 ^ 51) :
    ∃ k : Nat, ofNat n = .finite false (n * 2 ^ k) (-k) := by
  by_cases zero : n = 0
  · rw [zero]
    exact ⟨1074, by rw [Nat.zero_mul]; rfl⟩
  · obtain ⟨significand, k, i, rounded, nearest, _⟩ :=
      exists_ofRatio_eq false zero Nat.one_pos ((Nat.mul_one _).symm ▸ small) (Nat.le_refl _)
    rw [nearestEven_one, Nat.pow_add, ← Nat.mul_assoc] at nearest
    rw [Nat.eq_of_mul_eq_mul_right (Nat.two_pow_pos i) nearest] at rounded
    exact ⟨k, rounded⟩

end TrafficShaping.Number.Binary64
