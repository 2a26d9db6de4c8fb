/-!
Binary floating point numbers of 64 bits, computed exactly.

A finite number is a sign, a significand below `2 ^ 53` and the exponent of the power of two that it
multiplies. Every operation forms the exact result as a quotient of natural numbers and rounds it
once, to the nearest number and, from the middle between two, to the one with the even significand.
-/

namespace TrafficShaping.Number

/-- A binary floating point number of 64 bits. All that is not a number is one value. -/
inductive Binary64 where
  /-- The result of an operation that has none, such as zero divided by zero. -/
  | nan
  | infinite (negative : Bool)
  /-- The number `significand * 2 ^ exponent`, with a sign that zero has as well. -/
  | finite (negative : Bool) (significand : Nat) (exponent : Int)
  deriving DecidableEq, Repr

namespace Binary64

/-- The exponent of the numbers closest to zero. -/
def minExponent : Int := -1074

/-- The exponent of the largest finite numbers. -/
def maxExponent : Int := 971

/-- The least significand of 53 bits, which all but the numbers closest to zero reach. -/
def leadingBit : Nat := 1 <<< 52

/-- Zero with a sign. -/
def zero (negative : Bool) : Binary64 := .finite negative 0 minExponent

/-! ## Rounding -/

/-- The integer nearest to `numerator / denominator`, the even one from the middle between two. -/
def nearestEven (numerator denominator : Nat) : Nat :=
  let quotient := numerator / denominator
  let twice := 2 * (numerator % denominator)
  if denominator < twice ∨ (twice = denominator ∧ quotient % 2 = 1) then quotient + 1
  else quotient

/-- The quotient of two naturals divided by `2 ^ exponent`, as a numerator and a denominator. -/
def scaled (numerator denominator : Nat) (exponent : Int) : Nat × Nat :=
  (numerator <<< (-exponent).toNat, denominator <<< exponent.toNat)

/-- The exponent at which `numerator / denominator` has a significand of 53 bits, or the least
exponent when it is too small for that. -/
def exponentFor (numerator denominator : Nat) : Int :=
  let guess : Int := numerator.log2 - denominator.log2 - 52
  let (above, below) := scaled numerator denominator guess
  max (if above < leadingBit * below then guess - 1 else guess) minExponent

/-- The number nearest to `numerator / denominator`, under the given sign. -/
def ofRatio (negative : Bool) (numerator denominator : Nat) : Binary64 :=
  if numerator = 0 then zero negative
  else
    let exponent := exponentFor numerator denominator
    let (above, below) := scaled numerator denominator exponent
    let significand := nearestEven above below
    if significand = 2 * leadingBit then
      if exponent + 1 > maxExponent then .infinite negative
      else .finite negative leadingBit (exponent + 1)
    else if exponent > maxExponent then .infinite negative
    else .finite negative significand exponent

/-- The number nearest to a natural one. -/
def ofNat (n : Nat) : Binary64 := ofRatio false n 1

/-! ## Arithmetic -/

/-- The number nearest to `numerator * 2 ^ exponent / denominator`, under the given sign. -/
def ofScaledRatio (negative : Bool) (numerator denominator : Nat) (exponent : Int) : Binary64 :=
  let (above, below) := scaled numerator denominator (-exponent)
  ofRatio negative above below

/-- The product. -/
def mul : Binary64 → Binary64 → Binary64
  | .nan, _ | _, .nan => .nan
  | .infinite a, .infinite b => .infinite (a != b)
  | .infinite a, .finite b m _ | .finite b m _, .infinite a =>
    if m = 0 then .nan else .infinite (a != b)
  | .finite a m e, .finite b n f => ofScaledRatio (a != b) (m * n) 1 (e + f)

/-- The quotient. -/
def div : Binary64 → Binary64 → Binary64
  | .nan, _ | _, .nan | .infinite _, .infinite _ => .nan
  | .infinite a, .finite b _ _ => .infinite (a != b)
  | .finite a _ _, .infinite b => zero (a != b)
  | .finite a m e, .finite b n f =>
    if n = 0 then (if m = 0 then .nan else .infinite (a != b))
    else ofScaledRatio (a != b) m n (e - f)

/-- A significand with its sign, on the grid of a lower exponent. -/
def onGrid (negative : Bool) (significand : Nat) (steps : Int) : Int :=
  (if negative then -1 else 1) * (significand <<< steps.toNat : Nat)

/-- The sum. -/
def add : Binary64 → Binary64 → Binary64
  | .nan, _ | _, .nan => .nan
  | .infinite a, .infinite b => if a = b then .infinite a else .nan
  | .infinite a, .finite .. | .finite .., .infinite a => .infinite a
  | .finite a m e, .finite b n f =>
    let grid := min e f
    let sum := onGrid a m (e - grid) + onGrid b n (f - grid)
    if sum = 0 then zero (a && b) else ofScaledRatio (decide (sum < 0)) sum.natAbs 1 grid

instance : Mul Binary64 := ⟨mul⟩
instance : Div Binary64 := ⟨div⟩
instance : Add Binary64 := ⟨add⟩

/-- Whether it is no number. -/
def isNan : Binary64 → Bool
  | .nan => true
  | _ => false

/-- Whether a number lies strictly below another one. What is not a number never does. -/
def less : Binary64 → Binary64 → Bool
  | .nan, _ | _, .nan => false
  | .infinite a, .infinite b => a && !b
  | .infinite a, .finite .. => a
  | .finite .., .infinite b => !b
  | .finite a m e, .finite b n f =>
    let grid := min e f
    decide (onGrid a m (e - grid) < onGrid b n (f - grid))

/-- The number itself between two bounds, and the nearer bound outside of them. What is not a
number stays so. -/
def clamp (low high x : Binary64) : Binary64 :=
  if x.less low then low else if high.less x then high else x

/-! ## Integers -/

/-- The integer part of a significand times a power of two. -/
def integerPart (significand : Nat) (exponent : Int) : Nat :=
  significand <<< exponent.toNat >>> (-exponent).toNat

/-- The number without its fraction as a word: the nearest word where it is out of range, and zero
for what is not a number. -/
def toUInt32 : Binary64 → UInt32
  | .nan => 0
  | .infinite negative => if negative then 0 else UInt32.ofNat (UInt32.size - 1)
  | .finite negative significand exponent =>
    if negative then 0 else UInt32.ofNat (min (integerPart significand exponent) (UInt32.size - 1))

/-! ## Bit patterns -/

/-- The sign bit. -/
def signBit : Nat := 1 <<< 63

/-- The number of a bit pattern: a sign bit, eleven bits of exponent, 52 bits of fraction. -/
def ofBits (bits : UInt64) : Binary64 :=
  let negative := decide (signBit ≤ bits.toNat)
  let fraction : Nat := bits.toNat % leadingBit
  let biased : Nat := bits.toNat / leadingBit % 2048
  if biased = 2047 then (if fraction = 0 then .infinite negative else .nan)
  else if biased = 0 then .finite negative fraction minExponent
  else .finite negative (leadingBit + fraction) (biased - 1075)

/-- The bit pattern of a number. -/
def toBits : Binary64 → UInt64
  | .nan => UInt64.ofNat (2047 * leadingBit + leadingBit / 2)
  | .infinite negative => UInt64.ofNat (sign negative + 2047 * leadingBit)
  | .finite negative significand exponent =>
    if significand < leadingBit then UInt64.ofNat (sign negative + significand)
    else UInt64.ofNat
      (sign negative + (exponent + 1075).toNat * leadingBit + (significand - leadingBit))
where
  /-- The part of a bit pattern that is the sign. -/
  sign (negative : Bool) : Nat := if negative then signBit else 0

/-! ## Decimal text -/

/-- The number with two decimal places, rounded to the nearest and from the middle to the even. -/
def toHundredths : Binary64 → String
  | .nan => "NaN"
  | .infinite negative => if negative then "-inf" else "inf"
  | .finite negative significand exponent =>
    let (above, below) := scaled (100 * significand) 1 (-exponent)
    let hundredths := nearestEven above below
    let sign := if negative then "-" else ""
    let places := hundredths % 100
    let pad := if places < 10 then "0" else ""
    s!"{sign}{hundredths / 100}.{pad}{places}"

end Binary64

end TrafficShaping.Number
