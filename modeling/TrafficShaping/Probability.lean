import TrafficShaping.Number.Binary64

/-!
Probabilities on the kernel's scale: a word, the largest of which is certainty.
-/

namespace TrafficShaping

open Number

/-- A probability. -/
structure Probability where
  /-- The probability as a fraction of the largest word. -/
  raw : UInt32
  deriving DecidableEq, Repr

namespace Probability

/-- The word of certainty, as a number. -/
def scale : Binary64 := .ofNat (UInt32.size - 1)

/-- One hundred. -/
def hundred : Binary64 := .ofNat 100

/-- Never. -/
def zero : Probability := ⟨0⟩

/-- Always. -/
def full : Probability := ⟨0xFFFFFFFF⟩

/-- The probability of a percentage, which is taken for the nearer bound outside of 0 to 100. -/
def ofPercent (percent : Binary64) : Probability :=
  let percent := Binary64.clamp (.zero false) hundred percent
  if percent.isNan || percent.less hundred then ⟨(scale * (percent / hundred)).toUInt32⟩ else full

/-- The percentage of a probability. -/
def percent (probability : Probability) : Binary64 :=
  .ofNat probability.raw.toNat / scale * hundred

/-- Whether the probability is that of never. -/
def isZero (probability : Probability) : Bool := probability.raw == 0

/-- The percentage with two places. -/
def text (probability : Probability) : String := s!"{probability.percent.toHundredths}%"

end Probability

end TrafficShaping
