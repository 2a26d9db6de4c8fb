import Mathlib.Algebra.Order.Ring.Nat
import Mathlib.Data.List.Chain
import TrafficShaping.Statistics

/-!
Differences of consecutive samples.

Seven values of a sample are counters of two widths, and `Counter.value_delta` is all that is needed
of a single difference: a counter is subtracted and stops at zero. What a counter gains from sample
to sample, and what it loses where it was set back, account for the way from the first sample to the
last (`Counter.value_add_total_deltas`). So the differences add up to the last sample exactly when
the counter is never set back (`Counter.value_add_total_deltas_eq_iff`).
`Statistics.deltas_telescope_and_delta_le` puts this together with the values that are not counted,
which each difference takes from its later sample.
-/

namespace TrafficShaping

/-! ## Counters -/

/-- The values of a sample that grow with the traffic. -/
inductive Counter where
  | bytes
  | packets
  | drops
  | requeues
  | overlimits
  | hardwareBytes
  | hardwarePackets

namespace Counter

/-- What a counter stands at in a sample. -/
def value (counter : Counter) (sample : Statistics) : Nat :=
  match counter with
  | bytes => sample.traffic.bytes.toNat
  | packets => sample.traffic.packets.toNat
  | drops => sample.queue.drops.toNat
  | requeues => sample.queue.requeues.toNat
  | overlimits => sample.queue.overlimits.toNat
  | hardwareBytes => sample.hardware.bytes.toNat
  | hardwarePackets => sample.hardware.packets.toNat

/-- The sum of what a counter stands at in some samples. -/
def total (counter : Counter) (samples : List Statistics) : Nat := (samples.map counter.value).sum

theorem toNat_since64 (current previous : UInt64) :
    (since64 current previous).toNat = current.toNat - previous.toNat := by
  have word : current.toNat < UInt64.size := current.toNat_lt
  exact UInt64.toNat_ofNat_of_lt' (Nat.lt_of_le_of_lt (Nat.sub_le _ _) word)

theorem toNat_since32 (current previous : UInt32) :
    (since32 current previous).toNat = current.toNat - previous.toNat := by
  have word : current.toNat < UInt32.size := current.toNat_lt
  exact UInt32.toNat_ofNat_of_lt' (Nat.lt_of_le_of_lt (Nat.sub_le _ _) word)

variable (counter : Counter)

/-- Every counter is subtracted, and none goes below zero. -/
theorem value_delta (current previous : Statistics) :
    counter.value (current.delta previous) = counter.value current - counter.value previous := by
  cases counter with
  | bytes => exact toNat_since64 current.traffic.bytes previous.traffic.bytes
  | packets => exact toNat_since64 current.traffic.packets previous.traffic.packets
  | drops => exact toNat_since32 current.queue.drops previous.queue.drops
  | requeues => exact toNat_since32 current.queue.requeues previous.queue.requeues
  | overlimits => exact toNat_since32 current.queue.overlimits previous.queue.overlimits
  | hardwareBytes => exact toNat_since64 current.hardware.bytes previous.hardware.bytes
  | hardwarePackets => exact toNat_since64 current.hardware.packets previous.hardware.packets

theorem total_cons (sample : Statistics) (samples : List Statistics) :
    counter.total (sample :: samples) = counter.value sample + counter.total samples :=
  List.sum_cons

end Counter

/-! ## Samples one after the other -/

namespace Statistics

/-- The differences of consecutive samples. -/
def deltas (first : Statistics) : List Statistics → List Statistics
  | [] => []
  | second :: later => second.delta first :: deltas second later

/-- The differences of consecutive samples the other way round, in which a counter stands at what it
lost from one sample to the next. -/
def losses (first : Statistics) : List Statistics → List Statistics
  | [] => []
  | second :: later => first.delta second :: losses second later

/-- The values of a sample that hold at the time it is taken. -/
structure Momentary where
  length : UInt32
  backlog : UInt32
  rate : RateEstimate

/-- The values that are not counted. -/
def momentary (sample : Statistics) : Momentary :=
  ⟨sample.queue.length, sample.queue.backlog, sample.rate⟩

/-- Whether no counter falls from one sample to the next. -/
def NoneFalls (previous current : Statistics) : Prop :=
  ∀ counter : Counter, counter.value previous ≤ counter.value current

theorem map_momentary_deltas (first : Statistics) (later : List Statistics) :
    (deltas first later).map momentary = later.map momentary := by
  induction later generalizing first with
  | nil => rfl
  | cons second later ih => exact congrArg (second.momentary :: ·) (ih second)

end Statistics

namespace Counter

open Statistics

variable (counter : Counter) (first : Statistics) (later : List Statistics)

/-- What a counter gains makes up for what it loses and for the way from the first sample to the
last. -/
theorem value_add_total_deltas :
    counter.value first + counter.total (deltas first later) =
      counter.value (later.getLastD first) + counter.total (losses first later) := by
  induction later generalizing first with
  | nil => rfl
  | cons second later ih =>
      have gain := counter.value_delta second first
      have loss := counter.value_delta first second
      have run := ih second
      rw [deltas, losses, total_cons, total_cons, List.getLastD_cons]
      -- In a single step a counter gains or loses, and one of the two differences is zero.
      omega

/-- A counter loses nothing exactly when it never falls. -/
theorem total_losses_eq_zero_iff :
    counter.total (losses first later) = 0 ↔
      (first :: later).IsChain fun previous current =>
        counter.value previous ≤ counter.value current := by
  induction later generalizing first with
  | nil => exact iff_of_true rfl (List.isChain_singleton first)
  | cons second later ih =>
      rw [losses, total_cons, Nat.add_eq_zero_iff, value_delta, Nat.sub_eq_zero_iff_le, ih,
        List.isChain_cons_cons]

/-- Added to the first sample, the differences give the last one exactly when the counter never
falls. -/
theorem value_add_total_deltas_eq_iff :
    counter.value first + counter.total (deltas first later) =
        counter.value (later.getLastD first) ↔
      (first :: later).IsChain fun previous current =>
        counter.value previous ≤ counter.value current := by
  rw [value_add_total_deltas, Nat.add_eq_left, total_losses_eq_zero_iff]

end Counter

namespace Statistics

/-- While no counter falls, the differences of consecutive samples add up, in every counter, to the
difference of the last sample and the first, and to the last sample when they are added to the
first, so that no sum outgrows the width of its counter. What is not counted is that of the later
sample in each difference. Of any two samples, no counter of the difference is above that of the
current sample, and it is zero exactly when the counter has not risen. -/
theorem deltas_telescope_and_delta_le :
    (∀ (first : Statistics) (later : List Statistics),
      ((first :: later).IsChain NoneFalls → ∀ counter : Counter,
        counter.total (deltas first later) =
          counter.value ((later.getLastD first).delta first) ∧
        counter.value first + counter.total (deltas first later) =
          counter.value (later.getLastD first)) ∧
      (deltas first later).map momentary = later.map momentary) ∧
    ∀ (counter : Counter) (current previous : Statistics),
      counter.value (current.delta previous) ≤ counter.value current ∧
      (counter.value (current.delta previous) = 0 ↔
        counter.value current ≤ counter.value previous) := by
  constructor
  · intro first later
    refine ⟨fun never counter => ?_, map_momentary_deltas first later⟩
    have rises : (first :: later).IsChain fun previous current =>
        counter.value previous ≤ counter.value current := never.imp fun _ _ none => none counter
    have reached := (counter.value_add_total_deltas_eq_iff first later).mpr rises
    refine ⟨?_, reached⟩
    rw [counter.value_delta, ← reached, Nat.add_sub_cancel_left]
  · intro counter current previous
    rw [counter.value_delta]
    exact ⟨Nat.sub_le _ _, Nat.sub_eq_zero_iff_le⟩

/-- A class that sends more than 53 bits can count while its queue drains. -/
def busy : Statistics where
  traffic := ⟨9007199254740993, 4294967296⟩
  queue := ⟨900, 1362600, 4294967290, 3, 7⟩
  rate := ⟨125000000, 82562⟩
  hardware := ⟨64, 1⟩

/-- The same class later. -/
def drained : Statistics where
  traffic := ⟨9007199254745057, 4294967300⟩
  queue := ⟨0, 0, 4294967295, 3, 8⟩
  rate := ⟨1000, 1⟩
  hardware := ⟨128, 2⟩

theorem deltas_telescope_and_delta_le_drained :
    [zero, busy, drained].IsChain NoneFalls ∧
      Counter.drops.total (deltas zero [busy, drained]) = 4294967295 ∧
      (deltas zero [busy, drained]).map momentary = [busy.momentary, drained.momentary] ∧
      Counter.bytes.value (busy.delta drained) = 0 := by
  obtain ⟨run, pair⟩ := deltas_telescope_and_delta_le
  have never : [zero, busy, drained].IsChain NoneFalls := by
    refine .cons_cons ?_ (.cons_cons ?_ (.singleton _))
    · intro counter
      cases counter <;> decide
    · intro counter
      cases counter <;> decide
  obtain ⟨telescope, momentary⟩ := run zero [busy, drained]
  obtain ⟨sum, -⟩ := telescope never .drops
  exact ⟨never, sum, momentary, (pair .bytes busy drained).2.mpr (by decide)⟩

end Statistics

end TrafficShaping
