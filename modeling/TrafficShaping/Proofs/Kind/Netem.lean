import TrafficShaping.Kind.Netem
import TrafficShaping.Proofs.Attribute.Leaves
import TrafficShaping.Proofs.Kind.Rate

/-!
The options of an emulator carry its settings, but for five that they may change.

`Netem.carried` says what arrives: times are rounded to ticks, a correlation is lost with the
probability that it goes with, and a rate of zero is no limit. `Netem.exists_encode` is the round
trip, and `Netem.encode_of_needsDelay` the one refusal. Every step of the reader undoes one entry of
the options, whether that is there or not.
-/

namespace TrafficShaping.Netem

/-! ## Options -/

/-- Whether packets are to be reordered without a delay to do it in. -/
def NeedsDelay (netem : Netem) : Prop := netem.reorder.raw ≠ 0 ∧ netem.latency = 0

instance (netem : Netem) : Decidable netem.NeedsDelay :=
  inferInstanceAs (Decidable (_ ∧ _))

/-- The settings that arrive. -/
def carried (netem : Netem) (clock : Clock) : Netem :=
  { netem with
    latency := clock.timeOfTicks (clock.ticksOfTime netem.latency)
    jitter := clock.timeOfTicks (clock.ticksOfTime netem.jitter)
    reorderCorrelation := if netem.reorder.raw = 0 then .zero else netem.reorderCorrelation
    corruptCorrelation := if netem.corrupt.raw = 0 then .zero else netem.corruptCorrelation
    rate := if netem.rate = some 0 then none else netem.rate }

/-- The payload for the correlations, when there are any. -/
def correlation? (netem : Netem) : Option Bytes :=
  if netem.isCorrelated then
    some <| Record.toBytes
      (⟨netem.delayCorrelation.raw, netem.lossCorrelation.raw, netem.duplicateCorrelation.raw⟩ :
        NetemCorrelation)
  else none

/-- The payload for reordering, when there is some. -/
def reorder? (netem : Netem) : Option Bytes :=
  if netem.reorder.isZero then none
  else some (Record.toBytes
    (⟨netem.reorder.raw, netem.reorderCorrelation.raw⟩ : NetemReorder))

/-- The payload for damage, when there is some. -/
def corrupt? (netem : Netem) : Option Bytes :=
  if netem.corrupt.isZero then none
  else some (Record.toBytes
    (⟨netem.corrupt.raw, netem.corruptCorrelation.raw⟩ : NetemCorrupt))

/-- The payload for a limit of the rate in 32 bits, when there is one. -/
def rate? (netem : Netem) : Option Bytes :=
  netem.rate.map fun rate =>
    Record.toBytes (⟨RateSpec.saturated rate, 0, 0, 0⟩ : NetemRate)

/-- The tags and payloads of the attributes. -/
def entries (netem : Netem) : List (UInt16 × Option Bytes) :=
  [(NetemTag.correlation, netem.correlation?), (NetemTag.reorder, netem.reorder?),
    (NetemTag.corrupt, netem.corrupt?), (NetemTag.rate, netem.rate?),
    (NetemTag.rate64, netem.rate.bind RateSpec.wide?)]

/-- The tags of the attributes. -/
def tags : List UInt16 :=
  [NetemTag.correlation, NetemTag.reorder, NetemTag.corrupt, NetemTag.rate, NetemTag.rate64]

theorem rateAttributes_eq (netem : Netem) :
    (netem.rate.map rateAttributes).getD [] =
      (Tagged.ofEntries [(NetemTag.rate, netem.rate?),
        (NetemTag.rate64, netem.rate.bind RateSpec.wide?)]).map Tagged.toLeaf := by
  unfold rate?
  cases netem.rate with
  | none => rfl
  | some rate =>
      change rateAttributes rate =
        (Tagged.ofEntries [(NetemTag.rate, _), (NetemTag.rate64, RateSpec.wide? rate)]).map _
      unfold rateAttributes RateSpec.wide?
      split <;> rfl

theorem attributes_eq (netem : Netem) :
    netem.attributes = (Tagged.ofEntries netem.entries).map Tagged.toLeaf := by
  unfold attributes entries
  rw [rateAttributes_eq]
  unfold correlation? reorder? corrupt?
  split <;> split <;> split <;> rfl

theorem tagOf_of_mem_entries (netem : Netem) :
    ∀ tag ∈ netem.entries.map Prod.fst, AttributeHeader.tagOf tag = tag := by
  change ∀ tag ∈ tags, AttributeHeader.tagOf tag = tag
  exact AttributeHeader.tagOf_eq_of_all (by decide)

theorem nodup_entries (netem : Netem) : (netem.entries.map Prod.fst).Nodup := by
  change tags.Nodup
  decide

theorem length_le_of_mem_entries (netem : Netem) :
    ∀ entry ∈ netem.entries, ∀ data ∈ entry.2, data.length ≤ maxAttributePayload := by
  unfold entries
  simp only [List.forall_mem_cons]
  refine ⟨?_, ?_, ?_, ?_, ?_, fun _ member => nomatch member⟩
  · intro data there
    obtain ⟨_, ⟨⟩⟩ := Option.ite_none_right_eq_some.mp there
    rw [NetemCorrelation.lawful_layout.length_toBytes]
    decide
  · intro data there
    obtain ⟨_, ⟨⟩⟩ := Option.ite_none_left_eq_some.mp there
    rw [NetemReorder.lawful_layout.length_toBytes]
    decide
  · intro data there
    obtain ⟨_, ⟨⟩⟩ := Option.ite_none_left_eq_some.mp there
    rw [NetemCorrupt.lawful_layout.length_toBytes]
    decide
  · intro data there
    obtain ⟨rate, _, rfl⟩ := Option.map_eq_some_iff.mp there
    rw [NetemRate.lawful_layout.length_toBytes]
    decide
  · intro data there
    obtain ⟨rate, _, wide⟩ := Option.bind_eq_some_iff.mp there
    rw [RateSpec.length_of_mem_wide? wide]
    decide

/-! ## Steps of the reader -/

variable {netem current : Netem} {found : List Tagged}

theorem applyFirst_none {tag : UInt16} {apply : Netem → Bytes → Except Error Netem}
    (absent : Tagged.find? found tag = none) :
    applyFirst found tag apply current = .ok current := by
  unfold applyFirst
  rw [absent]

theorem applyFirst_some {tag : UInt16} {apply : Netem → Bytes → Except Error Netem} {data : Bytes}
    (there : Tagged.find? found tag = some data) :
    applyFirst found tag apply current = apply current data := by
  unfold applyFirst
  rw [there]

theorem eq_zero_of_isZero {probability : Probability} (zero : probability.isZero = true) :
    probability = .zero := by
  cases probability
  exact congrArg Probability.mk (eq_of_beq zero)

/-- Correlations are missing only when all three are zero, which is what they start as. -/
theorem applyFirst_correlation
    (there : Tagged.find? found NetemTag.correlation = netem.correlation?)
    (delay : current.delayCorrelation = .zero) (loss : current.lossCorrelation = .zero)
    (duplicate : current.duplicateCorrelation = .zero) :
    applyFirst found NetemTag.correlation applyCorrelation current =
      .ok { current with
        delayCorrelation := netem.delayCorrelation
        lossCorrelation := netem.lossCorrelation
        duplicateCorrelation := netem.duplicateCorrelation } := by
  unfold correlation? at there
  split at there
  · rw [applyFirst_some there]
    unfold applyCorrelation
    rw [NetemCorrelation.lawful_layout.read_toBytes]
    rfl
  · rename_i uncorrelated
    unfold isCorrelated at uncorrelated
    simp only [Bool.or_eq_true, Bool.not_eq_true', not_or, Bool.not_eq_false] at uncorrelated
    obtain ⟨⟨zeroDelay, zeroLoss⟩, zeroDuplicate⟩ := uncorrelated
    rw [applyFirst_none there, (eq_zero_of_isZero zeroDelay).trans delay.symm,
      (eq_zero_of_isZero zeroLoss).trans loss.symm,
      (eq_zero_of_isZero zeroDuplicate).trans duplicate.symm]

theorem applyFirst_reorder (there : Tagged.find? found NetemTag.reorder = netem.reorder?)
    (reorder : current.reorder = .zero) (correlation : current.reorderCorrelation = .zero) :
    applyFirst found NetemTag.reorder applyReorder current =
      .ok { current with
        reorder := netem.reorder
        reorderCorrelation :=
          if netem.reorder.raw = 0 then .zero else netem.reorderCorrelation } := by
  unfold reorder? at there
  split at there
  · rename_i zero
    rw [applyFirst_none there, if_pos (eq_of_beq zero), ← correlation,
      (eq_zero_of_isZero zero).trans reorder.symm]
  · rename_i nonzero
    rw [applyFirst_some there, if_neg fun zero => nonzero (beq_iff_eq.mpr zero)]
    unfold applyReorder
    rw [NetemReorder.lawful_layout.read_toBytes]
    rfl

theorem applyFirst_corrupt (there : Tagged.find? found NetemTag.corrupt = netem.corrupt?)
    (corrupt : current.corrupt = .zero) (correlation : current.corruptCorrelation = .zero) :
    applyFirst found NetemTag.corrupt applyCorrupt current =
      .ok { current with
        corrupt := netem.corrupt
        corruptCorrelation :=
          if netem.corrupt.raw = 0 then .zero else netem.corruptCorrelation } := by
  unfold corrupt? at there
  split at there
  · rename_i zero
    rw [applyFirst_none there, if_pos (eq_of_beq zero), ← correlation,
      (eq_zero_of_isZero zero).trans corrupt.symm]
  · rename_i nonzero
    rw [applyFirst_some there, if_neg fun zero => nonzero (beq_iff_eq.mpr zero)]
    unfold applyCorrupt
    rw [NetemCorrupt.lawful_layout.read_toBytes]
    rfl

/-- The word of 32 bits and the attribute of 64 bits together carry every rate but zero. -/
theorem applyFirst_rate (narrow : Tagged.find? found NetemTag.rate = netem.rate?)
    (wide : Tagged.find? found NetemTag.rate64 = netem.rate.bind RateSpec.wide?)
    (unlimited : current.rate = none) :
    (applyFirst found NetemTag.rate applyRate current >>=
        applyFirst found NetemTag.rate64 applyRate64) =
      .ok { current with rate := if netem.rate = some 0 then none else netem.rate } := by
  unfold rate? at narrow
  cases given : netem.rate with
  | none =>
      rw [given] at narrow wide
      rw [applyFirst_none narrow, if_neg (by simp), ← unlimited]
      exact applyFirst_none wide
  | some rate =>
      rw [given] at narrow wide
      rw [applyFirst_some narrow]
      unfold applyRate
      rw [NetemRate.lawful_layout.read_toBytes]
      by_cases zero : rate = 0
      · subst zero
        rw [if_pos rfl, ← unlimited]
        exact applyFirst_none (wide.trans (RateSpec.wide?_of_lt (by decide)))
      · have word : RateSpec.saturated rate ≠ 0 := mt RateSpec.saturated_eq_zero_iff.mp zero
        rw [if_neg fun same => zero (Option.some.inj same)]
        change (Except.ok (if RateSpec.saturated rate = 0 then current else _) >>= _) = _
        rw [if_neg word]
        rcases Nat.lt_or_ge rate.toNat UInt32.size with small | large
        · refine (applyFirst_none (wide.trans (RateSpec.wide?_of_lt small))).trans ?_
          rw [RateSpec.toUInt64_saturated small]
        · refine (applyFirst_some (wide.trans (RateSpec.wide?_of_le large))).trans ?_
          unfold applyRate64 Payload.readUInt64
          rw [Layout.lawful_uint64.readAs_write]
          rfl

/-- The reader undoes the entries one by one. -/
theorem ofParts_entries (netem : Netem) (clock : Clock) :
    ofParts (netem.base clock) (Tagged.ofEntries netem.entries) clock =
      .ok (netem.carried clock) := by
  have found : ∀ {tag payload}, (tag, payload) ∈ netem.entries →
      Tagged.find? (Tagged.ofEntries netem.entries) tag = payload :=
    Tagged.find?_ofEntries netem.nodup_entries
  have correlation := found (.head _)
  have reorder := found (.tail _ (.head _))
  have corrupt := found (.tail _ (.tail _ (.head _)))
  have rate := found (.tail _ (.tail _ (.tail _ (.head _))))
  have rate64 := found (.tail _ (.tail _ (.tail _ (.tail _ (.head _)))))
  unfold ofParts
  refine Outcome.bind_eq_ok.mpr ⟨_, applyFirst_correlation correlation rfl rfl rfl, ?_⟩
  refine Outcome.bind_eq_ok.mpr ⟨_, applyFirst_reorder reorder rfl rfl, ?_⟩
  refine Outcome.bind_eq_ok.mpr ⟨_, applyFirst_corrupt corrupt rfl rfl, ?_⟩
  exact applyFirst_rate rate rate64 rfl

/-! ## Round trip -/

theorem needsDelay_iff (netem : Netem) :
    (!netem.reorder.isZero && netem.latency == 0) = true ↔ netem.NeedsDelay := by
  rw [Bool.and_eq_true, Bool.not_eq_true', Probability.isZero, beq_eq_false_iff_ne, beq_iff_eq]
  exact Iff.rfl

theorem encode_of_needsDelay {netem : Netem} (needs : netem.NeedsDelay) (clock : Clock) :
    netem.encode clock = .error (.config .reorderWithoutLatency) := by
  exact if_pos (netem.needsDelay_iff.mpr needs)

theorem decode_toBytes_append (base : NetemBase) (clock : Clock) (data : Bytes) :
    decode (some (Record.toBytes base ++ data)) clock =
      Tagged.parse data >>= (ofParts base · clock) := by
  unfold decode
  dsimp only
  rw [NetemBase.lawful_layout.readFront_toBytes]
  rfl

/-- The options of an emulator that does not reorder without delay are written, and `carried` is
what they carry. -/
theorem exists_encode {netem : Netem} (allowed : ¬ netem.NeedsDelay) (clock : Clock) :
    ∃ data, netem.encode clock = .ok data ∧
      decode (some data) clock = .ok (netem.carried clock) := by
  obtain ⟨rest, written, parsed⟩ :=
    Tagged.exists_writeAll_ofEntries netem.tagOf_of_mem_entries netem.length_le_of_mem_entries
  refine ⟨Record.toBytes (netem.base clock) ++ rest, ?_, ?_⟩
  · unfold encode
    rw [if_neg (mt netem.needsDelay_iff.mp allowed), attributes_eq, written]
    rfl
  · rw [decode_toBytes_append]
    exact Outcome.bind_eq_ok.mpr ⟨_, parsed 0, netem.ofParts_entries clock⟩

end TrafficShaping.Netem
