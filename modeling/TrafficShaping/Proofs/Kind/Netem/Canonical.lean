import TrafficShaping.Proofs.Kind.Netem

/-!
Which configurations of an emulator are accepted, and what becomes of them.

A configuration is refused exactly when it asks for reordering without delay
(`Netem.Config.ReordersAtOnce`). The settings made of any other are canonical but for two of their
correlations: those of delay, loss and duplication are dropped when there is nothing that they
correlate, those of reordering and damage are kept (`Netem.Made`). The options have no room for a
correlation without its probability, so that the settings that are read back are those that were
made, times aside, exactly when they are canonical, which is when the configuration gives neither of
the two alone (`Netem.Config.Paired`).
-/

namespace TrafficShaping.Netem

/-- Whether no correlation is set without what it correlates. -/
structure Canonical (netem : Netem) : Prop where
  delay : netem.latency = 0 ∨ netem.jitter = 0 → netem.delayCorrelation = .zero
  loss : netem.loss = .zero → netem.lossCorrelation = .zero
  duplicate : netem.duplicate = .zero → netem.duplicateCorrelation = .zero
  reorder : netem.reorder = .zero → netem.reorderCorrelation = .zero
  corrupt : netem.corrupt = .zero → netem.corruptCorrelation = .zero

/-- Whether other settings are the same, but perhaps for the two times. -/
def SameBesidesTimes (netem other : Netem) : Prop :=
  other = { netem with latency := other.latency, jitter := other.jitter }

/-- Whether a configuration asks for reordering without a delay to do it in. -/
def Config.ReordersAtOnce (config : Config) : Prop :=
  Probability.ofPercent config.reorder ≠ .zero ∧ config.latency = 0

/-- Whether the correlations of reordering and damage come with what they correlate, if at all. -/
def Config.Paired (config : Config) : Prop :=
  (Probability.ofPercent config.reorder = .zero →
    Probability.ofPercent config.reorderCorrelation = .zero) ∧
  (Probability.ofPercent config.corrupt = .zero →
    Probability.ofPercent config.corruptCorrelation = .zero)

/-- The settings that are made of a configuration. -/
structure Shaped (config : Config) (netem : Netem) : Prop where
  times : netem.latency = config.latency ∧ netem.jitter = config.jitter
  probabilities : netem.loss = .ofPercent config.loss ∧
    netem.duplicate = .ofPercent config.duplicate ∧ netem.reorder = .ofPercent config.reorder ∧
    netem.corrupt = .ofPercent config.corrupt
  rate : netem.rate = config.rate
  /-- The correlations of delay, loss and duplication are dropped without what they correlate. -/
  delay : netem.latency = 0 ∨ netem.jitter = 0 → netem.delayCorrelation = .zero
  loss : netem.loss = .zero → netem.lossCorrelation = .zero
  duplicate : netem.duplicate = .zero → netem.duplicateCorrelation = .zero
  /-- Those of reordering and damage are kept, with or without. -/
  reorderCorrelation : netem.reorderCorrelation = .ofPercent config.reorderCorrelation
  corruptCorrelation : netem.corruptCorrelation = .ofPercent config.corruptCorrelation
  limit : 1 ≤ netem.limit
  /-- What reorders has a delay to do it in, and a gap. -/
  reorder : netem.reorder ≠ .zero → 0 < netem.latency ∧ 1 ≤ netem.gap

/-- What becomes of settings that are sent: correlations without their probabilities are lost. -/
def sent (netem : Netem) : Netem :=
  { netem with
    reorderCorrelation := if netem.reorder = .zero then .zero else netem.reorderCorrelation
    corruptCorrelation := if netem.corrupt = .zero then .zero else netem.corruptCorrelation }

/-- What becomes of a configuration that is not refused. -/
structure Made (config : Config) (netem : Netem) : Prop extends Shaped config netem where
  canonical : netem.Canonical ↔ config.Paired
  /-- The settings are written on any clock. Those that are read back are the same, times aside,
  exactly when they are canonical. -/
  arrives : config.rate ≠ some 0 → ∀ clock, ∃ data read, netem.encode clock = .ok data ∧
    decode (some data) clock = .ok read ∧ SameBesidesTimes netem.sent read ∧
    (SameBesidesTimes netem read ↔ netem.Canonical)

/-! ## Making settings -/

variable {config : Config} {netem : Netem}

theorem isZero_eq_true_iff {probability : Probability} :
    probability.isZero = true ↔ probability = .zero :=
  ⟨eq_zero_of_isZero, fun zero => zero ▸ rfl⟩

theorem raw_eq_zero_iff {probability : Probability} :
    probability.raw = 0 ↔ probability = .zero := beq_iff_eq.symm.trans isZero_eq_true_iff

theorem reordersAtOnce_iff :
    (!(Probability.ofPercent config.reorder).isZero && config.latency == 0) = true ↔
      config.ReordersAtOnce := by
  rw [Bool.and_eq_true, Bool.not_eq_true', ← Bool.not_eq_true, isZero_eq_true_iff, beq_iff_eq]
  exact Iff.rfl

theorem ofConfig_of_reordersAtOnce (atOnce : config.ReordersAtOnce) :
    ofConfig config = .error (.config .reorderWithoutLatency) :=
  if_pos (reordersAtOnce_iff.mpr atOnce)

theorem exists_ofConfig (accepted : ¬ config.ReordersAtOnce) :
    ∃ netem, ofConfig config = .ok netem :=
  ⟨_, if_neg (mt reordersAtOnce_iff.mp accepted)⟩

theorem not_reordersAtOnce (made : ofConfig config = .ok netem) : ¬ config.ReordersAtOnce := by
  intro atOnce
  cases made.symm.trans (ofConfig_of_reordersAtOnce atOnce)

theorem shaped_of_ofConfig (made : ofConfig config = .ok netem) : Shaped config netem := by
  have accepted := not_reordersAtOnce made
  have settings := (if_neg (mt reordersAtOnce_iff.mp accepted)).symm.trans made
  cases settings
  constructor
  case times => exact ⟨rfl, rfl⟩
  case probabilities => exact ⟨rfl, rfl, rfl, rfl⟩
  case rate => rfl
  case delay =>
    rintro (none | none)
    · have none : config.latency = 0 := none
      dsimp only
      rw [none]
      rfl
    · have none : config.jitter = 0 := none
      dsimp only
      rw [none, bne_self_eq_false, Bool.and_false]
      rfl
  case loss =>
    intro none
    have none : Probability.ofPercent config.loss = .zero := none
    dsimp only
    rw [none]
    rfl
  case duplicate =>
    intro none
    have none : Probability.ofPercent config.duplicate = .zero := none
    dsimp only
    rw [none]
    rfl
  case reorderCorrelation => rfl
  case corruptCorrelation => rfl
  case limit =>
    dsimp only
    split
    · decide
    · next some => exact UInt32.pos_iff_ne_zero.mpr some
  case reorder =>
    intro some
    have delayed : config.latency ≠ 0 := fun none => accepted ⟨some, none⟩
    have gap : (if !(Probability.ofPercent config.reorder).isZero && config.gap == 0 then 1
        else config.gap) ≠ 0 := by
      split
      · decide
      · next wide =>
          intro none
          have reorders : (Probability.ofPercent config.reorder).isZero = false :=
            Bool.eq_false_iff.mpr (mt isZero_eq_true_iff.mp some)
          rw [reorders, none] at wide
          exact wide rfl
    exact ⟨UInt32.pos_iff_ne_zero.mpr delayed, UInt32.pos_iff_ne_zero.mpr gap⟩

/-! ## Sending settings -/

theorem sameBesidesTimes_sent (limited : netem.rate ≠ some 0) (clock : Clock) :
    SameBesidesTimes netem.sent (netem.carried clock) := by
  unfold SameBesidesTimes sent carried
  simp only [raw_eq_zero_iff, if_neg limited]

theorem sameBesidesTimes_iff (limited : netem.rate ≠ some 0) (clock : Clock) :
    SameBesidesTimes netem (netem.carried clock) ↔
      (netem.reorder = .zero → netem.reorderCorrelation = .zero) ∧
      (netem.corrupt = .zero → netem.corruptCorrelation = .zero) := by
  unfold SameBesidesTimes carried
  cases netem
  simp only [raw_eq_zero_iff, if_neg limited, mk.injEq, true_and, and_true, ite_eq_right_iff,
    eq_comm (a := Probability.zero)]

theorem Shaped.canonical_iff (shaped : Shaped config netem) :
    netem.Canonical ↔
      (netem.reorder = .zero → netem.reorderCorrelation = .zero) ∧
      (netem.corrupt = .zero → netem.corruptCorrelation = .zero) :=
  ⟨fun canonical => ⟨canonical.reorder, canonical.corrupt⟩, fun ⟨reorder, corrupt⟩ =>
    ⟨shaped.delay, shaped.loss, shaped.duplicate, reorder, corrupt⟩⟩

theorem Shaped.canonical_iff_paired (shaped : Shaped config netem) :
    netem.Canonical ↔ config.Paired := by
  obtain ⟨-, -, reorder, corrupt⟩ := shaped.probabilities
  rw [shaped.canonical_iff, reorder, corrupt, shaped.reorderCorrelation,
    shaped.corruptCorrelation]
  exact Iff.rfl

theorem Shaped.made (shaped : Shaped config netem) : Made config netem where
  toShaped := shaped
  canonical := shaped.canonical_iff_paired
  arrives := by
    intro limited clock
    have limited : netem.rate ≠ some 0 := shaped.rate ▸ limited
    -- Encoding makes the check of the constructor again.
    have allowed : ¬ netem.NeedsDelay := by
      rintro ⟨some, none⟩
      obtain ⟨delayed, -⟩ := shaped.reorder (mt raw_eq_zero_iff.mpr some)
      rw [none] at delayed
      exact absurd delayed (by decide)
    obtain ⟨data, written, read⟩ := exists_encode allowed clock
    exact ⟨data, _, written, read, sameBesidesTimes_sent limited clock,
      (sameBesidesTimes_iff limited clock).trans shaped.canonical_iff.symm⟩

/-! ## Configurations -/

/-- A configuration is refused exactly when it asks for reordering without delay, and settings are
made of any other. -/
theorem ofConfig_outcome (config : Config) :
    (∀ error, ofConfig config = .error error ↔
      config.ReordersAtOnce ∧ error = .config .reorderWithoutLatency) ∧
    ∀ netem, ofConfig config = .ok netem → Made config netem := by
  refine ⟨fun error => ⟨fun refused => ?_, ?_⟩, fun netem made => (shaped_of_ofConfig made).made⟩
  · by_cases atOnce : config.ReordersAtOnce
    · exact ⟨atOnce, (Except.error.inj (ofConfig_of_reordersAtOnce atOnce ▸ refused)).symm⟩
    · obtain ⟨netem, made⟩ := exists_ofConfig atOnce
      cases made.symm.trans refused
  · rintro ⟨atOnce, rfl⟩
    exact ofConfig_of_reordersAtOnce atOnce

/-- A correlation of damage without damage. -/
def strayCorrelation : Config := { Config.none with corruptCorrelation := .ofNat 10 }

/-- The correlation is kept, and none is read back. -/
theorem ofConfig_outcome_strayCorrelation :
    ∃ netem, ofConfig strayCorrelation = .ok netem ∧ netem.corrupt = .zero ∧
      netem.corruptCorrelation = ⟨429496729⟩ ∧ ¬ netem.Canonical ∧
      ∀ clock, ∃ data read, netem.encode clock = .ok data ∧ decode (some data) clock = .ok read ∧
        read.corruptCorrelation = .zero := by
  have accepted : ¬ strayCorrelation.ReordersAtOnce := fun atOnce => atOnce.1 (by decide)
  obtain ⟨netem, made⟩ := exists_ofConfig accepted
  have outcome := (ofConfig_outcome strayCorrelation).2 netem made
  have corrupt : netem.corrupt = .zero := outcome.probabilities.2.2.2.trans (by decide)
  have kept : netem.corruptCorrelation = ⟨429496729⟩ :=
    outcome.corruptCorrelation.trans (by decide)
  refine ⟨netem, made, corrupt, kept, fun canonical => ?_, fun clock => ?_⟩
  · cases kept.symm.trans (canonical.corrupt corrupt)
  · obtain ⟨data, read, written, known, same, -⟩ := outcome.arrives (by decide) clock
    refine ⟨data, read, written, known, ?_⟩
    rw [same]
    exact if_pos corrupt

end TrafficShaping.Netem
