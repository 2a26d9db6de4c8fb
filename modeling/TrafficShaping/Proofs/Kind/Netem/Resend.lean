import TrafficShaping.Proofs.Clock
import TrafficShaping.Proofs.Kind.Netem

/-!
An emulator that is read and sent again.

Whoever changes one setting of an emulator reads it and sends it back with the others as they were
read. On the clock of high resolution all settings but the two times arrive as they were sent. A
time that is not a multiple of eight microseconds loses one of them in each cycle, until it is one
(`Netem.resendTimes_eq`). An emulator that reorders is not sent again once its latency is down to
zero. It stays as it is exactly when both times are such multiples (`Netem.exists_resendTimes`).
-/

namespace TrafficShaping.Netem

open Clock (highResolution worn longestTime)

variable {netem : Netem}

/-- The settings as they are read once they have been sent. -/
def resend (netem : Netem) (clock : Clock) : Except Error Netem := do
  let data ← netem.encode clock
  decode (some data) clock

/-- The settings after some cycles of sending and reading. -/
def resendTimes (clock : Clock) : Nat → Netem → Except Error Netem
  | 0, netem => .ok netem
  | cycles + 1, netem => do
    let next ← netem.resend clock
    resendTimes clock cycles next

theorem resend_of_needsDelay (needs : netem.NeedsDelay) (clock : Clock) :
    netem.resend clock = .error (.config .reorderWithoutLatency) := by
  unfold resend
  rw [encode_of_needsDelay needs]
  rfl

theorem resend_eq_carried (allowed : ¬ netem.NeedsDelay) (clock : Clock) :
    netem.resend clock = .ok (netem.carried clock) := by
  obtain ⟨data, written, read⟩ := exists_encode allowed clock
  exact Outcome.bind_eq_ok.mpr ⟨data, written, read⟩

/-! ## Settings that were read -/

/-- Whether settings are such as options carry: no correlation without a probability, no rate of
zero, and times that a word of ticks tells. -/
structure IsRead (netem : Netem) : Prop where
  reorder : netem.reorder.raw = 0 → netem.reorderCorrelation = .zero
  corrupt : netem.corrupt.raw = 0 → netem.corruptCorrelation = .zero
  rate : netem.rate ≠ some 0
  latency : netem.latency.toNat ≤ longestTime
  jitter : netem.jitter.toNat ≤ longestTime

theorem isRead_carried (netem : Netem) : (netem.carried highResolution).IsRead where
  reorder none := if_pos none
  corrupt none := if_pos none
  rate := by
    unfold carried
    dsimp only
    split
    · exact fun same => nomatch same
    · assumption
  latency := Clock.toNat_timeOfTicks_le _
  jitter := Clock.toNat_timeOfTicks_le _

/-- The settings after some cycles, if all of them succeed: the times are worn. -/
def afterCycles (cycles : Nat) (netem : Netem) : Netem :=
  { netem with latency := worn cycles netem.latency, jitter := worn cycles netem.jitter }

theorem afterCycles_zero (netem : Netem) : netem.afterCycles 0 = netem := by
  unfold afterCycles
  rw [Clock.worn_zero, Clock.worn_zero]

theorem afterCycles_afterCycles (first second : Nat) (netem : Netem) :
    (netem.afterCycles first).afterCycles second = netem.afterCycles (second + first) := by
  unfold afterCycles
  dsimp only
  rw [Clock.worn_worn, Clock.worn_worn]

/-- Of settings that were read only the times change. -/
theorem IsRead.carried_eq (isRead : netem.IsRead) :
    netem.carried highResolution = netem.afterCycles 1 := by
  have correlation : (if netem.reorder.raw = 0 then .zero else netem.reorderCorrelation) =
      netem.reorderCorrelation := by
    split
    · next none => exact (isRead.reorder none).symm
    · rfl
  have damage : (if netem.corrupt.raw = 0 then .zero else netem.corruptCorrelation) =
      netem.corruptCorrelation := by
    split
    · next none => exact (isRead.corrupt none).symm
    · rfl
  unfold carried afterCycles
  rw [Clock.timeOfTicks_ticksOfTime isRead.latency, Clock.timeOfTicks_ticksOfTime isRead.jitter,
    correlation, damage, if_neg isRead.rate]

theorem IsRead.afterCycles (isRead : netem.IsRead) (cycles : Nat) :
    (netem.afterCycles cycles).IsRead where
  reorder := isRead.reorder
  corrupt := isRead.corrupt
  rate := isRead.rate
  latency := by
    have shorter := Clock.toNat_worn cycles netem.latency
    have inRange := isRead.latency
    change (worn cycles netem.latency).toNat ≤ longestTime
    omega
  jitter := by
    have shorter := Clock.toNat_worn cycles netem.jitter
    have inRange := isRead.jitter
    change (worn cycles netem.jitter).toNat ≤ longestTime
    omega

/-! ## Cycles -/

/-- Whether an emulator that reorders loses its whole latency before the last of some cycles. -/
def RunsDry (cycles : Nat) (netem : Netem) : Prop :=
  netem.reorder.raw ≠ 0 ∧ netem.latency.toNat < min 8 cycles

instance (cycles : Nat) (netem : Netem) : Decidable (netem.RunsDry cycles) :=
  inferInstanceAs (Decidable (_ ∧ _))

theorem runsDry_of_needsDelay (needs : netem.NeedsDelay) (cycles : Nat) :
    netem.RunsDry (cycles + 1) := by
  refine ⟨needs.1, ?_⟩
  rw [needs.2]
  exact Nat.lt_min.mpr ⟨by decide, Nat.succ_pos _⟩

/-- With one cycle done there is one less to go. -/
theorem runsDry_succ_iff (allowed : ¬ netem.NeedsDelay) (cycles : Nat) :
    netem.RunsDry (cycles + 1) ↔ (netem.afterCycles 1).RunsDry cycles := by
  have worn := Clock.toNat_worn 1 netem.latency
  have nonzero : netem.reorder.raw ≠ 0 → netem.latency.toNat ≠ 0 := fun reorders none =>
    allowed ⟨reorders, UInt32.toNat_inj.mp none⟩
  unfold RunsDry afterCycles
  dsimp only
  constructor
  · rintro ⟨reorders, short⟩
    have := nonzero reorders
    exact ⟨reorders, by omega⟩
  · rintro ⟨reorders, short⟩
    have := nonzero reorders
    exact ⟨reorders, by omega⟩

/-- What some cycles make of settings that were read. -/
theorem resendTimes_eq (cycles : Nat) : ∀ {netem : Netem}, netem.IsRead →
    netem.resendTimes highResolution cycles =
      if netem.RunsDry cycles then .error (.config .reorderWithoutLatency)
      else .ok (netem.afterCycles cycles) := by
  induction cycles with
  | zero =>
      intro netem _
      rw [if_neg fun dry => Nat.not_lt_zero _ (Nat.lt_min.mp dry.2).2, afterCycles_zero]
      rfl
  | succ cycles ih =>
      intro netem isRead
      unfold resendTimes
      by_cases needs : netem.NeedsDelay
      · rw [resend_of_needsDelay needs, if_pos (runsDry_of_needsDelay needs cycles)]
        rfl
      · rw [resend_eq_carried needs, isRead.carried_eq]
        change resendTimes highResolution cycles (netem.afterCycles 1) = _
        rw [ih (isRead.afterCycles 1), afterCycles_afterCycles]
        simp only [runsDry_succ_iff needs]

/-- Settings stay as they are when both times are multiples of eight microseconds. -/
theorem afterCycles_eq_self_iff {cycles : Nat} (some : 0 < cycles) (netem : Netem) :
    netem.afterCycles cycles = netem ↔ 8 ∣ netem.latency.toNat ∧ 8 ∣ netem.jitter.toNat := by
  rw [← Clock.worn_eq_self_iff some, ← Clock.worn_eq_self_iff some]
  constructor
  · intro same
    exact ⟨congrArg latency same, congrArg jitter same⟩
  · rintro ⟨latency, jitter⟩
    unfold afterCycles
    rw [latency, jitter]

theorem resendTimes_eq_self_iff (isRead : netem.IsRead) :
    (∀ cycles, netem.resendTimes highResolution cycles = .ok netem) ↔
      8 ∣ netem.latency.toNat ∧ 8 ∣ netem.jitter.toNat ∧ ¬ netem.NeedsDelay := by
  constructor
  · intro stable
    have once := stable 1
    rw [resendTimes_eq 1 isRead] at once
    split at once
    · cases once
    · next wet =>
        obtain ⟨latency, jitter⟩ :=
          (afterCycles_eq_self_iff Nat.one_pos netem).mp (Except.ok.inj once)
        exact ⟨latency, jitter, fun needs => wet (runsDry_of_needsDelay needs 0)⟩
  · rintro ⟨latency, jitter, allowed⟩ cycles
    have wet : ¬ netem.RunsDry cycles := by
      rintro ⟨reorders, short⟩
      exact allowed ⟨reorders, UInt32.toNat_inj.mp (Nat.eq_zero_of_dvd_of_lt latency
        (Nat.lt_min.mp short).1)⟩
    rw [resendTimes_eq cycles isRead, if_neg wet]
    rcases Nat.eq_zero_or_pos cycles with rfl | some
    · rw [afterCycles_zero]
    · rw [(afterCycles_eq_self_iff some netem).mpr ⟨latency, jitter⟩]

/-- Emulators on the clock of high resolution. A microsecond has 15.625 ticks, and the conversions
cut fractions off. What is read of an emulator that was sent is worn in each cycle of sending and
reading, and is not sent once it reorders without latency. It stays as it is exactly when both its
times are multiples of eight microseconds and it does not reorder without latency. -/
theorem exists_resendTimes :
    (highResolution.ticksPerMicrosecond = .finite false (125 * 2 ^ 46) (-49) ∧
      (∀ time, (highResolution.ticksOfTime time).toNat =
        min (125 * time.toNat / 8) (UInt32.size - 1)) ∧
      ∀ ticks, (highResolution.timeOfTicks ticks).toNat = 8 * ticks.toNat / 125) ∧
    ∀ {netem : Netem} {data : Bytes}, netem.encode highResolution = .ok data →
      ∃ read, decode (some data) highResolution = .ok read ∧
        (∀ cycles, read.resendTimes highResolution cycles =
          if read.RunsDry cycles then .error (.config .reorderWithoutLatency)
          else .ok (read.afterCycles cycles)) ∧
        ((∀ cycles, read.resendTimes highResolution cycles = .ok read) ↔
          8 ∣ read.latency.toNat ∧ 8 ∣ read.jitter.toNat ∧ ¬ read.NeedsDelay) := by
  refine ⟨⟨Clock.ticksPerMicrosecond_highResolution, Clock.toNat_ticksOfTime,
    Clock.toNat_timeOfTicks⟩, ?_⟩
  intro netem data written
  have allowed : ¬ netem.NeedsDelay := by
    intro needs
    cases (encode_of_needsDelay needs highResolution).symm.trans written
  obtain ⟨_, same, read⟩ := exists_encode allowed highResolution
  cases same.symm.trans written
  have isRead := isRead_carried netem
  exact ⟨_, read, fun cycles => resendTimes_eq cycles isRead, resendTimes_eq_self_iff isRead⟩

/-- An emulator that reorders with a latency of two microseconds. -/
def briefDelay : Netem := { empty with latency := 2, reorder := ⟨1⟩ }

theorem exists_resendTimes_briefDelay :
    ∃ data, briefDelay.encode highResolution = .ok data ∧
      ∃ read, decode (some data) highResolution = .ok read ∧
        (∀ cycles, read.resendTimes highResolution cycles =
          if read.RunsDry cycles then .error (.config .reorderWithoutLatency)
          else .ok (read.afterCycles cycles)) ∧
        ((∀ cycles, read.resendTimes highResolution cycles = .ok read) ↔
          8 ∣ read.latency.toNat ∧ 8 ∣ read.jitter.toNat ∧ ¬ read.NeedsDelay) := by
  obtain ⟨data, written, _⟩ := exists_encode (by decide : ¬ briefDelay.NeedsDelay) highResolution
  exact ⟨data, written, exists_resendTimes.2 written⟩

/-- The latency of two microseconds is read as one, sent and read again as none, and then not sent
any more. -/
theorem drifts_briefDelay :
    ∃ data again, briefDelay.encode highResolution = .ok data ∧
      decode (some data) highResolution = .ok { briefDelay with latency := 1 } ∧
      encode { briefDelay with latency := 1 } highResolution = .ok again ∧
      decode (some again) highResolution = .ok { briefDelay with latency := 0 } ∧
      encode { briefDelay with latency := 0 } highResolution =
        .error (.config .reorderWithoutLatency) := by
  obtain ⟨data, written, read⟩ :=
    exists_encode (by decide : ¬ briefDelay.NeedsDelay) highResolution
  obtain ⟨again, resent, reread⟩ := exists_encode
    (by decide : ¬ NeedsDelay { briefDelay with latency := 1 }) highResolution
  have first : briefDelay.carried highResolution = { briefDelay with latency := 1 } := by
    decide +kernel
  have second : carried { briefDelay with latency := 1 } highResolution =
      { briefDelay with latency := 0 } := by
    decide +kernel
  rw [first] at read
  rw [second] at reread
  exact ⟨data, again, written, read, resent, reread, encode_of_needsDelay (by decide) _⟩

end TrafficShaping.Netem
