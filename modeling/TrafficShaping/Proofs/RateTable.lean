import Mathlib.Algebra.Order.Ring.Nat
import Mathlib.Order.Bounds.Basic
import TrafficShaping.Proofs.Kind.Rate
import TrafficShaping.Proofs.Layout
import TrafficShaping.Wire.Attribute

/-!
The cells of rate tables.

The logarithm of the cell width is the least with which 256 cells cover the largest packet
(`RateTable.isLeast_cellLog`, `RateTable.lt_cells`). The size that stands for a cell is the end of
the cell, and is exact as long as that is a word (`RateTable.toNat_cellSize`). It always is but in
the last cell of the tables for packets of `2 ^ 31` bytes and more: that one ends just behind the
last word, its size is lost, and the smallest packets stand for it
(`RateTable.cellSize_of_overrun`).
-/

namespace TrafficShaping.RateTable

variable {largest : Nat}

/-! ## The width of the cells -/

theorem isLeast_cellLog (largest : Nat) :
    IsLeast {k | largest >>> k ≤ 255} (cellLog largest) := by
  fun_induction cellLog largest with
  | case1 largest small => exact ⟨small, fun _ _ => Nat.zero_le _⟩
  | case2 largest large ih =>
      -- A shift by one bit more is the shift of the half, for which the least one is known.
      obtain ⟨reached, least⟩ := ih
      refine ⟨?_, fun k among => ?_⟩
      · change largest >>> (cellLog (largest / 2) + 1) ≤ 255
        rw [Nat.shiftRight_succ_inside]
        exact reached
      · cases k with
        | zero => exact absurd among large
        | succ k =>
            change largest >>> (k + 1) ≤ 255 at among
            rw [Nat.shiftRight_succ_inside] at among
            exact Nat.succ_le_succ (least among)

theorem shiftRight_le_iff {k : Nat} : largest >>> k ≤ 255 ↔ largest < cells * 2 ^ k := by
  rw [Nat.shiftRight_eq_div_pow, ← Nat.lt_succ_iff, Nat.div_lt_iff_lt_mul (Nat.two_pow_pos k)]
  rfl

/-- The cells cover the largest packet. -/
theorem lt_cells (largest : Nat) : largest < cells * 2 ^ cellLog largest :=
  shiftRight_le_iff.mp (isLeast_cellLog largest).1

theorem cellLog_le_iff {k : Nat} : cellLog largest ≤ k ↔ largest < cells * 2 ^ k := by
  constructor
  · intro wide
    exact Nat.lt_of_lt_of_le (lt_cells largest)
      (Nat.mul_le_mul_left cells (Nat.pow_le_pow_right (by decide) wide))
  · intro covered
    exact (isLeast_cellLog largest).2 (shiftRight_le_iff.mpr covered)

theorem cellLog_le (packet : UInt32) : cellLog packet.toNat ≤ 24 :=
  cellLog_le_iff.mpr packet.toNat_lt

theorem cellLog_eq_of_le {packet : UInt32} (large : 2 ^ 31 ≤ packet.toNat) :
    cellLog packet.toNat = 24 := by
  have wide : ¬ cellLog packet.toNat ≤ 23 := fun narrow =>
    absurd (cellLog_le_iff.mp narrow) (Nat.not_lt.mpr large)
  have bound := cellLog_le packet
  omega

/-! ## The sizes of the cells -/

/-- The size that stands for a cell, whether it is a word or not. -/
def exactSize (spec : RateSpec) (log index : Nat) : Nat :=
  max ((index + 1) * 2 ^ log) spec.minimumSize.toNat

section Sizes

variable {spec : RateSpec} {log index : Nat}

theorem exactSize_mono (spec : RateSpec) (log : Nat) {first second : Nat} (le : first ≤ second) :
    exactSize spec log first ≤ exactSize spec log second := by
  have wider : (first + 1) * 2 ^ log ≤ (second + 1) * 2 ^ log :=
    Nat.mul_le_mul_right _ (Nat.succ_le_succ le)
  unfold exactSize
  omega

theorem lt_exactSize (spec : RateSpec) (largest : Nat) :
    largest < exactSize spec (cellLog largest) 255 :=
  Nat.lt_of_lt_of_le (lt_cells largest) (Nat.le_max_left _ _)

theorem toNat_cellSize (fits : (index + 1) * 2 ^ log < UInt32.size) :
    (cellSize spec log index).toNat = exactSize spec log index := by
  unfold cellSize exactSize
  rw [UInt32.toNat_max, UInt16.toNat_toUInt32, Nat.shiftLeft_eq, UInt32.toNat_ofNat_of_lt' fits]

/-- The end of a cell just behind the last word is lost. -/
theorem cellSize_of_overrun (overrun : (index + 1) * 2 ^ log = UInt32.size) :
    cellSize spec log index = spec.minimumSize.toUInt32 := by
  apply UInt32.toNat_inj.mp
  unfold cellSize
  rw [UInt32.toNat_max, Nat.shiftLeft_eq, overrun]
  exact Nat.max_eq_right (Nat.zero_le _)

theorem end_lt_size {packet : UInt32} (inside : index < cells)
    (short : index < 255 ∨ packet.toNat < 2 ^ 31) :
    (index + 1) * 2 ^ cellLog packet.toNat < UInt32.size := by
  rcases short with before | short
  · calc (index + 1) * 2 ^ cellLog packet.toNat ≤ 255 * 2 ^ 24 :=
        Nat.mul_le_mul before (Nat.pow_le_pow_right (by decide) (cellLog_le packet))
      _ < UInt32.size := by decide
  · have narrow : cellLog packet.toNat ≤ 23 := cellLog_le_iff.mpr short
    calc (index + 1) * 2 ^ cellLog packet.toNat ≤ 256 * 2 ^ 23 :=
        Nat.mul_le_mul inside (Nat.pow_le_pow_right (by decide) narrow)
      _ < UInt32.size := by decide

end Sizes

/-! ## The table -/

/-- The word of a cell stands in the table at four times its index. -/
theorem readUInt32_drop {count index : Nat} (word : Nat → UInt32) (inside : index < count) :
    Payload.readUInt32 (((List.range count).flatMap fun i =>
      Layout.uint32.write (word i)).drop (4 * index)) = .ok (word index) := by
  -- The table is cut in front of the cell, where four bytes for each cell before it have gone.
  obtain ⟨more, rfl⟩ : ∃ more, count = index + (more + 1) := ⟨count - index - 1, by omega⟩
  have own := Layout.lawful_uint32.readAs_write "u32 attribute" (word index)
  rw [List.range_add, List.flatMap_append, List.drop_left' (length_words word index),
    List.range_succ_eq_map, List.map_cons, List.flatMap_cons]
  exact Layout.lawful_uint32.readAs_append own _

/-- The largest packet that a table is made for. -/
def covered (largestPacket : UInt32) : UInt32 :=
  if largestPacket = 0 then defaultLargestPacket else largestPacket

/-- What a table for packets up to a size holds, and what the kernel is told of it. -/
structure Tabulates (spec : RateSpec) (rate : UInt64) (packet : UInt32) (clock : Clock)
    (told : RateSpec) (table : Bytes) : Prop where
  /-- The kernel is told of the cells, and of all else what was given. -/
  kept : told = { spec with cellLog := told.cellLog, cellAlign := -1, linkLayer := ethernet }
  least : IsLeast {k | packet.toNat >>> k ≤ 255} told.cellLog.toNat
  length : table.length = 1024
  /-- The word of a cell is the time of the exact size, in all cells but the last one and below
  `2 ^ 31` bytes in that one too. -/
  cell : ∀ ⦃index⦄, index < 256 → index < 255 ∨ packet.toNat < 2 ^ 31 →
    ∃ size : UInt32, size.toNat = exactSize spec told.cellLog.toNat index ∧
      Payload.readUInt32 (table.drop (4 * index)) = .ok (clock.ticksToSend rate size)
  /-- From there on the last size is no word, and the last cell has the time of the smallest
  packets. -/
  overrun : 2 ^ 31 ≤ packet.toNat →
    exactSize spec told.cellLog.toNat 255 = UInt32.size ∧
      Payload.readUInt32 (table.drop (4 * 255)) =
        .ok (clock.ticksToSend rate spec.minimumSize.toUInt32)
  ascending : ∀ ⦃first second⦄, first ≤ second →
    exactSize spec told.cellLog.toNat first ≤ exactSize spec told.cellLog.toNat second
  covers : packet.toNat < exactSize spec told.cellLog.toNat 255

theorem tabulates_compute (spec : RateSpec) (rate : UInt64) (largestPacket : UInt32)
    (clock : Clock) :
    Tabulates spec rate (covered largestPacket) clock
      (compute spec rate largestPacket clock).1 (compute spec rate largestPacket clock).2 := by
  generalize same : covered largestPacket = packet
  have log : (compute spec rate largestPacket clock).1.cellLog.toNat = cellLog packet.toNat := by
    rw [← same]
    exact UInt8.toNat_ofNat_of_lt' (Nat.lt_of_le_of_lt (cellLog_le _) (by decide))
  have word : ∀ ⦃index⦄, index < cells →
      Payload.readUInt32 ((compute spec rate largestPacket clock).2.drop (4 * index)) =
        .ok (clock.ticksToSend rate (cellSize spec (cellLog packet.toNat) index)) := by
    rw [← same]
    exact fun _ inside => readUInt32_drop _ inside
  constructor
  case kept => rfl
  case least => exact log ▸ isLeast_cellLog packet.toNat
  case length => exact length_compute spec rate largestPacket clock
  case cell =>
    intro index inside short
    rw [log]
    exact ⟨_, toNat_cellSize (end_lt_size inside short), word inside⟩
  case overrun =>
    intro large
    have last : (255 + 1) * 2 ^ cellLog packet.toNat = UInt32.size := by
      rw [cellLog_eq_of_le large]
      rfl
    have found := word (show 255 < cells by decide)
    rw [cellSize_of_overrun last] at found
    refine ⟨?_, found⟩
    rw [log, exactSize, last]
    exact Nat.max_eq_left (Nat.le_of_lt (Nat.lt_trans spec.minimumSize.toNat_lt (by decide)))
  case ascending => exact fun _ _ => exactSize_mono spec _
  case covers => exact log ▸ lt_exactSize spec packet.toNat

/-- A megabyte a second, told in packets of 64 bytes at least. -/
def megabyte : RateSpec := { RateSpec.ofRate 1000000 with minimumSize := 64 }

theorem tabulates_compute_longestPackets (clock : Clock) :
    2 ^ 31 ≤ (0xFFFFFFFF : UInt32).toNat ∧
      Payload.readUInt32 ((compute megabyte 1000000 0xFFFFFFFF clock).2.drop (4 * 254)) =
        .ok (clock.ticksToSend 1000000 0xFF000000) ∧
      Payload.readUInt32 ((compute megabyte 1000000 0xFFFFFFFF clock).2.drop (4 * 255)) =
        .ok (clock.ticksToSend 1000000 64) := by
  have large : 2 ^ 31 ≤ (0xFFFFFFFF : UInt32).toNat := by decide
  have log : (compute megabyte 1000000 0xFFFFFFFF clock).1.cellLog.toNat = 24 := by
    change (UInt8.ofNat (cellLog (0xFFFFFFFF : UInt32).toNat)).toNat = 24
    rw [cellLog_eq_of_le large]
    rfl
  have tabulates := tabulates_compute megabyte 1000000 0xFFFFFFFF clock
  have inside : 254 < 256 := by decide
  obtain ⟨size, exact, found⟩ := tabulates.cell inside (.inl (by decide))
  rw [log] at exact
  have whole : size = 0xFF000000 := UInt32.toNat_inj.mp exact
  rw [whole] at found
  exact ⟨large, found, (tabulates.overrun large).2⟩

end TrafficShaping.RateTable
