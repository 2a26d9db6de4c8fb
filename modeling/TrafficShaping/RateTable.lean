import TrafficShaping.Clock
import TrafficShaping.Wire.Layout.Lawful

/-!
Rate tables: the time that packets of all sizes take at a rate.

A table has 256 cells of one word. Cell `i` holds the ticks that it takes to send the largest packet
that falls into it, which has `(i + 1) * 2 ^ k` bytes where `k` is the logarithm of the cell width.
The width is the least power of two with which the cells cover the largest packet.
-/

namespace TrafficShaping

/-- A rate as the kernel is told of it. -/
structure RateSpec where
  cellLog : UInt8
  linkLayer : UInt8
  /-- Bytes added to every packet. -/
  overhead : UInt16
  /-- Bytes added before a packet is assigned to its cell. -/
  cellAlign : Int16
  /-- The size that smaller packets are taken for. -/
  minimumSize : UInt16
  /-- Bytes per second. -/
  rate : UInt32
  deriving DecidableEq, Repr

namespace RateSpec

instance : Record RateSpec where
  name := "tc_ratespec"
  layout :=
    (Layout.uint8.pair (Layout.uint8.pair (Layout.uint16.pair (Layout.int16.pair
      (Layout.uint16.pair Layout.uint32))))).map
    (fun (cellLog, linkLayer, overhead, cellAlign, minimumSize, rate) =>
      ⟨cellLog, linkLayer, overhead, cellAlign, minimumSize, rate⟩)
    (fun spec => (spec.cellLog, spec.linkLayer, spec.overhead, spec.cellAlign, spec.minimumSize,
      spec.rate))

theorem lawful_layout : (Record.layout : Layout RateSpec).Lawful :=
  Layout.Lawful.map
    (Layout.lawful_uint8.pair (Layout.lawful_uint8.pair (Layout.lawful_uint16.pair
      (Layout.lawful_int16.pair (Layout.lawful_uint16.pair Layout.lawful_uint32)))))
    (fun _ => rfl) (fun _ => rfl)

/-- A rate without any further detail. -/
def ofRate (rate : UInt32) : RateSpec := ⟨0, 0, 0, 0, 0, rate⟩

/-- The rate in 32 bits, which is the largest word for all higher rates. -/
def saturated (rate : UInt64) : UInt32 := UInt32.ofNat (min rate.toNat (UInt32.size - 1))

end RateSpec

namespace RateTable

/-- The number of cells. -/
def cells : Nat := 256

/-- The kind of link that tables are made for. -/
def ethernet : UInt8 := 1

/-- The largest packet when none is given. -/
def defaultLargestPacket : UInt32 := 2047

/-- The least `k` with which packets of `size` bytes fall into the first 256 cells of `2 ^ k`
bytes. -/
def cellLog (size : Nat) : Nat := if size ≤ 255 then 0 else cellLog (size / 2) + 1

/-- The size that stands for a cell, in the 32 bits that the kernel has for it. -/
def cellSize (spec : RateSpec) (cellLog index : Nat) : UInt32 :=
  max (UInt32.ofNat ((index + 1) <<< cellLog)) spec.minimumSize.toUInt32

/-- The table of a rate in bytes per second for packets up to a size, and the rate as the kernel is
told of it together with the table. -/
def compute (spec : RateSpec) (rate : UInt64) (largestPacket : UInt32) (clock : Clock) :
    RateSpec × Bytes :=
  let largest := if largestPacket = 0 then defaultLargestPacket else largestPacket
  let log := cellLog largest.toNat
  let table := (List.range cells).flatMap fun index =>
    Layout.uint32.write (clock.ticksToSend rate (cellSize spec log index))
  ({ spec with cellAlign := -1, cellLog := UInt8.ofNat log, linkLayer := ethernet }, table)

end RateTable

end TrafficShaping
