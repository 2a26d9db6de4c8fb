import TrafficShaping.Wire.Attribute

/-!
Statistics of qdiscs and classes.

The kernel reports counters as a sequence of blocks and, for old readers, as one flat record.
`Statistics.ofBlocks` and `Statistics.ofFlat` read the two forms, and `Statistics.ofAttributes`
prefers the blocks. What is not reported is zero. `Statistics.delta` is the difference of two
samples of one object: counters are subtracted and never fall below zero, momentary values are those
of the later sample.
-/

namespace TrafficShaping

/-- Bytes and packets that were sent. -/
structure Traffic where
  bytes : UInt64
  packets : UInt64
  deriving DecidableEq, Repr

/-- The state and the counters of a queue. -/
structure QueueUse where
  length : UInt32
  /-- Bytes that wait. -/
  backlog : UInt32
  drops : UInt32
  /-- Packets that were put back. -/
  requeues : UInt32
  /-- Times that a limit was hit. -/
  overlimits : UInt32
  deriving DecidableEq, Repr

/-- An estimate of the current rate. -/
structure RateEstimate where
  /-- Bytes per second. -/
  bytes : UInt64
  packets : UInt64
  deriving DecidableEq, Repr

/-- The statistics of a qdisc or a class. -/
structure Statistics where
  traffic : Traffic
  queue : QueueUse
  rate : RateEstimate
  /-- The part of the traffic that hardware took over. -/
  hardware : Traffic
  deriving DecidableEq, Repr

/-! ## Differences -/

namespace Counter

/-- What was counted since an earlier value of 64 bits; zero when the counter was set back. -/
def since64 (current previous : UInt64) : UInt64 := UInt64.ofNat (current.toNat - previous.toNat)

/-- What was counted since an earlier value of 32 bits; zero when the counter was set back. -/
def since32 (current previous : UInt32) : UInt32 := UInt32.ofNat (current.toNat - previous.toNat)

end Counter

/-- What was sent since an earlier sample. -/
def Traffic.delta (current previous : Traffic) : Traffic where
  bytes := Counter.since64 current.bytes previous.bytes
  packets := Counter.since64 current.packets previous.packets

/-- What was counted since an earlier sample, with what waits now. -/
def QueueUse.delta (current previous : QueueUse) : QueueUse where
  length := current.length
  backlog := current.backlog
  drops := Counter.since32 current.drops previous.drops
  requeues := Counter.since32 current.requeues previous.requeues
  overlimits := Counter.since32 current.overlimits previous.overlimits

namespace Statistics

/-- Nothing was counted. -/
def zero : Statistics := ⟨⟨0, 0⟩, ⟨0, 0, 0, 0, 0⟩, ⟨0, 0⟩, ⟨0, 0⟩⟩

/-- What was counted since an earlier sample, with the rate and the queue as they are now. -/
def delta (current previous : Statistics) : Statistics where
  traffic := current.traffic.delta previous.traffic
  queue := current.queue.delta previous.queue
  rate := current.rate
  hardware := current.hardware.delta previous.hardware

/-! ## Blocks -/

namespace Block

/-- Bytes in 64 bits and packets in 32. -/
def traffic : UInt16 := 1
/-- The rate in 32 bits. -/
def rate : UInt16 := 2
def queue : UInt16 := 3
/-- The rate in 64 bits. -/
def rate64 : UInt16 := 5
/-- Bytes in 64 bits and packets in 32, for hardware. -/
def hardware : UInt16 := 7
/-- Packets in 64 bits. -/
def packets64 : UInt16 := 8

end Block

/-- Traffic with packets in 32 bits. -/
def trafficLayout : Layout (UInt64 × UInt32) := Layout.uint64.pair Layout.uint32

/-- The traffic at the front of a payload. -/
def readTraffic (payload : Bytes) : Except Error Traffic :=
  (trafficLayout.readAs "gnet_stats_basic" payload).map fun (bytes, packets) =>
    ⟨bytes, packets.toUInt64⟩

/-- A queue as five words. -/
def queueLayout : Layout QueueUse :=
  (Layout.uint32.pair (Layout.uint32.pair (Layout.uint32.pair
    (Layout.uint32.pair Layout.uint32)))).map
    (fun (length, backlog, drops, requeues, overlimits) =>
      ⟨length, backlog, drops, requeues, overlimits⟩)
    (fun queue => (queue.length, queue.backlog, queue.drops, queue.requeues, queue.overlimits))

/-- A rate in 32 bits. -/
def rateLayout : Layout (UInt32 × UInt32) := Layout.uint32.pair Layout.uint32

/-- A rate in 64 bits. -/
def rate64Layout : Layout RateEstimate :=
  (Layout.uint64.pair Layout.uint64).map
    (fun (bytes, packets) => ⟨bytes, packets⟩) (fun rate => (rate.bytes, rate.packets))

/-- The statistics read so far, with the packets in 64 bits kept apart until all blocks are read. -/
structure Reading where
  /-- All other values. -/
  statistics : Statistics
  /-- The packets in 64 bits. -/
  packets64 : Option UInt64

/-- The reading after one more block. A block of an unknown tag changes nothing. -/
def Reading.add (reading : Reading) (block : Tagged) : Except Error Reading := do
  let statistics := reading.statistics
  if block.tag = Block.traffic then
    let traffic ← readTraffic block.payload
    .ok { reading with statistics := { statistics with traffic } }
  else if block.tag = Block.hardware then
    let hardware ← readTraffic block.payload
    .ok { reading with statistics := { statistics with hardware } }
  else if block.tag = Block.packets64 then
    let packets ← Payload.readUInt64 block.payload
    .ok { reading with packets64 := some packets }
  else if block.tag = Block.queue then
    let queue ← queueLayout.readAs "gnet_stats_queue" block.payload
    .ok { reading with statistics := { statistics with queue } }
  else if block.tag = Block.rate then
    let (bytes, packets) ← rateLayout.readAs "gnet_stats_rate_est" block.payload
    let rate := ⟨bytes.toUInt64, packets.toUInt64⟩
    .ok { reading with statistics := { statistics with rate } }
  else if block.tag = Block.rate64 then
    let rate ← rate64Layout.readAs "gnet_stats_rate_est64" block.payload
    .ok { reading with statistics := { statistics with rate } }
  else .ok reading

/-- The statistics of a reading, in which packets in 64 bits take the place of those in 32. -/
def Reading.result (reading : Reading) : Statistics :=
  match reading.packets64 with
  | some packets =>
    let statistics := reading.statistics
    { statistics with traffic := { statistics.traffic with packets } }
  | none => reading.statistics

/-- The statistics of a sequence of blocks, of which a later one replaces an earlier one. -/
def ofBlocks (data : Bytes) : Except Error Statistics := do
  let blocks ← Tagged.parse data
  let reading ← blocks.foldlM Reading.add ⟨zero, none⟩
  .ok reading.result

/-! ## The flat record -/

/-- The flat record: bytes in 64 bits, then packets, drops, overlimits, the two rates, the length of
the queue and its backlog in 32. -/
def flatLayout :
    Layout (UInt64 × UInt32 × UInt32 × UInt32 × UInt32 × UInt32 × UInt32 × UInt32) :=
  Layout.uint64.pair (Layout.uint32.pair (Layout.uint32.pair (Layout.uint32.pair (Layout.uint32.pair
    (Layout.uint32.pair (Layout.uint32.pair Layout.uint32))))))

/-- The statistics of a flat record. -/
def ofFlat (data : Bytes) : Except Error Statistics :=
  (flatLayout.readAs "tc_stats" data).map
    fun (bytes, packets, drops, overlimits, byteRate, packetRate, length, backlog) =>
      { traffic := ⟨bytes, packets.toUInt64⟩
        queue := ⟨length, backlog, drops, 0, overlimits⟩
        rate := ⟨byteRate.toUInt64, packetRate.toUInt64⟩
        hardware := ⟨0, 0⟩ }

/-! ## Either form -/

/-- The tag of the blocks among the attributes of a qdisc or a class. -/
def blocksTag : UInt16 := 7

/-- The tag of the flat record among the attributes of a qdisc or a class. -/
def flatTag : UInt16 := 3

/-- The statistics among the attributes of a qdisc or a class: those of the first blocks, else those
of the first flat record, else zero. -/
def ofAttributes (found : List Tagged) : Except Error Statistics :=
  match Tagged.find? found blocksTag with
  | some data => ofBlocks data
  | none =>
    match Tagged.find? found flatTag with
    | some data => ofFlat data
    | none => .ok zero

end Statistics

end TrafficShaping
