import TrafficShaping.Probability
import TrafficShaping.RateTable
import TrafficShaping.Wire.Attribute

/-!
The network emulator: a qdisc that delays, drops, duplicates, reorders and damages packets.

A user asks for it with `Netem.Config` in microseconds and percentages; `Netem` holds what is sent
to the kernel. Its options begin with a fixed record and go on with attributes for the settings that
differ from none.
-/

namespace TrafficShaping

/-! ## Records -/

/-- The settings that every emulator has. -/
structure NetemBase where
  /-- The delay in ticks. -/
  latency : UInt32
  /-- The packets that may wait. -/
  limit : UInt32
  loss : UInt32
  /-- The distance between reordered packets. -/
  gap : UInt32
  duplicate : UInt32
  /-- The spread of the delay in ticks. -/
  jitter : UInt32
  deriving DecidableEq, Repr

namespace NetemBase

instance : Record NetemBase where
  name := "tc_netem_qopt"
  layout :=
    (Layout.uint32.pair (Layout.uint32.pair (Layout.uint32.pair (Layout.uint32.pair
      (Layout.uint32.pair Layout.uint32))))).map
    (fun (latency, limit, loss, gap, duplicate, jitter) =>
      ⟨latency, limit, loss, gap, duplicate, jitter⟩)
    (fun base => (base.latency, base.limit, base.loss, base.gap, base.duplicate, base.jitter))

theorem lawful_layout : (Record.layout : Layout NetemBase).Lawful :=
  Layout.Lawful.map
    (Layout.lawful_uint32.pair (Layout.lawful_uint32.pair (Layout.lawful_uint32.pair
      (Layout.lawful_uint32.pair (Layout.lawful_uint32.pair Layout.lawful_uint32)))))
    (fun _ => rfl) (fun _ => rfl)

end NetemBase

/-- How much delay, loss and duplication depend on the packet before. -/
structure NetemCorrelation where
  delay : UInt32
  loss : UInt32
  duplicate : UInt32
  deriving DecidableEq, Repr

namespace NetemCorrelation

instance : Record NetemCorrelation where
  name := "tc_netem_corr"
  layout := (Layout.uint32.pair (Layout.uint32.pair Layout.uint32)).map
    (fun (delay, loss, duplicate) => ⟨delay, loss, duplicate⟩)
    (fun correlation => (correlation.delay, correlation.loss, correlation.duplicate))

theorem lawful_layout : (Record.layout : Layout NetemCorrelation).Lawful :=
  Layout.Lawful.map
    (Layout.lawful_uint32.pair (Layout.lawful_uint32.pair Layout.lawful_uint32))
    (fun _ => rfl) (fun _ => rfl)

end NetemCorrelation

/-- The probability of reordering. -/
structure NetemReorder where
  probability : UInt32
  /-- How much it depends on the packet before. -/
  correlation : UInt32
  deriving DecidableEq, Repr

namespace NetemReorder

instance : Record NetemReorder where
  name := "tc_netem_reorder"
  layout := (Layout.uint32.pair Layout.uint32).map
    (fun (probability, correlation) => ⟨probability, correlation⟩)
    (fun reorder => (reorder.probability, reorder.correlation))

theorem lawful_layout : (Record.layout : Layout NetemReorder).Lawful :=
  (Layout.lawful_uint32.pair Layout.lawful_uint32).map (fun _ => rfl) (fun _ => rfl)

end NetemReorder

/-- The probability of damage. -/
structure NetemCorrupt where
  probability : UInt32
  /-- How much it depends on the packet before. -/
  correlation : UInt32
  deriving DecidableEq, Repr

namespace NetemCorrupt

instance : Record NetemCorrupt where
  name := "tc_netem_corrupt"
  layout := (Layout.uint32.pair Layout.uint32).map
    (fun (probability, correlation) => ⟨probability, correlation⟩)
    (fun corrupt => (corrupt.probability, corrupt.correlation))

theorem lawful_layout : (Record.layout : Layout NetemCorrupt).Lawful :=
  (Layout.lawful_uint32.pair Layout.lawful_uint32).map (fun _ => rfl) (fun _ => rfl)

end NetemCorrupt

/-- A limit of the rate. -/
structure NetemRate where
  /-- Bytes per second, the largest word for all higher rates. -/
  rate : UInt32
  /-- Bytes added to every packet. -/
  packetOverhead : Int32
  cellSize : UInt32
  /-- Bytes added to every cell. -/
  cellOverhead : Int32
  deriving DecidableEq, Repr

namespace NetemRate

instance : Record NetemRate where
  name := "tc_netem_rate"
  layout := (Layout.uint32.pair (Layout.int32.pair (Layout.uint32.pair Layout.int32))).map
    (fun (rate, packetOverhead, cellSize, cellOverhead) =>
      ⟨rate, packetOverhead, cellSize, cellOverhead⟩)
    (fun spec => (spec.rate, spec.packetOverhead, spec.cellSize, spec.cellOverhead))

theorem lawful_layout : (Record.layout : Layout NetemRate).Lawful :=
  Layout.Lawful.map
    (Layout.lawful_uint32.pair (Layout.lawful_int32.pair
      (Layout.lawful_uint32.pair Layout.lawful_int32)))
    (fun _ => rfl) (fun _ => rfl)

end NetemRate

namespace NetemTag

/-- Correlations of delay, loss and duplication. -/
def correlation : UInt16 := 1
def reorder : UInt16 := 3
def corrupt : UInt16 := 4
/-- The rate in 32 bits. -/
def rate : UInt16 := 6
/-- The rate in 64 bits. -/
def rate64 : UInt16 := 8

end NetemTag

/-! ## Settings -/

/-- The settings of an emulator as they are sent to the kernel. -/
structure Netem where
  /-- The delay in microseconds. -/
  latency : UInt32
  /-- The spread of the delay in microseconds. -/
  jitter : UInt32
  /-- The packets that may wait. -/
  limit : UInt32
  /-- The distance between reordered packets. -/
  gap : UInt32
  loss : Probability
  /-- How much losses depend on the packet before. -/
  lossCorrelation : Probability
  duplicate : Probability
  /-- How much duplicates depend on the packet before. -/
  duplicateCorrelation : Probability
  /-- How much the delay depends on that of the packet before. -/
  delayCorrelation : Probability
  reorder : Probability
  /-- How much reordering depends on the packet before. -/
  reorderCorrelation : Probability
  corrupt : Probability
  /-- How much damage depends on the packet before. -/
  corruptCorrelation : Probability
  /-- A limit of the rate in bytes per second. -/
  rate : Option UInt64
  deriving DecidableEq, Repr

namespace Netem

/-- What a user asks of an emulator. -/
structure Config where
  /-- The delay in microseconds. -/
  latency : UInt32
  /-- The spread of the delay in microseconds. -/
  jitter : UInt32
  /-- The packets that may wait; zero stands for the default. -/
  limit : UInt32
  /-- The distance between reordered packets. -/
  gap : UInt32
  /-- The percentage of losses. -/
  loss : Number.Binary64
  /-- How much losses depend on the packet before, in percent. -/
  lossCorrelation : Number.Binary64
  /-- The percentage of duplicates. -/
  duplicate : Number.Binary64
  /-- How much duplicates depend on the packet before, in percent. -/
  duplicateCorrelation : Number.Binary64
  /-- How much the delay depends on that of the packet before, in percent. -/
  delayCorrelation : Number.Binary64
  /-- The percentage of reordering, which needs a delay. -/
  reorder : Number.Binary64
  /-- How much reordering depends on the packet before, in percent. -/
  reorderCorrelation : Number.Binary64
  /-- The percentage of damage. -/
  corrupt : Number.Binary64
  /-- How much damage depends on the packet before, in percent. -/
  corruptCorrelation : Number.Binary64
  /-- A limit of the rate in bytes per second. -/
  rate : Option UInt64
  deriving DecidableEq, Repr

/-- The packets that may wait by default. -/
def defaultLimit : UInt32 := 1000

/-- The configuration that asks for nothing. -/
def Config.none : Config :=
  let zero := Number.Binary64.zero false
  ⟨0, 0, defaultLimit, 0, zero, zero, zero, zero, zero, zero, zero, zero, zero, Option.none⟩

/-- The settings for what a user asks. The correlations of delay, loss and duplication count only
beside what they correlate, reordering brings a gap of at least one, and reordering without delay is
refused. -/
def ofConfig (config : Config) : Except Error Netem :=
  let loss := Probability.ofPercent config.loss
  let duplicate := Probability.ofPercent config.duplicate
  let reorder := Probability.ofPercent config.reorder
  let only (condition : Bool) (percent : Number.Binary64) : Probability :=
    if condition then .ofPercent percent else .zero
  if !reorder.isZero && config.latency == 0 then .error (.config .reorderWithoutLatency)
  else .ok
    { latency := config.latency
      jitter := config.jitter
      limit := if config.limit = 0 then defaultLimit else config.limit
      gap := if !reorder.isZero && config.gap == 0 then 1 else config.gap
      loss
      lossCorrelation := only (!loss.isZero) config.lossCorrelation
      duplicate
      duplicateCorrelation := only (!duplicate.isZero) config.duplicateCorrelation
      delayCorrelation :=
        only (config.latency != 0 && config.jitter != 0) config.delayCorrelation
      reorder
      reorderCorrelation := .ofPercent config.reorderCorrelation
      corrupt := .ofPercent config.corrupt
      corruptCorrelation := .ofPercent config.corruptCorrelation
      rate := config.rate }

/-- The settings of an emulator that does nothing and lets no packet wait. -/
def empty : Netem :=
  ⟨0, 0, 0, 0, .zero, .zero, .zero, .zero, .zero, .zero, .zero, .zero, .zero, none⟩

/-! ## Options -/

/-- The fixed record. -/
def base (netem : Netem) (clock : Clock) : NetemBase where
  latency := clock.ticksOfTime netem.latency
  limit := netem.limit
  loss := netem.loss.raw
  gap := netem.gap
  duplicate := netem.duplicate.raw
  jitter := clock.ticksOfTime netem.jitter

/-- Whether delay, loss or duplication is correlated. -/
def isCorrelated (netem : Netem) : Bool :=
  !netem.delayCorrelation.isZero || !netem.lossCorrelation.isZero
    || !netem.duplicateCorrelation.isZero

/-- The attributes of a limit of the rate: one of 32 bits, and one of 64 when that is too small. -/
def rateAttributes (rate : UInt64) : List Attribute :=
  .ofRecord NetemTag.rate (⟨RateSpec.saturated rate, 0, 0, 0⟩ : NetemRate)
    :: (if UInt32.size ≤ rate.toNat then [.ofUInt64 NetemTag.rate64 rate] else [])

/-- The attributes for the settings that differ from none. -/
def attributes (netem : Netem) : List Attribute :=
  (if netem.isCorrelated then
      [.ofRecord NetemTag.correlation
        (⟨netem.delayCorrelation.raw, netem.lossCorrelation.raw, netem.duplicateCorrelation.raw⟩ :
          NetemCorrelation)]
    else [])
  ++ (if netem.reorder.isZero then []
    else [.ofRecord NetemTag.reorder
      (⟨netem.reorder.raw, netem.reorderCorrelation.raw⟩ : NetemReorder)])
  ++ (if netem.corrupt.isZero then []
    else [.ofRecord NetemTag.corrupt
      (⟨netem.corrupt.raw, netem.corruptCorrelation.raw⟩ : NetemCorrupt)])
  ++ (netem.rate.map rateAttributes).getD []

/-- The options that carry the settings. Reordering without delay is refused. -/
def encode (netem : Netem) (clock : Clock) : Except Error Bytes :=
  if !netem.reorder.isZero && netem.latency == 0 then .error (.config .reorderWithoutLatency)
  else (Attribute.writeAll netem.attributes).map (Record.toBytes (netem.base clock) ++ ·)

/-- The settings with those of the first attribute of a tag, if there is one. -/
def applyFirst (found : List Tagged) (tag : UInt16) (apply : Netem → Bytes → Except Error Netem)
    (netem : Netem) : Except Error Netem :=
  match Tagged.find? found tag with
  | some payload => apply netem payload
  | none => .ok netem

/-- The settings with the correlations of a payload. -/
def applyCorrelation (netem : Netem) (payload : Bytes) : Except Error Netem :=
  (Record.read NetemCorrelation payload).map fun correlation =>
    { netem with
      delayCorrelation := ⟨correlation.delay⟩
      lossCorrelation := ⟨correlation.loss⟩
      duplicateCorrelation := ⟨correlation.duplicate⟩ }

/-- The settings with the reordering of a payload. -/
def applyReorder (netem : Netem) (payload : Bytes) : Except Error Netem :=
  (Record.read NetemReorder payload).map fun reorder =>
    { netem with
      reorder := ⟨reorder.probability⟩
      reorderCorrelation := ⟨reorder.correlation⟩ }

/-- The settings with the damage of a payload. -/
def applyCorrupt (netem : Netem) (payload : Bytes) : Except Error Netem :=
  (Record.read NetemCorrupt payload).map fun corrupt =>
    { netem with
      corrupt := ⟨corrupt.probability⟩
      corruptCorrelation := ⟨corrupt.correlation⟩ }

/-- The settings with the rate of a payload, of which zero is no limit. -/
def applyRate (netem : Netem) (payload : Bytes) : Except Error Netem :=
  (Record.read NetemRate payload).map fun spec =>
    if spec.rate = 0 then netem else { netem with rate := some spec.rate.toUInt64 }

/-- The settings with the rate of a payload in 64 bits. -/
def applyRate64 (netem : Netem) (payload : Bytes) : Except Error Netem :=
  (Payload.readUInt64 payload).map fun rate => { netem with rate := some rate }

/-- The settings of a fixed record. -/
def ofBase (base : NetemBase) (clock : Clock) : Netem :=
  { empty with
    latency := clock.timeOfTicks base.latency
    jitter := clock.timeOfTicks base.jitter
    limit := base.limit
    gap := base.gap
    loss := ⟨base.loss⟩
    duplicate := ⟨base.duplicate⟩ }

/-- The settings of a fixed record and the attributes behind it, of which the first of each tag
counts. -/
def ofParts (base : NetemBase) (found : List Tagged) (clock : Clock) : Except Error Netem := do
  let netem ← applyFirst found NetemTag.correlation applyCorrelation (ofBase base clock)
  let netem ← applyFirst found NetemTag.reorder applyReorder netem
  let netem ← applyFirst found NetemTag.corrupt applyCorrupt netem
  let netem ← applyFirst found NetemTag.rate applyRate netem
  applyFirst found NetemTag.rate64 applyRate64 netem

/-- The settings that options carry. -/
def decode (options : Option Bytes) (clock : Clock) : Except Error Netem :=
  match options with
  | none => .ok empty
  | some data => do
    let (base, rest) ← Record.readFront NetemBase data
    let found ← Tagged.parse rest
    ofParts base found clock

end Netem

end TrafficShaping
