import TrafficShaping.RateTable
import TrafficShaping.Wire.Attribute

/-!
The hierarchical token bucket: a qdisc, and classes with a guaranteed rate and a ceiling.

A class is described by `HtbClass.Params` in bits per second and bytes; `HtbClass` holds what the
kernel stores, bytes per second and ticks. Rates that do not fit 32 bits are written twice: as the
largest word in the parameters and in full in an attribute of their own.
-/

namespace TrafficShaping

/-! ## Qdisc -/

/-- The global parameters as one record. -/
structure HtbGlobals where
  version : UInt32
  /-- The divisor from rates to quanta. -/
  rateToQuantum : UInt32
  /-- The minor number of the class for unclassified packets. -/
  defaultClass : UInt32
  debug : UInt32
  /-- Packets that no class took. -/
  directPackets : UInt32
  deriving DecidableEq, Repr

namespace HtbGlobals

instance : Record HtbGlobals where
  name := "tc_htb_glob"
  layout :=
    (Layout.uint32.pair (Layout.uint32.pair (Layout.uint32.pair
      (Layout.uint32.pair Layout.uint32)))).map
    (fun (version, rateToQuantum, defaultClass, debug, directPackets) =>
      ⟨version, rateToQuantum, defaultClass, debug, directPackets⟩)
    (fun globals => (globals.version, globals.rateToQuantum, globals.defaultClass, globals.debug,
      globals.directPackets))

theorem lawful_layout : (Record.layout : Layout HtbGlobals).Lawful :=
  Layout.Lawful.map
    (Layout.lawful_uint32.pair (Layout.lawful_uint32.pair (Layout.lawful_uint32.pair
      (Layout.lawful_uint32.pair Layout.lawful_uint32))))
    (fun _ => rfl) (fun _ => rfl)

end HtbGlobals

namespace HtbTag

def parameters : UInt16 := 1
def globals : UInt16 := 2
def ceilingTable : UInt16 := 3
def rateTable : UInt16 := 4
def directQueueLength : UInt16 := 5
/-- The guaranteed rate in 64 bits. -/
def rate64 : UInt16 := 6
/-- The ceiling in 64 bits. -/
def ceiling64 : UInt16 := 7

end HtbTag

/-- The parameters of an HTB qdisc. -/
structure HtbQdisc where
  globals : HtbGlobals
  /-- The length of the direct queue; the kernel chooses when there is none. -/
  directQueueLength : Option UInt32
  deriving DecidableEq, Repr

namespace HtbQdisc

/-- The parameters that the kernel expects by default. -/
def standard : HtbQdisc := ⟨⟨3, 10, 0, 0, 0⟩, none⟩

/-- The options that carry the parameters. -/
def encode (qdisc : HtbQdisc) : Except Error Bytes :=
  let globals := Attribute.ofRecord HtbTag.globals qdisc.globals
  Attribute.writeAll <|
    match qdisc.directQueueLength with
    | some length => [globals, .ofUInt32 HtbTag.directQueueLength length]
    | none => [globals]

/-- The parameters with those of one more attribute. -/
def apply (qdisc : HtbQdisc) (found : Tagged) : Except Error HtbQdisc :=
  if found.tag = HtbTag.globals then
    (Record.read HtbGlobals found.payload).map fun globals => { qdisc with globals }
  else if found.tag = HtbTag.directQueueLength then
    (Payload.readUInt32 found.payload).map fun length =>
      { qdisc with directQueueLength := some length }
  else .ok qdisc

/-- The parameters that options carry: the last of each sort counts, and the standard ones fill
in. -/
def decode (options : Option Bytes) : Except Error HtbQdisc :=
  match options with
  | none => .ok standard
  | some data => do
    let found ← Tagged.parse data
    found.foldlM apply standard

end HtbQdisc

/-! ## Class -/

/-- The parameters of a class as one record. -/
structure HtbParameters where
  rate : RateSpec
  ceiling : RateSpec
  /-- The burst in ticks. -/
  buffer : UInt32
  /-- The burst at the ceiling in ticks. -/
  ceilingBuffer : UInt32
  /-- Bytes that the class may send in its turn. -/
  quantum : UInt32
  level : UInt32
  /-- The priority, of which zero is the highest. -/
  priority : UInt32
  deriving DecidableEq, Repr

namespace HtbParameters

instance : Record HtbParameters where
  name := "tc_htb_opt"
  layout :=
    ((Record.layout : Layout RateSpec).pair ((Record.layout : Layout RateSpec).pair
      (Layout.uint32.pair (Layout.uint32.pair (Layout.uint32.pair
        (Layout.uint32.pair Layout.uint32)))))).map
    (fun (rate, ceiling, buffer, ceilingBuffer, quantum, level, priority) =>
      ⟨rate, ceiling, buffer, ceilingBuffer, quantum, level, priority⟩)
    (fun parameters => (parameters.rate, parameters.ceiling, parameters.buffer,
      parameters.ceilingBuffer, parameters.quantum, parameters.level, parameters.priority))

theorem lawful_layout : (Record.layout : Layout HtbParameters).Lawful :=
  Layout.Lawful.map
    (RateSpec.lawful_layout.pair (RateSpec.lawful_layout.pair (Layout.lawful_uint32.pair
      (Layout.lawful_uint32.pair (Layout.lawful_uint32.pair
        (Layout.lawful_uint32.pair Layout.lawful_uint32))))))
    (fun _ => rfl) (fun _ => rfl)

end HtbParameters

/-- The parameters of an HTB class as the kernel stores them. -/
structure HtbClass where
  /-- The guaranteed rate in bytes per second. -/
  rate : UInt64
  /-- The ceiling in bytes per second. -/
  ceiling : UInt64
  /-- The burst in ticks. -/
  buffer : UInt32
  /-- The burst at the ceiling in ticks. -/
  ceilingBuffer : UInt32
  /-- Bytes that the class may send in its turn. -/
  quantum : UInt32
  /-- The level in the hierarchy, which the kernel reports. -/
  level : UInt32
  /-- The priority, of which zero is the highest. -/
  priority : UInt32
  deriving DecidableEq, Repr

namespace HtbClass

/-- What a user asks of a class. -/
structure Params where
  /-- The guaranteed rate in bits per second. -/
  rate : UInt64
  /-- The ceiling in bits per second; the guaranteed rate when there is none. -/
  ceiling : Option UInt64
  /-- The burst in bytes; zero when it is to follow from the rate. -/
  buffer : UInt32
  /-- The burst at the ceiling in bytes; zero when it is to follow from the ceiling. -/
  ceilingBuffer : UInt32
  /-- Bytes that the class may send in its turn. -/
  quantum : UInt32
  /-- The priority, of which zero is the highest. -/
  priority : UInt32
  deriving DecidableEq, Repr

/-- A class of which only the guaranteed rate is given. -/
def Params.ofRate (rate : UInt64) : Params := ⟨rate, none, 0, 0, 0, 0⟩

/-- The largest packet that bursts and rate tables are made for. -/
def largestPacket : UInt32 := 1600

/-- The burst of a rate in bytes: what is sent between two runs of the timer, and one packet. -/
def defaultBurst (clock : Clock) (rate : UInt64) : UInt32 :=
  (Number.Binary64.ofNat rate.toNat / clock.timerFrequency
    + Number.Binary64.ofNat largestPacket.toNat).toUInt32

/-- What the kernel stores for a class. A ceiling below eight bits per second is none. -/
def ofParams (params : Params) (clock : Clock) : HtbClass :=
  let rate := params.rate / 8
  let ceiling :=
    match params.ceiling with
    | some bits => if bits / 8 = 0 then rate else bits / 8
    | none => rate
  let burst (given : UInt32) (rate : UInt64) : UInt32 :=
    clock.ticksToSend rate (if given = 0 then defaultBurst clock rate else given)
  { rate, ceiling
    buffer := burst params.buffer rate
    ceilingBuffer := burst params.ceilingBuffer ceiling
    quantum := params.quantum
    level := 0
    priority := params.priority }

/-- The burst in bytes. -/
def bufferBytes (hclass : HtbClass) (clock : Clock) : UInt32 :=
  clock.bytesSent hclass.rate hclass.buffer

/-- The burst at the ceiling in bytes. -/
def ceilingBufferBytes (hclass : HtbClass) (clock : Clock) : UInt32 :=
  clock.bytesSent hclass.ceiling hclass.ceilingBuffer

/-- The attribute for a rate that does not fit 32 bits. -/
def rate64 (type : UInt16) (rate : UInt64) : List Attribute :=
  if UInt32.size ≤ rate.toNat then [.ofUInt64 type rate] else []

/-- The options that carry the parameters, with a rate table for each of the two rates. -/
def encode (hclass : HtbClass) (clock : Clock) : Except Error Bytes :=
  let table (rate : UInt64) : RateSpec × Bytes :=
    RateTable.compute (.ofRate (RateSpec.saturated rate)) rate largestPacket clock
  let (rateSpec, rates) := table hclass.rate
  let (ceilingSpec, ceilings) := table hclass.ceiling
  let parameters : HtbParameters :=
    { rate := rateSpec
      ceiling := ceilingSpec
      buffer := hclass.buffer
      ceilingBuffer := hclass.ceilingBuffer
      quantum := hclass.quantum
      level := hclass.level
      priority := hclass.priority }
  Attribute.writeAll <|
    [.ofRecord HtbTag.parameters parameters, .leaf HtbTag.rateTable rates,
      .leaf HtbTag.ceilingTable ceilings]
    ++ rate64 HtbTag.rate64 hclass.rate ++ rate64 HtbTag.ceiling64 hclass.ceiling

/-- The rate in 64 bits among attributes, else the one in 32 bits. -/
def readRate (found : List Tagged) (tag : UInt16) (low : UInt32) : Except Error UInt64 :=
  match Tagged.find? found tag with
  | some payload => Payload.readUInt64 payload
  | none => .ok low.toUInt64

/-- The parameters that options carry, of which the first of each sort counts. Only when there are
no options at all may the parameters be missing; they are zero then. -/
def decode (options : Option Bytes) : Except Error HtbClass :=
  match options with
  | none => .ok ⟨0, 0, 0, 0, 0, 0, 0⟩
  | some data => do
    let found ← Tagged.parse data
    match Tagged.find? found HtbTag.parameters with
    | none => .error (.wireFormat .missingHtbParameters)
    | some payload =>
      let parameters ← Record.read HtbParameters payload
      let rate ← readRate found HtbTag.rate64 parameters.rate.rate
      let ceiling ← readRate found HtbTag.ceiling64 parameters.ceiling.rate
      .ok
        { rate, ceiling
          buffer := parameters.buffer
          ceilingBuffer := parameters.ceilingBuffer
          quantum := parameters.quantum
          level := parameters.level
          priority := parameters.priority }

end HtbClass

end TrafficShaping
