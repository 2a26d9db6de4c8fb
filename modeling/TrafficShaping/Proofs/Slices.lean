import TrafficShaping.Client.Dump
import TrafficShaping.Proofs.Statistics.Blocks

/-!
Reading by slices.

A layout takes the parts of a record one after the other and cannot reach too far. The readers here
do the same work as a program would that checks lengths where it has to and then takes slices at
fixed offsets: behind the records in front of messages and of the options of an emulator, in the
blocks and in the flat record of statistics, and up to the end of a text. A slice that reaches too
far leaves such a reader without any outcome. That never happens, whatever the bytes: each of them
has the outcome of the reader that it stands for, up to `Qdisc.readBySlices_eq` and
`Class.readBySlices_eq`.
-/

namespace TrafficShaping

/-- The outcome of a reader that takes slices; `none` when one of them reaches too far. -/
abbrev Sliced (α : Type) := ExceptT Error Option α

namespace Sliced

variable {α β : Type}

/-- An outcome that is there. -/
def whole (outcome : Except Error α) : Sliced α := some outcome

/-- The bytes from an offset on. -/
def dropAt (offset : Nat) (data : Bytes) : Sliced Bytes :=
  if offset ≤ data.length then whole (.ok (data.drop offset)) else none

/-- The bytes before an offset. -/
def takeAt (offset : Nat) (data : Bytes) : Sliced Bytes :=
  if offset ≤ data.length then whole (.ok (data.take offset)) else none

/-- The check that a record is all there. -/
def require (what : String) (least : Nat) (data : Bytes) : Sliced Unit :=
  if data.length < least then whole (.error (.truncated what least data.length)) else whole (.ok ())

/-- The word of 32 bits at an offset. -/
def readUInt32 (offset : Nat) (data : Bytes) : Sliced UInt32 := do
  let behind ← dropAt offset data
  whole (Payload.readUInt32 behind)

/-- The word of 64 bits at an offset. -/
def readUInt64 (offset : Nat) (data : Bytes) : Sliced UInt64 := do
  let behind ← dropAt offset data
  whole (Payload.readUInt64 behind)

/-! ## Steps -/

@[simp] theorem whole_ok_bind (a : α) (next : α → Sliced β) : (whole (.ok a) >>= next) = next a :=
  rfl

/-- Two steps of which neither reaches too far do not reach too far together. -/
theorem bind_eq {sliced : Sliced α} {first : Except Error α} {step : α → Sliced β}
    {next : α → Except Error β} (here : sliced = whole first)
    (there : ∀ a, step a = whole (next a)) : (sliced >>= step) = whole (first >>= next) := by
  rw [here]
  cases first with
  | error cause => rfl
  | ok a => exact there a

theorem foldlM_eq {step : β → α → Sliced β} {next : β → α → Except Error β}
    (each : ∀ b a, step b a = whole (next b a)) (b : β) (rest : List α) :
    rest.foldlM step b = whole (rest.foldlM next b) := by
  induction rest generalizing b with
  | nil => rfl
  | cons a rest ih =>
      rw [List.foldlM_cons, List.foldlM_cons]
      exact bind_eq (each b a) ih

/-! ## Offsets -/

theorem require_of_lt {what : String} {least : Nat} {data : Bytes} (short : data.length < least) :
    require what least data = whole (.error (.truncated what least data.length)) := if_pos short

theorem require_of_le {what : String} {least : Nat} {data : Bytes} (long : least ≤ data.length) :
    require what least data = whole (.ok ()) := if_neg (by omega)

@[simp] theorem dropAt_zero (data : Bytes) : dropAt 0 data = whole (.ok data) :=
  if_pos (Nat.zero_le _)

@[simp] theorem readUInt32_zero (word : UInt32) (rest : Bytes) :
    readUInt32 0 (Layout.uint32.write word ++ rest) = whole (.ok word) := by
  unfold readUInt32 Payload.readUInt32 Layout.readAs Layout.readFrontAs
  rw [dropAt_zero, whole_ok_bind, Layout.lawful_uint32.read?_write]
  rfl

@[simp] theorem readUInt64_zero (word : UInt64) (rest : Bytes) :
    readUInt64 0 (Layout.uint64.write word ++ rest) = whole (.ok word) := by
  unfold readUInt64 Payload.readUInt64 Layout.readAs Layout.readFrontAs
  rw [dropAt_zero, whole_ok_bind, Layout.lawful_uint64.read?_write]
  rfl

section Behind

variable {front : Bytes} {offset : Nat} (behind : front.length ≤ offset) (rest : Bytes)

include behind

/-- An offset behind a first part is one into what follows that part. -/
theorem dropAt_append : dropAt offset (front ++ rest) = dropAt (offset - front.length) rest := by
  have cut : (front ++ rest).drop offset = rest.drop (offset - front.length) := by
    rw [List.drop_append, List.drop_eq_nil_of_le behind, List.nil_append]
  unfold dropAt
  rw [cut, List.length_append]
  by_cases inside : offset - front.length ≤ rest.length
  · rw [if_pos inside, if_pos (by omega)]
  · rw [if_neg inside, if_neg (by omega)]

@[simp] theorem readUInt32_append :
    readUInt32 offset (front ++ rest) = readUInt32 (offset - front.length) rest := by
  unfold readUInt32
  rw [dropAt_append behind]

@[simp] theorem readUInt64_append :
    readUInt64 offset (front ++ rest) = readUInt64 (offset - front.length) rest := by
  unfold readUInt64
  rw [dropAt_append behind]

end Behind

@[simp] theorem length_write_uint32 (word : UInt32) : (Layout.uint32.write word).length = 4 :=
  Layout.lawful_uint32.length_write word

@[simp] theorem length_write_uint64 (word : UInt64) : (Layout.uint64.write word).length = 8 :=
  Layout.lawful_uint64.length_write word

/-- A record that is checked to be all there before its parts are read by slices is read as its
layout reads it, when the parts are. -/
theorem require_bind_eq {layout : Layout α} (lawful : layout.Lawful) {what : String} {data : Bytes}
    {parts : Sliced β} {build : α → β}
    (same : ∀ value rest, data = layout.write value ++ rest → parts = whole (.ok (build value))) :
    (require what layout.size data >>= fun _ => parts) =
      whole ((layout.readAs what data).map build) := by
  unfold Layout.readAs Layout.readFrontAs
  cases read : layout.read? data with
  | none =>
      rcases Nat.lt_or_ge data.length layout.size with short | long
      · rw [require_of_lt short]
        rfl
      · have some := lawful.isSome_read? long
        rw [read] at some
        cases some
  | some front =>
      obtain ⟨value, rest⟩ := front
      have long := lawful.length_eq read
      rw [require_of_le (by omega), whole_ok_bind,
        same value rest (lawful.eq_write_of_read? read)]
      rfl

/-- The record at the front and what a slice takes behind it are what is read from the front. -/
theorem read_bind_dropAt {α : Type} [Record α] (lawful : (Record.layout : Layout α).Lawful)
    (data : Bytes) (next : α → Bytes → Sliced β) :
    (whole (Record.read α data) >>= fun value =>
        dropAt (Record.size α) data >>= next value) =
      (whole (Record.readFront α data) >>= fun front => next front.1 front.2) := by
  unfold Record.read Record.readFront Layout.readFrontAs
  cases read : (Record.layout : Layout α).read? data with
  | none => rfl
  | some front =>
      obtain ⟨value, rest⟩ := front
      have width : (Record.layout.write value).length = Record.size α := lawful.length_write value
      have behind : dropAt (Record.size α) data = whole (.ok rest) := by
        rw [lawful.eq_write_of_read? read, dropAt_append (Nat.le_of_eq width), width,
          Nat.sub_self, dropAt_zero]
      change (dropAt (Record.size α) data >>= next value) = next value rest
      rw [behind, whole_ok_bind]

/-! ## Texts -/

/-- The text of a payload, which ends before the first zero byte if there is one. -/
def readText (payload : Bytes) : Sliced String := do
  let text ← takeAt (payload.findIdx (· == 0)) payload
  whole <|
    match Text.Utf8.decode text with
    | .ok text => .ok text
    | .error fault => .error (.wireFormat (.notUtf8 fault))

theorem readText_eq (payload : Bytes) : readText payload = whole (Payload.readText payload) := by
  have ended : payload.take (payload.findIdx (· == 0)) = payload.takeWhile (· != 0) := by
    rw [List.takeWhile_eq_take_findIdx_not]
    simp [bne]
  have front : takeAt (payload.findIdx (· == 0)) payload =
      whole (.ok (payload.takeWhile (· != 0))) := by
    rw [takeAt, if_pos List.findIdx_le_length, ended]
  unfold readText
  rw [front]
  rfl

/-! ## Statistics -/

/-- Bytes and packets that were sent. -/
def readTraffic (payload : Bytes) : Sliced Traffic := do
  require "gnet_stats_basic" 12 payload
  let bytes ← readUInt64 0 payload
  let packets ← readUInt32 8 payload
  whole (.ok ⟨bytes, packets.toUInt64⟩)

/-- The state and the counters of a queue. -/
def readQueue (payload : Bytes) : Sliced QueueUse := do
  require "gnet_stats_queue" 20 payload
  let length ← readUInt32 0 payload
  let backlog ← readUInt32 4 payload
  let drops ← readUInt32 8 payload
  let requeues ← readUInt32 12 payload
  let overlimits ← readUInt32 16 payload
  whole (.ok ⟨length, backlog, drops, requeues, overlimits⟩)

/-- A rate in 32 bits. -/
def readRate (payload : Bytes) : Sliced RateEstimate := do
  require "gnet_stats_rate_est" 8 payload
  let bytes ← readUInt32 0 payload
  let packets ← readUInt32 4 payload
  whole (.ok ⟨bytes.toUInt64, packets.toUInt64⟩)

/-- A rate in 64 bits. -/
def readRate64 (payload : Bytes) : Sliced RateEstimate := do
  require "gnet_stats_rate_est64" 16 payload
  let bytes ← readUInt64 0 payload
  let packets ← readUInt64 8 payload
  whole (.ok ⟨bytes, packets⟩)

/-- The reading after one more block. -/
def addBlock (reading : Statistics.Reading) (block : Tagged) : Sliced Statistics.Reading := do
  let statistics := reading.statistics
  if block.tag = Statistics.Block.traffic then
    let traffic ← readTraffic block.payload
    whole (.ok { reading with statistics := { statistics with traffic } })
  else if block.tag = Statistics.Block.hardware then
    let hardware ← readTraffic block.payload
    whole (.ok { reading with statistics := { statistics with hardware } })
  else if block.tag = Statistics.Block.packets64 then
    let packets ← readUInt64 0 block.payload
    whole (.ok { reading with packets64 := some packets })
  else if block.tag = Statistics.Block.queue then
    let queue ← readQueue block.payload
    whole (.ok { reading with statistics := { statistics with queue } })
  else if block.tag = Statistics.Block.rate then
    let rate ← readRate block.payload
    whole (.ok { reading with statistics := { statistics with rate } })
  else if block.tag = Statistics.Block.rate64 then
    let rate ← readRate64 block.payload
    whole (.ok { reading with statistics := { statistics with rate } })
  else whole (.ok reading)

/-- The statistics of a sequence of blocks. -/
def ofBlocks (data : Bytes) : Sliced Statistics := do
  let blocks ← whole (Tagged.parse data)
  let reading ← blocks.foldlM addBlock ⟨.zero, none⟩
  whole (.ok reading.result)

/-- The word of 32 bits at an index behind the bytes that were sent. -/
def flatWord (index : Nat) (data : Bytes) : Sliced UInt32 := readUInt32 (8 + index * 4) data

/-- The statistics of a flat record. -/
def ofFlat (data : Bytes) : Sliced Statistics := do
  require "tc_stats" 36 data
  let bytes ← readUInt64 0 data
  let packets ← flatWord 0 data
  let drops ← flatWord 1 data
  let overlimits ← flatWord 2 data
  let length ← flatWord 5 data
  let backlog ← flatWord 6 data
  let byteRate ← flatWord 3 data
  let packetRate ← flatWord 4 data
  whole <| .ok
    { traffic := ⟨bytes, packets.toUInt64⟩
      queue := ⟨length, backlog, drops, 0, overlimits⟩
      rate := ⟨byteRate.toUInt64, packetRate.toUInt64⟩
      hardware := ⟨0, 0⟩ }

/-- The statistics among the attributes of a qdisc or a class. -/
def ofAttributes (found : List Tagged) : Sliced Statistics :=
  match Tagged.find? found Statistics.blocksTag with
  | some data => ofBlocks data
  | none =>
    match Tagged.find? found Statistics.flatTag with
    | some data => ofFlat data
    | none => whole (.ok .zero)

theorem readTraffic_eq (payload : Bytes) :
    readTraffic payload = whole (Statistics.readTraffic payload) := by
  refine require_bind_eq Statistics.lawful_trafficLayout ?_
  rintro ⟨bytes, packets⟩ rest rfl
  simp [Statistics.trafficLayout, Layout.pair]

theorem readQueue_eq (payload : Bytes) :
    readQueue payload = whole (Statistics.queueLayout.readAs "gnet_stats_queue" payload) := by
  refine (require_bind_eq Statistics.lawful_queueLayout ?_).trans
    (congrArg whole (congrFun Except.map_id _))
  rintro ⟨length, backlog, drops, requeues, overlimits⟩ rest rfl
  simp [Statistics.queueLayout, Layout.map, Layout.pair]

theorem readRate_eq (payload : Bytes) :
    readRate payload = whole ((Statistics.rateLayout.readAs "gnet_stats_rate_est" payload).map
      fun (bytes, packets) => ⟨bytes.toUInt64, packets.toUInt64⟩) := by
  refine require_bind_eq Statistics.lawful_rateLayout ?_
  rintro ⟨bytes, packets⟩ rest rfl
  simp [Statistics.rateLayout, Layout.pair]

theorem readRate64_eq (payload : Bytes) :
    readRate64 payload =
      whole (Statistics.rate64Layout.readAs "gnet_stats_rate_est64" payload) := by
  refine (require_bind_eq Statistics.lawful_rate64Layout ?_).trans
    (congrArg whole (congrFun Except.map_id _))
  rintro ⟨bytes, packets⟩ rest rfl
  simp [Statistics.rate64Layout, Layout.map, Layout.pair]

theorem ofFlat_eq (data : Bytes) : ofFlat data = whole (Statistics.ofFlat data) := by
  refine require_bind_eq Statistics.lawful_flatLayout ?_
  rintro ⟨bytes, packets, drops, overlimits, byteRate, packetRate, length, backlog⟩ rest rfl
  simp [Statistics.flatLayout, Layout.pair, flatWord]

theorem addBlock_eq (reading : Statistics.Reading) (block : Tagged) :
    addBlock reading block = whole (reading.add block) := by
  unfold addBlock Statistics.Reading.add
  dsimp only
  split
  · exact bind_eq (readTraffic_eq _) fun _ => rfl
  split
  · exact bind_eq (readTraffic_eq _) fun _ => rfl
  split
  · refine bind_eq ?_ fun _ => rfl
    rw [readUInt64, dropAt_zero, whole_ok_bind]
  split
  · exact bind_eq (readQueue_eq _) fun _ => rfl
  split
  · rw [readRate_eq]
    cases Statistics.rateLayout.readAs "gnet_stats_rate_est" block.payload with
    | error cause => rfl
    | ok words => rfl
  split
  · exact bind_eq (readRate64_eq _) fun _ => rfl
  · rfl

theorem ofBlocks_eq (data : Bytes) : ofBlocks data = whole (Statistics.ofBlocks data) :=
  bind_eq rfl fun blocks => bind_eq (foldlM_eq addBlock_eq _ blocks) fun _ => rfl

theorem ofAttributes_eq (found : List Tagged) :
    ofAttributes found = whole (Statistics.ofAttributes found) := by
  unfold ofAttributes Statistics.ofAttributes
  cases Tagged.find? found Statistics.blocksTag with
  | some data => exact ofBlocks_eq data
  | none =>
      cases Tagged.find? found Statistics.flatTag with
      | some data => exact ofFlat_eq data
      | none => rfl

end Sliced

/-! ## Messages -/

open Sliced

/-- What the payload of a message tells of a qdisc or a class. -/
def TrafficReport.readBySlices (payload : Bytes) : Sliced TrafficReport := do
  let record ← whole (Record.read TrafficRecord payload)
  let rest ← dropAt (Record.size TrafficRecord) payload
  let found ← whole (Tagged.parse rest)
  match Tagged.find? found TrafficTag.kind with
  | none => whole (.error (.wireFormat .missingKind))
  | some data =>
    let kind ← readText data
    let statistics ← ofAttributes found
    whole (.ok ⟨record, kind, Tagged.find? found TrafficTag.options, statistics⟩)

/-- The settings that options carry. -/
def Netem.decodeBySlices (options : Option Bytes) (clock : Clock) : Sliced Netem :=
  match options with
  | none => whole (.ok empty)
  | some data => do
    let base ← whole (Record.read NetemBase data)
    let rest ← dropAt (Bytes.align (Record.size NetemBase)) data
    let found ← whole (Tagged.parse rest)
    whole (ofParts base found clock)

/-- The settings that options of a kind carry. -/
def QdiscSettings.decodeBySlices (name : String) (options : Option Bytes) (clock : Clock) :
    Sliced QdiscSettings :=
  match QdiscKind.ofName? name with
  | some .netem => do
    let settings ← Netem.decodeBySlices options clock
    whole (.ok (netem settings))
  | some kind => whole (decodeKind kind options clock)
  | none => whole (.ok (generic name options))

/-- The qdisc that the payload of a message describes. -/
def Qdisc.readBySlices (payload : Bytes) (clock : Clock) : Sliced Qdisc := do
  let report ← TrafficReport.readBySlices payload
  let settings ← QdiscSettings.decodeBySlices report.kind report.options clock
  whole (.ok ⟨report.record.place, some report.record.info, report.statistics, settings⟩)

/-- The class that the payload of a message describes. -/
def Class.readBySlices (payload : Bytes) : Sliced Class := do
  let report ← TrafficReport.readBySlices payload
  whole (Class.decode report.kind report.record.place report.statistics report.options)

theorem TrafficReport.readBySlices_eq (payload : Bytes) :
    readBySlices payload = whole (read payload) := by
  unfold readBySlices
  rw [read_bind_dropAt TrafficRecord.lawful_layout payload]
  refine bind_eq rfl fun (record, rest) => bind_eq rfl fun found => ?_
  dsimp only
  cases Tagged.find? found TrafficTag.kind with
  | none => rfl
  | some data =>
      exact bind_eq (readText_eq data) fun kind => bind_eq (ofAttributes_eq found) fun _ => rfl

theorem Netem.decodeBySlices_eq (options : Option Bytes) (clock : Clock) :
    decodeBySlices options clock = whole (decode options clock) := by
  cases options with
  | none => rfl
  | some data =>
      have aligned : Bytes.align (Record.size NetemBase) = Record.size NetemBase := rfl
      unfold decodeBySlices
      dsimp only
      rw [aligned, read_bind_dropAt NetemBase.lawful_layout data]
      exact bind_eq rfl fun (base, rest) => bind_eq rfl fun found => rfl

theorem QdiscSettings.decodeBySlices_eq (name : String) (options : Option Bytes) (clock : Clock) :
    decodeBySlices name options clock = whole (decode name options clock) := by
  unfold decodeBySlices decode
  cases QdiscKind.ofName? name with
  | none => rfl
  | some kind =>
      cases kind with
      | netem =>
          dsimp only
          rw [Netem.decodeBySlices_eq, decodeKind]
          cases Netem.decode options clock with
          | error cause => rfl
          | ok settings => rfl
      | htb | hfsc | pfifoFast | ingress => rfl

theorem Qdisc.readBySlices_eq (payload : Bytes) (clock : Clock) :
    readBySlices payload clock = whole (read payload clock) :=
  bind_eq (TrafficReport.readBySlices_eq payload) fun report =>
    bind_eq (QdiscSettings.decodeBySlices_eq report.kind report.options clock) fun _ => rfl

theorem Class.readBySlices_eq (payload : Bytes) : readBySlices payload = whole (read payload) :=
  bind_eq (TrafficReport.readBySlices_eq payload) fun _ => rfl

end TrafficShaping
