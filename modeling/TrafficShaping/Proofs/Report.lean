import TrafficShaping.Client.Dump
import TrafficShaping.Proofs.Attribute.Leaves
import TrafficShaping.Proofs.Text.Utf8

/-!
Reading what a message tells of a qdisc or a class.

`TrafficReport.Parts` names the parts of a payload, which is read when it has all of them and not
otherwise. A message that holds a kind and options and nothing else has no statistics, which are
zero then. A kind without zero bytes is read back as it is, whatever its characters, and what is
read of the qdisc or the class depends on its options only: `TrafficReport.read_attributes`.
-/

namespace TrafficShaping

/-- A text is what is spelled in front of the first zero byte. -/
theorem Payload.readText_eq_ok_iff {payload : Bytes} {text : String} :
    readText payload = .ok text ↔ payload.takeWhile (· != 0) = Text.Utf8.encode text := by
  unfold readText
  constructor
  · intro read
    split at read
    · next decoded =>
        cases read
        exact (Text.Utf8.encode_of_decode decoded).symm
    · cases read
  · intro spelled
    rw [spelled, Text.Utf8.decode_encode]

theorem Payload.readText_encode_append {text : String} (free : '\x00' ∉ text.toList)
    (more : Bytes) : readText (Text.Utf8.encode text ++ 0 :: more) = .ok text := by
  have bytes : ∀ b ∈ Text.Utf8.encode text, (b != 0) = true := fun b member =>
    bne_iff_ne.mpr (Text.Utf8.ne_zero_of_mem_encode free b member)
  refine readText_eq_ok_iff.mpr ?_
  rw [List.takeWhile_append_of_pos bytes, List.takeWhile_cons_of_neg (by decide), List.append_nil]

theorem Payload.readText_encode {text : String} (free : '\x00' ∉ text.toList) :
    readText (Text.Utf8.encode text ++ [0]) = .ok text := readText_encode_append free []

@[simp] theorem TrafficRecord.place_ofPlace (place : Placement) (info : UInt32) :
    (ofPlace place info).place = place := by
  have link : place.link.toInt32.toUInt32 = place.link := UInt32.toUInt32_toInt32 _
  unfold ofPlace TrafficRecord.place linkIndex
  rw [link]

namespace TrafficReport

section Parts

variable {payload : Bytes} {report : TrafficReport} {found : List Tagged} {kind : Bytes}

/-- The parts of a payload that tells what a report says. -/
structure Parts (payload : Bytes) (report : TrafficReport) (found : List Tagged) (kind : Bytes) :
    Prop where
  /-- The record is in front, and all behind it are attributes. -/
  payload_eq : ∃ rest, payload = Record.toBytes report.record ++ rest ∧
    Tagged.parse rest = .ok found
  /-- There is an attribute of a kind; the first one counts. -/
  kind_eq : Tagged.find? found TrafficTag.kind = some kind
  /-- It spells the name up to its first zero byte. -/
  name_eq : kind.takeWhile (· != 0) = Text.Utf8.encode report.kind
  /-- The first attribute of options holds the options. -/
  options_eq : Tagged.find? found TrafficTag.options = report.options
  statistics_eq : Statistics.ofAttributes found = .ok report.statistics

theorem exists_parts_of_read (told : read payload = .ok report) :
    ∃ found kind, Parts payload report found kind := by
  obtain ⟨⟨record, rest⟩, front, told⟩ := Outcome.bind_eq_ok.mp told
  obtain ⟨found, parsed, told⟩ := Outcome.bind_eq_ok.mp told
  split at told
  · cases told
  · next kind first =>
      obtain ⟨name, text, told⟩ := Outcome.bind_eq_ok.mp told
      obtain ⟨statistics, counted, told⟩ := Outcome.bind_eq_ok.mp told
      cases told
      have split := TrafficRecord.lawful_layout.eq_of_readFront front
      have spelled := Payload.readText_eq_ok_iff.mp text
      exact ⟨found, kind, ⟨rest, split, parsed⟩, first, spelled, rfl, counted⟩

theorem Parts.read_eq_ok (parts : Parts payload report found kind) :
    read payload = .ok report := by
  obtain ⟨rest, rfl, parsed⟩ := parts.payload_eq
  have front := TrafficRecord.lawful_layout.readFront_toBytes report.record rest
  have text := Payload.readText_eq_ok_iff.mpr parts.name_eq
  refine Outcome.bind_eq_ok.mpr ⟨_, front, Outcome.bind_eq_ok.mpr ⟨_, parsed, ?_⟩⟩
  rw [parts.kind_eq, parts.options_eq]
  exact Outcome.bind_eq_ok.mpr ⟨_, text, Outcome.bind_eq_ok.mpr ⟨_, parts.statistics_eq, rfl⟩⟩

end Parts

/-- The tags and payloads of a kind and of options, of which there may be none. -/
def entries (kind : String) (options : Option Bytes) : List (UInt16 × Option Bytes) :=
  [(TrafficTag.kind, some (Text.Utf8.encode kind ++ [0])), (TrafficTag.options, options)]

/-- The attributes of a kind and of options, of which there may be none. -/
def attributes (kind : String) (options : Option Bytes) : List Tagged :=
  Tagged.ofEntries (entries kind options)

variable {kind : String} {options : Option Bytes} {rest : Bytes}

theorem tagOf_of_mem_entries :
    ∀ tag ∈ (entries kind options).map Prod.fst, AttributeHeader.tagOf tag = tag := by
  change ∀ tag ∈ [TrafficTag.kind, TrafficTag.options], AttributeHeader.tagOf tag = tag
  exact AttributeHeader.tagOf_eq_of_all (by decide)

@[simp] theorem find?_kind (kind : String) (options : Option Bytes) :
    Tagged.find? (attributes kind options) TrafficTag.kind =
      some (Text.Utf8.encode kind ++ [0]) := by
  apply Tagged.find?_ofEntries _ (.head _)
  change [TrafficTag.kind, TrafficTag.options].Nodup
  decide

@[simp] theorem find?_options (kind : String) (options : Option Bytes) :
    Tagged.find? (attributes kind options) TrafficTag.options = options := by
  apply Tagged.find?_ofEntries _ (.tail _ (.head _))
  change [TrafficTag.kind, TrafficTag.options].Nodup
  decide

@[simp] theorem statistics_attributes (kind : String) (options : Option Bytes) :
    Statistics.ofAttributes (attributes kind options) = .ok .zero := by
  have absent : ∀ tag, tag ∉ [TrafficTag.kind, TrafficTag.options] →
      Tagged.find? (attributes kind options) tag = none := fun _ other =>
    Tagged.find?_ofEntries_eq_none other
  unfold Statistics.ofAttributes
  rw [absent Statistics.blocksTag (by decide), absent Statistics.flatTag (by decide)]

/-- A record with attributes behind it tells the kind, the options and the statistics among them. -/
theorem read_of_found (free : '\x00' ∉ kind.toList) (record : TrafficRecord) {found : List Tagged}
    {statistics : Statistics} (parsed : Tagged.parse rest = .ok found)
    (named : Tagged.find? found TrafficTag.kind = some (Text.Utf8.encode kind ++ [0]))
    (counted : Statistics.ofAttributes found = .ok statistics) :
    read (Record.toBytes record ++ rest) =
      .ok ⟨record, kind, Tagged.find? found TrafficTag.options, statistics⟩ := by
  have spelled := Payload.readText_eq_ok_iff.mp (Payload.readText_encode free)
  exact Parts.read_eq_ok ⟨⟨rest, rfl, parsed⟩, named, spelled, rfl, counted⟩

/-- A record with the attributes of a kind and of options behind it tells just those. -/
theorem read_attributes (free : '\x00' ∉ kind.toList) (record : TrafficRecord)
    (parsed : Tagged.parse rest = .ok (attributes kind options)) :
    read (Record.toBytes record ++ rest) = .ok ⟨record, kind, options, .zero⟩ := by
  have whole := read_of_found free record parsed (find?_kind kind options)
    (statistics_attributes kind options)
  rwa [find?_options] at whole

/-- The record that is told is the one in front. -/
theorem record_of_read {record : TrafficRecord} {report : TrafficReport}
    (told : read (Record.toBytes record ++ rest) = .ok report) : report.record = record := by
  obtain ⟨found, kind, parts⟩ := exists_parts_of_read told
  obtain ⟨behind, split, _⟩ := parts.payload_eq
  have front := TrafficRecord.lawful_layout.readFront_toBytes record rest
  rw [split, TrafficRecord.lawful_layout.readFront_toBytes] at front
  cases front
  rfl

end TrafficReport

variable {kind : String} {options : Option Bytes} {rest : Bytes}

theorem Qdisc.read_attributes (free : '\x00' ∉ kind.toList) (place : Placement) (info : UInt32)
    (parsed : Tagged.parse rest = .ok (TrafficReport.attributes kind options)) (clock : Clock) :
    Qdisc.read (Record.toBytes (TrafficRecord.ofPlace place info) ++ rest) clock =
      Qdisc.decode kind place (some info) .zero options clock := by
  unfold Qdisc.read
  rw [TrafficReport.read_attributes free _ parsed]
  change Qdisc.decode kind (TrafficRecord.ofPlace place info).place (some info) .zero options clock
    = _
  rw [TrafficRecord.place_ofPlace]

theorem Class.read_attributes (free : '\x00' ∉ kind.toList) (place : Placement) (info : UInt32)
    (parsed : Tagged.parse rest = .ok (TrafficReport.attributes kind options)) :
    Class.read (Record.toBytes (TrafficRecord.ofPlace place info) ++ rest) =
      Class.decode kind place .zero options := by
  unfold Class.read
  rw [TrafficReport.read_attributes free _ parsed]
  change Class.decode kind (TrafficRecord.ofPlace place info).place .zero options = _
  rw [TrafficRecord.place_ofPlace]

end TrafficShaping
