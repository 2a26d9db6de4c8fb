import TrafficShaping.Kernel.Report
import TrafficShaping.Proofs.Attribute.RoundTrip
import TrafficShaping.Proofs.Report

/-!
What the kernel reports, as the client reads it.

The report on an entry has the kind, the options and two forms of statistics. Whoever can read it
learns the place, the kind and the options of the entry, and that nothing was counted:
`TrafficReport.read_report`.
-/

namespace TrafficShaping

/-- Trees without flags are found as the records that have their tags and payloads. -/
theorem Attribute.eq_of_foundAs {trees : List Attribute} {found records : List Tagged}
    (matched : List.Forall₂ FoundAs trees found)
    (known : List.Forall₂ (fun tree record => tree.type = record.tag ∧
      tree.payload = .ok record.payload) trees records)
    (plain : ∀ record ∈ records, AttributeHeader.tagOf record.tag = record.tag) :
    found = records := by
  induction matched generalizing records with
  | nil =>
      cases known
      rfl
  | @cons tree first trees found firstMatched _ ih =>
      cases known with
      | @cons _ record _ records firstKnown laterKnown =>
          have tag : first.tag = record.tag := by
            rw [firstMatched.1, firstKnown.1, plain record List.mem_cons_self]
          have payload : first.payload = record.payload :=
            Except.ok.inj (firstMatched.2.symm.trans firstKnown.2)
          have same : first = record := by
            cases first
            cases record
            cases tag
            cases payload
            rfl
          rw [same, ih laterKnown fun later member => plain later (List.mem_cons_of_mem _ member)]

namespace Entry

/-- The blocks of statistics, in which nothing was counted. -/
def blocks : List Tagged :=
  [⟨Statistics.Block.traffic, Bytes.zeros 16⟩, ⟨Statistics.Block.queue, Bytes.zeros 20⟩]

/-- The tags and payloads of what the kernel tells of an entry. -/
def records (entry : Entry) : List (UInt16 × Option Bytes) :=
  [(TrafficTag.kind, some (Text.Utf8.encode entry.kind ++ [0])),
    (TrafficTag.options, entry.options),
    (Statistics.flatTag, some (Bytes.zeros 40)),
    (Statistics.blocksTag, some (blocks.flatMap Tagged.toBytes))]

theorem isWritable_blocks : ∀ block ∈ blocks, block.IsWritable := by
  intro block member
  rcases List.mem_cons.mp member with rfl | last
  · exact ⟨by decide, by decide⟩
  · rw [List.mem_singleton.mp last]
    exact ⟨by decide, by decide⟩

theorem tagOf_of_mem_records (entry : Entry) :
    ∀ tag ∈ entry.records.map Prod.fst, AttributeHeader.tagOf tag = tag := by
  change ∀ tag ∈ [TrafficTag.kind, TrafficTag.options, Statistics.flatTag, Statistics.blocksTag],
    AttributeHeader.tagOf tag = tag
  exact AttributeHeader.tagOf_eq_of_all (by decide)

theorem parse_attributes {entry : Entry} {data : Bytes}
    (written : Attribute.writeAll entry.attributes = .ok data) :
    Tagged.parse data = .ok (Tagged.ofEntries entry.records) := by
  obtain ⟨found, parsed, matched⟩ := Attribute.exists_parseFrom_of_writeAll written 0
  have below : Attribute.writeAll (blocks.map Tagged.toLeaf) = .ok (blocks.flatMap Tagged.toBytes) :=
    Tagged.writeAll_toLeaf isWritable_blocks
  have plain := Tagged.tagOf_of_mem_ofEntries entry.tagOf_of_mem_records
  rw [Tagged.parse, parsed]
  refine congrArg Except.ok (Attribute.eq_of_foundAs matched ?_ plain)
  rcases entry with ⟨place, kind, none | options⟩
  · exact .cons ⟨rfl, rfl⟩ (.cons ⟨rfl, rfl⟩ (.cons ⟨rfl, below⟩ .nil))
  · exact .cons ⟨rfl, rfl⟩ (.cons ⟨rfl, rfl⟩ (.cons ⟨rfl, rfl⟩ (.cons ⟨rfl, below⟩ .nil)))

theorem find?_records {entry : Entry} {tag : UInt16} {payload : Option Bytes}
    (member : (tag, payload) ∈ entry.records) :
    Tagged.find? (Tagged.ofEntries entry.records) tag = payload := by
  refine Tagged.find?_ofEntries ?_ member
  change [TrafficTag.kind, TrafficTag.options, Statistics.flatTag, Statistics.blocksTag].Nodup
  decide

theorem statistics_records (entry : Entry) :
    Statistics.ofAttributes (Tagged.ofEntries entry.records) = .ok .zero := by
  have found : Tagged.find? (Tagged.ofEntries entry.records) Statistics.blocksTag =
      some (blocks.flatMap Tagged.toBytes) :=
    find?_records (.tail _ (.tail _ (.tail _ (.head _))))
  have parsed : Tagged.parse (blocks.flatMap Tagged.toBytes) = .ok blocks :=
    Tagged.parseFrom_flatMap_toBytes isWritable_blocks 0
  unfold Statistics.ofAttributes
  rw [found]
  refine Outcome.bind_eq_ok.mpr ⟨blocks, parsed, Outcome.bind_eq_ok.mpr ⟨⟨.zero, none⟩, ?_, rfl⟩⟩
  rfl

end Entry

namespace TrafficReport

variable {entry : Entry} {parent : Handle} {info : UInt32} {report : TrafficReport}

/-- A report without attributes cannot be read, so what is read has been written. -/
theorem exists_written_of_read (told : read (entry.report parent info) = .ok report) :
    ∃ data, Attribute.writeAll entry.attributes = .ok data := by
  cases written : Attribute.writeAll entry.attributes with
  | ok data => exact ⟨data, rfl⟩
  | error error =>
      unfold Entry.report read at told
      rw [written, TrafficRecord.lawful_layout.readFront_toBytes] at told
      obtain ⟨_, front, told⟩ := Outcome.bind_eq_ok.mp told
      cases front
      obtain ⟨found, parsed, told⟩ := Outcome.bind_eq_ok.mp told
      have nothing : found = [] := Except.ok.inj (parsed.symm.trans (Tagged.parseFrom_nil 0))
      rw [nothing] at told
      cases told

/-- A report that has been written tells what the kernel holds, if the kind is one text. -/
theorem read_report (free : '\x00' ∉ entry.kind.toList) {data : Bytes}
    (written : Attribute.writeAll entry.attributes = .ok data) (parent : Handle) (info : UInt32) :
    read (entry.report parent info) =
      .ok ⟨TrafficRecord.ofPlace { entry.place with parent } info, entry.kind, entry.options,
        .zero⟩ := by
  have whole := read_of_found free (TrafficRecord.ofPlace { entry.place with parent } info)
    (Entry.parse_attributes written) (Entry.find?_records (.head _))
    entry.statistics_records
  rw [Entry.find?_records (.tail _ (.head _))] at whole
  unfold Entry.report
  rw [written]
  exact whole

end TrafficReport

namespace Qdisc

variable {entry : Entry} {parent : Handle} {info : UInt32} {clock : Clock} {qdisc : Qdisc}

theorem place_of_read_report (told : read (entry.report parent info) clock = .ok qdisc) :
    qdisc.place = { entry.place with parent } := by
  obtain ⟨report, told, decoded⟩ := Outcome.bind_eq_ok.mp told
  have record := TrafficReport.record_of_read told
  obtain ⟨settings, _, decoded⟩ := Outcome.bind_eq_ok.mp decoded
  cases decoded
  dsimp only
  rw [record, TrafficRecord.place_ofPlace]

theorem read_report (free : '\x00' ∉ entry.kind.toList) {data : Bytes}
    (written : Attribute.writeAll entry.attributes = .ok data) (parent : Handle) (info : UInt32)
    (clock : Clock) :
    read (entry.report parent info) clock =
      decode entry.kind { entry.place with parent } (some info) .zero entry.options clock := by
  unfold read
  rw [TrafficReport.read_report free written]
  change decode entry.kind (TrafficRecord.ofPlace { entry.place with parent } info).place
    (some info) .zero entry.options clock = _
  rw [TrafficRecord.place_ofPlace]

theorem decode_of_read_report (free : '\x00' ∉ entry.kind.toList)
    (told : read (entry.report parent info) clock = .ok qdisc) :
    decode entry.kind { entry.place with parent } (some info) .zero entry.options clock =
      .ok qdisc := by
  obtain ⟨report, reported, _⟩ := Outcome.bind_eq_ok.mp told
  obtain ⟨data, written⟩ := TrafficReport.exists_written_of_read reported
  rw [← read_report free written]
  exact told

end Qdisc

namespace Class

variable {entry : Entry} {parent : Handle} {info : UInt32} {tclass : Class}

theorem place_of_read_report (told : read (entry.report parent info) = .ok tclass) :
    tclass.place = { entry.place with parent } := by
  obtain ⟨report, told, decoded⟩ := Outcome.bind_eq_ok.mp told
  have record := TrafficReport.record_of_read told
  obtain ⟨settings, _, decoded⟩ := Outcome.bind_eq_ok.mp decoded
  cases decoded
  dsimp only
  rw [record, TrafficRecord.place_ofPlace]

theorem read_report (free : '\x00' ∉ entry.kind.toList) {data : Bytes}
    (written : Attribute.writeAll entry.attributes = .ok data) (parent : Handle)
    (info : UInt32) :
    read (entry.report parent info) =
      decode entry.kind { entry.place with parent } .zero entry.options := by
  unfold read
  rw [TrafficReport.read_report free written]
  change decode entry.kind (TrafficRecord.ofPlace { entry.place with parent } info).place
    .zero entry.options = _
  rw [TrafficRecord.place_ofPlace]

theorem decode_of_read_report (free : '\x00' ∉ entry.kind.toList)
    (told : read (entry.report parent info) = .ok tclass) :
    decode entry.kind { entry.place with parent } .zero entry.options = .ok tclass := by
  obtain ⟨report, reported, _⟩ := Outcome.bind_eq_ok.mp told
  obtain ⟨data, written⟩ := TrafficReport.exists_written_of_read reported
  rw [← read_report free written]
  exact told

end Class

end TrafficShaping
