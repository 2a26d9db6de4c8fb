import TrafficShaping.Proofs.Attribute.Grammar
import TrafficShaping.Proofs.ClassOptions
import TrafficShaping.Proofs.QdiscOptions
import TrafficShaping.Proofs.Report
import TrafficShaping.Proofs.Slices
import TrafficShaping.Proofs.WireFault

/-!
Reading messages of which nothing is known.

The payload of a message may be any byte string. Reading it as a qdisc or a class takes no slice
that reaches too far (`Proofs/Slices.lean`) and fails by malformed bytes only
(`Proofs/WireFault.lean`). The qdisc or the class has the place of the record in front and the name
that the first attribute of a kind spells, as `TrafficReport.Parts` takes them from the payload.
Options are looked into only under the name of a known kind, so that under any other name nothing is
left that could fail.
-/

namespace TrafficShaping

/-! ## Qdiscs -/

namespace Qdisc

/-- What reading a payload as a qdisc never does, and what it keeps. -/
structure ReadSafely (payload : Bytes) (clock : Clock) : Prop where
  /-- No slice reaches too far. -/
  in_bounds : readBySlices payload clock = some (read payload clock)
  faults : OnlyWireFaults (read payload clock)
  /-- A qdisc has the kind, the place, the references and the statistics that the payload tells. One
  of another kind than those that are known keeps its options. -/
  identity : ∀ {qdisc}, read payload clock = .ok qdisc → ∃ report found kind,
    TrafficReport.Parts payload report found kind ∧ qdisc.kindName = report.kind ∧
    qdisc.place = ⟨report.record.linkIndex, report.record.handle, report.record.parent⟩ ∧
    qdisc.references = some report.record.info ∧ qdisc.statistics = report.statistics ∧
    (QdiscKind.ofName? report.kind = none →
      qdisc.settings = .generic report.kind report.options)
  /-- A payload with all its parts is read when the kind is not known. -/
  unknown : ∀ {report found kind}, TrafficReport.Parts payload report found kind →
    QdiscKind.ofName? report.kind = none → ∃ qdisc, read payload clock = .ok qdisc

theorem readSafely (payload : Bytes) (clock : Clock) : ReadSafely payload clock where
  in_bounds := readBySlices_eq payload clock
  faults := onlyWireFaults_read payload clock
  identity := by
    intro qdisc read
    obtain ⟨report, told, read⟩ := Outcome.bind_eq_ok.mp read
    obtain ⟨settings, decoded, read⟩ := Outcome.bind_eq_ok.mp read
    cases read
    obtain ⟨found, kind, parts⟩ := TrafficReport.exists_parts_of_read told
    have named : settings.kindName = report.kind := QdiscSettings.kindName_of_decode decoded
    refine ⟨report, found, kind, parts, named, rfl, rfl, rfl, fun unknown => ?_⟩
    cases decoded.symm.trans (QdiscSettings.decode_of_unknown unknown report.options clock)
    rfl
  unknown := by
    intro report found kind parts unknown
    have settings := QdiscSettings.decode_of_unknown unknown report.options clock
    exact ⟨_, Outcome.bind_eq_ok.mpr ⟨_, parts.read_eq_ok,
      Outcome.bind_eq_ok.mpr ⟨_, settings, rfl⟩⟩⟩

end Qdisc

/-! ## Classes -/

namespace Class

/-- What reading a payload as a class never does, and what it keeps. -/
structure ReadSafely (payload : Bytes) : Prop where
  /-- No slice reaches too far. -/
  in_bounds : readBySlices payload = some (read payload)
  faults : OnlyWireFaults (read payload)
  /-- A class has the kind, the place and the statistics that the payload tells. One of another kind
  than those that are known keeps its options. -/
  identity : ∀ {tclass}, read payload = .ok tclass → ∃ report found kind,
    TrafficReport.Parts payload report found kind ∧ tclass.kindName = report.kind ∧
    tclass.place = ⟨report.record.linkIndex, report.record.handle, report.record.parent⟩ ∧
    tclass.statistics = report.statistics ∧
    (ClassKind.ofName? report.kind = none →
      tclass.settings = .generic report.kind report.options)
  /-- A payload with all its parts is read when the kind is not known. -/
  unknown : ∀ {report found kind}, TrafficReport.Parts payload report found kind →
    ClassKind.ofName? report.kind = none → ∃ tclass, read payload = .ok tclass

theorem readSafely (payload : Bytes) : ReadSafely payload where
  in_bounds := readBySlices_eq payload
  faults := onlyWireFaults_read payload
  identity := by
    intro tclass read
    obtain ⟨report, told, read⟩ := Outcome.bind_eq_ok.mp read
    obtain ⟨settings, decoded, read⟩ := Outcome.bind_eq_ok.mp read
    cases read
    obtain ⟨found, kind, parts⟩ := TrafficReport.exists_parts_of_read told
    have named : settings.kindName = report.kind := ClassSettings.kindName_of_decode decoded
    refine ⟨report, found, kind, parts, named, rfl, rfl, fun unknown => ?_⟩
    cases decoded.symm.trans (ClassSettings.decode_of_unknown unknown)
    rfl
  unknown := by
    intro report found kind parts unknown
    have settings := @ClassSettings.decode_of_unknown _ report.options unknown
    exact ⟨_, Outcome.bind_eq_ok.mpr ⟨_, parts.read_eq_ok,
      Outcome.bind_eq_ok.mpr ⟨_, settings, rfl⟩⟩⟩

end Class

/-! ## Any payload -/

namespace TrafficReport

/-- Whatever the payload of a message and whatever the clock, a qdisc and a class are read from it
safely. -/
theorem reads_safely (payload : Bytes) (clock : Clock) :
    Qdisc.ReadSafely payload clock ∧ Class.ReadSafely payload :=
  ⟨Qdisc.readSafely payload clock, Class.readSafely payload⟩

/-- A record with two attributes behind it: a kind that ends before other bytes, and options of five
bytes without their filling. -/
def multiqueue : Bytes :=
  Record.toBytes (⟨0, 0, 0, 3, ⟨0x80010000⟩, .root, 2⟩ : TrafficRecord)
    ++ [8, 0, 1, 0, 109, 113, 0, 33, 9, 0, 2, 0, 1, 2, 3, 4, 5]

theorem reads_safely_multiqueue :
    ∃ qdisc tclass,
      Qdisc.read multiqueue .highResolution = .ok qdisc ∧
      Class.read multiqueue = .ok tclass ∧
      qdisc.settings = .generic "mq" (some [1, 2, 3, 4, 5]) ∧
      qdisc.place = ⟨3, .ofParts 0x8001 0, .root⟩ ∧ qdisc.references = some 2 ∧
      tclass.settings = .generic "mq" (some [1, 2, 3, 4, 5]) := by
  have spelled : Tagged.Spells [8, 0, 1, 0, 109, 113, 0, 33, 9, 0, 2, 0, 1, 2, 3, 4, 5]
      [⟨1, [109, 113, 0, 33]⟩, ⟨2, [1, 2, 3, 4, 5]⟩] :=
    @Tagged.Spells.cons ⟨8, 1⟩ [109, 113, 0, 33] [] _ _ rfl rfl
      (@Tagged.Spells.last ⟨9, 2⟩ [1, 2, 3, 4, 5] [] rfl (Nat.zero_le _))
  have parts : Parts multiqueue
      ⟨⟨0, 0, 0, 3, ⟨0x80010000⟩, .root, 2⟩, "mq", some [1, 2, 3, 4, 5], .zero⟩
      [⟨1, [109, 113, 0, 33]⟩, ⟨2, [1, 2, 3, 4, 5]⟩] [109, 113, 0, 33] :=
    ⟨⟨_, rfl, Tagged.parse_eq_ok_iff.mpr spelled⟩, by decide, by decide, by decide, rfl⟩
  obtain ⟨safe, safe'⟩ := reads_safely multiqueue .highResolution
  have unknown : QdiscKind.ofName? "mq" = none := by decide
  have unknown' : ClassKind.ofName? "mq" = none := by decide
  obtain ⟨qdisc, read⟩ := safe.unknown parts unknown
  obtain ⟨tclass, read'⟩ := safe'.unknown parts unknown'
  obtain ⟨_, _, _, told, _, place, references, _, generic⟩ := safe.identity read
  obtain ⟨_, _, _, told', _, _, _, generic'⟩ := safe'.identity read'
  cases told.read_eq_ok.symm.trans parts.read_eq_ok
  cases told'.read_eq_ok.symm.trans parts.read_eq_ok
  exact ⟨qdisc, tclass, read, read', generic unknown, place, references, generic' unknown'⟩

end TrafficReport

end TrafficShaping
