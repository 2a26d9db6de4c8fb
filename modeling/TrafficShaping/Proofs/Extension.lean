import TrafficShaping.Kind.Htb
import TrafficShaping.Proofs.Attribute.Extension
import TrafficShaping.Proofs.Kind.Hfsc
import TrafficShaping.Proofs.Kind.Netem
import TrafficShaping.Proofs.Statistics.Blocks

/-!
Options and statistics of later formats.

Each reader of attributes looks for some tags and reads payloads from the front, so that it reads
the same when a sequence is extended (`Attribute.Extends`). The readers come in two styles: those of
HTB qdiscs, HFSC classes and statistics go over the records one by one, of which the last of a tag
counts; those of HTB classes and emulators look tags up, of which the first counts. `Format` names
the readers, and `Format.exists_decode_of_extends` is what they have in common.
-/

namespace TrafficShaping

open Attribute

/-! ## Over the records one by one -/

namespace HtbQdisc

/-- The tags that are looked for. -/
def names : List UInt16 := [HtbTag.globals, HtbTag.directQueueLength]

theorem tolerantStep_apply : TolerantStep names apply where
  unnamed := by
    intro record qdisc unnamed
    obtain ⟨globals, length⟩ := List.ne_and_not_mem_of_not_mem_cons unnamed
    unfold apply
    rw [if_neg globals, if_neg (List.ne_of_not_mem_cons length)]
  front := by
    intro qdisc tag
    have globals := ReadsFront.ofRecord HtbGlobals.lawful_layout
    have length := ReadsFront.ofLayout Layout.lawful_uint32 "u32 attribute"
    unfold apply
    dsimp only
    exact (globals.map _).ite ((length.map _).ite (.const _))

end HtbQdisc

namespace HfscClass

/-- The tags that are looked for. -/
def names : List UInt16 := [CurveRole.realTime, .linkShare, .upperLimit].map CurveRole.tag

theorem tolerantStep_apply : TolerantStep names apply where
  unnamed := by
    intro record hclass unnamed
    have other : CurveRole.ofTag? record.tag = none := by
      refine List.find?_eq_none.mpr fun role among same => unnamed ?_
      exact List.mem_map.mpr ⟨role, among, eq_of_beq same⟩
    unfold apply
    rw [other]
  front := by
    intro hclass tag
    unfold apply
    dsimp only
    cases CurveRole.ofTag? tag with
    | none => exact .const _
    | some role => exact (ReadsFront.ofRecord ServiceCurve.lawful_layout).map _

end HfscClass

namespace Statistics

/-- The tags of the blocks that are looked for. -/
def Block.names : List UInt16 :=
  [Block.traffic, Block.rate, Block.queue, Block.rate64, Block.hardware, Block.packets64]

theorem Block.readsFront_read (tag : UInt16) :
    ReadsFront fun payload => Block.read ⟨tag, payload⟩ := by
  have traffic : ReadsFront readTraffic := (ReadsFront.ofLayout lawful_trafficLayout _).map _
  have packets64 := ReadsFront.ofLayout Layout.lawful_uint64 "u64 attribute"
  have queue := ReadsFront.ofLayout lawful_queueLayout "gnet_stats_queue"
  have narrow := ReadsFront.ofLayout lawful_rateLayout "gnet_stats_rate_est"
  have wide := ReadsFront.ofLayout lawful_rate64Layout "gnet_stats_rate_est64"
  have rate : ReadsFront fun payload => Block.readRate ⟨tag, payload⟩ := by
    unfold Block.readRate
    dsimp only
    exact wide.ite (narrow.map _)
  -- `Block.readRate` looks at the tag again, so that it cannot be one more branch below.
  by_cases isRate : Block.isRate tag = true
  · have eq (payload : Bytes) : Block.read ⟨tag, payload⟩ =
        (Block.readRate ⟨tag, payload⟩).map ({ rate := some · }) := Block.read_of_isRate isRate
    simp only [eq]
    exact rate.map _
  · unfold Block.read
    simp only [if_neg isRate]
    exact (traffic.map _).ite ((traffic.map _).ite ((packets64.map _).ite
      ((queue.map _).ite (.const _))))

theorem Block.read_of_unnamed {block : Tagged} (unnamed : block.tag ∉ Block.names) :
    Block.read block = .ok {} := by
  simp only [Block.names, List.mem_cons, List.not_mem_nil, or_false, not_or] at unnamed
  obtain ⟨traffic, rate, queue, rate64, hardware, packets64⟩ := unnamed
  have noRate : ¬ Block.isRate block.tag = true := by
    simp only [Block.isRate, Bool.or_eq_true, beq_iff_eq, rate, rate64, or_self,
      not_false_eq_true]
  unfold Block.read
  rw [if_neg traffic, if_neg hardware, if_neg packets64, if_neg queue, if_neg noRate]

theorem tolerantStep_add : TolerantStep Block.names Reading.add where
  unnamed := by
    intro block reading unnamed
    rw [Reading.add_eq, Block.read_of_unnamed unnamed]
    cases reading
    rfl
  front := by
    intro reading tag
    have eq : (fun payload => reading.add ⟨tag, payload⟩) =
        fun payload => (Block.read ⟨tag, payload⟩).map reading.take :=
      funext fun _ => Reading.add_eq _ _
    rw [eq]
    exact (Block.readsFront_read tag).map _

/-- The statistics that blocks tell one after the other. -/
theorem tolerant_result :
    Tolerant Block.names fun blocks =>
      blocks.foldlM Reading.add ⟨zero, none⟩ >>= fun reading => .ok reading.result :=
  (tolerantStep_add.tolerant_foldlM ⟨zero, none⟩).bind fun _ => tolerant_const _

end Statistics

/-! ## By looking tags up -/

namespace HtbClass

/-- The tags that are looked for. -/
def names : List UInt16 := [HtbTag.parameters, HtbTag.rate64, HtbTag.ceiling64]

theorem tolerant_readRate {tag : UInt16} (named : tag ∈ names) (low : UInt32) :
    Tolerant names (readRate · tag low) :=
  tolerant_lookup named (fun _ => ReadsFront.ofLayout Layout.lawful_uint64 _)
    (fun _ => tolerant_const _) (tolerant_const _)

/-- The parameters among attributes, of which the first of each sort counts. -/
def ofTagged (found : List Tagged) : Except Error HtbClass :=
  match Tagged.find? found HtbTag.parameters with
  | some payload => do
    let parameters ← Record.read HtbParameters payload
    let rate ← readRate found HtbTag.rate64 parameters.rate.rate
    let ceiling ← readRate found HtbTag.ceiling64 parameters.ceiling.rate
    .ok
      { rate, ceiling
        buffer := parameters.buffer
        ceilingBuffer := parameters.ceilingBuffer
        quantum := parameters.quantum
        level := parameters.level
        priority := parameters.priority }
  | none => .error (.wireFormat .missingHtbParameters)

theorem decode_eq (data : Bytes) : decode (some data) = Tagged.parse data >>= ofTagged := by
  refine bind_congr fun found => ?_
  unfold ofTagged
  cases Tagged.find? found HtbTag.parameters <;> rfl

theorem tolerant_ofTagged : Tolerant names ofTagged := by
  refine tolerant_lookup (by decide) (fun _ => ?_) (fun payload => ?_) (tolerant_const _)
  · exact (ReadsFront.ofRecord HtbParameters.lawful_layout).bind _
  · refine (tolerant_const (Record.read HtbParameters payload)).bind fun parameters => ?_
    refine (tolerant_readRate (by decide) parameters.rate.rate).bind fun rate => ?_
    exact (tolerant_readRate (by decide) parameters.ceiling.rate).bind fun _ => tolerant_const _

end HtbClass

namespace Netem

/-- The tags that are looked for. -/
def names : List UInt16 :=
  [NetemTag.correlation, NetemTag.reorder, NetemTag.corrupt, NetemTag.rate, NetemTag.rate64]

theorem tolerant_applyFirst {tag : UInt16} (named : tag ∈ names)
    {apply : Netem → Bytes → Except Error Netem} (front : ∀ netem, ReadsFront (apply netem))
    (netem : Netem) : Tolerant names (applyFirst · tag apply netem) :=
  tolerant_lookup named (fun _ => front netem) (fun _ => tolerant_const _) (tolerant_const _)

theorem tolerant_ofParts (base : NetemBase) (clock : Clock) :
    Tolerant names (ofParts base · clock) := by
  have correlation := ReadsFront.ofRecord NetemCorrelation.lawful_layout
  have reorder := ReadsFront.ofRecord NetemReorder.lawful_layout
  have corrupt := ReadsFront.ofRecord NetemCorrupt.lawful_layout
  have rate := ReadsFront.ofRecord NetemRate.lawful_layout
  have rate64 := ReadsFront.ofLayout Layout.lawful_uint64 "u64 attribute"
  refine (tolerant_applyFirst (by decide) (fun _ => correlation.map _) _).bind fun _ => ?_
  refine (tolerant_applyFirst (by decide) (fun _ => reorder.map _) _).bind fun _ => ?_
  refine (tolerant_applyFirst (by decide) (fun _ => corrupt.map _) _).bind fun _ => ?_
  refine (tolerant_applyFirst (by decide) (fun _ => rate.map _) _).bind fun _ => ?_
  exact tolerant_applyFirst (by decide) (fun _ => rate64.map _) _

end Netem

/-! ## The formats -/

/-- The formats whose attributes may be extended. -/
inductive Format where
  | htbQdisc
  | htbClass
  | hfscClass
  /-- The attributes behind the fixed record of an emulator. -/
  | netem (base : NetemBase) (clock : Clock)
  | statistics

namespace Format

/-- What the attributes carry. -/
def Value : Format → Type
  | .htbQdisc => HtbQdisc
  | .htbClass => HtbClass
  | .hfscClass => HfscClass
  | .netem _ _ => Netem
  | .statistics => Statistics

/-- The tags that are looked for. -/
def names : Format → List UInt16
  | .htbQdisc => HtbQdisc.names
  | .htbClass => HtbClass.names
  | .hfscClass => HfscClass.names
  | .netem _ _ => Netem.names
  | .statistics => Statistics.Block.names

/-- What the attributes in a byte string carry. -/
def decode : (format : Format) → Bytes → Except Error format.Value
  | .htbQdisc, data => HtbQdisc.decode (some data)
  | .htbClass, data => HtbClass.decode (some data)
  | .hfscClass, data => HfscClass.decode (some data)
  | .netem base clock, data => Netem.decode (some (Record.toBytes base ++ data)) clock
  | .statistics, data => Statistics.ofBlocks data

/-- A format is read from the records in it, and more in it changes nothing. -/
theorem exists_tolerant (format : Format) :
    ∃ read : List Tagged → Except Error format.Value,
      Tolerant format.names read ∧ ∀ data, format.decode data = Tagged.parse data >>= read := by
  cases format with
  | htbQdisc =>
      exact ⟨_, HtbQdisc.tolerantStep_apply.tolerant_foldlM HtbQdisc.standard, fun _ => rfl⟩
  | htbClass => exact ⟨_, HtbClass.tolerant_ofTagged, HtbClass.decode_eq⟩
  | hfscClass =>
      exact ⟨_, HfscClass.tolerantStep_apply.tolerant_foldlM HfscClass.empty, fun _ => rfl⟩
  | netem base clock =>
      exact ⟨_, Netem.tolerant_ofParts base clock, Netem.decode_toBytes_append base clock⟩
  | statistics => exact ⟨_, Statistics.tolerant_result, fun _ => rfl⟩

/-- A sequence that is accepted may be extended by attributes of unknown tags, longer payloads and
flags, as long as all of it can be written: it is accepted again and carries the same. -/
theorem exists_decode_of_extends (format : Format) {trees others : List Attribute} {data : Bytes}
    {value : format.Value} (written : Attribute.writeAll trees = .ok data)
    (decoded : format.decode data = .ok value) (extended : Extends format.names trees others)
    (fits : ∀ other ∈ others, other.payloadLength ≤ maxAttributePayload) :
    ∃ longer, Attribute.writeAll others = .ok longer ∧ format.decode longer = .ok value := by
  obtain ⟨read, tolerant, eq⟩ := format.exists_tolerant
  rw [eq, parse_writeAll_eq written] at decoded
  obtain ⟨longer, writtenLonger, known⟩ := tolerant.exists_writeAll extended fits decoded
  exact ⟨longer, writtenLonger, (eq longer).trans known⟩

/-- The parameters of a class whose rate does not fit 32 bits. -/
def fastParameters : HtbParameters where
  rate := .ofRate 4294967295
  ceiling := .ofRate 1000
  buffer := 11
  ceilingBuffer := 12
  quantum := 13
  level := 0
  priority := 2

/-- The attributes of that class. -/
def fastClass : List Attribute :=
  [.ofRecord HtbTag.parameters fastParameters, .ofUInt64 HtbTag.rate64 5000000000]

/-- The attributes of that class with new ones between, flags at the old ones and more bytes behind
their payloads. -/
def laterFastClass : List Attribute :=
  [.nested 0x8009 [.ofUInt32 1 7],
    .leaf (HtbTag.parameters ||| 0x8000) (Record.toBytes fastParameters ++ [1, 2, 3]),
    .leaf 200 [],
    .leaf (HtbTag.rate64 ||| 0x4000) (Layout.uint64.write 5000000000 ++ [4])]

theorem exists_decode_of_extends_fastClass :
    ∃ data longer, Attribute.writeAll fastClass = .ok data ∧
      Attribute.writeAll laterFastClass = .ok longer ∧
      HtbClass.decode (some data) = .ok ⟨5000000000, 1000, 11, 12, 13, 0, 2⟩ ∧
      HtbClass.decode (some longer) = .ok ⟨5000000000, 1000, 11, 12, 13, 0, 2⟩ := by
  obtain ⟨data, written⟩ : ∃ data, Attribute.writeAll fastClass = .ok data := ⟨_, rfl⟩
  have decoded : htbClass.decode data = .ok ⟨5000000000, 1000, 11, 12, 13, 0, 2⟩ := by
    refine (HtbClass.decode_eq data).trans ?_
    rw [parse_writeAll_eq written]
    rfl
  have extended : Extends htbClass.names fastClass laterFastClass :=
    .insert (by decide) (.keep (.leaf rfl _ _ _)
      (.insert (by decide) (.keep (.leaf rfl _ _ _) .nil)))
  obtain ⟨longer, writtenLonger, again⟩ :=
    htbClass.exists_decode_of_extends written decoded extended (by decide)
  exact ⟨data, longer, written, writtenLonger, decoded, again⟩

end Format

end TrafficShaping
