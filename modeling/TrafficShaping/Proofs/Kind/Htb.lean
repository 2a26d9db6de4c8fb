import TrafficShaping.Kind.Htb
import TrafficShaping.Proofs.Attribute.Leaves
import TrafficShaping.Proofs.Kind.Rate

/-!
The options of HTB qdiscs and classes carry all parameters.

`HtbQdisc.exists_encode` and `HtbClass.exists_encode` say that the options can always be written and
that reading them gives the same parameters. For a class this rests on `HtbClass.readRate_of_find?`:
the reader decides by the attribute of 64 bits as the writer decided by the rate.
-/

namespace TrafficShaping

/-! ## Qdisc -/

namespace HtbQdisc

/-- The tags and payloads of the options of a qdisc. -/
def entries (qdisc : HtbQdisc) : List (UInt16 × Option Bytes) :=
  [(HtbTag.globals, some (Record.toBytes qdisc.globals)),
    (HtbTag.directQueueLength, qdisc.directQueueLength.map Layout.uint32.write)]

theorem encode_eq (qdisc : HtbQdisc) :
    qdisc.encode = Attribute.writeAll ((Tagged.ofEntries qdisc.entries).map Tagged.toLeaf) := by
  unfold encode entries
  cases qdisc.directQueueLength <;> rfl

theorem tagOf_of_mem_entries (qdisc : HtbQdisc) :
    ∀ tag ∈ qdisc.entries.map Prod.fst, AttributeHeader.tagOf tag = tag := by
  change ∀ tag ∈ [HtbTag.globals, HtbTag.directQueueLength], AttributeHeader.tagOf tag = tag
  exact AttributeHeader.tagOf_eq_of_all (by decide)

theorem length_le_of_mem_entries (qdisc : HtbQdisc) :
    ∀ entry ∈ qdisc.entries, ∀ data ∈ entry.2, data.length ≤ maxAttributePayload := by
  unfold entries
  simp only [List.forall_mem_cons]
  refine ⟨?_, ?_, fun _ member => nomatch member⟩
  · rintro data ⟨⟩
    rw [HtbGlobals.lawful_layout.length_toBytes]
    decide
  · intro data there
    obtain ⟨length, _, rfl⟩ := Option.map_eq_some_iff.mp there
    rw [Layout.lawful_uint32.length_write]
    decide

theorem apply_globals (qdisc : HtbQdisc) (globals : HtbGlobals) :
    qdisc.apply ⟨HtbTag.globals, Record.toBytes globals⟩ = .ok { qdisc with globals } := by
  unfold apply
  rw [if_pos rfl, HtbGlobals.lawful_layout.read_toBytes]
  rfl

theorem apply_directQueueLength (qdisc : HtbQdisc) (length : UInt32) :
    qdisc.apply ⟨HtbTag.directQueueLength, Layout.uint32.write length⟩ =
      .ok { qdisc with directQueueLength := some length } := by
  have other : HtbTag.directQueueLength ≠ HtbTag.globals := by decide
  unfold apply Payload.readUInt32
  rw [if_neg other, if_pos rfl, Layout.lawful_uint32.readAs_write]
  rfl

theorem foldlM_apply_entries (qdisc : HtbQdisc) :
    (Tagged.ofEntries qdisc.entries).foldlM apply standard = .ok qdisc := by
  unfold entries
  rw [Tagged.ofEntries_cons_some, List.foldlM_cons, apply_globals]
  rcases qdisc with ⟨globals, none | length⟩
  · rfl
  · change [Tagged.mk HtbTag.directQueueLength (Layout.uint32.write length)].foldlM apply
      ⟨globals, none⟩ = _
    rw [List.foldlM_cons, apply_directQueueLength]
    rfl

/-- The options of a qdisc are written, and they carry all its parameters. -/
theorem exists_encode (qdisc : HtbQdisc) :
    ∃ data, qdisc.encode = .ok data ∧ decode (some data) = .ok qdisc := by
  obtain ⟨data, written, parsed⟩ :=
    Tagged.exists_writeAll_ofEntries qdisc.tagOf_of_mem_entries qdisc.length_le_of_mem_entries
  refine ⟨data, qdisc.encode_eq.trans written, ?_⟩
  exact Outcome.bind_eq_ok.mpr ⟨_, parsed 0, qdisc.foldlM_apply_entries⟩

end HtbQdisc

/-! ## Class -/

namespace HtbClass

/-- The rate table of a rate, with the rate as the kernel is told of it. -/
def table (rate : UInt64) (clock : Clock) : RateSpec × Bytes :=
  RateTable.compute (.ofRate (RateSpec.saturated rate)) rate largestPacket clock

/-- The parameters of a class as one record. -/
def record (hclass : HtbClass) (clock : Clock) : HtbParameters where
  rate := (table hclass.rate clock).1
  ceiling := (table hclass.ceiling clock).1
  buffer := hclass.buffer
  ceilingBuffer := hclass.ceilingBuffer
  quantum := hclass.quantum
  level := hclass.level
  priority := hclass.priority

/-- The tags and payloads of the options of a class. -/
def entries (hclass : HtbClass) (clock : Clock) : List (UInt16 × Option Bytes) :=
  [(HtbTag.parameters, some (Record.toBytes (hclass.record clock))),
    (HtbTag.rateTable, some (table hclass.rate clock).2),
    (HtbTag.ceilingTable, some (table hclass.ceiling clock).2),
    (HtbTag.rate64, RateSpec.wide? hclass.rate),
    (HtbTag.ceiling64, RateSpec.wide? hclass.ceiling)]

/-- The tags of the options of a class. -/
def tags : List UInt16 :=
  [HtbTag.parameters, HtbTag.rateTable, HtbTag.ceilingTable, HtbTag.rate64, HtbTag.ceiling64]

theorem rate64_eq (type : UInt16) (rate : UInt64) :
    rate64 type rate = (Tagged.ofEntries [(type, RateSpec.wide? rate)]).map Tagged.toLeaf := by
  unfold rate64 RateSpec.wide?
  split <;> rfl

theorem encode_eq (hclass : HtbClass) (clock : Clock) :
    hclass.encode clock =
      Attribute.writeAll ((Tagged.ofEntries (hclass.entries clock)).map Tagged.toLeaf) := by
  unfold encode
  simp only [rate64_eq, List.append_assoc]
  rw [← List.map_append, ← Tagged.ofEntries_append]
  rfl

theorem tagOf_of_mem_entries (hclass : HtbClass) (clock : Clock) :
    ∀ tag ∈ (hclass.entries clock).map Prod.fst, AttributeHeader.tagOf tag = tag := by
  change ∀ tag ∈ tags, AttributeHeader.tagOf tag = tag
  exact AttributeHeader.tagOf_eq_of_all (by decide)

theorem nodup_entries (hclass : HtbClass) (clock : Clock) :
    ((hclass.entries clock).map Prod.fst).Nodup := by
  change tags.Nodup
  decide

theorem length_le_of_mem_entries (hclass : HtbClass) (clock : Clock) :
    ∀ entry ∈ hclass.entries clock, ∀ data ∈ entry.2, data.length ≤ maxAttributePayload := by
  have tables : ∀ rate, (table rate clock).2.length ≤ maxAttributePayload := by
    intro rate
    rw [table, RateTable.length_compute]
    decide
  have rates : ∀ rate, ∀ data ∈ RateSpec.wide? rate, data.length ≤ maxAttributePayload := by
    intro rate data there
    rw [RateSpec.length_of_mem_wide? there]
    decide
  unfold entries
  simp only [List.forall_mem_cons]
  refine ⟨?_, ?_, ?_, rates hclass.rate, rates hclass.ceiling, fun _ member => nomatch member⟩
  · rintro data ⟨⟩
    rw [HtbParameters.lawful_layout.length_toBytes]
    decide
  · rintro data ⟨⟩
    exact tables hclass.rate
  · rintro data ⟨⟩
    exact tables hclass.ceiling

/-- Whether the 64 bits are written is decided by the rate as it is read: they are there exactly
when the word of 32 bits is not the rate. -/
theorem readRate_of_find? {found : List Tagged} {tag : UInt16} {rate : UInt64}
    (there : Tagged.find? found tag = RateSpec.wide? rate) :
    readRate found tag (RateSpec.saturated rate) = .ok rate := by
  unfold readRate
  rcases Nat.lt_or_ge rate.toNat UInt32.size with small | large
  · rw [there, RateSpec.wide?_of_lt small]
    exact congrArg Except.ok (RateSpec.toUInt64_saturated small)
  · rw [there, RateSpec.wide?_of_le large]
    exact Layout.lawful_uint64.readAs_write _ rate

/-- The options of a class are written, and they carry all its parameters, whatever the clock made
of the rate tables. -/
theorem exists_encode (hclass : HtbClass) (clock : Clock) :
    ∃ data, hclass.encode clock = .ok data ∧ decode (some data) = .ok hclass := by
  obtain ⟨data, written, parsed⟩ :=
    Tagged.exists_writeAll_ofEntries (hclass.tagOf_of_mem_entries clock)
      (hclass.length_le_of_mem_entries clock)
  have found : ∀ {tag payload}, (tag, payload) ∈ hclass.entries clock →
      Tagged.find? (Tagged.ofEntries (hclass.entries clock)) tag = payload :=
    Tagged.find?_ofEntries (hclass.nodup_entries clock)
  have parameters := found (.head _)
  have rate := readRate_of_find? (found (.tail _ (.tail _ (.tail _ (.head _)))))
  have ceiling := readRate_of_find? (found (.tail _ (.tail _ (.tail _ (.tail _ (.head _))))))
  refine ⟨data, (hclass.encode_eq clock).trans written, ?_⟩
  refine Outcome.bind_eq_ok.mpr ⟨_, parsed 0, ?_⟩
  rw [parameters]
  refine Outcome.bind_eq_ok.mpr ⟨_, HtbParameters.lawful_layout.read_toBytes _, ?_⟩
  exact Outcome.bind_eq_ok.mpr ⟨_, rate, Outcome.bind_eq_ok.mpr ⟨_, ceiling, rfl⟩⟩

end HtbClass

end TrafficShaping
