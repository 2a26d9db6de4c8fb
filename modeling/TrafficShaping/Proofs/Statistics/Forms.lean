import TrafficShaping.Proofs.Extension
import TrafficShaping.Proofs.Statistics.Order

/-!
The two forms of statistics, a flat record and blocks.

`Statistics.flatRecord` and `Statistics.narrowBlocks` are the two forms of statistics that 32 bits
are enough for, `Statistics.wideBlocks` is the form of all others. What is read of them is what was
written (`Statistics.ofFlat_flatRecord`, `Statistics.Carries`), whatever the order of the blocks and
whatever later formats put between and behind them. A block that is too short is refused, and blocks
come before a flat record. `Statistics.twoForms` puts this together.
-/

namespace TrafficShaping

/-! ## Short blocks -/

namespace Statistics

open Attribute (Extends)

theorem Block.readRate_of_lt {block : Tagged} (tag : Block.isRate block.tag = true)
    (short : block.payload.length < size block.tag) :
    ∃ what, readRate block = .error (.truncated what (size block.tag) block.payload.length) := by
  unfold readRate
  rcases Bool.or_eq_true_iff.mp tag with narrow | wide
  · rw [eq_of_beq narrow] at short ⊢
    refine ⟨"gnet_stats_rate_est", ?_⟩
    rw [if_neg (by decide), lawful_rateLayout.readAs_of_lt _ short]
    rfl
  · rw [eq_of_beq wide] at short ⊢
    exact ⟨"gnet_stats_rate_est64", lawful_rate64Layout.readAs_of_lt _ short⟩

theorem Block.read_of_lt {block : Tagged} (short : block.payload.length < size block.tag) :
    ∃ what, read block = .error (.truncated what (size block.tag) block.payload.length) := by
  unfold read
  split
  · next tag =>
      rw [tag] at short ⊢
      refine ⟨"gnet_stats_basic", ?_⟩
      rw [readTraffic, lawful_trafficLayout.readAs_of_lt _ short]
      rfl
  split
  · next tag =>
      rw [tag] at short ⊢
      refine ⟨"gnet_stats_basic", ?_⟩
      rw [readTraffic, lawful_trafficLayout.readAs_of_lt _ short]
      rfl
  split
  · next tag =>
      rw [tag] at short ⊢
      refine ⟨"u64 attribute", ?_⟩
      rw [Payload.readUInt64, Layout.lawful_uint64.readAs_of_lt _ short]
      rfl
  split
  · next tag =>
      rw [tag] at short ⊢
      refine ⟨"gnet_stats_queue", ?_⟩
      rw [lawful_queueLayout.readAs_of_lt _ short]
      rfl
  split
  · next tag =>
      obtain ⟨what, failed⟩ := readRate_of_lt tag short
      refine ⟨what, ?_⟩
      rw [failed]
      rfl
  · next traffic hardware packets64 queue noRate =>
      simp only [isRate, Bool.or_eq_true, beq_iff_eq, not_or] at noRate
      rw [size, if_neg (not_or.mpr ⟨traffic, hardware⟩), if_neg packets64, if_neg queue,
        if_neg noRate.1, if_neg noRate.2] at short
      exact absurd short (Nat.not_lt_zero _)

/-- The outcome of reading a sequence with short blocks, one of which is found truncated. -/
def Truncated {α : Type} (blocks : List Tagged) (outcome : Except Error α) : Prop :=
  ∃ what, ∃ block ∈ blocks, block.payload.length < Block.size block.tag ∧
    outcome = .error (.truncated what (Block.size block.tag) block.payload.length)

/-- The loop stops at the first short block. -/
theorem truncated_foldlM {blocks : List Tagged}
    (short : ∃ block ∈ blocks, block.payload.length < Block.size block.tag) (reading : Reading) :
    Truncated blocks (blocks.foldlM Reading.add reading) := by
  induction blocks generalizing reading with
  | nil => obtain ⟨_, ⟨⟩, _⟩ := short
  | cons first rest ih =>
      rw [List.foldlM_cons, Reading.add_eq]
      -- Either the loop stops here, or the short block is still to come.
      rcases Nat.lt_or_ge first.payload.length (Block.size first.tag) with here | long
      · obtain ⟨what, failed⟩ := Block.read_of_lt here
        refine ⟨what, first, List.mem_cons_self, here, ?_⟩
        rw [failed]
        rfl
      · obtain ⟨block, among, there⟩ := short
        have later : block ∈ rest := by
          rcases List.mem_cons.mp among with rfl | later
          · omega
          · exact later
        obtain ⟨news, known⟩ := Block.exists_read_of_le long
        obtain ⟨what, block, among, there, failed⟩ := ih ⟨block, later, there⟩ (reading.take news)
        refine ⟨what, block, List.mem_cons_of_mem _ among, there, ?_⟩
        rw [known]
        exact failed

theorem truncated_ofBlocks {data : Bytes} {blocks : List Tagged}
    (parsed : Tagged.parse data = .ok blocks)
    (short : ∃ block ∈ blocks, block.payload.length < Block.size block.tag) :
    Truncated blocks (ofBlocks data) := by
  obtain ⟨what, block, among, here, failed⟩ := truncated_foldlM short ⟨zero, none⟩
  refine ⟨what, block, among, here, ?_⟩
  rw [ofBlocks, parsed]
  change (blocks.foldlM Reading.add ⟨zero, none⟩ >>= fun reading => .ok reading.result) = _
  rw [failed]
  rfl

example : [Block.traffic, Block.rate, Block.queue, Block.rate64, Block.hardware,
    Block.packets64].map Block.size = [12, 8, 20, 16, 12, 8] := by decide

/-! ## The flat record -/

variable (s : Statistics)

/-- Statistics that the flat record and the blocks in 32 bits have room for. -/
structure IsNarrow : Prop where
  packets : s.traffic.packets.toNat < UInt32.size
  rateBytes : s.rate.bytes.toNat < UInt32.size
  ratePackets : s.rate.packets.toNat < UInt32.size
  /-- The flat record does not tell how many packets were put back. -/
  requeues : s.queue.requeues = 0
  hardware : s.hardware = ⟨0, 0⟩

/-- The flat record of some statistics. -/
def flatRecord : Bytes :=
  flatLayout.write (s.traffic.bytes, s.traffic.packets.toUInt32, s.queue.drops, s.queue.overlimits,
    s.rate.bytes.toUInt32, s.rate.packets.toUInt32, s.queue.length, s.queue.backlog)

/-- A word that fits 32 bits is kept by them. -/
theorem toUInt64_toUInt32_of_lt {word : UInt64} (small : word.toNat < UInt32.size) :
    word.toUInt32.toUInt64 = word := by
  rw [UInt64.toUInt64_toUInt32]
  exact UInt64.mod_eq_of_lt small

variable {s}

theorem ofFlat_flatRecord (narrow : s.IsNarrow) (more : Bytes) :
    ofFlat (s.flatRecord ++ more) = .ok s := by
  have read := lawful_flatLayout.readAs_append
    (lawful_flatLayout.readAs_write "tc_stats" (s.traffic.bytes, s.traffic.packets.toUInt32,
      s.queue.drops, s.queue.overlimits, s.rate.bytes.toUInt32, s.rate.packets.toUInt32,
      s.queue.length, s.queue.backlog)) more
  rw [ofFlat, flatRecord, read]
  dsimp only [Except.map]
  rw [toUInt64_toUInt32_of_lt narrow.packets, toUInt64_toUInt32_of_lt narrow.rateBytes,
    toUInt64_toUInt32_of_lt narrow.ratePackets, ← narrow.requeues, ← narrow.hardware]

/-! ## Blocks -/

namespace Block

variable (bytes : UInt64) (packets : UInt32)

theorem readTraffic_write :
    readTraffic (trafficLayout.write (bytes, packets)) = .ok ⟨bytes, packets.toUInt64⟩ := by
  rw [readTraffic, lawful_trafficLayout.readAs_write]
  rfl

theorem read_traffic :
    read ⟨traffic, trafficLayout.write (bytes, packets)⟩ =
      .ok { traffic := some ⟨bytes, packets.toUInt64⟩ } := by
  have eq payload : read ⟨traffic, payload⟩ =
    (readTraffic payload).map ({ traffic := some · }) := rfl
  rw [eq, readTraffic_write]
  rfl

theorem read_hardware :
    read ⟨hardware, trafficLayout.write (bytes, packets)⟩ =
      .ok { hardware := some ⟨bytes, packets.toUInt64⟩ } := by
  have eq payload : read ⟨hardware, payload⟩ =
    (readTraffic payload).map ({ hardware := some · }) := rfl
  rw [eq, readTraffic_write]
  rfl

theorem read_packets64 (value : UInt64) :
    read ⟨packets64, Layout.uint64.write value⟩ = .ok { packets64 := some value } := by
  rw [read_of_packets64 rfl, Payload.readUInt64, Layout.lawful_uint64.readAs_write]
  rfl

theorem read_queue (use : QueueUse) :
    read ⟨queue, queueLayout.write use⟩ = .ok { queue := some use } := by
  have eq payload : read ⟨queue, payload⟩ =
    (queueLayout.readAs "gnet_stats_queue" payload).map ({ queue := some · }) := rfl
  rw [eq, lawful_queueLayout.readAs_write]
  rfl

theorem read_rate (bytes packets : UInt32) :
    read ⟨rate, rateLayout.write (bytes, packets)⟩ =
      .ok { rate := some ⟨bytes.toUInt64, packets.toUInt64⟩ } := by
  have noWide : rate ≠ rate64 := by decide
  rw [read_of_isRate rfl, readRate, if_neg noWide, lawful_rateLayout.readAs_write]
  rfl

theorem read_rate64 (estimate : RateEstimate) :
    read ⟨rate64, rate64Layout.write estimate⟩ = .ok { rate := some estimate } := by
  rw [read_of_isRate rfl, readRate, if_pos rfl, lawful_rate64Layout.readAs_write]
  rfl

end Block

/-- Blocks carry some statistics when they are read from the blocks in any order, with attributes
that later formats may put between them and bytes behind their payloads. -/
def Carries (blocks : List Attribute) (s : Statistics) : Prop :=
  ∀ ⦃permuted others⦄, blocks.Perm permuted → Extends Block.names permuted others →
    (∀ other ∈ others, other.payloadLength ≤ maxAttributePayload) →
    ∃ data, Attribute.writeAll others = .ok data ∧ ofBlocks data = .ok s

/-- What blocks tell one after the other, each for itself. -/
abbrev Tell (records : List Tagged) (told : List Block.News) : Prop :=
  List.Forall₂ (fun record news => Block.read record = .ok news) records told

theorem Tell.readable {records : List Tagged} {told : List Block.News} (tell : Tell records told) :
    ∀ record ∈ records, ∃ news, Block.read record = .ok news := by
  induction tell with
  | nil => exact fun _ among => (nomatch among)
  | cons here _ ih => exact List.forall_mem_cons.mpr ⟨⟨_, here⟩, ih⟩

theorem Tell.foldlM_add {records : List Tagged} {told : List Block.News} (tell : Tell records told)
    (reading : Reading) :
    records.foldlM Reading.add reading = .ok (told.foldl Reading.take reading) := by
  induction tell generalizing reading with
  | nil => rfl
  | cons here _ ih =>
      rw [List.foldlM_cons, Reading.add_eq, here]
      exact ih _

/-- Blocks with different tags, at most one of them of a rate, carry what they tell one after the
other. -/
theorem Tell.carries {blocks : List Attribute} {records : List Tagged} {told : List Block.News}
    (tell : Tell records told) (found : blocks.map Attribute.found = records)
    (distinct : (records.map Tagged.tag).Nodup) (few : (rateBlocks records).length ≤ 1) :
    Carries blocks (told.foldl Reading.take ⟨zero, none⟩).result := by
  intro permuted others perm extended fits
  subst found
  have readable := tell.readable
  have perm' := perm.map Attribute.found
  have same := (agree_ofTagged distinct perm' readable).sameRates (.inl few)
  -- The news in the order of `blocks` and in that of `permuted` make the same statistics, and what
  -- was put into `permuted` does not count.
  have loop := Statistics.foldlM_add readable ⟨zero, none⟩
  have loop' := Statistics.foldlM_add
    (fun record among => readable record (perm'.mem_iff.mpr among)) ⟨zero, none⟩
  have reading := Except.ok.inj ((tell.foldlM_add ⟨zero, none⟩).symm.trans loop)
  refine tolerant_result.exists_writeAll extended fits ?_
  rw [loop', reading]
  exact congrArg Except.ok same

variable (s)

/-- The blocks in 32 bits. -/
def narrowBlocks : List Attribute :=
  [.leaf Block.traffic (trafficLayout.write (s.traffic.bytes, s.traffic.packets.toUInt32)),
    .leaf Block.queue (queueLayout.write s.queue),
    .leaf Block.rate (rateLayout.write (s.rate.bytes.toUInt32, s.rate.packets.toUInt32))]

/-- The blocks in 64 bits, with the low half of the packets beside the whole. -/
def wideBlocks : List Attribute :=
  [.leaf Block.traffic (trafficLayout.write (s.traffic.bytes, s.traffic.packets.toUInt32)),
    .ofUInt64 Block.packets64 s.traffic.packets,
    .leaf Block.hardware (trafficLayout.write (s.hardware.bytes, s.hardware.packets.toUInt32)),
    .leaf Block.queue (queueLayout.write s.queue),
    .leaf Block.rate64 (rate64Layout.write s.rate)]

theorem map_found_narrowBlocks :
    s.narrowBlocks.map Attribute.found =
      [⟨Block.traffic, trafficLayout.write (s.traffic.bytes, s.traffic.packets.toUInt32)⟩,
        ⟨Block.queue, queueLayout.write s.queue⟩,
        ⟨Block.rate, rateLayout.write (s.rate.bytes.toUInt32, s.rate.packets.toUInt32)⟩] := by
  simp only [narrowBlocks, List.map_cons, List.map_nil]
  rw [Attribute.found_leaf rfl, Attribute.found_leaf rfl, Attribute.found_leaf rfl]

theorem map_found_wideBlocks :
    s.wideBlocks.map Attribute.found =
      [⟨Block.traffic, trafficLayout.write (s.traffic.bytes, s.traffic.packets.toUInt32)⟩,
        ⟨Block.packets64, Layout.uint64.write s.traffic.packets⟩,
        ⟨Block.hardware, trafficLayout.write (s.hardware.bytes, s.hardware.packets.toUInt32)⟩,
        ⟨Block.queue, queueLayout.write s.queue⟩,
        ⟨Block.rate64, rate64Layout.write s.rate⟩] := by
  simp only [wideBlocks, Attribute.ofUInt64, List.map_cons, List.map_nil]
  rw [Attribute.found_leaf rfl, Attribute.found_leaf rfl, Attribute.found_leaf rfl,
    Attribute.found_leaf rfl, Attribute.found_leaf rfl]

variable {s}

theorem carries_narrowBlocks (narrow : s.IsNarrow) : Carries s.narrowBlocks s := by
  have tell : Tell _ [_, _, _] :=
    .cons (Block.read_traffic s.traffic.bytes s.traffic.packets.toUInt32)
      (.cons (Block.read_queue s.queue)
        (.cons (Block.read_rate s.rate.bytes.toUInt32 s.rate.packets.toUInt32) .nil))
  have distinct : [Block.traffic, Block.queue, Block.rate].Nodup := by decide
  have carries := tell.carries s.map_found_narrowBlocks distinct (Nat.le_refl 1)
  dsimp only [List.foldl, Reading.take, Reading.result, zero, Option.getD, Option.or] at carries
  rwa [toUInt64_toUInt32_of_lt narrow.packets, toUInt64_toUInt32_of_lt narrow.rateBytes,
    toUInt64_toUInt32_of_lt narrow.ratePackets, ← narrow.hardware] at carries

theorem carries_wideBlocks (fits : s.hardware.packets.toNat < UInt32.size) :
    Carries s.wideBlocks s := by
  have tell : Tell _ [_, _, _, _, _] :=
    .cons (Block.read_traffic s.traffic.bytes s.traffic.packets.toUInt32)
      (.cons (Block.read_packets64 s.traffic.packets)
        (.cons (Block.read_hardware s.hardware.bytes s.hardware.packets.toUInt32)
          (.cons (Block.read_queue s.queue) (.cons (Block.read_rate64 s.rate) .nil))))
  have distinct :
      [Block.traffic, Block.packets64, Block.hardware, Block.queue, Block.rate64].Nodup := by decide
  have carries := tell.carries s.map_found_wideBlocks distinct (Nat.le_refl 1)
  dsimp only [List.foldl, Reading.take, Reading.result, zero, Option.getD, Option.or] at carries
  rwa [toUInt64_toUInt32_of_lt fits] at carries

/-! ## Either form -/

section Either

variable {front rest found : List Tagged} {data : Bytes}

theorem ofAttributes_of_blocks (first : ∀ before ∈ front, before.tag ≠ blocksTag) :
    ofAttributes (front ++ ⟨blocksTag, data⟩ :: rest) = ofBlocks data := by
  rw [ofAttributes, Tagged.find?_append_cons first]

theorem ofAttributes_of_flat (noBlocks : ∀ other ∈ front ++ rest, other.tag ≠ blocksTag)
    (first : ∀ before ∈ front, before.tag ≠ flatTag) :
    ofAttributes (front ++ ⟨flatTag, data⟩ :: rest) = ofFlat data := by
  have noBlocks' : ∀ other ∈ front ++ ⟨flatTag, data⟩ :: rest, other.tag ≠ blocksTag := by
    intro other among
    rcases List.mem_append.mp among with before | later
    · exact noBlocks other (List.mem_append_left _ before)
    · rcases List.mem_cons.mp later with rfl | behind
      · exact show flatTag ≠ blocksTag by decide
      · exact noBlocks other (List.mem_append_right _ behind)
  rw [ofAttributes, Tagged.find?_eq_none noBlocks', Tagged.find?_append_cons first]

theorem ofAttributes_of_neither (noBlocks : ∀ other ∈ found, other.tag ≠ blocksTag)
    (noFlat : ∀ other ∈ found, other.tag ≠ flatTag) : ofAttributes found = .ok zero := by
  rw [ofAttributes, Tagged.find?_eq_none noBlocks, Tagged.find?_eq_none noFlat]

end Either

/-- What is read of the two forms of statistics, and which of them is read. -/
structure TwoForms : Prop where
  /-- Statistics that 32 bits are enough for are read from a flat record of 36 bytes, whatever
  follows it, and from blocks in 32 bits. -/
  narrow : ∀ ⦃s : Statistics⦄, s.IsNarrow →
    s.flatRecord.length = 36 ∧ (∀ more, ofFlat (s.flatRecord ++ more) = .ok s) ∧
      Carries s.narrowBlocks s
  /-- Any others are read from blocks in 64 bits, as long as the packets that hardware took over
  fit the 32 bits that they have. -/
  wide : ∀ ⦃s : Statistics⦄, s.hardware.packets.toNat < UInt32.size → Carries s.wideBlocks s
  /-- A block that is too short for its tag is refused. -/
  shortBlock : ∀ ⦃data blocks⦄, Tagged.parse data = .ok blocks →
    (∃ block ∈ blocks, block.payload.length < Block.size block.tag) →
    Truncated blocks (ofBlocks data)
  /-- So is a flat record that is too short. -/
  shortRecord : ∀ ⦃data : Bytes⦄, data.length < 36 →
    ofFlat data = .error (.truncated "tc_stats" 36 data.length)
  /-- The first blocks count, whether they can be read or not. -/
  blocks : ∀ ⦃front rest data⦄, (∀ before ∈ front, before.tag ≠ blocksTag) →
    ofAttributes (front ++ ⟨blocksTag, data⟩ :: rest) = ofBlocks data
  /-- Without blocks the first flat record counts. -/
  flat : ∀ ⦃front rest data⦄, (∀ other ∈ front ++ rest, other.tag ≠ blocksTag) →
    (∀ before ∈ front, before.tag ≠ flatTag) →
    ofAttributes (front ++ ⟨flatTag, data⟩ :: rest) = ofFlat data
  /-- Without both nothing was counted. -/
  neither : ∀ ⦃found⦄, (∀ other ∈ found, other.tag ≠ blocksTag) →
    (∀ other ∈ found, other.tag ≠ flatTag) → ofAttributes found = .ok zero

theorem twoForms : TwoForms where
  narrow := fun _ narrow =>
    ⟨lawful_flatLayout.length_write _, ofFlat_flatRecord narrow, carries_narrowBlocks narrow⟩
  wide := fun _ => carries_wideBlocks
  shortBlock := fun _ _ => truncated_ofBlocks
  shortRecord := by
    intro data short
    have failed := lawful_flatLayout.readAs_of_lt "tc_stats" short
    rw [ofFlat, failed]
    rfl
  blocks := fun _ _ _ => ofAttributes_of_blocks
  flat := fun _ _ _ => ofAttributes_of_flat
  neither := fun _ => ofAttributes_of_neither

/-- A queue at its limit. -/
def congested : Statistics where
  traffic := ⟨1099511627776, 4294967295⟩
  queue := ⟨1000, 1514000, 17, 0, 23⟩
  rate := ⟨125000000, 82562⟩
  hardware := ⟨0, 0⟩

/-- Its blocks in another order, with an unknown block first and bytes behind the queue. -/
def laterCongested : List Attribute :=
  [.leaf 12 [1],
    .leaf Block.rate (rateLayout.write (125000000, 82562)),
    .leaf (Block.queue ||| 0x4000) (queueLayout.write congested.queue ++ [2, 3]),
    .leaf Block.traffic (trafficLayout.write (1099511627776, 4294967295))]

theorem twoForms_congested :
    ofFlat congested.flatRecord = .ok congested ∧
      ∃ data, Attribute.writeAll laterCongested = .ok data ∧ ofBlocks data = .ok congested := by
  have narrow : congested.IsNarrow := ⟨by decide, by decide, by decide, rfl, rfl⟩
  obtain ⟨-, flat, carries⟩ := twoForms.narrow narrow
  have permuted : congested.narrowBlocks.Perm congested.narrowBlocks.reverse :=
    (List.reverse_perm _).symm
  have extended : Extends Block.names congested.narrowBlocks.reverse laterCongested :=
    .insert (by decide) (.keep (.refl rfl) (.keep (.leaf rfl _ _ _) (.keep (.refl rfl) .nil)))
  have whole := flat []
  rw [List.append_nil] at whole
  exact ⟨whole, carries permuted extended (by decide)⟩

end Statistics

end TrafficShaping
