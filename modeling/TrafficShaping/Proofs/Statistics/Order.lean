import TrafficShaping.Proofs.Attribute.Order
import TrafficShaping.Proofs.Statistics.Blocks

/-!
Statistics whose blocks come in another order.

When no two blocks have one tag, every value but the rate is told by at most one block, so that the
order does not matter for it. The rate is told by two: the blocks in 32 and in 64 bits replace each
other, and the one that stands last is kept. The packets in 64 bits are kept apart until the end and
replace those in 32 wherever they stand. `Statistics.agree_ofBlocks` puts this together.
-/

namespace TrafficShaping.Statistics

variable {β : Type} {blocks others : List Tagged}

/-! ## Values that one tag tells -/

/-- Of records with different tags, one at most has the tag that a value comes from. -/
theorem pairwise_filterMap {pick : Tagged → Option β} {tag : UInt16}
    (keyed : ∀ block, pick block ≠ none → block.tag = tag)
    (distinct : (blocks.map Tagged.tag).Nodup) :
    (blocks.filterMap pick).Pairwise fun _ _ => False := by
  refine (List.pairwise_map.mp distinct).filterMap pick ?_
  intro block block' apart value told value' told'
  have here := keyed block (by rw [told]; exact Option.some_ne_none value)
  have there := keyed block' (by rw [told']; exact Option.some_ne_none value')
  exact apart (here.trans there.symm)

/-- A value that comes from one tag is the same in any order. -/
theorem last_eq_of_perm {field : Block.News → Option β} {tag : UInt16}
    (keyed : ∀ block, field (Block.news block) ≠ none → block.tag = tag)
    (distinct : (blocks.map Tagged.tag).Nodup) (permuted : blocks.Perm others) :
    last field others = last field blocks := by
  have distinct' : (others.map Tagged.tag).Nodup := (permuted.map _).nodup_iff.mp distinct
  have same : others.filterMap (field ∘ Block.news) = blocks.filterMap (field ∘ Block.news) :=
    List.Perm.eq_of_pairwise (fun _ _ _ _ never _ => never.elim)
      (pairwise_filterMap keyed distinct') (pairwise_filterMap keyed distinct)
      (permuted.symm.filterMap _)
  rw [last, same, last]

/-- A value that comes from one tag is that of the block that tells it, wherever it stands. -/
theorem last_eq_of_mem {field : Block.News → Option β} {tag : UInt16} {block : Tagged} {value : β}
    (keyed : ∀ block, field (Block.news block) ≠ none → block.tag = tag)
    (distinct : (blocks.map Tagged.tag).Nodup) (among : block ∈ blocks)
    (told : field (Block.news block) = some value) : last field blocks = some value := by
  have alone : (blocks.filterMap (field ∘ Block.news)).Pairwise fun _ _ => False :=
    pairwise_filterMap keyed distinct
  have present : value ∈ blocks.filterMap (field ∘ Block.news) :=
    List.mem_filterMap.mpr ⟨block, among, told⟩
  unfold last
  cases kept : blocks.filterMap (field ∘ Block.news) with
  | nil =>
      rw [kept] at present
      cases present
  | cons only rest =>
      rw [kept] at alone present
      cases rest with
      | nil => rw [List.mem_singleton.mp present, List.getLast?_singleton]
      | cons second rest => exact (List.rel_of_pairwise_cons alone List.mem_cons_self).elim

/-- Each value but the rate comes from blocks of one tag. -/
structure Block.Keyed (block : Tagged) (news : Block.News) : Prop where
  traffic : news.traffic ≠ none → block.tag = Block.traffic
  hardware : news.hardware ≠ none → block.tag = Block.hardware
  packets64 : news.packets64 ≠ none → block.tag = Block.packets64
  queue : news.queue ≠ none → block.tag = Block.queue
  rate : news.rate ≠ none → Block.isRate block.tag = true

theorem Block.Reads.keyed {block : Tagged} {news : Block.News} (reads : Block.Reads block news) :
    Block.Keyed block news := by
  cases reads
  all_goals
    constructor
    all_goals
      intro told
      first | assumption | exact absurd rfl told

/-- In another order, the blocks tell the same but for the rate. -/
theorem summary_eq_of_perm (distinct : (blocks.map Tagged.tag).Nodup)
    (permuted : blocks.Perm others) :
    summary others = { summary blocks with rate := last (·.rate) others } := by
  have keyed block := (Block.reads_news block).keyed
  have traffic := last_eq_of_perm (fun block => (keyed block).traffic) distinct permuted
  have hardware := last_eq_of_perm (fun block => (keyed block).hardware) distinct permuted
  have packets64 := last_eq_of_perm (fun block => (keyed block).packets64) distinct permuted
  have queue := last_eq_of_perm (fun block => (keyed block).queue) distinct permuted
  simp only [summary, traffic, hardware, packets64, queue]

theorem ofTagged_eq_of_perm (distinct : (blocks.map Tagged.tag).Nodup)
    (permuted : blocks.Perm others) :
    ofTagged others = { ofTagged blocks with rate := (ofTagged others).rate } := by
  unfold ofTagged
  rw [summary_eq_of_perm distinct permuted]
  unfold Reading.take Reading.result
  cases (summary blocks).packets64 <;> rfl

/-- The packets in 64 bits replace those in 32. -/
theorem packets_ofTagged {block : Tagged} {packets : UInt64}
    (distinct : (blocks.map Tagged.tag).Nodup) (among : block ∈ blocks)
    (tag : block.tag = Block.packets64) (read : Payload.readUInt64 block.payload = .ok packets) :
    (ofTagged blocks).traffic.packets = packets := by
  have told : (Block.news block).packets64 = some packets := by
    rw [Block.news, Block.read_of_packets64 tag, read]
    rfl
  have kept : (summary blocks).packets64 = some packets :=
    last_eq_of_mem (fun block => (Block.reads_news block).keyed.packets64) distinct among told
  unfold ofTagged Reading.take Reading.result
  rw [kept]
  rfl

/-! ## The rate -/

/-- The blocks of a rate, in 32 or in 64 bits. -/
def rateBlocks (blocks : List Tagged) : List Tagged :=
  blocks.filter fun block => Block.isRate block.tag

/-- A rate is the one that the last block of a rate tells. -/
def RateOfLast (blocks : List Tagged) (rate : RateEstimate) : Prop :=
  ∀ block, (rateBlocks blocks).getLast? = some block → Block.readRate block = .ok rate

theorem rate_ofTagged (blocks : List Tagged) :
    (ofTagged blocks).rate = (last (·.rate) blocks).getD zero.rate := by
  unfold ofTagged Reading.take Reading.result
  cases (summary blocks).packets64 <;> rfl

/-- Only the blocks of a rate tell one. -/
theorem last_rate (blocks : List Tagged) :
    last (·.rate) blocks = last (·.rate) (rateBlocks blocks) := by
  unfold last rateBlocks
  rw [List.filterMap_filter]
  congr 1
  refine List.filterMap_congr fun block _ => ?_
  split
  · rfl
  · next other =>
      by_contra told
      exact other ((Block.reads_news block).keyed.rate told)

theorem rateOfLast_ofTagged (readable : ∀ block ∈ blocks, ∃ news, Block.read block = .ok news) :
    RateOfLast blocks (ofTagged blocks).rate := by
  intro block ends
  obtain ⟨among, tag⟩ := List.mem_filter.mp (List.mem_of_getLast? ends)
  obtain ⟨news, known⟩ := readable block among
  rw [Block.read_of_isRate tag] at known
  obtain ⟨rate, read, -⟩ := Outcome.map_eq_ok.mp known
  have told : (Block.news block).rate = some rate := by
    rw [Block.news, Block.read_of_isRate tag, read]
    rfl
  obtain ⟨before, whole⟩ := List.getLast?_eq_some_iff.mp ends
  have kept : last (·.rate) blocks = some rate := by
    rw [last_rate, whole, last_append, last_singleton, told]
    rfl
  rw [rate_ofTagged, kept]
  exact read

/-- With the blocks of a rate in the same order, the rate is the same. -/
theorem rate_ofTagged_congr (same : rateBlocks others = rateBlocks blocks) :
    (ofTagged others).rate = (ofTagged blocks).rate := by
  rw [rate_ofTagged, rate_ofTagged, last_rate, same, ← last_rate]

theorem rateBlocks_eq_of_perm (permuted : blocks.Perm others)
    (few : (rateBlocks blocks).length ≤ 1) : rateBlocks others = rateBlocks blocks := by
  have kept : (rateBlocks others).Perm (rateBlocks blocks) := permuted.symm.filter _
  cases told : rateBlocks blocks with
  | nil =>
      rw [told] at kept
      exact kept.eq_nil
  | cons only rest =>
      rw [told] at kept few
      cases rest with
      | nil => exact kept.eq_singleton
      | cons second rest => exact absurd (Nat.le_of_succ_le_succ few) (Nat.not_succ_le_zero _)

/-! ## Encoded blocks -/

/-- What the statistics read from blocks, and from the same blocks in another order, have in
common. -/
structure Agree (blocks others : List Tagged) (first second : Statistics) : Prop where
  /-- All values but the rate are the same. -/
  besidesRate : second = { first with rate := second.rate }
  /-- The rate is the same as well unless it is told twice, in the other order. -/
  sameRates : (rateBlocks blocks).length ≤ 1 ∨ rateBlocks others = rateBlocks blocks →
    second = first
  /-- Packets in 64 bits are taken from their block, wherever it stands. -/
  packets64 : ∀ block ∈ blocks, block.tag = Block.packets64 →
    Payload.readUInt64 block.payload = .ok first.traffic.packets
  /-- The rates are taken from the blocks of a rate that stand last. -/
  rates : RateOfLast blocks first.rate ∧ RateOfLast others second.rate

theorem agree_ofTagged (distinct : (blocks.map Tagged.tag).Nodup) (permuted : blocks.Perm others)
    (readable : ∀ block ∈ blocks, ∃ news, Block.read block = .ok news) :
    Agree blocks others (ofTagged blocks) (ofTagged others) := by
  have besidesRate := ofTagged_eq_of_perm distinct permuted
  have readable' : ∀ block ∈ others, ∃ news, Block.read block = .ok news :=
    fun block among => readable block (permuted.mem_iff.mpr among)
  refine ⟨besidesRate, fun rates => ?_, fun block among tag => ?_,
    rateOfLast_ofTagged readable, rateOfLast_ofTagged readable'⟩
  · have same : rateBlocks others = rateBlocks blocks :=
      rates.elim (rateBlocks_eq_of_perm permuted) id
    rw [besidesRate, rate_ofTagged_congr same]
  · obtain ⟨news, known⟩ := readable block among
    rw [Block.read_of_packets64 tag] at known
    obtain ⟨packets, read, -⟩ := Outcome.map_eq_ok.mp known
    rw [packets_ofTagged distinct among tag read, read]

/-- Blocks with different tags, each long enough for its tag, can be written in any other order and
are read either way, as statistics that differ in the rate at most. -/
theorem agree_ofBlocks {blocks others : List Attribute} {data : Bytes}
    (written : Attribute.writeAll blocks = .ok data) (permuted : blocks.Perm others)
    (distinct : (blocks.map Attribute.tag).Nodup)
    (long : ∀ block ∈ blocks, Block.size block.tag ≤ block.payloadLength) :
    ∃ other first second, Attribute.writeAll others = .ok other ∧
      ofBlocks data = .ok first ∧ ofBlocks other = .ok second ∧
      Agree (blocks.map Attribute.found) (others.map Attribute.found) first second := by
  obtain ⟨other, writtenOther⟩ := Attribute.exists_writeAll_of_perm written permuted
  have readable : ∀ record ∈ blocks.map Attribute.found, ∃ news, Block.read record = .ok news := by
    intro record among
    obtain ⟨block, here, rfl⟩ := List.mem_map.mp among
    obtain ⟨bytes, alone⟩ := Attribute.exists_writeAll_iff.mp ⟨data, written⟩ block here
    refine Block.exists_read_of_le ?_
    rw [Attribute.length_payload_found alone]
    exact long block here
  have permuted' := permuted.map Attribute.found
  have readable' : ∀ record ∈ others.map Attribute.found, ∃ news, Block.read record = .ok news :=
    fun record among => readable record (permuted'.mem_iff.mpr among)
  have distinct' : ((blocks.map Attribute.found).map Tagged.tag).Nodup := by
    rw [List.map_map]
    exact distinct
  exact ⟨other, _, _, writtenOther, ofBlocks_eq (Attribute.parse_writeAll_eq written) readable,
    ofBlocks_eq (Attribute.parse_writeAll_eq writtenOther) readable',
    agree_ofTagged distinct' permuted' readable⟩

/-- Both widths of the packets and of the rate. -/
def twoWidths : List Attribute :=
  [.ofUInt64 Block.packets64 1099511627776, .leaf Block.rate64 (rate64Layout.write ⟨4294967296, 2⟩),
    .leaf Block.rate (rateLayout.write (1000, 10)),
    .leaf Block.traffic (trafficLayout.write (64, 1))]

theorem agree_ofBlocks_twoWidths :
    ∃ data other first second, Attribute.writeAll twoWidths = .ok data ∧
      Attribute.writeAll twoWidths.reverse = .ok other ∧
      ofBlocks data = .ok first ∧ ofBlocks other = .ok second ∧
      Agree (twoWidths.map Attribute.found) (twoWidths.reverse.map Attribute.found) first second ∧
      first.traffic.packets = 1099511627776 ∧
      first.rate = ⟨1000, 10⟩ ∧ second.rate = ⟨4294967296, 2⟩ := by
  obtain ⟨data, written⟩ : ∃ data, Attribute.writeAll twoWidths = .ok data := ⟨_, rfl⟩
  have permuted : twoWidths.Perm twoWidths.reverse := (List.reverse_perm _).symm
  obtain ⟨other, first, second, writtenOther, readFirst, readSecond, agree⟩ :=
    agree_ofBlocks written permuted (by decide) (by decide)
  refine ⟨data, other, first, second, written, writtenOther, readFirst, readSecond, agree, ?_, ?_,
    ?_⟩
  · exact (Except.ok.inj (agree.packets64 _ (.head _) rfl)).symm
  · exact (Except.ok.inj (agree.rates.1 _ rfl)).symm
  · exact (Except.ok.inj (agree.rates.2 _ rfl)).symm

end TrafficShaping.Statistics
