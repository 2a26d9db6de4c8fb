import TrafficShaping.Outcome
import TrafficShaping.Proofs.Layout
import TrafficShaping.Statistics

/-!
What the blocks of statistics say, one by one and together.

`Block.read` is what one block says for itself, whatever was read before it: `Reading.add_eq` and
`Block.Reads`, its inversion, are all that is needed of a single step. `Statistics.ofBlocks_eq` is
the whole loop: each value is that of the last block that tells it, the packets in 64 bits before
those in 32.
-/

namespace TrafficShaping.Statistics

/-! ## The records in the blocks -/

theorem lawful_trafficLayout : trafficLayout.Lawful :=
  Layout.lawful_uint64.pair Layout.lawful_uint32

theorem lawful_queueLayout : queueLayout.Lawful :=
  Layout.Lawful.map
    (Layout.lawful_uint32.pair (Layout.lawful_uint32.pair (Layout.lawful_uint32.pair
      (Layout.lawful_uint32.pair Layout.lawful_uint32)))) (fun _ => rfl) (fun _ => rfl)

theorem lawful_rateLayout : rateLayout.Lawful := Layout.lawful_uint32.pair Layout.lawful_uint32

theorem lawful_rate64Layout : rate64Layout.Lawful :=
  (Layout.lawful_uint64.pair Layout.lawful_uint64).map (fun _ => rfl) (fun _ => rfl)

theorem lawful_flatLayout : flatLayout.Lawful :=
  Layout.lawful_uint64.pair (Layout.lawful_uint32.pair (Layout.lawful_uint32.pair
    (Layout.lawful_uint32.pair (Layout.lawful_uint32.pair (Layout.lawful_uint32.pair
      (Layout.lawful_uint32.pair Layout.lawful_uint32))))))

namespace Block

/-! ## One block -/

/-- What one block tells. -/
structure News where
  traffic : Option Traffic := none
  hardware : Option Traffic := none
  packets64 : Option UInt64 := none
  queue : Option QueueUse := none
  rate : Option RateEstimate := none

/-- Whether a tag is that of a rate, in 32 or in 64 bits. -/
def isRate (tag : UInt16) : Bool := tag == rate || tag == rate64

/-- The rate that a block of either width tells. -/
def readRate (block : Tagged) : Except Error RateEstimate :=
  if block.tag = rate64 then rate64Layout.readAs "gnet_stats_rate_est64" block.payload
  else (rateLayout.readAs "gnet_stats_rate_est" block.payload).map fun (bytes, packets) =>
    ⟨bytes.toUInt64, packets.toUInt64⟩

/-- What a block tells for itself. A block of an unknown tag tells nothing. -/
def read (block : Tagged) : Except Error News :=
  if block.tag = traffic then (readTraffic block.payload).map ({ traffic := some · })
  else if block.tag = hardware then (readTraffic block.payload).map ({ hardware := some · })
  else if block.tag = packets64 then
    (Payload.readUInt64 block.payload).map ({ packets64 := some · })
  else if block.tag = queue then
    (queueLayout.readAs "gnet_stats_queue" block.payload).map ({ queue := some · })
  else if isRate block.tag then (readRate block).map ({ rate := some · })
  else .ok {}

/-- The bytes that a block must have, by its tag. -/
def size (tag : UInt16) : Nat :=
  if tag = traffic ∨ tag = hardware then trafficLayout.size
  else if tag = packets64 then Layout.uint64.size
  else if tag = queue then queueLayout.size
  else if tag = rate then rateLayout.size
  else if tag = rate64 then rate64Layout.size
  else 0

/-- The sorts of blocks, each with what it tells. A block of an unknown tag tells nothing, and so
does one that cannot be read. -/
inductive Reads (block : Tagged) : News → Prop
  | traffic {value : Traffic} (tag : block.tag = Block.traffic)
      (read : readTraffic block.payload = .ok value) : Reads block { traffic := some value }
  | hardware {value : Traffic} (tag : block.tag = Block.hardware)
      (read : readTraffic block.payload = .ok value) : Reads block { hardware := some value }
  | packets64 {value : UInt64} (tag : block.tag = Block.packets64)
      (read : Payload.readUInt64 block.payload = .ok value) :
      Reads block { packets64 := some value }
  | queue {value : QueueUse} (tag : block.tag = Block.queue)
      (read : queueLayout.readAs "gnet_stats_queue" block.payload = .ok value) :
      Reads block { queue := some value }
  | rate {value : RateEstimate} (tag : isRate block.tag = true)
      (read : readRate block = .ok value) : Reads block { rate := some value }
  | nothing : Reads block {}

/-- What holds of the news made from any value read holds of the news. -/
theorem reads_of_map {α : Type} {block : Tagged} {value : Except Error α} {make : α → News}
    {news : News} (told : value.map make = .ok news)
    (each : ∀ known, value = .ok known → Reads block (make known)) : Reads block news := by
  obtain ⟨known, read, rfl⟩ := Outcome.map_eq_ok.mp told
  exact each known read

theorem reads_of_read {block : Tagged} {news : News} (told : read block = .ok news) :
    Reads block news := by
  unfold read at told
  split at told
  · next tag => exact reads_of_map told fun _ known => .traffic tag known
  split at told
  · next tag => exact reads_of_map told fun _ known => .hardware tag known
  split at told
  · next tag => exact reads_of_map told fun _ known => .packets64 tag known
  split at told
  · next tag => exact reads_of_map told fun _ known => .queue tag known
  split at told
  · next tag => exact reads_of_map told fun _ known => .rate tag known
  · cases told
    exact .nothing

/-! ## Long enough blocks -/

/-- A rate is read from a block that is long enough for it. -/
theorem exists_readRate_of_le {block : Tagged} (tag : isRate block.tag = true)
    (long : size block.tag ≤ block.payload.length) : ∃ value, readRate block = .ok value := by
  unfold readRate
  rcases Bool.or_eq_true_iff.mp tag with narrow | wide
  · rw [eq_of_beq narrow] at long ⊢
    obtain ⟨words, -, known, -⟩ :=
      lawful_rateLayout.exists_readAs_of_le "gnet_stats_rate_est" long
    exact Outcome.exists_map_eq_ok ⟨words, known⟩
  · rw [eq_of_beq wide] at long ⊢
    obtain ⟨value, -, known, -⟩ :=
      lawful_rate64Layout.exists_readAs_of_le "gnet_stats_rate_est64" long
    exact ⟨value, known⟩

theorem exists_readTraffic_of_le {payload : Bytes} (long : trafficLayout.size ≤ payload.length) :
    ∃ value, readTraffic payload = .ok value := by
  obtain ⟨words, -, known, -⟩ :=
    lawful_trafficLayout.exists_readAs_of_le "gnet_stats_basic" long
  exact Outcome.exists_map_eq_ok ⟨words, known⟩

/-- A block that is long enough for its tag tells something or is of an unknown tag. -/
theorem exists_read_of_le {block : Tagged} (long : size block.tag ≤ block.payload.length) :
    ∃ news, read block = .ok news := by
  unfold read
  split
  · next tag =>
      rw [tag] at long
      exact Outcome.exists_map_eq_ok (exists_readTraffic_of_le long)
  split
  · next tag =>
      rw [tag] at long
      exact Outcome.exists_map_eq_ok (exists_readTraffic_of_le long)
  split
  · next tag =>
      rw [tag] at long
      obtain ⟨value, -, known, -⟩ :=
        Layout.lawful_uint64.exists_readAs_of_le "u64 attribute" long
      exact Outcome.exists_map_eq_ok ⟨value, known⟩
  split
  · next tag =>
      rw [tag] at long
      obtain ⟨value, -, known, -⟩ :=
        lawful_queueLayout.exists_readAs_of_le "gnet_stats_queue" long
      exact Outcome.exists_map_eq_ok ⟨value, known⟩
  split
  · next tag => exact Outcome.exists_map_eq_ok (exists_readRate_of_le tag long)
  · exact ⟨{}, rfl⟩

/-! ## The news of a block -/

/-- What a block tells, nothing when it cannot be read. -/
def news (block : Tagged) : News := (read block).toOption.getD {}

theorem read_eq_news {block : Tagged} (readable : ∃ news, read block = .ok news) :
    read block = .ok (news block) := by
  obtain ⟨told, known⟩ := readable
  rw [news, known]
  rfl

theorem read_of_isRate {block : Tagged} (tag : isRate block.tag = true) :
    read block = (readRate block).map ({ rate := some · }) := by
  unfold read
  rcases Bool.or_eq_true_iff.mp tag with narrow | wide
  · rw [eq_of_beq narrow]
    rfl
  · rw [eq_of_beq wide]
    rfl

theorem read_of_packets64 {block : Tagged} (tag : block.tag = packets64) :
    read block = (Payload.readUInt64 block.payload).map ({ packets64 := some · }) := by
  unfold read
  rw [tag]
  rfl

theorem reads_news (block : Tagged) : Reads block (news block) := by
  unfold news
  cases known : read block with
  | error cause => exact .nothing
  | ok told => exact reads_of_read known

end Block

/-! ## All blocks -/

/-- The reading after the news of one more block. -/
def Reading.take (reading : Reading) (news : Block.News) : Reading where
  statistics :=
    { traffic := news.traffic.getD reading.statistics.traffic
      queue := news.queue.getD reading.statistics.queue
      rate := news.rate.getD reading.statistics.rate
      hardware := news.hardware.getD reading.statistics.hardware }
  packets64 := news.packets64.or reading.packets64

/-- A block changes a reading by what it tells for itself. -/
theorem Reading.add_eq (reading : Reading) (block : Tagged) :
    reading.add block = (Block.read block).map reading.take := by
  unfold Reading.add Block.read
  dsimp only
  split
  · cases readTraffic block.payload <;> rfl
  split
  · cases readTraffic block.payload <;> rfl
  split
  · cases Payload.readUInt64 block.payload <;> rfl
  split
  · cases queueLayout.readAs "gnet_stats_queue" block.payload <;> rfl
  by_cases narrow : block.tag = Block.rate
  · have isRate : Block.isRate block.tag = true := by rw [narrow]; rfl
    have width : block.tag ≠ Block.rate64 := by rw [narrow]; decide
    rw [if_pos narrow, if_pos isRate, Block.readRate, if_neg width]
    cases rateLayout.readAs "gnet_stats_rate_est" block.payload <;> rfl
  by_cases wide : block.tag = Block.rate64
  · have isRate : Block.isRate block.tag = true := by rw [wide]; rfl
    rw [if_neg narrow, if_pos wide, if_pos isRate, Block.readRate, if_pos wide]
    cases rate64Layout.readAs "gnet_stats_rate_est64" block.payload <;> rfl
  · have noRate : ¬ Block.isRate block.tag = true := by
      simp only [Block.isRate, Bool.or_eq_true, beq_iff_eq, narrow, wide, or_self,
        not_false_eq_true]
    rw [if_neg narrow, if_neg wide, if_neg noRate]
    rfl

/-- What the last block to tell a value says of it. -/
def last {β : Type} (field : Block.News → Option β) (blocks : List Tagged) : Option β :=
  (blocks.filterMap (field ∘ Block.news)).getLast?

/-- The news of some blocks together. -/
def summary (blocks : List Tagged) : Block.News where
  traffic := last (·.traffic) blocks
  hardware := last (·.hardware) blocks
  packets64 := last (·.packets64) blocks
  queue := last (·.queue) blocks
  rate := last (·.rate) blocks

/-- The statistics that readable blocks tell together. -/
def ofTagged (blocks : List Tagged) : Statistics :=
  (Reading.take ⟨zero, none⟩ (summary blocks)).result

theorem last_append {β : Type} (field : Block.News → Option β) (front back : List Tagged) :
    last field (front ++ back) = (last field back).or (last field front) := by
  rw [last, List.filterMap_append, List.getLast?_append]
  rfl

theorem last_singleton {β : Type} (field : Block.News → Option β) (block : Tagged) :
    last field [block] = field (Block.news block) := by
  unfold last
  cases told : field (Block.news block) with
  | none => rw [List.filterMap_cons_none (f := field ∘ Block.news) told]; rfl
  | some value => rw [List.filterMap_cons_some (f := field ∘ Block.news) told]; rfl

theorem last_cons {β : Type} (field : Block.News → Option β) (first : Tagged)
    (rest : List Tagged) :
    last field (first :: rest) = (last field rest).or (field (Block.news first)) := by
  rw [← List.singleton_append, last_append, last_singleton]

/-- The news of a block and of those behind it are taken as the news of all of them, since a value
told later replaces one told before. -/
theorem Reading.take_take_summary (reading : Reading) (first : Tagged) (rest : List Tagged) :
    (reading.take (Block.news first)).take (summary rest) =
      reading.take (summary (first :: rest)) := by
  simp only [Reading.take, summary, last_cons, Option.getD_or, Option.or_assoc]

/-- The loop over readable blocks takes their news together. -/
theorem foldlM_add {blocks : List Tagged}
    (readable : ∀ block ∈ blocks, ∃ news, Block.read block = .ok news) (reading : Reading) :
    blocks.foldlM Reading.add reading = .ok (reading.take (summary blocks)) := by
  induction blocks generalizing reading with
  | nil => rfl
  | cons first rest ih =>
      obtain ⟨here, later⟩ := List.forall_mem_cons.mp readable
      have step : reading.add first = .ok (reading.take (Block.news first)) := by
        rw [Reading.add_eq, Block.read_eq_news here]
        rfl
      rw [List.foldlM_cons, step, ← Reading.take_take_summary]
      exact ih later _

/-- Readable blocks give the statistics that they tell together. -/
theorem ofBlocks_eq {data : Bytes} {blocks : List Tagged} (parsed : Tagged.parse data = .ok blocks)
    (readable : ∀ block ∈ blocks, ∃ news, Block.read block = .ok news) :
    ofBlocks data = .ok (ofTagged blocks) := by
  rw [ofBlocks, parsed]
  change (blocks.foldlM Reading.add ⟨zero, none⟩ >>= fun reading => .ok reading.result) = _
  rw [foldlM_add readable]
  rfl

end TrafficShaping.Statistics
